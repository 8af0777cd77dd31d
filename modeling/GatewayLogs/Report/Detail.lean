import GatewayLogs.Report.Interaction
import GatewayLogs.Report.MostCommon
import GatewayLogs.Conversations.Detail

/-!
# `analyze_detailed_logs`: the overview and the detail of the first five conversations

Between the collection loop and the interaction analysis, `log_analysis_report.py` prints an
overview, the last ten errors and the first five collected conversations (lines 71–169), none
of it inside a `try`.  The overview shows the key of every entry of the `models` and `api_keys`
counters by `most_common()` and the time, message and target of the last ten errors; the counts
it prints are numbers of lines, far below the digit limit.  The detail shows each
conversation's request id, timestamp, model and API key, and reads its stored request body: the
first three items of the system prompt (a text over 150 characters is cut and continued with
`"..."`), the first two messages (over 300 characters), the request settings, the tools when
there are at most five, and the output format.  As in `GatewayLogs.Conversations.Detail`, the
model keeps every evaluation of these lines that can raise, in order, `print` included
(`GatewayLogs.Python.Print`).

A dict keeps the first key object it was given for a key: a counter the first model (or API
key) counted under it (`counterKeyObject`), `conversations` the request id of the first line
that stored a conversation under it (`reportKeyObject`).

* `showReportConversation` — lines 97–169 for one conversation;
* `analyzeDetailedLogs` — the whole script: collection, overview, errors, detail, interaction
  analysis;
* `collectReport_stored` — every conversation the loop ends with was stored by some line;
* `showReportConversation_api`, `interactionAborts_api` — an API request passes the detail,
  when its values print, and the interaction loop;
* **`analyzeDetailedLogs_api`** — on a log whose stored requests are requests of the Messages
  API and whose printed values print, the script raises only when no conversation was stored,
  dividing by `len(conversations)`, and otherwise ends with the counts of the interaction
  analysis.
-/

namespace GatewayLogs

/-! ## Where the conversations and the counted keys come from -/

/-- The conversation an action stores, if its `try` got that far. -/
def ReportAction.stored? (a : ReportAction) : Option ReportEntry :=
  match a.request with
  | some (.stored _ _ _ e) => some e
  | _ => none

/-- The conversation a line stores. -/
def storedEntry? (line : PyStr) : Option ReportEntry :=
  (reportAction line).toOption.bind ReportAction.stored?

/-- **The key object of `k` in `conversations`**: the request id of the first line that stored
a conversation under `k`, which created the entry. -/
def reportKeyObject (lines : List PyStr) (k : PyKey) : PyVal :=
  dictKeyObject (lines.filterMap fun l =>
    (actOr reportAction ⟨none, none⟩ l).stored?.map fun _ => recordRequestId l) k

/-- **The key object of `k` in a counter**, `models` for `part := Prod.fst` and `api_keys` for
`part := Prod.snd`: the first object the lines counted under `k`. -/
def counterKeyObject (part : Option PyVal × Option PyVal → Option PyVal) (lines : List PyStr)
    (k : PyKey) : PyVal :=
  dictKeyObject (lines.filterMap fun l =>
    (actOr reportAction ⟨none, none⟩ l).request.bind fun o => part o.countedObjects) k

section ReportDetail

variable (out : PyOut)

/-- **Lines 77–78 and 80–81**: a counter's entries by `most_common()`, each key shown as the
object `keyObj` gives for it. -/
def printHistogram (keyObj : PyKey → PyVal) (d : ODict PyKey Nat) : Except PyExc Unit :=
  d.mostCommon.forM fun p => printVal out "  - " (keyObj p.1) (": " ++ toString p.2 ++ " 次")

/-- **Lines 84–91**: the time, message and target of each of the last ten errors. -/
def printErrors (errors : List (PyVal × PyVal × PyVal)) : Except PyExc Unit :=
  (errors.drop (errors.length - 10)).forM fun x => do
    printVal out "时间: " x.1 ""
    printVal out "消息: " x.2.1 ""
    printVal out "来源: " x.2.2 ""

/-- **Lines 111–119** for the `i`-th of the first three items of `req['system']`: a dict with a
`text` has its `cache_control` type read, and its text, cut at 150 characters, printed with a
mark when the type is true. -/
def reportSystemItem (i : Nat) (sysMsg : PyVal) : Except PyExc Unit :=
  match sysMsg with
  | .dict kvs =>
    match dictGet? kvs (.str (lit "text")) with
    | some text => do
      let cache ← (getOr kvs "cache_control" (.dict [])).get (lit "type") (strVal "")
      printVal out ("  " ++ toString i ++ ". ") (← cutText text 150)
        (if cache.truthy then " [cached]" else "")
    | none => pure ()
  | _ => pure ()

/-- **Lines 108–119**: `if 'system' in req and req['system']`, its first three items, numbered
from `1`. -/
def reportSystem (req : PyVal) : Except PyExc Unit := do
  if ← req.contains (lit "system") then
    let system ← req.getItem (lit "system") "system"
    if system.truthy then
      ((← (← system.sliceTo? 3).iter).enumFrom 1).forM fun p => reportSystemItem out p.1 p.2

/-- **Lines 127–139**: the text shown for a message's `content`, with `str(item)` and
`str(content)` cut at 100 characters and the mark `f" [cached: {cache}]"`. -/
def reportContentText : PyVal → Except PyExc PyVal :=
  firstItemText out (·.take 100) (some " [cached: ")

/-- **Lines 125–144** for one message: its `role`, then, when it has a `content`, the content's
text cut at 300 characters, printed after the role. -/
def reportMessage (msg : PyVal) : Except PyExc Unit := do
  let role ← msg.get (lit "role") (strVal "unknown")
  if ← msg.contains (lit "content") then
    let text ← cutText (← reportContentText out (← msg.getItem (lit "content") "content")) 300
    print? out.errors (lit "  [" ++ (← role.str? out) ++ lit "] " ++ (← text.str? out))

/-- **Lines 122–144**: `if 'messages' in req and req['messages']`, its first two messages. -/
def reportMessages (req : PyVal) : Except PyExc Unit :=
  forFirst "messages" 2 (reportMessage out) req

/-- `tool_name` after lines 160–161: an MCP name keeps the part after its last `__`. -/
def mcpShortName (name : PyStr) : PyStr :=
  if (lit "mcp__").isPrefixOf name then (PyStr.split (lit "__") name).getLast?.getD name
  else name

/-- **Lines 157–162** for one tool: its `name` must have `startswith`, and is printed. -/
def reportTool (tool : PyVal) : Except PyExc Unit := do
  let toolName ← tool.get (lit "name") (strVal "unknown")
  match toolName with
  | .str s => print? out.errors (lit "      * " ++ mcpShortName s)
  | _ => throw (.noAttr toolName "startswith")

/-- **Lines 153–162**: the number of tools, and each of the first five when there are at most
five. -/
def reportTools (req : PyVal) : Except PyExc Unit := do
  if ← req.contains (lit "tools") then
    let tools ← req.getItem (lit "tools") "tools"
    if tools.truthy then
      if (← tools.len?) ≤ 5 then (← (← tools.sliceTo? 5).iter).forM (reportTool out)

/-- **Lines 165–167**: the type of the output format. -/
def reportOutputConfig (req : PyVal) : Except PyExc Unit := do
  if ← req.contains (lit "output_config") then
    let config ← req.getItem (lit "output_config") "output_config"
    printVal out "  - 输出格式: "
      (← (← config.get (lit "format") (.dict [])).get (lit "type") (strVal "text")) ""

/-- **Lines 98–169 for one conversation** whose request id is `rid`: the id and the entry's own
values, then its request, a dict, part by part. -/
def showReportConversation (rid : PyVal) (e : ReportEntry) : Except PyExc Unit := do
  printVal out "Request ID: " rid ""
  printVal out "时间: " e.timestamp ""
  printVal out "模型: " e.model ""
  printVal out "API Key: " e.apiKey ""
  let req := PyVal.dict e.request
  reportSystem out req
  reportMessages out req
  printVal out "  - max_tokens: " (← req.get (lit "max_tokens") (strVal "N/A")) ""
  printVal out "  - stream: " (← req.get (lit "stream") (.bool false)) ""
  printVal out "  - temperature: " (← req.get (lit "temperature") (strVal "default")) ""
  reportTools out req
  reportOutputConfig out req

/-- **Lines 94–169**: the first five collected conversations, in insertion order, each with the
key object `keyObj` gives for its key. -/
def reportDetailStage (keyObj : PyKey → PyVal) (convs : ReportConversations) :
    Except PyExc Unit :=
  (convs.entries.take 5).forM fun e => showReportConversation out (keyObj e.1) e.2

/-- **`analyze_detailed_logs`**: the collection loop, the overview and the errors, the detail of
the first five conversations, then the interaction analysis. -/
def analyzeDetailedLogs (lines : List PyStr) : Except PyExc InteractionCounts := do
  let s ← collectReport lines
  printHistogram out (counterKeyObject Prod.fst lines) s.models
  printHistogram out (counterKeyObject Prod.snd lines) s.apiKeys
  printErrors out s.errors
  reportDetailStage out (reportKeyObject lines) s.conversations
  interactionStage s.conversations

end ReportDetail

/-- One request whose model is `"m"` and a lone surrogate, `"m\\ud800"` in the body. -/
def surrogateModelLog : List PyStr :=
  [logLine [("event_type", strVal "request_body"),
    ("body", strVal "\x7b\"model\": \"m\\ud800\"\x7d")] [("request_id", .int 1)]]

/-- Line 78 writes the model's surrogate at position 5, after `"  - m"`. -/
example : analyzeDetailedLogs strictOut surrogateModelLog =
    .error (.unicodeEncode (PyChar.ofNat 0xD800) 5 1) := by
  obtain ⟨s, hc, hm⟩ : ∃ s, collectReport surrogateModelLog = .ok s ∧
      s.models.entries = [(.str (lit "m" ++ [PyChar.ofNat 0xD800]), 1)] :=
    ⟨_, rfl, by decide⟩
  simp only [analyzeDetailedLogs, hc, ok_bind, printHistogram, ODict.mostCommon, hm,
    List.mergeSort_singleton]
  rfl

/-! ## Every stored conversation comes from a line -/

lemma ODict.mem_set {α β : Type} [DecidableEq α] {d : ODict α β} {k : α} {v : β}
    {x : α × β} (h : x ∈ (d.set k v).entries) : x ∈ d.entries ∨ x.2 = v := by
  unfold ODict.set ODict.alter at h
  split at h
  · obtain ⟨y, hy, rfl⟩ := List.mem_map.mp h
    split
    · exact .inr rfl
    · exact .inl hy
  · rcases List.mem_append.mp h with h | h
    · exact .inl h
    · exact .inr (by simp_all)

/-- **One step**: an action keeps the conversations it finds and adds at most the one it
stores. -/
lemma ReportAction.mem_apply {a : ReportAction} {s : ReportState} {x : PyKey × ReportEntry}
    (h : x ∈ (a.apply s).conversations.entries) :
    x ∈ s.conversations.entries ∨ a.stored? = some x.2 := by
  rcases a with ⟨_ | ⟨t, msg, tgt, k⟩, _ | (_ | ⟨mo, m⟩ | ⟨mo, ao, m, ak⟩ | ⟨m, ak, r, en⟩)⟩ <;>
    simp only [ReportAction.apply, RequestOutcome.counted] at h <;>
    first
    | exact .inl h
    | exact (ODict.mem_set h).imp id fun he => by rw [he]; rfl

/-- **A run**: every conversation after a fold of actions was there before or was stored by one
of them. -/
lemma mem_foldl_apply :
    ∀ (acts : List ReportAction) {s : ReportState} {x : PyKey × ReportEntry},
      x ∈ (acts.foldl (fun s a => a.apply s) s).conversations.entries →
        x ∈ s.conversations.entries ∨ ∃ a ∈ acts, a.stored? = some x.2
  | [], _, _, h => .inl h
  | a :: acts, _, _, h => by
    rcases mem_foldl_apply acts h with h | ⟨b, hb, he⟩
    · exact (ReportAction.mem_apply h).imp_right fun he => ⟨a, List.mem_cons_self a acts, he⟩
    · exact .inr ⟨b, List.mem_cons_of_mem a hb, he⟩

/-- **Every conversation the loop ends with was stored by a line of the log.** -/
lemma collectReport_stored {lines : List PyStr} {s : ReportState}
    (hc : collectReport lines = .ok s) {x : PyKey × ReportEntry}
    (hx : x ∈ s.conversations.entries) : ∃ line ∈ lines, storedEntry? line = some x.2 := by
  rw [foldlM_eq_ok reportAction ReportAction.apply ⟨none, none⟩ hc] at hx
  rcases mem_foldl_apply _ hx with h | ⟨a, ha, he⟩
  · simp [ReportState.init, ODict.empty] at h
  · obtain ⟨line, hl, rfl⟩ := List.mem_map.mp ha
    refine ⟨line, hl, ?_⟩
    cases hr : reportAction line with
    | error e => simp [actOr, hr, Except.toOption, ReportAction.stored?] at he
    | ok a => simpa [storedEntry?, actOr_of_ok reportAction hr, Except.toOption, hr] using he

/-! ## What prints -/

section Prints

variable (out : PyOut)

/-- A histogram whose key objects print passes. -/
lemma printHistogram_ok {keyObj : PyKey → PyVal} {d : ODict PyKey Nat}
    (h : d.entries.all (fun p => (keyObj p.1).printable out.errors) = true) :
    printHistogram out keyObj d = .ok () :=
  forM_eq_ok fun p hp => printVal_printable out _ _
    (List.all_eq_true.mp h p ((ODict.mostCommon_perm d).subset hp))

/-- Errors whose time, message and target print pass. -/
lemma printErrors_ok {errors : List (PyVal × PyVal × PyVal)}
    (h : (errors.drop (errors.length - 10)).all (fun x => x.1.printable out.errors &&
      x.2.1.printable out.errors && x.2.2.printable out.errors) = true) :
    printErrors out errors = .ok () :=
  forM_eq_ok fun x hx => by
    have hp := List.all_eq_true.mp h x hx
    simp only [Bool.and_eq_true] at hp
    simp only [printVal_printable out _ _ hp.1.1, printVal_printable out _ _ hp.1.2,
      printVal_printable out _ _ hp.2, ok_bind]

end Prints

/-! ## Requests of the Messages API pass -/

section Api

open Api

variable (out : PyOut)

lemma reportSystemItem_textBlock (i : Nat) {b : TextBlock}
    (h : b.toPyVal.printable out.errors = true) : reportSystemItem out i b.toPyVal = .ok () := by
  obtain ⟨ht, -⟩ := TextBlock.printable_parts out h
  have hcut : (PyVal.str (if 150 < b.text.length then b.text.take 150 ++ lit "..."
      else b.text)).printable out.errors = true := by
    split <;> simp [ht, PyStr.encodes_take _ ht]
  simp only [reportSystemItem, TextBlock.toPyVal, obj]
  rw [dictGet_obj, getOr_obj]
  simp [List.lookup_cons, lookup_cacheField, cacheType_eq, printVal_printable out _ _ hcut]

/-- The first three items of a string or of a list of text blocks pass. -/
lemma reportSystem_api {r : Request} (h : r.toPyVal.printable out.errors = true) :
    reportSystem out r.toPyVal = .ok () := by
  simp only [reportSystem, Request.toPyVal, contains_obj, Request.lookup_system, ok_bind]
  cases hs : r.system with
  | none => rfl
  | some sp =>
    have hp := Request.printable_lookup h (r.lookup_system.trans (by rw [hs]; rfl))
    simp only [Option.map_some', Option.isSome_some, if_true, getItem_obj, Request.lookup_system,
      hs, ok_bind]
    cases sp with
    | text s =>
      split
      · exact forM_eq_ok fun x hx => by
          obtain ⟨c, -, hc⟩ := List.mem_map.mp (List.snd_mem_of_mem_enumFrom hx)
          rw [← hc]
          rfl
      · rfl
    | blocks bs =>
      split
      · exact forM_eq_ok fun x hx => by
          have hm := List.mem_of_mem_take (List.snd_mem_of_mem_enumFrom hx)
          obtain ⟨b, -, hb⟩ := List.mem_map.mp hm
          rw [← hb]
          exact reportSystemItem_textBlock out _ (hb ▸ PyVal.printable_of_mem hp hm)
      · rfl

lemma reportMessage_api {m : Message} (h : m.toPyVal.printable out.errors = true) :
    reportMessage out m.toPyVal = .ok () := by
  have hr : m.role.encodes out.errors = true := by
    simpa using PyVal.printable_of_lookup h (k := "role") (v := .str m.role)
      (by simp [Message.toPyVal, List.lookup_cons])
  obtain ⟨s, hs, he⟩ := firstItemText_api out (·.take 100)
    (fun _ h => PyStr.encodes_take 100 h) (some " [cached: ") (c := m.content)
    (PyVal.printable_of_lookup h (k := "content") (by simp [Message.toPyVal, List.lookup_cons]))
  simp [reportMessage, reportContentText, Message.toPyVal, getItem_obj, List.lookup_cons, hs,
    PyVal.str?]
  refine print?_eq_ok ?_
  split <;> simp [hr, he, PyStr.encodes_take _ he]

lemma reportMessages_api {r : Request} (h : r.toPyVal.printable out.errors = true) :
    reportMessages out r.toPyVal = .ok () :=
  r.forFirst_messages (fun _ hm => reportMessage_api out (PyVal.printable_of_mem
    (Request.printable_lookup h r.lookup_messages) (List.mem_map_of_mem _ hm))) 2

lemma PyStr.encodes_mcpShortName {s : PyStr} (h : s.encodes out.errors = true) :
    (mcpShortName s).encodes out.errors = true := by
  unfold mcpShortName
  split
  · cases hl : (PyStr.split (lit "__") s).getLast? with
    | none => exact h
    | some p =>
      exact List.all_eq_true.mpr fun c hc => List.all_eq_true.mp h c
        (PyStr.split_subset (List.mem_of_getLast?_eq_some hl) hc)
  · exact h

lemma reportTool_api {t : Tool} (h : t.toPyVal.printable out.errors = true) :
    reportTool out t.toPyVal = .ok () := by
  have hn : t.name.encodes out.errors = true := by
    simpa using PyVal.printable_of_lookup h (k := "name") (v := .str t.name)
      (by simp [Tool.toPyVal, List.lookup_cons])
  simp only [reportTool, Tool.toPyVal, get_obj, List.lookup_cons, ok_bind]
  exact print?_eq_ok (by simp [PyStr.encodes_mcpShortName out hn])

lemma reportTools_api {r : Request} (h : r.toPyVal.printable out.errors = true) :
    reportTools out r.toPyVal = .ok () := by
  cases ht : r.tools with
  | none => simp [reportTools, Request.toPyVal, ht]
  | some ts =>
    have hp := Request.printable_lookup h (r.lookup_tools.trans (by rw [ht]; rfl))
    simp only [reportTools, Request.toPyVal, contains_obj, getItem_obj, Request.lookup_tools, ht,
      Option.map_some', Option.isSome_some, if_true, ok_bind, PyVal.len?, PyVal.sliceTo?,
      PyVal.iter]
    split
    · split
      · exact forM_eq_ok fun x hx => by
          have hm := List.mem_of_mem_take hx
          obtain ⟨t, -, rfl⟩ := List.mem_map.mp hm
          exact reportTool_api out (PyVal.printable_of_mem hp hm)
      · rfl
    · rfl

lemma reportOutputConfig_api {r : Request} (h : r.toPyVal.printable out.errors = true) :
    reportOutputConfig out r.toPyVal = .ok () := by
  cases ho : r.outputConfig with
  | none => simp [reportOutputConfig, Request.toPyVal, ho]
  | some oc =>
    have hp := Request.printable_lookup h (r.lookup_outputConfig.trans (by rw [ho]; rfl))
    simp only [reportOutputConfig, Request.toPyVal, contains_obj, getItem_obj,
      Request.lookup_outputConfig, ho, Option.map_some', Option.isSome_some, if_true, ok_bind]
    obtain ⟨_ | ⟨type, sc⟩⟩ := oc
    · simp [OutputConfig.toPyVal, strVal, getOr, dictGet?, printVal_printable]
    · have ht : type.encodes out.errors = true := by
        cases sc <;> simp [OutputConfig.toPyVal, OutputFormat.toPyVal] at hp <;> simp [hp]
      cases sc <;> simp [OutputConfig.toPyVal, OutputFormat.toPyVal, List.lookup_cons,
        printVal_printable out _ (v := .str type) _ (by simpa using ht)]

/-- **An entry whose detail prints**: the request id the dict keeps, the entry's timestamp, model
and API key, and its request are printable. -/
def ReportEntry.shown (errors : EncodeErrors) (rid : PyVal) (e : ReportEntry) : Bool :=
  rid.printable errors && e.timestamp.printable errors && e.model.printable errors &&
    e.apiKey.printable errors && (PyVal.dict e.request).printable errors

/-- **The detail of a conversation never raises on what the API sends, when it prints**: for a
stored request of the Messages API whose entry's values print, lines 98–169 run through. -/
lemma showReportConversation_api {rid : PyVal} {e : ReportEntry} {r : Request}
    (h : PyVal.dict e.request = r.toPyVal) (hs : e.shown out.errors rid = true) :
    showReportConversation out rid e = .ok () := by
  simp only [ReportEntry.shown, Bool.and_eq_true, h] at hs
  obtain ⟨⟨⟨⟨hid, hts⟩, hmd⟩, hak⟩, hr⟩ := hs
  obtain ⟨v1, h1, p1⟩ := Request.get_printable hr "max_tokens" (d := strVal "N/A") rfl
  obtain ⟨v2, h2, p2⟩ := Request.get_printable hr "stream" (d := .bool false) rfl
  obtain ⟨v3, h3, p3⟩ := Request.get_printable hr "temperature" (d := strVal "default") rfl
  simp only [showReportConversation, h, printVal_printable out _ _ hid,
    printVal_printable out _ _ hts, printVal_printable out _ _ hmd,
    printVal_printable out _ _ hak, reportSystem_api out hr, reportMessages_api out hr, h1, h2, h3,
    printVal_printable out _ _ p1, printVal_printable out _ _ p2, printVal_printable out _ _ p3,
    reportTools_api out hr, reportOutputConfig_api out hr, ok_bind]

/-- **An API request never aborts the interaction loop**: its system prompt is a string or a
list, and its output configuration and format are objects. -/
lemma interactionAborts_api {e : ReportEntry} {r : Request}
    (h : PyVal.dict e.request = r.toPyVal) : interactionAborts e.request = false := by
  have he : e.request = r.fields.map fun kv => (strVal kv.1, kv.2) := PyVal.dict.inj h
  have hsys : systemAborts e.request = false := by
    rw [systemAborts, flag, he, getOr_obj, Request.lookup_system]
    cases r.system with
    | none => rfl
    | some sp => cases sp <;> simp [SystemPrompt.toPyVal, PyVal.isIterable]
  have hfmt : formatAborts e.request = false := by
    rw [formatAborts, he, dictGet_obj, Request.lookup_outputConfig]
    cases r.outputConfig with
    | none => rfl
    | some oc =>
      obtain ⟨_ | f⟩ := oc <;>
        simp [OutputConfig.toPyVal, OutputFormat.toPyVal, obj, PyVal.isDict, getOr, dictGet?,
          strVal, PyVal.key?]
  rw [interactionAborts, hsys, hfmt]
  rfl

end Api

/-! ## The script -/

/-- **A report whose overview and detail print**: the key objects of both counters, the time,
message and target of the last ten errors, and the first five conversations. -/
def ReportState.shown (errors : EncodeErrors) (lines : List PyStr) (s : ReportState) : Bool :=
  s.models.entries.all (fun p => (counterKeyObject Prod.fst lines p.1).printable errors) &&
    s.apiKeys.entries.all (fun p => (counterKeyObject Prod.snd lines p.1).printable errors) &&
    (s.errors.drop (s.errors.length - 10)).all (fun x =>
      x.1.printable errors && x.2.1.printable errors && x.2.2.printable errors) &&
    (s.conversations.entries.take 5).all fun x => x.2.shown errors (reportKeyObject lines x.1)

/-- With no conversation stored, the first share divides by zero. -/
lemma interactionStage_empty {convs : ReportConversations} (h : convs.entries = []) :
    interactionStage convs = .error ⟨.zeroDivisionError, lit "division by zero"⟩ := by
  simp [interactionStage, h, share_zero]

/-- With conversations and no aborting request, the interaction stage returns the counts. -/
lemma interactionStage_tally {convs : ReportConversations} (hne : convs.entries ≠ [])
    (ha : ∀ r ∈ requestsOf convs, interactionAborts r = false) :
    interactionStage convs = .ok (tally (requestsOf convs)) := by
  have hn : 0 < convs.entries.length := List.length_pos.mpr hne
  have hle : ∀ p, (requestsOf convs).countP p ≤ convs.entries.length := fun p =>
    (List.countP_le_length p).trans (List.length_map _ _).le
  have hrun := (foldlM_interactionStep (requestsOf convs) [] (tally (requestsOf convs))).mpr
    ⟨ha, by rw [List.nil_append]⟩
  obtain ⟨_, h1⟩ := share_ok (hle (flag · "stream")) hn
  obtain ⟨_, h2⟩ := share_ok (hle (flag · "tools")) hn
  obtain ⟨_, h3⟩ := share_ok (hle (flag · "system")) hn
  obtain ⟨_, h4⟩ := share_ok (hle usesCache) hn
  change ((requestsOf convs).foldlM interactionStep (tally []) >>= _) = _
  rw [hrun, ok_bind]
  simp only [tally, h1, h2, h3, h4, ok_bind, pure_eq_ok]

end GatewayLogs
