import GatewayLogs.Conversations.Summary
import GatewayLogs.Python.Ops
import GatewayLogs.Api
import GatewayLogs.Conversations.Entries

/-!
# `analyze_conversations`: the detail of the first five conversations

Between the collection pass and the summary, `analyze_conversations` prints the first five
complete conversations (lines 141–259): the request id, the entry's timestamp, model and API
key, the system prompt, the messages, the request settings, the tools, the output format, the
response and the usage.  None of it is inside a `try`, so anything that raises there ends the
script before the summary: a value of the wrong type, and any `print` (`GatewayLogs.Python.Print`:
an `int` past the digit limit, a character `sys.stdout` cannot encode).  The model keeps every
evaluation of these lines that can raise, in order; a `print` of the scripts' own text alone
never raises and is left out.

The request id printed is the key object the dict keeps, the request id of the first line that
wrote to the entry (`convKeyObject`): `True` and `1` are one key, printed as the first written.

* `showConversation` — lines 143–259 for one conversation;
* `detailStage` — the loop over the first five complete conversations;
* `analyzeConversations` — the whole script: collection, detail, summary;
* `showConversation_request_dict` — a request that is not a JSON object ends the run;
* `showConversation_api` — on a request and a usage of the Messages API (`GatewayLogs.Api`)
  whose values print, the detail of a conversation runs through, part by part
  (`showSystem_api`, `showMessages_api`, `showTools_api`, `showOutputConfig_api`,
  `showUsage_api`);
* **`analyzeConversations_api`** — on a log whose decoded request bodies and recorded usages are
  the API's, and whose first five complete conversations print, the script's outcome is its
  summary's: the detail stage never stops it.
-/

namespace GatewayLogs

/-- **The key object of `k` in `conversations`**: the request id of the first line that wrote
to the entry of `k`, which created it. -/
def convKeyObject (lines : List PyStr) (k : PyKey) : PyVal :=
  dictKeyObject (lines.filterMap fun l =>
    ((actOr convAction .skip l).keyed).map fun _ => recordRequestId l) k

section Detail

variable (out : PyOut)

/-- **Lines 165–168, 195–198 and 237–240**: `text` up to `n` characters with its length, when
it is longer, else `text` itself. -/
def showTruncated (text : PyVal) (n : Nat) : Except PyExc Unit := do
  let len ← text.len?
  if len > n then
    printVal out "" (← text.sliceTo? n) ("\n... (truncated, 总长度: " ++ toString len ++ " 字符)")
  else printVal out "" text ""

/-- `f" [🔵 Cached: {cache}]"` for a true `cache`, else `""` (lines 162 and 189–190). -/
def cachedMark (cache : PyVal) : Except PyExc PyStr := do
  if cache.truthy then return lit " [🔵 Cached: " ++ (← cache.str? out) ++ lit "]"
  else return []

/-- **Lines 159–168** for the `i`-th item of `req['system']`: a dict with a `text` has its
`cache_control` type read and printed as a mark, and its text shown up to 500 characters. -/
def showSystemItem (i : Nat) (sysMsg : PyVal) : Except PyExc Unit :=
  match sysMsg with
  | .dict kvs =>
    match dictGet? kvs (.str (lit "text")) with
    | some text => do
      let cache ← (getOr kvs "cache_control" (.dict [])).get (lit "type") (strVal "")
      let mark ← cachedMark out cache
      print? out.errors (lit ("\n系统提示 #" ++ toString i) ++ mark ++ lit ":")
      showTruncated out text 500
    | none => pure ()
  | _ => pure ()

/-- **Lines 157–170**: `if 'system' in req and req['system']`, every item of it, numbered from
`1`. -/
def showSystem (req : PyVal) : Except PyExc Unit := do
  if ← req.contains (lit "system") then
    let system ← req.getItem (lit "system") "system"
    if system.truthy then ((← system.iter).enumFrom 1).forM fun p => showSystemItem out p.1 p.2

/-- **The text the three scripts show for a message's `content`**: a string itself; the `text`
of the first item of a non-empty list, else `cut (str(item))`, and, when there is a `mark`, the
item's `cache_control` type after it when that type is true; `cut (str(content))` for anything
else.  `content_item.get` is looked up before `str(content_item)` is evaluated. -/
def firstItemText (cut : PyStr → PyStr) (mark : Option String) (content : PyVal) :
    Except PyExc PyVal :=
  match content with
  | .str _ => .ok content
  | .list (item :: _) => do
    let _ ← item.entries? "get"
    let text ← item.get (lit "text") (.str (cut (← item.str? out)))
    match mark with
    | none => pure text
    | some pre =>
      let cache ← (← item.get (lit "cache_control") (.dict [])).get (lit "type") (strVal "")
      if cache.truthy then text.iaddStr? (lit pre ++ (← cache.str? out) ++ lit "]")
      else pure text
  | _ => return .str (cut (← content.str? out))

/-- **Lines 181–193**: `str(item)` and `str(content)` whole, and the mark
`f" [🔵 Cached: {cache}]"`. -/
def contentText : PyVal → Except PyExc PyVal := firstItemText out id (some " [🔵 Cached: ")

/-- **Lines 178–200** for the `idx`-th message: its `role`, then its `content`'s text, up to
600 characters. -/
def showMessage (idx : Nat) (msg : PyVal) : Except PyExc Unit := do
  let role ← msg.get (lit "role") (strVal "unknown")
  if ← msg.contains (lit "content") then
    let text ← contentText out (← msg.getItem (lit "content") "content")
    printVal out ("\n消息 #" ++ toString idx ++ " [") role "]:"
    showTruncated out text 600

/-- **Lines 176–200**: `if 'messages' in req and req['messages']`, every message, numbered from
`1`. -/
def showMessages (req : PyVal) : Except PyExc Unit := do
  if ← req.contains (lit "messages") then
    let messages ← req.getItem (lit "messages") "messages"
    if messages.truthy then ((← messages.iter).enumFrom 1).forM fun p => showMessage out p.1 p.2

/-- `tool_name` after lines 216–219: an MCP name `mcp__server__tool` is shown as
`server/tool`. -/
def mcpToolName (name : PyStr) : PyStr :=
  if (lit "mcp__").isPrefixOf name then
    match PyStr.split (lit "__") name with
    | _ :: server :: tool :: _ => server ++ lit "/" ++ tool
    | _ => name
  else name

/-- **Lines 214–221** for one tool: its `name` must have `startswith`, a `description` over 60
characters is cut and continued with `...`, and both are printed. -/
def showTool (tool : PyVal) : Except PyExc Unit := do
  let toolName ← tool.get (lit "name") (strVal "unknown")
  let name ← match toolName with
    | .str s => pure (mcpToolName s)
    | _ => throw (.noAttr toolName "startswith")
  let desc ← cutText (← tool.get (lit "description") (strVal "")) 60
  print? out.errors (lit "  • " ++ name ++ lit ": " ++ (← desc.str? out))

/-- **Lines 210–221**: the number of tools, and each of the first ten when there are at most
ten. -/
def showTools (req : PyVal) : Except PyExc Unit := do
  if ← req.contains (lit "tools") then
    let tools ← req.getItem (lit "tools") "tools"
    if tools.truthy then
      if (← tools.len?) ≤ 10 then (← (← tools.sliceTo? 10).iter).forM (showTool out)

/-- **Lines 227–229**: the names of a JSON schema's `properties`, if it has them. -/
def showSchema (schema : PyVal) : Except PyExc Unit := do
  if ← schema.contains (lit "properties") then
    let names ← joinStrs? (lit ", ") (← (← schema.getItem (lit "properties") "properties").keys?)
    print? out.errors (lit "  Schema字段: " ++ names)

/-- **Lines 223–229**: the output format, and for a JSON schema the names of its
`properties`. -/
def showOutputConfig (req : PyVal) : Except PyExc Unit := do
  if ← req.contains (lit "output_config") then
    let config ← req.getItem (lit "output_config") "output_config"
    let outputFmt ← (← config.get (lit "format") (.dict [])).get (lit "type") (strVal "text")
    printVal out "输出格式: " outputFmt ""
    if outputFmt = strVal "json_schema" then
      showSchema out (← (← config.getItem (lit "format") "format").get (lit "schema") (.dict []))

/-- **Lines 235–242**: the response text up to 800 characters, when there is one. -/
def showResponse (text : PyStr) : Except PyExc Unit :=
  if text.isEmpty then pure () else showTruncated out (.str text) 800

/-- `usage.get('input_tokens', 0) + usage.get('output_tokens', 0)` (line 258). -/
def usageSum (usage : PyVal) : Except PyExc PyVal := do
  PyVal.add? (← usage.get (lit "input_tokens") (.int 0))
    (← usage.get (lit "output_tokens") (.int 0))

/-- **Lines 245–259**: a true `usage` has its counters printed, a cache counter when it is
true, and then `input_tokens + output_tokens`. -/
def showUsage : Option PyVal → Except PyExc Unit
  | some usage =>
    if usage.truthy then do
      printVal out "输入 tokens: " (← usage.get (lit "input_tokens") (.int 0)) ""
      printVal out "输出 tokens: " (← usage.get (lit "output_tokens") (.int 0)) ""
      if (← usage.get (lit "cache_creation_input_tokens") .none).truthy then
        printVal out "缓存创建 tokens: " (← usage.get (lit "cache_creation_input_tokens") (.int 0))
          " (成本 +25%)"
      if (← usage.get (lit "cache_read_input_tokens") .none).truthy then
        printVal out "缓存读取 tokens: " (← usage.get (lit "cache_read_input_tokens") (.int 0))
          " (成本 -90%)"
      printVal out "总计: " (← usageSum usage) " tokens"
    else pure ()
  | none => pure ()

/-- **Lines 142–259 for one conversation** whose request id is `rid`: the id and the entry's
own values, its request part by part, its response text, its usage. -/
def showConversation (rid : PyVal) (c : Conversation) : Except PyExc Unit := do
  printVal out "Request ID: " rid ""
  printVal out "时间: " c.timestamp ""
  printVal out "模型: " (c.model.getD (strVal "N/A")) ""
  printVal out "API Key: " (c.apiKey.getD (strVal "N/A")) ""
  let req := c.request
  showSystem out req
  showMessages out req
  printVal out "max_tokens: " (← req.get (lit "max_tokens") (strVal "N/A")) ""
  printVal out "temperature: " (← req.get (lit "temperature") (strVal "default")) ""
  printVal out "stream: " (← req.get (lit "stream") (.bool false)) ""
  showTools out req
  showOutputConfig out req
  showResponse out (c.responseText.getD [])
  showUsage out c.usage

/-- **Lines 141–259**: the first five complete conversations, in order, each with the key
object `keyObj` gives for its key. -/
def detailStage (keyObj : PyKey → PyVal) (m : Conversations) : Except PyExc Unit :=
  ((completeConversations m).take 5).forM fun e => showConversation out (keyObj e.1) e.2

/-- **`analyze_conversations`**: the collection pass, the detail of the first five complete
conversations, then the summary. -/
def analyzeConversations (lines : List PyStr) : Except PyExc UsageTotals := do
  let m ← collectConversations lines
  detailStage out (convKeyObject lines) m
  summarize m

/-- **A request that is not a JSON object ends the run**: reading `max_tokens` off it raises, if
nothing before did. -/
lemma showConversation_request_dict {rid : PyVal} {c : Conversation}
    (h : showConversation out rid c = .ok ()) : c.request.isDict = true := by
  obtain ⟨_, -, h⟩ := bind_eq_ok.mp h
  obtain ⟨_, -, h⟩ := bind_eq_ok.mp h
  obtain ⟨_, -, h⟩ := bind_eq_ok.mp h
  obtain ⟨_, -, h⟩ := bind_eq_ok.mp h
  obtain ⟨_, -, h⟩ := bind_eq_ok.mp h
  obtain ⟨_, -, h⟩ := bind_eq_ok.mp h
  obtain ⟨_, hg, -⟩ := bind_eq_ok.mp h
  exact PyVal.isDict_of_get_ok hg

end Detail

/-! ## Requests of the Messages API pass -/

section Api

open Api

variable (out : PyOut)

/-- A string that encodes prints, whole or cut. -/
lemma showTruncated_str {s : PyStr} (n : Nat) (h : s.encodes out.errors = true) :
    showTruncated out (.str s) n = .ok () := by
  simp only [showTruncated, PyVal.len?, PyVal.sliceTo?, ok_bind]
  split
  · exact printVal_printable out _ _ (by simpa using PyStr.encodes_take n h)
  · exact printVal_printable out _ _ (by simpa using h)

lemma lookup_cacheField (c : Option CacheControl) :
    List.lookup "cache_control" (cacheField c) = c.map CacheControl.toPyVal := by
  cases c <;> rfl

/-- `.get('cache_control', {}).get('type', d)` of a block is its marker's type, or `d`. -/
lemma cacheType_eq (c : Option CacheControl) (d : PyVal) :
    ((c.map CacheControl.toPyVal).getD (.dict [])).get (lit "type") d =
      .ok ((c.map fun cc => PyVal.str cc.type).getD d) := by
  cases c <;> simp [CacheControl.toPyVal, getOr, dictGet?]

/-- The mark of a marker whose type encodes encodes. -/
lemma cachedMark_cache {c : Option CacheControl}
    (hc : ∀ cc ∈ c, cc.type.encodes out.errors = true) :
    ∃ t, cachedMark out ((c.map fun cc => PyVal.str cc.type).getD (strVal "")) = .ok t ∧
      t.encodes out.errors = true := by
  cases c with
  | none => exact ⟨[], rfl, rfl⟩
  | some cc =>
    simp only [cachedMark, Option.map_some', Option.getD_some, PyVal.str?, ok_bind]
    split
    · exact ⟨_, rfl, by simp [hc cc rfl]⟩
    · exact ⟨[], rfl, rfl⟩

lemma TextBlock.printable_parts {b : TextBlock} (h : b.toPyVal.printable out.errors = true) :
    b.text.encodes out.errors = true ∧ ∀ cc ∈ b.cache, cc.type.encodes out.errors = true := by
  have ht := PyVal.printable_of_lookup h (k := "text") (v := .str b.text)
    (by simp [List.lookup_cons])
  refine ⟨by simpa using ht, fun cc hcc => CacheControl.encodes_type ?_⟩
  exact PyVal.printable_of_lookup h (k := "cache_control")
    (by simp [List.lookup_cons, lookup_cacheField, Option.mem_def.mp hcc])

lemma showSystemItem_textBlock (i : Nat) {b : TextBlock}
    (h : b.toPyVal.printable out.errors = true) : showSystemItem out i b.toPyVal = .ok () := by
  obtain ⟨ht, hc⟩ := TextBlock.printable_parts out h
  obtain ⟨mark, hm, he⟩ := cachedMark_cache out hc
  simp only [showSystemItem, TextBlock.toPyVal, obj]
  rw [dictGet_obj, getOr_obj]
  simp [List.lookup_cons, lookup_cacheField, cacheType_eq, hm, print?_eq_ok, he,
    showTruncated_str out _ ht]

/-- Every item of a string or of a list of text blocks passes. -/
lemma showSystem_api {r : Request} (h : r.toPyVal.printable out.errors = true) :
    showSystem out r.toPyVal = .ok () := by
  simp only [showSystem, Request.toPyVal, contains_obj, Request.lookup_system, ok_bind]
  cases hs : r.system with
  | none => rfl
  | some sp =>
    have hp := Request.printable_lookup h (r.lookup_system.trans (by rw [hs]; rfl))
    simp only [Option.map_some', Option.isSome_some, if_true, getItem_obj, Request.lookup_system,
      hs, ok_bind]
    cases sp with
    | text s =>
      split
      · exact forM_eq_ok fun x hx => by
          obtain ⟨c, -, hc⟩ := List.mem_map.mp (List.snd_mem_of_mem_enumFrom hx)
          rw [← hc]
          rfl
      · rfl
    | blocks bs =>
      split
      · exact forM_eq_ok fun x hx => by
          have hm := List.snd_mem_of_mem_enumFrom hx
          obtain ⟨b, -, hb⟩ := List.mem_map.mp hm
          rw [← hb]
          exact showSystemItem_textBlock out _ (hb ▸ PyVal.printable_of_mem hp hm)
      · rfl

/-- What the detail reads off a content block of the API: a string `text`, the block's own or
the default, and the block's `cache_control`.  The text encodes when the block prints and the
default encodes, and so does the marker's type. -/
lemma Api.ContentBlock.get_text_cache (b : ContentBlock) (d : PyStr) :
    (∃ t, b.toPyVal.get (lit "text") (.str d) = .ok (.str t) ∧
      ∀ e, b.toPyVal.printable e = true → d.encodes e = true → t.encodes e = true) ∧
    ∃ c : Option CacheControl, b.toPyVal.get (lit "cache_control") (.dict []) =
      .ok ((c.map CacheControl.toPyVal).getD (.dict [])) ∧
      ∀ e, b.toPyVal.printable e = true → ∀ cc ∈ c, cc.type.encodes e = true := by
  cases b with
  | text tb =>
    refine ⟨⟨tb.text, ?_, fun e h _ => ?_⟩, tb.cache, ?_, fun e h cc hcc => ?_⟩
    · simp [ContentBlock.toPyVal, TextBlock.toPyVal, List.lookup_cons]
    · exact (TextBlock.printable_parts ⟨e, fun _ => [], by simp⟩ h).1
    · simp [ContentBlock.toPyVal, TextBlock.toPyVal, List.lookup_cons, lookup_cacheField]
    · exact (TextBlock.printable_parts ⟨e, fun _ => [], by simp⟩ h).2 cc hcc
  | other type fields cache fresh =>
    have hf : ∀ {k}, k = "text" ∨ k = "cache_control" →
        ∀ kv ∈ [("type", PyVal.str type)] ++ fields, kv.1 ≠ k := by
      rintro k hk kv hm rfl
      rcases List.mem_append.mp hm with hm | hm
      · rcases hk with hk | hk <;> simp_all
      · rcases hk with hk | hk
        exacts [(fresh kv hm).1 hk, (fresh kv hm).2 hk]
    have hc : List.lookup "cache_control" ([("type", PyVal.str type)] ++ fields ++
        cacheField cache) = cache.map CacheControl.toPyVal := by
      rw [lookup_append_fresh (hf (Or.inr rfl)), lookup_cacheField]
    refine ⟨⟨d, ?_, fun _ _ hd => hd⟩, cache, ?_, fun e h cc hcc => ?_⟩
    · rw [ContentBlock.toPyVal, get_obj, lookup_append_fresh (hf (Or.inl rfl))]
      cases cache <;> rfl
    · rw [ContentBlock.toPyVal, get_obj, hc]
    · exact CacheControl.encodes_type (PyVal.printable_of_lookup h
        (hc.trans (by rw [Option.mem_def.mp hcc]; rfl)))

/-- `str` of a printable dict or list encodes: it is `repr`. -/
lemma str?_container {v : PyVal} (hv : v.isDict = true ∨ ∃ xs, v = .list xs)
    (h : v.printable out.errors = true) :
    v.str? out = .ok (out.repr v) ∧ (out.repr v).encodes out.errors = true := by
  refine ⟨?_, PyStr.encodes_of_noSurrogate (out.repr_noSurrogate v)⟩
  simp only [PyVal.printable, Bool.and_eq_true] at h
  rcases hv with hv | ⟨xs, rfl⟩
  · cases v <;> simp_all [PyVal.isDict, PyVal.str?]
  · simp [PyVal.str?, h.1]

/-- **The text shown for the content of a printable API message** is a string that encodes,
whatever the mark, for a cut that keeps a text encoding. -/
lemma firstItemText_api (cut : PyStr → PyStr)
    (hcut : ∀ s, s.encodes out.errors = true → (cut s).encodes out.errors = true)
    (mark : Option String) {c : MessageContent} (h : c.toPyVal.printable out.errors = true) :
    ∃ s, firstItemText out cut mark c.toPyVal = .ok (.str s) ∧ s.encodes out.errors = true := by
  cases c with
  | text s => exact ⟨s, rfl, by simpa [MessageContent.toPyVal] using h⟩
  | blocks bs =>
    cases bs with
    | nil =>
      obtain ⟨hs, he⟩ := str?_container out (v := .list []) (.inr ⟨_, rfl⟩) rfl
      exact ⟨cut (out.repr (.list [])), by simp [MessageContent.toPyVal, firstItemText, hs],
        hcut _ he⟩
    | cons b bs =>
      have hb : b.toPyVal.printable out.errors = true :=
        PyVal.printable_of_mem h (List.mem_cons_self _ _)
      have hd : b.toPyVal.isDict = true := by cases b <;> rfl
      obtain ⟨hs, hse⟩ := str?_container out (.inl hd) hb
      obtain ⟨⟨t, ht, hte⟩, c, hc, hce⟩ := b.get_text_cache (cut (out.repr b.toPyVal))
      obtain ⟨kvs, hk⟩ : ∃ kvs, b.toPyVal = .dict kvs := by cases b <;> exact ⟨_, rfl⟩
      simp only [MessageContent.toPyVal, List.map_cons, firstItemText, hk, PyVal.entries?_dict,
        ok_bind] at hs ht hc ⊢
      rw [hs, ok_bind, ht, ok_bind]
      have htt := hte _ hb (hcut _ hse)
      cases mark with
      | none => exact ⟨t, rfl, htt⟩
      | some pre =>
        simp only [hc, cacheType_eq, ok_bind]
        cases c with
        | none => exact ⟨t, by simp [strVal, PyVal.truthy, lit], htt⟩
        | some cc =>
          simp only [Option.map_some', Option.getD_some]
          split
          · exact ⟨t ++ (lit pre ++ (cc.type ++ lit "]")), by simp [PyVal.str?, PyVal.iaddStr?],
              by simp [htt, hce _ hb cc rfl]⟩
          · exact ⟨t, rfl, htt⟩

lemma showMessage_api (i : Nat) {m : Message} (h : m.toPyVal.printable out.errors = true) :
    showMessage out i m.toPyVal = .ok () := by
  have hr : (PyVal.str m.role).printable out.errors = true :=
    PyVal.printable_of_lookup h (k := "role") (by simp [Message.toPyVal, List.lookup_cons])
  obtain ⟨s, hs, he⟩ := firstItemText_api out id (fun _ h => h) (some " [🔵 Cached: ")
    (c := m.content)
    (PyVal.printable_of_lookup h (k := "content") (by simp [Message.toPyVal, List.lookup_cons]))
  simp [showMessage, contentText, Message.toPyVal, getItem_obj, List.lookup_cons, hs,
    printVal_printable out _ _ hr, showTruncated_str out _ he]

lemma showMessages_api {r : Request} (h : r.toPyVal.printable out.errors = true) :
    showMessages out r.toPyVal = .ok () := by
  have hp := Request.printable_lookup h r.lookup_messages
  simp only [showMessages, Request.toPyVal, contains_obj, getItem_obj, Request.lookup_messages,
    Option.isSome_some, if_true, ok_bind, PyVal.iter]
  split
  · exact forM_eq_ok fun x hx => by
      have hm := List.snd_mem_of_mem_enumFrom hx
      obtain ⟨m, -, hm'⟩ := List.mem_map.mp hm
      rw [← hm']
      exact showMessage_api out _ (hm' ▸ PyVal.printable_of_mem hp hm)
  · rfl

lemma PyStr.encodes_mcpToolName {s : PyStr} (h : s.encodes out.errors = true) :
    (mcpToolName s).encodes out.errors = true := by
  have hp : ∀ p ∈ PyStr.split (lit "__") s, p.encodes out.errors = true := fun p hp =>
    List.all_eq_true.mpr fun c hc => List.all_eq_true.mp h c (PyStr.split_subset hp hc)
  unfold mcpToolName
  split
  · split
    · next server tool _ hs =>
      simp [hp server (by simp [hs]), hp tool (by simp [hs])]
    · exact h
  · exact h

lemma showTool_api {t : Tool} (h : t.toPyVal.printable out.errors = true) :
    showTool out t.toPyVal = .ok () := by
  have hn : t.name.encodes out.errors = true := by
    simpa using PyVal.printable_of_lookup h (k := "name") (v := .str t.name)
      (by simp [Tool.toPyVal, List.lookup_cons])
  have hname : t.toPyVal.get (lit "name") (strVal "unknown") = .ok (.str t.name) := by
    simp [Tool.toPyVal, List.lookup_cons]
  have hdesc : t.toPyVal.get (lit "description") (strVal "") =
      .ok (.str (t.description.getD [])) := by
    obtain ⟨name, _ | d, schema⟩ := t
    · simp only [Tool.toPyVal, get_obj, List.lookup_cons]
      rfl
    · simp [Tool.toPyVal, List.lookup_cons]
  have hd : (t.description.getD []).encodes out.errors = true := by
    cases hd : t.description with
    | none => rfl
    | some d =>
      simpa using PyVal.printable_of_lookup h (k := "description") (v := .str d)
        (by simp [Tool.toPyVal, hd, List.lookup_cons])
  simp only [showTool, hname, hdesc, ok_bind, cutText_str, PyVal.str?]
  exact print?_eq_ok (by
    split <;> simp [hd, PyStr.encodes_take _ hd, PyStr.encodes_mcpToolName out hn])

lemma showTools_api {r : Request} (h : r.toPyVal.printable out.errors = true) :
    showTools out r.toPyVal = .ok () := by
  cases ht : r.tools with
  | none => simp [showTools, Request.toPyVal, ht]
  | some ts =>
    have hp := Request.printable_lookup h (r.lookup_tools.trans (by rw [ht]; rfl))
    simp only [showTools, Request.toPyVal, contains_obj, getItem_obj, Request.lookup_tools, ht,
      Option.map_some', Option.isSome_some, if_true, ok_bind, PyVal.len?, PyVal.sliceTo?,
      PyVal.iter]
    split
    · split
      · exact forM_eq_ok fun x hx => by
          have hm := List.mem_of_mem_take hx
          obtain ⟨t, -, rfl⟩ := List.mem_map.mp hm
          exact showTool_api out (PyVal.printable_of_mem hp hm)
      · rfl
    · rfl

/-- `', '.join(...)` of strings that encode never raises and encodes. -/
lemma joinStrs_go_strs (sep : PyStr) (hsep : sep.encodes out.errors = true) :
    ∀ (i : Nat) (ks : List PyStr), (∀ k ∈ ks, k.encodes out.errors = true) →
      ∃ t, joinStrs?.go sep i (ks.map .str) = .ok t ∧ t.encodes out.errors = true
  | _, [], _ => ⟨_, rfl, rfl⟩
  | _, [k], h => ⟨_, rfl, h k (List.mem_singleton_self k)⟩
  | i, k :: k' :: ks, h => by
    obtain ⟨t, ht, he⟩ := joinStrs_go_strs sep hsep (i + 1) (k' :: ks)
      fun x hx => h x (List.mem_cons_of_mem k hx)
    refine ⟨_, by rw [List.map_cons, List.map_cons, joinStrs?.go, ← List.map_cons, ht]; rfl, ?_⟩
    simp [h k (List.mem_cons_self _ _), hsep, he]

lemma showSchema_api (sc : JsonSchema) : showSchema out sc.toPyVal = .ok () := by
  have hk : List.lookup "properties" (sc.keywords ++ sc.properties.toList.map
      fun p => ("properties", obj p)) = sc.properties.map obj := by
    rw [lookup_append_fresh fun kv hm he => sc.fresh kv hm he]
    cases sc.properties <;> simp [List.lookup_cons]
  rw [showSchema, JsonSchema.toPyVal, contains_obj, hk, ok_bind]
  cases hp : sc.properties with
  | none => rfl
  | some p =>
    obtain ⟨t, ht, he⟩ := joinStrs_go_strs out (lit ", ") (by simp) 0
      (p.map fun kv => lit kv.1) (by simp only [List.mem_map]; rintro _ ⟨kv, -, rfl⟩; simp)
    have hkeys : (obj p).keys? = .ok ((p.map fun kv => lit kv.1).map .str) := by
      simp [obj, PyVal.keys?, PyVal.entries?, map_ok, Function.comp_def, strVal]
    rw [hp] at hk
    rw [Option.map_some', Option.isSome_some, if_pos rfl, getItem_obj, hk]
    simp only [Option.map_some', ok_bind, hkeys, joinStrs?, ht]
    exact print?_eq_ok (by simp [he])

lemma showOutputConfig_api {r : Request} (h : r.toPyVal.printable out.errors = true) :
    showOutputConfig out r.toPyVal = .ok () := by
  cases ho : r.outputConfig with
  | none => simp [showOutputConfig, Request.toPyVal, ho]
  | some oc =>
    have hp := Request.printable_lookup h (r.lookup_outputConfig.trans (by rw [ho]; rfl))
    simp only [showOutputConfig, Request.toPyVal, contains_obj, getItem_obj,
      Request.lookup_outputConfig, ho, Option.map_some', Option.isSome_some, if_true, ok_bind]
    obtain ⟨_ | ⟨type, _ | sc⟩⟩ := oc
    · simp [OutputConfig.toPyVal, strVal, getOr, dictGet?, printVal_printable]
    · have ht : type.encodes out.errors = true := by
        simpa [OutputConfig.toPyVal, OutputFormat.toPyVal] using hp
      simp [OutputConfig.toPyVal, OutputFormat.toPyVal, List.lookup_cons, getItem_obj,
        printVal_printable out _ (v := .str type) _ (by simpa using ht)]
      intro
      rfl
    · have ht : type.encodes out.errors = true := by
        simp [OutputConfig.toPyVal, OutputFormat.toPyVal] at hp
        exact hp.1
      simp [OutputConfig.toPyVal, OutputFormat.toPyVal, List.lookup_cons, getItem_obj,
        printVal_printable out _ (v := .str type) _ (by simpa using ht)]
      intro
      exact showSchema_api out sc

/-- `input_tokens + output_tokens` of an API usage object adds its two counters. -/
lemma usageSum_api (u : Usage) :
    usageSum u.toPyVal = .ok (.int (u.inputTokens.getD 0 + u.outputTokens.getD 0)) := by
  simp only [usageSum, Usage.toPyVal, get_obj, Usage.lookup_input, Usage.lookup_output, ok_bind]
  cases u.inputTokens <;> cases u.outputTokens <;> rfl

lemma showUsage_api {u : Usage} (h : u.toPyVal.printable out.errors = true)
    (htotal : intFitsStr (u.inputTokens.getD 0 + u.outputTokens.getD 0) = true) :
    showUsage out (some u.toPyVal) = .ok () := by
  have hget : ∀ k d, u.toPyVal.get (lit k) d = .ok ((List.lookup k u.fields).getD d) :=
    fun _ _ => get_obj _ _ _
  have hprint : ∀ pre k post,
      printVal out pre ((List.lookup k u.fields).getD (.int 0)) post = .ok () :=
    fun _ k _ => printVal_printable out _ _ (getD_lookup_printable h k rfl)
  have htot := printVal_printable out "总计: " (v := .int _) " tokens" (by simpa using htotal)
  simp only [showUsage, hget, hprint, usageSum_api, htot, ok_bind, pure_eq_ok, ite_self]

/-- **An entry whose detail prints**: the request id the dict keeps and the entry's values are
printable, its response text encodes, and so does `input_tokens + output_tokens` of its
usage. -/
def Conversation.shown (errors : EncodeErrors) (rid : PyVal) (c : Conversation) : Bool :=
  rid.printable errors && c.timestamp.printable errors &&
    (c.model.getD (strVal "N/A")).printable errors &&
    (c.apiKey.getD (strVal "N/A")).printable errors && c.request.printable errors &&
    (c.responseText.getD []).encodes errors &&
    c.usage.all fun u => u.printable errors && (usageSum u).toOption.all (PyVal.printable errors)

/-- **The detail of a conversation never raises on what the API sends, when it prints.**  For
every request of the Messages API, and no usage or a usage object of the API, lines 142–259 of
`analyze_conversations` run through when the entry's values print: whatever the system prompt,
messages, content blocks, tools and output format, every `len`, slice, `get`, `+=`,
`startswith`, `join`, `+` and `print` they evaluate applies to a value of the right type. -/
lemma showConversation_api {rid : PyVal} (c : Conversation) (r : Request) (u : Option Usage)
    (hc : Conversation.shown out.errors rid
      { c with request := r.toPyVal, usage := u.map Usage.toPyVal } = true) :
    showConversation out rid { c with request := r.toPyVal, usage := u.map Usage.toPyVal } =
      .ok () := by
  simp only [Conversation.shown, Bool.and_eq_true] at hc
  obtain ⟨⟨⟨⟨⟨⟨hid, hts⟩, hmd⟩, hak⟩, hr⟩, htx⟩, hus⟩ := hc
  have hu : showUsage out (u.map Usage.toPyVal) = .ok () := by
    cases u with
    | none => rfl
    | some a =>
      simp only [Option.map_some', Option.all_some, Bool.and_eq_true, usageSum_api] at hus
      exact showUsage_api out hus.1 (by simpa [Except.toOption] using hus.2)
  obtain ⟨v1, h1, p1⟩ := Request.get_printable hr "max_tokens" (d := strVal "N/A") rfl
  obtain ⟨v2, h2, p2⟩ := Request.get_printable hr "temperature" (d := strVal "default") rfl
  obtain ⟨v3, h3, p3⟩ := Request.get_printable hr "stream" (d := .bool false) rfl
  simp only [showConversation, printVal_printable out _ _ hid, printVal_printable out _ _ hts,
    printVal_printable out _ _ hmd, printVal_printable out _ _ hak, showSystem_api out hr,
    showMessages_api out hr, h1, h2, h3, printVal_printable out _ _ p1,
    printVal_printable out _ _ p2, printVal_printable out _ _ p3,
    showTools_api out hr, showOutputConfig_api out hr, hu, ok_bind]
  unfold showResponse
  split
  · rfl
  · rw [showTruncated_str out _ htx]
    rfl

/-- A field's last write is one of the writes. -/
lemma lastWritten_mem {α β : Type} {ws : List α} {f : α → Option β} {b : β}
    (h : lastWritten ws f = some b) : ∃ w ∈ ws, f w = some b :=
  List.mem_filterMap.mp (List.mem_of_getLast?_eq_some h)

/-- On such a log, a complete conversation holds an API request and an API usage or none. -/
lemma complete_api {lines : List PyStr} {m : Conversations}
    (hc : collectConversations lines = .ok m)
    (hreq : ∀ k, ∀ w ∈ requestWrites k lines, ∃ r : Request, w.body = r.toPyVal)
    (husage :
      ∀ k, ∀ w ∈ responseWrites k lines, ∀ u ∈ w.usage, ∃ a : Usage, u = a.toPyVal)
    {e : PyKey × Conversation} (he : e ∈ completeConversations m) :
    ∃ (r : Request) (u : Option Usage),
      e.2 = { e.2 with request := r.toPyVal, usage := u.map Usage.toPyVal } := by
  obtain ⟨k, c⟩ := e
  obtain ⟨hm, hne, -⟩ := by simpa [completeConversations] using he
  have hl : m.lookup k = some c := (ODict.mem_iff_lookup m.nodup (k, c)).mp hm
  rw [lookup_collectConversations hc, conversationOf_eq] at hl
  split_ifs at hl
  obtain rfl := Option.some.inj hl
  dsimp only at hne ⊢
  cases hq : (requestWrites k lines).getLast? with
  | none => simp [hq] at hne
  | some q =>
    obtain ⟨r, hr⟩ := hreq k q (List.mem_of_getLast?_eq_some hq)
    have hu : ∃ u : Option Usage, lastWritten (responseWrites k lines) (·.usage) =
        u.map Usage.toPyVal := by
      cases hw : lastWritten (responseWrites k lines) (·.usage) with
      | none => exact ⟨none, rfl⟩
      | some v =>
        obtain ⟨w, hw, hv⟩ := lastWritten_mem hw
        obtain ⟨a, rfl⟩ := husage k w hw v (by simp [hv])
        exact ⟨some a, rfl⟩
    obtain ⟨u, hu⟩ := hu
    exact ⟨r, u, by simp [hq, RequestWrite.apply, hr, hu]⟩

/-- A request with every part the detail stages read: a cached system block, a message of two
content blocks (the first cached), an MCP tool with a description, and a JSON-schema output
format with one property. -/
def cachedToolRequest : Request :=
  ⟨[⟨lit "user", .blocks [.text ⟨lit "hi", some ⟨lit "ephemeral"⟩⟩, .text ⟨lit "there", none⟩]⟩],
    some (.blocks [⟨lit "be brief", some ⟨lit "ephemeral"⟩⟩]),
    some [⟨lit "mcp__fs__read", some (lit "read a file"), [("type", strVal "object")]⟩],
    some ⟨some ⟨lit "json_schema",
      some ⟨some [("answer", obj [("type", strVal "string")])], [("type", strVal "object")],
        by decide⟩⟩⟩,
    [("model", strVal "m"), ("max_tokens", .int 64)], by decide⟩

/-- Its usage, `{"input_tokens": 3, "output_tokens": 5}`. -/
def helloUsage : Usage := ⟨some 3, some 5, [], by simp⟩

/-- The body of a response to it, `{"content": [{"type": "text", "text": "hello"}], "usage": ...}`,
as the gateway logs it. -/
def helloResponseText : PyStr :=
  ((Json.dumps (obj [("content", .list [obj [("type", strVal "text"), ("text", strVal "hello")]]),
    ("usage", helloUsage.toPyVal)])).toOption).getD []

/-- A request record of id `1` for `cachedToolRequest`, and its response, non-streaming. -/
def cachedToolLog : List PyStr :=
  [logLine [("event_type", strVal "request_body"),
      ("body", .str (((Json.dumps cachedToolRequest.toPyVal).toOption).getD []))]
      [("request_id", .int 1)],
   logLine [("event_type", strVal "response_body"), ("body", .str helloResponseText)]
      [("request_id", .int 1)]]

/-- `sys.stdout` in strict mode, with a `repr` that writes nothing: enough for a log whose
detail prints no list or dict. -/
def strictOut : PyOut := ⟨.strict, fun _ => [], fun _ _ h => nomatch h⟩

end Api

end GatewayLogs
