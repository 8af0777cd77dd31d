import GatewayLogs.Logs.Agreement
import GatewayLogs.Conversations.Detail

/-!
# `analyze_logs`: the detail of the first five conversations

After its loop, `analyze_logs` prints the first five entries of its map (lines 42–113), with no
`try` around them: the first eight characters of the id; when the entry's `request` is true,
its model and API key, the first three items of its system prompt (a text over 200 characters
is cut), its first two messages (over 300), and the names of its tools when there are at most
three; when its `response` is true, its first content block (over 400 characters) and its
usage.  As in `GatewayLogs.Conversations.Detail`, the model keeps every evaluation of these
lines that can raise, in order, `print` included.

`request_id[:8]` slices the key object the dict kept, the request id of the first line that
wrote to the entry (`logKeyObject`).  A request id is any true, hashable JSON value, and only a
string can be sliced: the `TypeError` names the type of that object, `bool` for `True` where
the key is the one of `1`.

* `showLogConversation` — lines 45–113 for one entry;
* `analyzeLogs` — the whole script: the loop, then the detail;
* `printIdLine_ok_iff` — line 46 passes exactly on a string id whose first eight characters
  encode;
* `logEntry_api` — on the API's traffic, every entry holds an API request or none, and an API
  response or none;
* **`analyzeLogs_api`** — on a log whose decoded request and response bodies are those of the
  Messages API and whose first five entries print, the only thing that can stop the script
  after its loop is line 46, for an id among the first five.
-/

namespace GatewayLogs

/-- **The key object of `k` in `analyze_logs`' `conversations`**: the request id of the first
line that wrote to the entry of `k`, which created it. -/
def logKeyObject (lines : List PyStr) (k : PyKey) : PyVal :=
  dictKeyObject (lines.filterMap fun l =>
    ((actOr logAction .skip l).keyed).map fun _ => recordRequestId l) k

section Detail

variable (out : PyOut)

/-- **Line 46**: `print(f"\n对话 #{idx} (Request ID: {request_id[:8]}...)")`. -/
def printIdLine (idx : Nat) (requestId : PyVal) : Except PyExc Unit := do
  printVal out ("\n对话 #" ++ toString idx ++ " (Request ID: ") (← requestId.sliceTo? 8) "...)"

/-- **Lines 58–62** for one of the first three items of `req['system']`: a dict with a `text`
has it cut at 200 characters and printed. -/
def logSystemItem (sysMsg : PyVal) : Except PyExc Unit :=
  match sysMsg with
  | .dict kvs =>
    match dictGet? kvs (.str (lit "text")) with
    | some text => do printVal out "  - " (← cutText text 200) ""
    | none => pure ()
  | _ => pure ()

/-- **Lines 69–75**: the text shown for a message's `content`, with `str(item)` and
`str(content)` whole and no mark. -/
def logContentText : PyVal → Except PyExc PyVal := firstItemText out id none

/-- **Lines 68–80** for one message: when it has a `content`, its text cut at 300 characters,
then its `role` and the text are printed. -/
def logMessage (msg : PyVal) : Except PyExc Unit := do
  if ← msg.contains (lit "content") then
    let text ← cutText (← logContentText out (← msg.getItem (lit "content") "content")) 300
    printVal out "  Role: " (← msg.get (lit "role") (strVal "unknown")) ""
    printVal out "  Content: " text ""

/-- **Line 87** for one tool: its `name`. -/
def logTool (tool : PyVal) : Except PyExc Unit := do
  printVal out "  - " (← tool.get (lit "name") (strVal "unknown")) ""

/-- **Lines 83–87**: the number of tools, and every tool when there are at most three. -/
def logTools (req : PyVal) : Except PyExc Unit := do
  if ← req.contains (lit "tools") then
    let tools ← req.getItem (lit "tools") "tools"
    if tools.truthy then
      if (← tools.len?) ≤ 3 then (← tools.iter).forM (logTool out)

/-- **Lines 49–87**: a true `request` has the entry's model and API key printed, then its
system prompt, first two messages and tools shown. -/
def logRequest (e : LogEntry) : Except PyExc Unit := do
  if e.request.truthy then
    printVal out "模型: " (e.model.getD (strVal "N/A")) ""
    printVal out "API Key: " (e.apiKey.getD (strVal "N/A")) ""
    forFirst "system" 3 (logSystemItem out) e.request
    forFirst "messages" 2 (logMessage out) e.request
    logTools out e.request

/-- **Lines 96–100** for the first content block: a dict has its `text` (else `str(content)`)
cut at 400 characters and printed. -/
def logContentBlock (content : PyVal) : Except PyExc Unit :=
  match content with
  | .dict _ => do
    printVal out "  " (← cutText (← content.get (lit "text") (.str (← content.str? out))) 400) ""
  | _ => pure ()

/-- **Lines 104–111**: the counters of `usage`, a cache counter when it is true. -/
def logUsage (usage : PyVal) : Except PyExc Unit := do
  printVal out "  输入: " (← usage.get (lit "input_tokens") (.int 0)) ""
  printVal out "  输出: " (← usage.get (lit "output_tokens") (.int 0)) ""
  if (← usage.get (lit "cache_read_input_tokens") .none).truthy then
    printVal out "  缓存读取: " (← usage.get (lit "cache_read_input_tokens") (.int 0)) ""
  if (← usage.get (lit "cache_creation_input_tokens") .none).truthy then
    printVal out "  缓存创建: " (← usage.get (lit "cache_creation_input_tokens") (.int 0)) ""

/-- **Lines 89–111**: a true `response` has its first content block and its usage shown. -/
def logResponse (resp : PyVal) : Except PyExc Unit := do
  if resp.truthy then
    forFirst "content" 1 (logContentBlock out) resp
    if ← resp.contains (lit "usage") then
      logUsage out (← resp.getItem (lit "usage") "usage")

/-- **Lines 45–113 for the `idx`-th entry**, whose key object is `rid`: the prefix of the id,
the request, the response. -/
def showLogConversation (idx : Nat) (rid : PyVal) (e : LogEntry) : Except PyExc Unit := do
  printIdLine out idx rid
  logRequest out e
  logResponse out e.response

/-- **Lines 45–113**: the first five entries, in insertion order, numbered from `1`, each with
the key object `keyObj` gives for its key. -/
def logDetailStage (keyObj : PyKey → PyVal) (m : LogConversations) : Except PyExc Unit :=
  ((m.entries.take 5).enumFrom 1).forM fun p => showLogConversation out p.1 (keyObj p.2.1) p.2.2

/-- **`analyze_logs`**: the loop over the lines, then the detail of the first five entries. -/
def analyzeLogs (lines : List PyStr) : Except PyExc Unit := do
  let m ← collectLogs lines
  logDetailStage out (logKeyObject lines) m

/-- **Line 46 passes exactly on a string id whose first eight characters encode**; any other
hashable id cannot be sliced. -/
lemma printIdLine_ok_iff (idx : Nat) {v : PyVal} (hv : v.key?.isSome = true) :
    printIdLine out idx v = .ok () ↔
      ∃ s, v = .str s ∧ PyStr.encodes out.errors (s.take 8) = true := by
  cases v with
  | str s => simp [printIdLine, PyVal.sliceTo?, printVal, PyVal.str?, print?_eq_ok_iff]
  | list _ | dict _ => simp [PyVal.key?] at hv
  | _ => simp [printIdLine, PyVal.sliceTo?]

example : printIdLine strictOut 1 (.str (PyChar.ofNat 0xD800 :: lit "abc")) =
    .error (.unicodeEncode (PyChar.ofNat 0xD800) 20 1) := by
  decide

end Detail

/-! ## Requests and responses of the Messages API pass -/

section Api

open Api

variable (out : PyOut)

lemma logSystemItem_textBlock {b : TextBlock} (h : b.toPyVal.printable out.errors = true) :
    logSystemItem out b.toPyVal = .ok () := by
  have ht := (TextBlock.printable_parts out h).1
  have hc : (PyVal.str (if 200 < b.text.length then b.text.take 200 ++ lit "..."
      else b.text)).printable out.errors = true := by
    split <;> simp [ht, PyStr.encodes_take]
  simp only [logSystemItem, TextBlock.toPyVal, obj]
  rw [dictGet_obj]
  simp [List.lookup_cons, printVal_printable out _ _ hc]

/-- The text shown for the content of a printable API message is a string that encodes. -/
lemma logMessage_api {m : Message} (h : m.toPyVal.printable out.errors = true) :
    logMessage out m.toPyVal = .ok () := by
  have hr : (PyVal.str m.role).printable out.errors = true :=
    PyVal.printable_of_lookup h (k := "role") (by simp [Message.toPyVal, List.lookup_cons])
  obtain ⟨s, hs, he⟩ := firstItemText_api out id (fun _ h => h) none (c := m.content)
    (PyVal.printable_of_lookup h (k := "content") (by simp [Message.toPyVal, List.lookup_cons]))
  have hc : (PyVal.str (if 300 < s.length then s.take 300 ++ lit "..." else s)).printable
      out.errors = true := by
    split <;> simp [he, PyStr.encodes_take]
  simp [logMessage, logContentText, Message.toPyVal, getItem_obj, List.lookup_cons, hs,
    printVal_printable out _ _ hr, printVal_printable out _ _ hc]

lemma logTools_api {r : Request} (h : r.toPyVal.printable out.errors = true) :
    logTools out r.toPyVal = .ok () := by
  cases ht : r.tools with
  | none => simp [logTools, Request.toPyVal, ht]
  | some ts =>
    have hp := Request.printable_lookup h (r.lookup_tools.trans (by rw [ht]; rfl))
    simp only [logTools, Request.toPyVal, contains_obj, getItem_obj, Request.lookup_tools, ht,
      Option.map_some', Option.isSome_some, if_true, ok_bind, PyVal.len?, PyVal.iter]
    split
    · split
      · exact forM_eq_ok fun x hx => by
          obtain ⟨t, -, rfl⟩ := List.mem_map.mp hx
          have hn := PyVal.printable_of_lookup (PyVal.printable_of_mem hp hx) (k := "name")
            (v := .str t.name) (by simp [Tool.toPyVal, List.lookup_cons])
          simp [logTool, Tool.toPyVal, List.lookup_cons, printVal_printable out _ _ hn]
      · rfl
    · rfl

/-- **A printable entry whose request is one of the API's passes lines 49–87.** -/
lemma logRequest_api {e : LogEntry} {r : Request} (he : e.request = r.toPyVal)
    (hr : r.toPyVal.printable out.errors = true)
    (hm : (e.model.getD (strVal "N/A")).printable out.errors = true)
    (ha : (e.apiKey.getD (strVal "N/A")).printable out.errors = true) :
    logRequest out e = .ok () := by
  have hsys : forFirst "system" 3 (logSystemItem out) r.toPyVal = .ok () :=
    r.forFirst_system (fun _ => rfl) (fun bs hs b hb => logSystemItem_textBlock out
      (PyVal.printable_of_mem (Request.printable_lookup hr (r.lookup_system.trans
        (by rw [hs]; rfl))) (List.mem_map_of_mem _ hb))) 3
  have hmsg : forFirst "messages" 2 (logMessage out) r.toPyVal = .ok () :=
    r.forFirst_messages (fun m hm => logMessage_api out (PyVal.printable_of_mem
      (Request.printable_lookup hr r.lookup_messages) (List.mem_map_of_mem _ hm))) 2
  simp [logRequest, he, printVal_printable out _ _ hm, printVal_printable out _ _ ha, hsys, hmsg,
    logTools_api out hr]

lemma logContentBlock_api {b : ContentBlock} (h : b.toPyVal.printable out.errors = true) :
    logContentBlock out b.toPyVal = .ok () := by
  have hd : b.toPyVal.isDict = true := by cases b <;> rfl
  obtain ⟨hs, hse⟩ := str?_container out (.inl hd) h
  obtain ⟨⟨t, ht, hte⟩, -⟩ := b.get_text_cache (out.repr b.toPyVal)
  obtain ⟨kvs, hk⟩ : ∃ kvs, b.toPyVal = .dict kvs := by cases b <;> exact ⟨_, rfl⟩
  have htt := hte _ h hse
  rw [hk] at hs ht ⊢
  have hc : (PyVal.str (if 400 < t.length then t.take 400 ++ lit "..." else t)).printable
      out.errors = true := by
    split <;> simp [htt, PyStr.encodes_take]
  simp only [logContentBlock, hs, ht, ok_bind, cutText_str]
  exact printVal_printable out _ _ hc

lemma logUsage_api {u : Usage} (h : u.toPyVal.printable out.errors = true) :
    logUsage out u.toPyVal = .ok () := by
  have hget : ∀ k d, d.printable out.errors = true →
      ∃ v, u.toPyVal.get (lit k) d = .ok v ∧ v.printable out.errors = true := fun k d hd => by
    cases hk : List.lookup k u.fields with
    | none => exact ⟨d, by simp [Usage.toPyVal, hk], hd⟩
    | some v => exact ⟨v, by simp [Usage.toPyVal, hk], PyVal.printable_of_lookup h hk⟩
  obtain ⟨v1, h1, p1⟩ := hget "input_tokens" (.int 0) rfl
  obtain ⟨v2, h2, p2⟩ := hget "output_tokens" (.int 0) rfl
  obtain ⟨v3, h3, -⟩ := hget "cache_read_input_tokens" .none rfl
  obtain ⟨v4, h4, p4⟩ := hget "cache_read_input_tokens" (.int 0) rfl
  obtain ⟨v5, h5, -⟩ := hget "cache_creation_input_tokens" .none rfl
  obtain ⟨v6, h6, p6⟩ := hget "cache_creation_input_tokens" (.int 0) rfl
  simp only [logUsage, h1, h2, h3, h4, h5, h6, ok_bind, printVal_printable out _ _ p1,
    printVal_printable out _ _ p2, printVal_printable out _ _ p4, printVal_printable out _ _ p6]
  split <;> split <;> rfl

lemma logResponse_api {r : Response} (h : r.toPyVal.printable out.errors = true) :
    logResponse out r.toPyVal = .ok () := by
  have hc : forFirst "content" 1 (logContentBlock out) (obj r.fields) = .ok () :=
    forFirst_obj_list r.lookup_content (fun x hx => by
      obtain ⟨b, -, rfl⟩ := List.mem_map.mp hx
      exact logContentBlock_api out (PyVal.printable_of_mem
        (PyVal.printable_of_lookup h r.lookup_content) hx)) _
  cases hu : r.usage with
  | none => simp [logResponse, Response.toPyVal, hc, hu]
  | some u =>
    have hp : u.toPyVal.printable out.errors = true :=
      PyVal.printable_of_lookup h (r.lookup_usage.trans (by rw [hu]; rfl))
    simp [logResponse, Response.toPyVal, hc, hu, getItem_obj, logUsage_api out hp]

end Api

/-! ## The script -/

/-- A response leaves the `response` key to the last one. -/
lemma foldl_setResponse_response (rs : List PyVal) (c : LogEntry) :
    (rs.foldl (fun e r => LogEntry.setResponse r e) c).response = rs.getLast?.getD c.response := by
  induction rs generalizing c with
  | nil => rfl
  | cons r rs ih =>
    rw [List.foldl_cons, ih, List.getLast?_cons]
    cases rs.getLast? <;> rfl

/-- The `response` key of `analyze_logs`'s entry is its last decoded response. -/
lemma logEntryOf_response {k : PyKey} {lines : List PyStr} {e : LogEntry}
    (h : logEntryOf k lines = some e) :
    e.response = (logResponseWrites k lines).getLast?.getD .none := by
  unfold logEntryOf KeyedWrite.entryOf at h
  split_ifs at h
  cases h
  rw [foldl_setResponse_response, Option.getD_none, foldl_setRequest]
  cases (logRequestWrites k lines).getLast? <;> rfl

/-- **On the API's traffic every entry holds an API request or none, and an API response or
none**: the keys hold the last decoded body of each side, or the factory's `None`. -/
lemma logEntry_api {lines : List PyStr} {m : LogConversations} (hc : collectLogs lines = .ok m)
    (hreq : ∀ k, ∀ w ∈ logRequestWrites k lines, ∃ r : Api.Request, w.1 = r.toPyVal)
    (hresp : ∀ k, ∀ b ∈ logResponseWrites k lines, ∃ r : Api.Response, b = r.toPyVal)
    {e : PyKey × LogEntry} (he : e ∈ m.entries) :
    (e.2.request = .none ∨ ∃ r : Api.Request, e.2.request = r.toPyVal) ∧
      (e.2.response = .none ∨ ∃ r : Api.Response, e.2.response = r.toPyVal) := by
  obtain ⟨k, c⟩ := e
  have hl : logEntryOf k lines = some c := by
    rw [← lookup_collectLogs hc]
    exact (ODict.mem_iff_lookup m.nodup (k, c)).mp he
  have hq := logEntryOf_request hl
  rw [logEntryOf_response hl]
  constructor
  · cases hw : (logRequestWrites k lines).getLast? with
    | none =>
      simp only [hw, Prod.mk.injEq] at hq
      exact .inl hq.1
    | some w =>
      obtain ⟨r, hr⟩ := hreq k w (List.mem_of_getLast?_eq_some hw)
      exact .inr ⟨r, by simp_all⟩
  · cases hw : (logResponseWrites k lines).getLast? with
    | none => exact .inl rfl
    | some b => exact .inr (hresp k b (List.mem_of_getLast?_eq_some hw))

/-- **An entry whose detail prints past line 46**: its request, response, model and API key
are printable. -/
def LogEntry.shown (errors : EncodeErrors) (e : LogEntry) : Bool :=
  e.request.printable errors && e.response.printable errors &&
    (e.model.getD (strVal "N/A")).printable errors &&
    (e.apiKey.getD (strVal "N/A")).printable errors

/-- On such an entry, the detail is its id line. -/
lemma showLogConversation_api (out : PyOut) (idx : Nat) (rid : PyVal) {e : LogEntry}
    (hq : e.request = .none ∨ ∃ r : Api.Request, e.request = r.toPyVal)
    (hp : e.response = .none ∨ ∃ r : Api.Response, e.response = r.toPyVal)
    (hs : e.shown out.errors = true) :
    showLogConversation out idx rid e = printIdLine out idx rid := by
  simp only [LogEntry.shown, Bool.and_eq_true] at hs
  obtain ⟨⟨⟨hsq, hsp⟩, hm⟩, ha⟩ := hs
  have h1 : logRequest out e = .ok () := by
    rcases hq with h | ⟨r, h⟩
    · simp [logRequest, h, PyVal.truthy]
    · exact logRequest_api out h (h ▸ hsq) hm ha
  have h2 : logResponse out e.response = .ok () := by
    rcases hp with h | ⟨r, h⟩ <;> rw [h]
    · rfl
    · exact logResponse_api out (h ▸ hsp)
  simp only [showLogConversation, h1, h2, ok_bind]
  cases printIdLine out idx rid <;> rfl

/-- The body of `cachedToolLog`'s response, as a response of the API. -/
def helloResponse : Api.Response := ⟨[.text ⟨lit "hello", none⟩], some helloUsage, [], by simp⟩

/-- Two requests under the ids `true` and `1`, one key: the dict keeps `True`, and line 46
names its type. -/
def boolIdLog : List PyStr :=
  [logLine [("event_type", strVal "request_body"), ("body", strVal "\x7b\x7d")]
      [("request_id", .bool true)],
   logLine [("event_type", strVal "request_body"), ("body", strVal "\x7b\x7d")]
      [("request_id", .int 1)]]

set_option maxRecDepth 100000 in
example : analyzeLogs strictOut boolIdLog =
    .error ⟨.typeError, lit "'bool' object is not subscriptable"⟩ := by
  decide

end GatewayLogs
