import GatewayLogs.Python.Dict
import GatewayLogs.Sse.Parse

/-!
# `analyze_conversations`: the collection pass

The first pass of `analyze_conversations` (`analyze_conversations.py`, lines 71–133) reads the
log line by line into `conversations`, a `defaultdict` from request id to an entry dict.  Each
line is decoded and routed:

* a line that is not JSON, a record without `fields`, with a false `event_type` or without a
  true `span.request_id` is skipped;
* a `request_body` record whose body decodes writes `request`, `model`, `api_key` and
  `timestamp` (`RequestWrite`); any failure in its `try` is swallowed;
* a `response_body` record writes `response_raw` and `streaming`, then `response_text` and
  `usage` as far as parsing gets, and `parse_error` if it raised (`ResponseWrite`);
* anything else that goes wrong aborts the whole run: only `JSONDecodeError` is caught at the
  top, so a line holding an `int` of more than `maxStrDigits` digits (`ValueError`) or nested
  deeper than the recursion limit allows (`RecursionError`) ends it too.

The model splits each line into a state-independent part, `convAction` (what the line does, or
the exception that aborts the run), and `ConvAction.apply`, its effect on the map.  The pass is
their fold, `collectConversations`.
-/

namespace GatewayLogs

/-- An entry of `conversations`.  `request` and `timestamp` start as `None` (the
`defaultdict` factory); the other keys are absent (`none`) until a handler assigns them. -/
structure Conversation where
  request : PyVal := .none
  timestamp : PyVal := .none
  model : Option PyVal := none
  apiKey : Option PyVal := none
  responseRaw : Option PyVal := none
  streaming : Option PyVal := none
  responseText : Option PyStr := none
  usage : Option PyVal := none
  parseError : Option PyStr := none
  deriving DecidableEq, Repr

/-- The assignments of a `request_body` record whose body decoded (lines 96–100). -/
structure RequestWrite where
  body : PyVal
  model : PyVal
  apiKey : PyVal
  timestamp : PyVal
  deriving DecidableEq, Repr

/-- The assignments of a `response_body` record (lines 106–129), each present when the handler
got as far as making it. -/
structure ResponseWrite where
  raw : Option (PyVal × PyVal)
  text : Option PyStr
  usage : Option PyVal
  error : Option PyStr
  deriving DecidableEq, Repr

/-- Apply a request's assignments. -/
def RequestWrite.apply (w : RequestWrite) (c : Conversation) : Conversation :=
  { c with request := w.body, model := some w.model, apiKey := some w.apiKey,
           timestamp := w.timestamp }

/-- Apply a response's assignments; keys it does not assign keep their value. -/
def ResponseWrite.apply (w : ResponseWrite) (c : Conversation) : Conversation :=
  { c with responseRaw := (w.raw.map Prod.fst).or c.responseRaw
           streaming := (w.raw.map Prod.snd).or c.streaming
           responseText := w.text.or c.responseText
           usage := w.usage.or c.usage
           parseError := w.error.or c.parseError }

/-! ## The two handlers -/

/-- **The request handler's `try` block** (lines 96–100), on the record, its `fields` dict and
its `span` dict (`log['span']` is the `span` read on line 90: the record's `request_id` was found
in it). -/
def requestWrite? (log : PyVal) (fields span : List (PyVal × PyVal)) :
    Except PyExc RequestWrite := do
  let body ← jsonLoads (← (PyVal.dict fields).getItem (lit "body") "body")
  return ⟨body, getOr span "model" .none, getOr span "api_key_name" .none,
    ← log.get (lit "timestamp") .none⟩

/-- One iteration of lines 123–125: a dict item with a `text` key adds its text. -/
def addItemText (text : PyStr) : PyVal → Except PyExc PyStr
  | .dict kvs => match dictGet? kvs (.str (lit "text")) with
    | some t => concatStr text t
    | none => pure text
  | _ => pure text

/-- **Lines 120–125**: decode a non-streaming body and concatenate the `text` of the dict items
of its `content`.  Returns the decoded document and the text. -/
def jsonResponseText? (bodyText : PyVal) : Except PyExc (PyVal × PyStr) := do
  let resp ← jsonLoads bodyText
  if !(← resp.contains (lit "content")) then return (resp, [])
  let content ← resp.getItem (lit "content") "content"
  if !content.truthy then return (resp, [])
  let items ← content.iter
  let text ← items.foldlM addItemText []
  return (resp, text)

/-- **The response handler** (lines 105–130) on the record's `fields` dict: the assignments it
makes before it finishes or raises, and `str(e)` as `parse_error` if it raises. -/
def responseWrite (fields : List (PyVal × PyVal)) : ResponseWrite :=
  match (PyVal.dict fields).getItem (lit "body") "body" with
  | .error e => ⟨none, none, none, some e.msg⟩
  | .ok bodyText =>
    let streaming := getOr fields "streaming" (.bool false)
    if streaming.truthy then
      match parseSse? bodyText with
      | .ok r => ⟨some (bodyText, streaming), some r.fullText, some r.usage, none⟩
      | .error e => ⟨some (bodyText, streaming), none, none, some e.msg⟩
    else
      match jsonResponseText? bodyText with
      | .error e => ⟨some (bodyText, streaming), none, none, some e.msg⟩
      | .ok (resp, text) =>
        match resp.get (lit "usage") (.dict []) with
        | .ok u => ⟨some (bodyText, streaming), some text, some u, none⟩
        | .error e => ⟨some (bodyText, streaming), some text, none, some e.msg⟩

/-! ## One line, and the pass -/

/-- What a record line does to `conversations`: nothing, a request's assignments (or nothing
if its `try` failed) under a key, or a response's assignments under a key. -/
inductive ConvAction where
  | skip
  | request (key : PyKey) (w : Option RequestWrite)
  | response (key : PyKey) (w : ResponseWrite)
  deriving DecidableEq, Repr

/-- **Lines 80–133 for one line**: the action, or the exception that escapes the loop.  A line
that is not JSON is skipped; an unhashable request id makes the request handler's assignment
fail (swallowed) but the response handler's `except` clause fail again (not swallowed). -/
def convAction (line : PyStr) : Except PyExc ConvAction :=
  match Json.loadsStr (Json.loadsRoom 2) (PyStr.strip line) with
  | .error (.invalid _ _) => .ok .skip
  | .error e => .error (e.toExc (PyStr.strip line))
  | .ok log => do
    if !(← log.contains (lit "fields")) then return .skip
    let fields ← (← log.getItem (lit "fields") "fields").entries? "get"
    let eventType := getOr fields "event_type" .none
    if !eventType.truthy then return .skip
    let span ← (← log.get (lit "span") (.dict [])).entries? "get"
    let requestId := getOr span "request_id" .none
    if !requestId.truthy then return .skip
    if eventType = .str (lit "request_body") then
      match requestId.key? with
      | some k => return .request k (requestWrite? log fields span).toOption
      | none => return .skip
    else if eventType = .str (lit "response_body") then
      match requestId.key? with
      | some k => return .response k (responseWrite fields)
      | none => throw (.unhashable requestId)
    else return .skip

/-- `log.get('span', {}).get('request_id')` of a line: the request id the three loops read
(line 89 here, line 24 of `analyze_logs.py`, line 43 of `log_analysis_report.py`), or `None` when
the line is not a record with a dict `span`. -/
def recordRequestId (line : PyStr) : PyVal :=
  match Json.loadsStr (Json.loadsRoom 2) (PyStr.strip line) with
  | .ok log => ((log.get (lit "span") (.dict []) >>= fun span =>
      span.get (lit "request_id") .none).toOption).getD .none
  | .error _ => .none

/-- The conversations map `analyze_conversations` builds. -/
abbrev Conversations := ODict PyKey Conversation

/-- Apply an action: `conversations[k][...] = ...` creates the entry on first use. -/
def ConvAction.apply : ConvAction → Conversations → Conversations
  | .skip, m => m
  | .request _ none, m => m
  | .request k (some w), m => m.alter k fun c => w.apply (c.getD {})
  | .response k w, m => m.alter k fun c => w.apply (c.getD {})

/-- One iteration of the loop. -/
def collectStep (m : Conversations) (line : PyStr) : Except PyExc Conversations :=
  (convAction line).map (·.apply m)

/-- **The collection pass** over the lines of the log file, from the empty `defaultdict`. -/
def collectConversations (lines : List PyStr) : Except PyExc Conversations :=
  lines.foldlM collectStep .empty

/-- `complete_conversations` (lines 136–137): the entries with a request that is not `None` and
a `response_text`, in insertion order. -/
def completeConversations (m : Conversations) : List (PyKey × Conversation) :=
  m.entries.filter fun e => e.2.request ≠ .none ∧ e.2.responseText.isSome

end GatewayLogs
