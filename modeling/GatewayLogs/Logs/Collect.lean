import GatewayLogs.Conversations.Collect

/-!
# `analyze_logs`: the collection loop

`analyze_logs.py` (lines 9–39) pairs requests and responses the same way with fewer fields: a
`request_body` record sets `request`, `model` and `api_key`, a `response_body` record sets
`response`, each to the decoded body.  Its `try` covers the whole iteration and catches
`JSONDecodeError` and `KeyError` only, so a missing `body` or an undecodable one skips the
record, while a non-string body, a line or a body that `json.loads` refuses with `ValueError`
or `RecursionError`, an unhashable request id or a record of the wrong shape aborts the run.
-/

namespace GatewayLogs

/-- An entry of `analyze_logs`'s `conversations`: `request` and `response` start as `None`;
`model` and `api_key` are absent until a request assigns them. -/
structure LogEntry where
  request : PyVal := .none
  response : PyVal := .none
  model : Option PyVal := none
  apiKey : Option PyVal := none
  deriving DecidableEq, Repr

/-- What a record does: nothing, or a request or response for a key, with the assignments it
makes (`none` when its body was missing or not JSON, so that `continue` skipped it). -/
inductive LogAction where
  | skip
  | request (key : PyKey) (w : Option (PyVal × PyVal × PyVal))
  | response (key : PyKey) (body : Option PyVal)
  deriving DecidableEq, Repr

/-- `json.loads(log['fields']['body'])` under `except (JSONDecodeError, KeyError)`: `none`
when one of those is raised, the `TypeError` of a non-string body escaping. -/
def logBody? (fields : PyVal) : Except PyExc (Option PyVal) :=
  match fields.getItem (lit "body") "body" >>= jsonLoads with
  | .ok b => .ok (some b)
  | .error e =>
    if e.cls = .jsonDecodeError ∨ e.cls = .keyError then .ok none else .error e

/-- **Lines 13–39 for one line**: the action, or the exception that escapes the loop. -/
def logAction (line : PyStr) : Except PyExc LogAction :=
  match Json.loadsStr (Json.loadsRoom 2) (PyStr.strip line) with
  | .error (.invalid _ _) => .ok .skip
  | .error e => .error (e.toExc (PyStr.strip line))
  | .ok log => do
    let fields ← log.get (lit "fields") (.dict [])
    if !(← fields.contains (lit "event_type")) then return .skip
    let eventType ← fields.getItem (lit "event_type") "event_type"
    if !(eventType = .str (lit "request_body") ∨ eventType = .str (lit "response_body")) then
      return .skip
    let span ← (← log.get (lit "span") (.dict [])).entries? "get"
    let requestId := getOr span "request_id" .none
    if !requestId.truthy then return .skip
    match ← logBody? fields, requestId.key? with
    | none, some k =>
      return if eventType = .str (lit "request_body") then .request k none else .response k none
    | none, none => return .skip
    | some _, none => throw (.unhashable requestId)
    | some body, some k =>
      if eventType = .str (lit "request_body") then
        return .request k (some (body, getOr span "model" .none, getOr span "api_key_name" .none))
      else return .response k (some body)

/-- The map `analyze_logs` builds. -/
abbrev LogConversations := ODict PyKey LogEntry

/-- Apply an action. -/
def LogAction.apply : LogAction → LogConversations → LogConversations
  | .request k (some (b, md, ak)), m =>
    m.alter k fun c => { c.getD {} with request := b, model := some md, apiKey := some ak }
  | .response k (some b), m => m.alter k fun c => { c.getD {} with response := b }
  | _, m => m

/-- **The loop of `analyze_logs`** over the lines of the file. -/
def collectLogs (lines : List PyStr) : Except PyExc LogConversations :=
  lines.foldlM (fun m line => (logAction line).map (·.apply m)) .empty

end GatewayLogs
