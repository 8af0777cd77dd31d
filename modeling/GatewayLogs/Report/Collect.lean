import GatewayLogs.Conversations.Collect

/-!
# `analyze_detailed_logs`: the collection loop

`log_analysis_report.py` (lines 11–69) counts instead of pairing.  An `ERROR` record is added
to `errors` and to the `errors` counter by message; a `request_body` record adds one to
`total_requests` and then, inside a bare `try`, decodes its body, counts its model, counts its
API key, and stores the conversation under its request id.  The
`try` stops at the first failure, whatever it is, and what was done before it stays done: a
body that is not a dict, or that `json.loads` refuses, is counted in `total_requests` only, an
unhashable API key after its model was counted, an unhashable request id after both.  The outer
`try` catches only `JSONDecodeError`, so a line that `json.loads` refuses with `ValueError` or
`RecursionError` ends the run.

`reportAction` decides all of that from the line alone; `ReportAction.apply` performs it.
-/

namespace GatewayLogs

/-- An entry of `conversations`: the decoded request (a dict, since `body.get` worked on it)
with its model, API key and timestamp. -/
structure ReportEntry where
  model : PyVal
  apiKey : PyVal
  request : List (PyVal × PyVal)
  timestamp : PyVal
  deriving DecidableEq, Repr

/-- How far the `try` block of a `request_body` record got (lines 45–66). -/
inductive RequestOutcome where
  /-- The body is missing, not a string, not JSON, not a dict, or its model is unhashable. -/
  | failed
  /-- The model `model` was counted under its key `m`; the API key is unhashable. -/
  | modelCounted (model : PyVal) (m : PyKey)
  /-- Model and API key were counted, under the keys `m` and `a`; the request id is
  unhashable. -/
  | keyCounted (model apiKey : PyVal) (m a : PyKey)
  /-- Everything: the conversation is stored under the request id. -/
  | stored (m a requestId : PyKey) (entry : ReportEntry)
  deriving DecidableEq, Repr

/-- What one line does: an error record (time, message, target, and the message as a counter
key) if its level is `ERROR`, and the outcome of its `request_body` handling if it is one. -/
structure ReportAction where
  error : Option (PyVal × PyVal × PyVal × PyKey)
  request : Option RequestOutcome
  deriving DecidableEq, Repr

/-- The map `analyze_detailed_logs` builds. -/
abbrev ReportConversations := ODict PyKey ReportEntry

/-- The locals of `analyze_detailed_logs` the loop builds (`request_bodies` is appended to and
never read, so it is left out). -/
structure ReportState where
  totalRequests : Nat
  models : ODict PyKey Nat
  apiKeys : ODict PyKey Nat
  errorCounts : ODict PyKey Nat
  errors : List (PyVal × PyVal × PyVal)
  conversations : ReportConversations
  deriving DecidableEq

/-- Empty lists and counters. -/
def ReportState.init : ReportState := ⟨0, .empty, .empty, .empty, [], .empty⟩

/-- **The inner `try` of lines 45–66**, given the record, its `span` dict and request id. -/
def requestOutcome (log : PyVal) (fields span : List (PyVal × PyVal)) (requestId : PyVal) :
    RequestOutcome :=
  match (PyVal.dict fields).getItem (lit "body") "body" >>= jsonLoads with
  | .error _ => .failed
  | .ok body =>
    match body.entries? "get" with
    | .error _ => .failed
    | .ok req =>
      let model := getOr req "model" (.str (lit "unknown"))
      let apiKey := getOr span "api_key_name" (.str (lit "unknown"))
      match model.key?, apiKey.key?, requestId.key? with
      | none, _, _ => .failed
      | some m, none, _ => .modelCounted model m
      | some m, some a, none => .keyCounted model apiKey m a
      | some m, some a, some r =>
        .stored m a r ⟨model, apiKey, req, (dictGet? (match log with
          | .dict kvs => kvs
          | _ => []) (.str (lit "timestamp"))).getD .none⟩

/-- **Lines 31–38**: what an `ERROR` record adds to `errors` (its time, message and target)
and the message as a key of the `errors` counter; nothing for another level. -/
def errorPart (log : PyVal) : Except PyExc (Option (PyVal × PyVal × PyVal × PyKey)) := do
  let level ← log.get (lit "level") .none
  if level = .str (lit "ERROR") then
    let fields ← (← log.get (lit "fields") (.dict [])).entries? "get"
    let msg := getOr fields "message" (.str [])
    match msg.key? with
    | some k =>
      return some (← log.get (lit "timestamp") .none, msg, ← log.get (lit "target") .none, k)
    | none => throw (.unhashable msg)
  else return none

/-- **Lines 41–66**: how far a `request_body` record gets; nothing for another event. -/
def requestPart (log : PyVal) : Except PyExc (Option RequestOutcome) := do
  let fields ← (← log.get (lit "fields") (.dict [])).entries? "get"
  if getOr fields "event_type" .none = .str (lit "request_body") then
    let span ← (← log.get (lit "span") (.dict [])).entries? "get"
    return some (requestOutcome log fields span (getOr span "request_id" .none))
  else return none

/-- **Lines 27–69 for one line**: the action, or the exception that escapes the loop. -/
def reportAction (line : PyStr) : Except PyExc ReportAction :=
  match Json.loadsStr (Json.loadsRoom 2) (PyStr.strip line) with
  | .error (.invalid _ _) => .ok ⟨none, none⟩
  | .error e => .error (e.toExc (PyStr.strip line))
  | .ok log => do return ⟨← errorPart log, ← requestPart log⟩

/-- The keys of the model and API key an outcome counted. -/
def RequestOutcome.counted : RequestOutcome → Option PyKey × Option PyKey
  | .failed => (none, none)
  | .modelCounted _ m => (some m, none)
  | .keyCounted _ _ m a => (some m, some a)
  | .stored m a _ _ => (some m, some a)

/-- The model and API key objects an outcome counted. -/
def RequestOutcome.countedObjects : RequestOutcome → Option PyVal × Option PyVal
  | .failed => (none, none)
  | .modelCounted model _ => (some model, none)
  | .keyCounted model apiKey _ _ => (some model, some apiKey)
  | .stored _ _ _ e => (some e.model, some e.apiKey)

/-- Apply an action, in the order of the source: the error, then the request. -/
def ReportAction.apply (a : ReportAction) (s : ReportState) : ReportState :=
  let s := match a.error with
    | some (t, msg, tgt, k) =>
      { s with errors := s.errors ++ [(t, msg, tgt)], errorCounts := s.errorCounts.incr k }
    | none => s
  match a.request with
  | none => s
  | some o =>
    let s := { s with totalRequests := s.totalRequests + 1 }
    let s := match o.counted.1 with
      | some m => { s with models := s.models.incr m }
      | none => s
    let s := match o.counted.2 with
      | some k => { s with apiKeys := s.apiKeys.incr k }
      | none => s
    match o with
    | .stored _ _ r e => { s with conversations := s.conversations.set r e }
    | _ => s

/-- **The loop of `analyze_detailed_logs`** over the lines of the file. -/
def collectReport (lines : List PyStr) : Except PyExc ReportState :=
  lines.foldlM (fun s line => (reportAction line).map (·.apply s)) .init

end GatewayLogs
