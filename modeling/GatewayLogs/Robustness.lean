import GatewayLogs.Conversations.Collect
import GatewayLogs.Logs.Collect
import GatewayLogs.Report.Collect
import GatewayLogs.Loop

/-!
# Which lines end a run

Each collection loop catches only the `JSONDecodeError` of decoding a line (`analyze_logs` also
a `KeyError`), so a line that is valid JSON but not a record of the expected shape can raise
past the `except` and end the whole run, and so can a line that `json.loads` refuses with
another exception: an `int` of more than 4300 digits (`ValueError`) or a nesting deeper than
its recursion budget of 994 levels (`RecursionError`).  This module says exactly which lines do
that, per loop, with a predicate on the decoded record:

* `convAborts` — `analyze_conversations`: a record that is not a container, or that has
  `fields` but cannot be indexed by it, a `fields` that is not a dict, a `span` that is not a
  dict under a true `event_type`, and a `response_body` whose true request id is unhashable;
* `logAborts` — `analyze_logs`: a record that is not a dict, a `fields` that cannot be
  searched or indexed for `event_type`, a `span` that is not a dict under a request or response
  event, a body that is not a string, a body `json.loads` refuses with `ValueError` or
  `RecursionError`, and a decodable body under an unhashable request id;
* `reportAborts` — `analyze_detailed_logs`: a record that is not a dict, an `ERROR` record
  whose `fields` is not a dict or whose message is unhashable, a `fields` that is not a dict,
  and a `request_body` whose `span` is not a dict.

**`collection_completes_iff`**: a run completes exactly when no line is refused by `json.loads`
with one of the interpreter's exceptions or decodes to such a record.  A line that is not JSON
never aborts, and deleting it changes nothing (`conversations_drop_undecodable`).
-/

namespace GatewayLogs

/-- Whether a line ends a run: `json.loads` raises something other than a `JSONDecodeError` on
it, or it decodes to a record of an aborting shape. -/
def lineAborts (aborts : PyVal → Bool) (line : PyStr) : Bool :=
  match Json.loadsStr (Json.loadsRoom 2) (PyStr.strip line) with
  | .ok log => aborts log
  | .error e => !e.isInvalid

/-! ## `analyze_conversations` -/

/-- **The records that end `analyze_conversations`' collection pass.** -/
def convAborts (log : PyVal) : Bool :=
  match log with
  | .dict kvs =>
    match dictGet? kvs (.str (lit "fields")) with
    | none => false
    | some (.dict fields) =>
      (getOr fields "event_type" .none).truthy &&
      match getOr kvs "span" (.dict []) with
      | .dict span =>
        (getOr span "request_id" .none).truthy &&
          getOr fields "event_type" .none = strVal "response_body" &&
          (getOr span "request_id" .none).key?.isNone
      | _ => true
    | some _ => true
  | .list xs => xs.contains (strVal "fields")
  | .str s => PyStr.isInfixOf (lit "fields") s
  | _ => true

lemma convAction_isOk (line : PyStr) : (convAction line).isOk = !lineAborts convAborts line := by
  unfold convAction lineAborts
  cases Json.loadsStr (Json.loadsRoom 2) (PyStr.strip line) with
  | error e => cases e <;> rfl
  | ok log =>
    cases log with
    | dict kvs =>
      simp only [PyVal.contains, PyVal.getItem, convAborts]
      cases hf : dictGet? kvs (.str (lit "fields")) with
      | none => rfl
      | some f =>
        cases f
        case dict fields =>
          cases het : (getOr fields "event_type" .none).truthy <;> simp [het]
          cases hsp : getOr kvs "span" (.dict []) <;> simp [hsp, PyVal.entries?]
          case dict span =>
          cases hr : (getOr span "request_id" .none).truthy <;> simp [hr]
          have hne : lit "request_body" ≠ lit "response_body" := by decide
          split_ifs <;> cases (getOr span "request_id" .none).key? <;> simp_all [strVal]
        all_goals rfl
    | list xs =>
      simp only [PyVal.contains, PyVal.getItem, convAborts, strVal]
      cases xs.contains (.str (lit "fields")) <;> rfl
    | str s =>
      simp only [PyVal.contains, PyVal.getItem, convAborts]
      cases PyStr.isInfixOf (lit "fields") s <;> rfl
    | _ => rfl

/-- A line that is not JSON can be deleted from any place of the log. -/
lemma conversations_drop_undecodable {line : PyStr} {msg : String} {rest : PyStr}
    (h : Json.loadsStr (Json.loadsRoom 2) (PyStr.strip line) = .error (.invalid msg rest))
    (xs ys : List PyStr) :
    collectConversations (xs ++ line :: ys) = collectConversations (xs ++ ys) :=
  foldlM_drop_noop convAction ConvAction.apply
    (show convAction line = .ok .skip by simp [convAction, h]) (fun _ => rfl) xs ys _

/-! ## `analyze_logs` -/

/-- **The records that end `analyze_logs`' loop.** -/
def logAborts (log : PyVal) : Bool :=
  match log with
  | .dict kvs =>
    match getOr kvs "fields" (.dict []) with
    | .dict fields =>
      match dictGet? fields (.str (lit "event_type")) with
      | none => false
      | some et =>
        (et = strVal "request_body" || et = strVal "response_body") &&
        match getOr kvs "span" (.dict []) with
        | .dict span =>
          (getOr span "request_id" .none).truthy &&
          match dictGet? fields (.str (lit "body")) with
          | none => false
          | some (.str b) =>
            match Json.loadsStr (Json.loadsRoom 2) b with
            | .ok _ => (getOr span "request_id" .none).key?.isNone
            | .error e => !e.isInvalid
          | some _ => true
        | _ => true
    | .list xs => xs.contains (strVal "event_type")
    | .str s => PyStr.isInfixOf (lit "event_type") s
    | _ => true
  | _ => true

/-- What `json.loads(log['fields']['body'])` under `analyze_logs`' `except` gives for a dict
`fields`: nothing when the body is missing or not JSON, a `TypeError` when it is not a
string, and the interpreter's exception when `json.loads` raises one. -/
lemma logBody?_dict (fields : List (PyVal × PyVal)) :
    logBody? (.dict fields) = match dictGet? fields (.str (lit "body")) with
      | none => .ok none
      | some (.str b) =>
        match Json.loadsStr (Json.loadsRoom 2) b with
        | .ok x => .ok (some x)
        | .error (.invalid _ _) => .ok none
        | .error e => .error (e.toExc b)
      | some v => .error ⟨.typeError,
          lit ("the JSON object must be str, bytes or bytearray, not " ++ v.typeName)⟩ := by
  unfold logBody?
  simp only [PyVal.getItem]
  cases dictGet? fields (.str (lit "body")) with
  | none => rfl
  | some v =>
    cases v
    case str b =>
      simp only [ok_bind, jsonLoads]
      cases Json.loadsStr (Json.loadsRoom 2) b with
      | ok x => rfl
      | error e => cases e <;> rfl
    all_goals rfl

lemma logAction_isOk (line : PyStr) : (logAction line).isOk = !lineAborts logAborts line := by
  unfold logAction lineAborts
  cases Json.loadsStr (Json.loadsRoom 2) (PyStr.strip line) with
  | error e => cases e <;> rfl
  | ok log =>
    cases log
    case dict kvs =>
      simp only [get_dict, ok_bind, logAborts]
      cases hf : getOr kvs "fields" (.dict [])
      case dict fields =>
        simp only [PyVal.contains, PyVal.getItem, ok_bind]
        cases het : dictGet? fields (.str (lit "event_type")) <;> simp only [Option.isSome]
        · rfl
        case some et =>
        simp only [Bool.not_true, Bool.false_eq_true, if_false, ok_bind, strVal, Bool.decide_or]
        cases (decide (et = .str (lit "request_body")) || decide (et = .str (lit "response_body")))
        · rfl
        · simp only [Bool.not_true, Bool.false_eq_true, if_false, ok_bind, Bool.true_and]
          cases hsp : getOr kvs "span" (.dict []) with
          | dict span =>
            cases hr : (getOr span "request_id" .none).truthy <;> simp [hr]
            rw [logBody?_dict]
            cases dictGet? fields (.str (lit "body")) with
            | none => cases (getOr span "request_id" .none).key? <;> rfl
            | some v =>
              cases v
              case str b =>
                cases hl : Json.loadsStr (Json.loadsRoom 2) b with
                | ok x =>
                  cases (getOr span "request_id" .none).key? <;> simp [hl, apply_ite Except.isOk]
                | error e =>
                  cases e <;> cases (getOr span "request_id" .none).key? <;>
                    simp [hl, Json.DecodeError.isInvalid, Json.DecodeError.toExc]
              all_goals rfl
          | _ => simp [hsp, PyVal.entries?]
      case list xs =>
        simp only [PyVal.contains, PyVal.getItem, strVal]
        cases xs.contains (.str (lit "event_type")) <;> rfl
      case str s =>
        simp only [PyVal.contains, PyVal.getItem]
        cases PyStr.isInfixOf (lit "event_type") s <;> rfl
      all_goals rfl
    all_goals rfl

/-! ## `analyze_detailed_logs` -/

/-- **The records that end `analyze_detailed_logs`' loop.** -/
def reportAborts (log : PyVal) : Bool :=
  match log with
  | .dict kvs =>
    (getOr kvs "level" .none = strVal "ERROR" &&
      match getOr kvs "fields" (.dict []) with
      | .dict fields => (getOr fields "message" (.str [])).key?.isNone
      | _ => true) ||
    match getOr kvs "fields" (.dict []) with
    | .dict fields =>
      getOr fields "event_type" .none = strVal "request_body" &&
        !(getOr kvs "span" (.dict [])).isDict
    | _ => true
  | _ => true

/-- Lines 31–38 complete unless the record is an `ERROR` whose `fields` is not a dict or whose
message is unhashable. -/
lemma errorPart_isOk (kvs : List (PyVal × PyVal)) :
    (errorPart (.dict kvs)).isOk = !(getOr kvs "level" .none = strVal "ERROR" &&
      match getOr kvs "fields" (.dict []) with
      | .dict fields => (getOr fields "message" (.str [])).key?.isNone
      | _ => true) := by
  simp only [errorPart, get_dict, ok_bind, strVal]
  split_ifs with h
  · cases getOr kvs "fields" (.dict []) with
    | dict fields =>
      simp only [PyVal.entries?_dict, ok_bind]
      cases (getOr fields "message" (.str [])).key? <;> simp [h]
    | _ => simp [h, PyVal.entries?]
  · simp [h]

/-- Lines 41–66 complete unless `fields` is not a dict, or the record is a `request_body` whose
`span` is not a dict. -/
lemma requestPart_isOk (kvs : List (PyVal × PyVal)) :
    (requestPart (.dict kvs)).isOk = !(match getOr kvs "fields" (.dict []) with
      | .dict fields =>
        getOr fields "event_type" .none = strVal "request_body" &&
          !(getOr kvs "span" (.dict [])).isDict
      | _ => true) := by
  simp only [requestPart, get_dict, ok_bind, strVal]
  cases getOr kvs "fields" (.dict []) with
  | dict fields =>
    simp only [PyVal.entries?_dict, ok_bind]
    split_ifs with h
    · cases getOr kvs "span" (.dict []) <;> simp [h, PyVal.entries?, PyVal.isDict]
    · simp [h]
  | _ => simp [PyVal.entries?]

lemma reportAction_isOk (line : PyStr) :
    (reportAction line).isOk = !lineAborts reportAborts line := by
  unfold reportAction lineAborts
  cases Json.loadsStr (Json.loadsRoom 2) (PyStr.strip line) with
  | error e => cases e <;> rfl
  | ok log =>
    cases log
    case dict kvs =>
      simp only [reportAborts, Bool.not_or]
      rw [← errorPart_isOk, ← requestPart_isOk]
      cases errorPart (.dict kvs) <;> cases requestPart (.dict kvs) <;> rfl
    all_goals rfl

/-! ## The three runs -/

/-- **A run completes iff none of its lines decodes to an aborting record**, for each of the
three collection loops. -/
theorem collection_completes_iff (lines : List PyStr) :
    ((∃ m, collectConversations lines = .ok m) ↔ ∀ l ∈ lines, lineAborts convAborts l = false) ∧
    ((∃ m, collectLogs lines = .ok m) ↔ ∀ l ∈ lines, lineAborts logAborts l = false) ∧
    ((∃ s, collectReport lines = .ok s) ↔ ∀ l ∈ lines, lineAborts reportAborts l = false) := by
  refine ⟨(foldlM_ok_iff convAction ConvAction.apply lines _).trans ?_,
    (foldlM_ok_iff logAction LogAction.apply lines _).trans ?_,
    (foldlM_ok_iff reportAction ReportAction.apply lines _).trans ?_⟩ <;>
  simp [exists_ok_iff_isOk, convAction_isOk, logAction_isOk, reportAction_isOk]

/-- The line `5` is JSON but not a record: it ends all three runs. -/
theorem number_line_aborts :
    collectConversations [lit "5"] =
      .error ⟨.typeError, lit "argument of type 'int' is not iterable"⟩ ∧
    collectLogs [lit "5"] = .error (.noAttr (.int 5) "get") ∧
    collectReport [lit "5"] = .error (.noAttr (.int 5) "get") := by
  decide

end GatewayLogs
