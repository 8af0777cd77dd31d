import GatewayLogs.Conversations.Entries
import GatewayLogs.Logs.Entries

/-!
# `analyze_logs` and `analyze_conversations` pair the same requests

Both scripts read a `request_body` record the same way: the record's `fields`, its
`event_type`, the `span`'s `request_id` (true and hashable), and the decoded `body`; both then
store the body, the span's `model` and its `api_key_name` under the request id.  They differ in
how they route other records and in which failures end the run.  `requestRecord?` is what both
read off a line; each script's action agrees with it whenever the script gets past the line
(`convAction_requestWrite`, `logAction_requestWrite`).  Hence **`request_fields_agree`**: on a
log both scripts complete, every id they both hold an entry for has the same request body,
model and API key in both.
-/

namespace GatewayLogs

/-- **The request a line records, as both scripts read it**: for a `request_body` record whose
`span` has a true, hashable `request_id` and whose `body` decodes, the id, the body, the span's
`model` and its `api_key_name`. -/
def requestRecord? (line : PyStr) : Option (PyKey × PyVal × PyVal × PyVal) :=
  match Json.loadsStr (Json.loadsRoom 2) (PyStr.strip line) with
  | .ok (.dict kvs) =>
    match dictGet? kvs (.str (lit "fields")) with
    | some (.dict fields) =>
      if getOr fields "event_type" .none = .str (lit "request_body") then
        match getOr kvs "span" (.dict []) with
        | .dict span =>
          if (getOr span "request_id" .none).truthy then
            match (getOr span "request_id" .none).key?,
              ((PyVal.dict fields).getItem (lit "body") "body" >>= jsonLoads) with
            | some k, .ok body =>
              some (k, body, getOr span "model" .none, getOr span "api_key_name" .none)
            | _, _ => none
          else none
        | _ => none
      else none
    | _ => none
  | _ => none

/-- The request an action of `analyze_conversations` records. -/
def ConvAction.requestWrite : ConvAction → Option (PyKey × PyVal × PyVal × PyVal)
  | .request k (some w) => some (k, w.body, w.model, w.apiKey)
  | _ => none

/-- The request an action of `analyze_logs` records. -/
def LogAction.requestWrite : LogAction → Option (PyKey × PyVal × PyVal × PyVal)
  | .request k (some w) => some (k, w)
  | _ => none

lemma requestWrite?_dict (kvs fields span : List (PyVal × PyVal)) :
    requestWrite? (.dict kvs) fields span =
      ((PyVal.dict fields).getItem (lit "body") "body" >>= jsonLoads).map fun body =>
        ⟨body, getOr span "model" .none, getOr span "api_key_name" .none,
          getOr kvs "timestamp" .none⟩ := by
  unfold requestWrite?
  cases (PyVal.dict fields).getItem (lit "body") "body" with
  | error e => rfl
  | ok b => cases jsonLoads b <;> rfl

lemma convAction_requestWrite {line : PyStr} {a : ConvAction} (h : convAction line = .ok a) :
    a.requestWrite = requestRecord? line := by
  unfold convAction at h
  unfold requestRecord?
  cases hl : Json.loadsStr (Json.loadsRoom 2) (PyStr.strip line) with
  | error e =>
    cases e <;> simp only [hl] at h <;> cases h
    rfl
  | ok log =>
    simp only [hl] at h ⊢
    cases log
    case dict kvs =>
      dsimp only
      cases hf : dictGet? kvs (.str (lit "fields")) with
      | none => simp [PyVal.contains, hf] at h ⊢; subst h; rfl
      | some F =>
        simp only [PyVal.contains, PyVal.getItem, hf, Option.isSome_some, Bool.not_true,
          Bool.false_eq_true, if_false, ok_bind] at h
        cases F
        case dict fields =>
          simp only [PyVal.entries?_dict, get_dict, ok_bind] at h
          simp only [hf]
          split at h
          next h1 =>
            -- a false event type is not `request_body`
            cases h
            rw [if_neg fun he => by rw [he] at h1; exact Bool.false_ne_true h1]
            rfl
          cases hs : getOr kvs "span" (.dict [])
          case dict span =>
            simp only [hs, PyVal.entries?_dict, ok_bind] at h ⊢
            split_ifs at h with h2 h3 h4 <;> simp only [pure_eq_ok, ok_bind, Except.ok.injEq] at h
            · -- a false request id
              subst h
              simp only [Bool.not_eq_true', Bool.not_eq_false'] at h2
              simp [h2, ConvAction.requestWrite]
            · -- a request record
              rw [if_pos h3, if_pos (by simpa using h2)]
              cases hk : (getOr span "request_id" .none).key? <;>
                simp only [hk, pure_eq_ok, Except.ok.injEq] at h <;> subst h
              · rfl
              · rw [requestWrite?_dict]
                cases (PyVal.dict fields).getItem (lit "body") "body" >>= jsonLoads <;> rfl
            · -- a response record
              rw [if_neg h3]
              split at h <;> cases h
              rfl
            · subst h
              rw [if_neg h3]
              rfl
          -- a `span` that is not a dict, or `fields` that is not one, raises
          all_goals (rw [hs] at h; cases h)
        all_goals cases h
    -- a record that is not a dict has no `fields`, or raises reading them
    all_goals
      obtain ⟨b, hb, h⟩ := bind_eq_ok.mp h
      cases b
      · cases h; rfl
      · first | cases hb | cases h

lemma logAction_requestWrite {line : PyStr} {b : LogAction} (h : logAction line = .ok b) :
    b.requestWrite = requestRecord? line := by
  unfold logAction at h
  unfold requestRecord?
  cases hl : Json.loadsStr (Json.loadsRoom 2) (PyStr.strip line) with
  | error e =>
    cases e <;> simp only [hl] at h <;> cases h
    rfl
  | ok log =>
    simp only [hl] at h ⊢
    cases log
    case dict kvs =>
      dsimp only
      simp only [get_dict, ok_bind] at h
      cases hf : dictGet? kvs (.str (lit "fields")) with
      | none =>
        -- no `fields`: the default `{}` has no `event_type`
        rw [show getOr kvs "fields" (.dict []) = .dict [] by simp only [getOr, hf, Option.getD_none]]
          at h
        cases h
        rfl
      | some F =>
        rw [show getOr kvs "fields" (.dict []) = F by simp only [getOr, hf, Option.getD_some]] at h
        cases F
        case dict fields =>
          dsimp only
          cases he : dictGet? fields (.str (lit "event_type")) with
          | none =>
            simp only [PyVal.contains, he, Option.isSome_none, ok_bind] at h
            cases h
            simp [getOr, he, LogAction.requestWrite]
          | some et =>
            simp only [PyVal.contains, PyVal.getItem, he, Option.isSome_some, ok_bind, pure_eq_ok,
              Bool.not_true, Bool.false_eq_true, if_false] at h
            rw [show getOr fields "event_type" .none = et by simp only [getOr, he, Option.getD_some]]
            by_cases het : et = .str (lit "request_body")
            · -- a request record
              rw [if_pos het]
              simp only [het, true_or, decide_True, Bool.not_true, Bool.false_eq_true, if_false,
                if_true, ok_bind] at h
              cases hs : getOr kvs "span" (.dict []) with
              | dict span =>
                simp only [hs, PyVal.entries?_dict, ok_bind] at h ⊢
                split at h
                next hr =>
                  cases h
                  rw [if_neg (by simpa using hr)]
                  rfl
                next hr =>
                rw [if_pos (by simpa using hr)]
                simp only [pure_eq_ok, ok_bind, logBody?] at h
                -- a body that does not decode is skipped, or raises past the `except`
                cases hk : (getOr span "request_id" .none).key? <;>
                  cases hb : (PyVal.dict fields).getItem (lit "body") "body" >>= jsonLoads <;>
                  simp only [hk, hb, ok_bind] at h ⊢ <;>
                  (try split at h) <;> cases h <;> rfl
              | _ => rw [hs] at h; cases h
            · -- a response record, or a record skipped
              rw [if_neg het]
              simp only [het, false_or] at h
              split at h
              · cases h; rfl
              obtain ⟨span, -, h⟩ := bind_eq_ok.mp h
              split at h
              · cases h; rfl
              obtain ⟨o, -, h⟩ := bind_eq_ok.mp h
              split at h <;> cases h <;> rfl
        -- `fields` that is not a dict has no `event_type`, or raises reading it
        all_goals
          obtain ⟨c, hc, h⟩ := bind_eq_ok.mp h
          cases c
          · cases h; rfl
          · first | cases hc | cases h
    -- a record that is not a dict raises at `log.get`
    all_goals cases h

/-! ## Whole runs -/

/-- The assignments a line's request record makes to id `k`, as both scripts read it. -/
def requestRecordTo (k : PyKey) (line : PyStr) : Option (PyVal × PyVal × PyVal) :=
  (requestRecord? line).bind fun r => if r.1 = k then some r.2 else none

lemma requestWrites_eq {lines : List PyStr} (h : ∀ l ∈ lines, ∃ a, convAction l = .ok a)
    (k : PyKey) :
    (requestWrites k lines).map (fun w => (w.body, w.model, w.apiKey)) =
      lines.filterMap (requestRecordTo k) := by
  unfold requestWrites
  rw [List.map_filterMap]
  refine List.filterMap_congr fun l hl => ?_
  obtain ⟨a, ha⟩ := h l hl
  rw [requestRecordTo, ← convAction_requestWrite ha, ha]
  rcases a with _ | ⟨k', _ | w⟩ | ⟨k', w⟩ <;> try rfl
  by_cases hk : k' = k <;> simp [hk, ConvAction.requestWrite]

lemma logRequestWrites_eq {lines : List PyStr} (h : ∀ l ∈ lines, ∃ b, logAction l = .ok b)
    (k : PyKey) : logRequestWrites k lines = lines.filterMap (requestRecordTo k) := by
  unfold logRequestWrites
  refine List.filterMap_congr fun l hl => ?_
  obtain ⟨b, hb⟩ := h l hl
  rw [requestRecordTo, ← logAction_requestWrite hb, hb]
  rcases b with _ | ⟨k', _ | w⟩ | ⟨k', _ | w⟩ <;> rfl

lemma foldl_setRequest (qs : List (PyVal × PyVal × PyVal)) (c : LogEntry) :
    qs.foldl (fun e q => LogEntry.setRequest q e) c =
      match qs.getLast? with
      | some q => LogEntry.setRequest q c
      | none => c := by
  induction qs generalizing c with
  | nil => rfl
  | cons q qs ih =>
    rw [List.foldl_cons, ih, List.getLast?_cons]
    cases qs.getLast? <;> rfl

/-- Responses leave the request keys as they are. -/
lemma foldl_setResponse_request (rs : List PyVal) (c : LogEntry) :
    let e := rs.foldl (fun e r => LogEntry.setResponse r e) c
    (e.request, e.model, e.apiKey) = (c.request, c.model, c.apiKey) := by
  induction rs generalizing c with
  | nil => rfl
  | cons r rs ih => exact ih _

/-- The request keys of `analyze_logs`'s entry are those of its last decoded request. -/
lemma logEntryOf_request {k : PyKey} {lines : List PyStr} {e : LogEntry}
    (h : logEntryOf k lines = some e) :
    (e.request, e.model, e.apiKey) = match (logRequestWrites k lines).getLast? with
      | some w => (w.1, some w.2.1, some w.2.2)
      | none => (.none, none, none) := by
  unfold logEntryOf KeyedWrite.entryOf at h
  split_ifs at h
  cases h
  rw [foldl_setResponse_request, Option.getD_none, foldl_setRequest]
  cases (logRequestWrites k lines).getLast? <;> rfl

/-- **Both scripts record the same request for every id**: on a log both complete, an id both
hold an entry for has the same request body, model and API key in both. -/
theorem request_fields_agree {lines : List PyStr} {mc : Conversations} {ml : LogConversations}
    (hc : collectConversations lines = .ok mc) (hl : collectLogs lines = .ok ml) {k : PyKey}
    {c : Conversation} {e : LogEntry} (h1 : mc.lookup k = some c) (h2 : ml.lookup k = some e) :
    (c.request, c.model, c.apiKey) = (e.request, e.model, e.apiKey) := by
  have hq : logRequestWrites k lines =
      (requestWrites k lines).map fun w => (w.body, w.model, w.apiKey) :=
    (logRequestWrites_eq ((foldlM_ok_iff logAction LogAction.apply lines _).mp ⟨ml, hl⟩) k).trans
      (requestWrites_eq ((foldlM_ok_iff convAction ConvAction.apply lines _).mp ⟨mc, hc⟩) k).symm
  rw [lookup_collectLogs hl] at h2
  rw [lookup_collectConversations hc, conversationOf_eq] at h1
  split_ifs at h1
  cases h1
  rw [logEntryOf_request h2, hq, List.getLast?_map]
  cases (requestWrites k lines).getLast? <;> rfl

/-- A request of id `7` for model `m`, a retry whose body is not JSON, and the response. -/
def requestRetried : List PyStr :=
  [logLine [("event_type", strVal "request_body"), ("body", strVal "\x7b\x7d")]
     [("request_id", .int 7), ("model", strVal "m"), ("api_key_name", strVal "a")],
   logLine [("event_type", strVal "request_body"), ("body", strVal "oops")]
     [("request_id", .int 7), ("model", strVal "n")],
   logLine [("event_type", strVal "response_body"), ("body", strVal "\x7b\x7d")]
     [("request_id", .int 7)]]

set_option maxRecDepth 100000 in
theorem request_fields_agree_requestRetried :
    ∃ mc ml c e, collectConversations requestRetried = .ok mc ∧
      collectLogs requestRetried = .ok ml ∧ mc.lookup (.int 7) = some c ∧
      ml.lookup (.int 7) = some e ∧
      (c.request, c.model, c.apiKey) = (e.request, e.model, e.apiKey) ∧
      e.model = some (strVal "m") :=
  ⟨_, _, _, _, rfl, rfl, rfl, rfl,
    @request_fields_agree requestRetried _ _ rfl rfl (.int 7) _ _ rfl rfl, rfl⟩

end GatewayLogs
