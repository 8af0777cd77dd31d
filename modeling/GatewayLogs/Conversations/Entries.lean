import GatewayLogs.Conversations.Collect
import GatewayLogs.Correlation
import GatewayLogs.Json.Dumps
import GatewayLogs.Loop

/-!
# The entries `analyze_conversations` builds

The collection pass is an instance of the keyed-write design of `Correlation`: a request
record's assignments (`RequestWrite`) and a response record's (`ResponseWrite`) touch disjoint
keys of the entry, so they commute, and the entry of an id is fixed by that id's records alone.

* `requestWrites k lines`, `responseWrites k lines` — the assignments id `k`'s request and
  response records make, in log order.
* **`lookup_collectConversations`** — after a completed pass, the entry of `k` is
  `conversationOf k lines`: the request writes, then the response writes, on a fresh entry.
* Each field is then the last value written to it (`conversationOf_request`,
  `conversationOf_response`): a response record that leaves a field unassigned leaves the
  earlier value in place.
-/

namespace GatewayLogs

/-! ## The pass as keyed writes -/

/-- The keyed write an action makes, if any. -/
def ConvAction.keyed : ConvAction → Option (PyKey × KeyedWrite RequestWrite ResponseWrite)
  | .skip => none
  | .request _ none => none
  | .request k (some w) => some (k, .req w)
  | .response k w => some (k, .resp w)

/-- A request's assignments and a response's touch different keys. -/
lemma RequestWrite.apply_comm (q : RequestWrite) (r : ResponseWrite) (c : Conversation) :
    q.apply (r.apply c) = r.apply (q.apply c) := rfl

lemma foldl_apply_eq_keyed (acts : List ConvAction) (m : Conversations) :
    acts.foldl (fun m a => a.apply m) m =
      (acts.filterMap ConvAction.keyed).foldl
        (fun m p => m.alter p.1 (p.2.applyTo RequestWrite.apply ResponseWrite.apply {})) m := by
  induction acts generalizing m with
  | nil => rfl
  | cons a acts ih =>
    cases a with
    | skip => exact ih m
    | request k w => cases w <;> exact ih _
    | response k w => exact ih _

/-! ## The records of one id -/

/-- Whether a line is a request record of id `k` (its assignments may still fail). -/
def isRequestOf (k : PyKey) (line : PyStr) : Bool :=
  match convAction line with
  | .ok (.request k' _) => k' = k
  | _ => false

/-- Whether a line is a response record of id `k`. -/
def isResponseOf (k : PyKey) (line : PyStr) : Bool :=
  match convAction line with
  | .ok (.response k' _) => k' = k
  | _ => false

/-- The assignments id `k`'s request records make, in log order: one per record whose body
decoded. -/
def requestWrites (k : PyKey) (lines : List PyStr) : List RequestWrite :=
  lines.filterMap fun l => match convAction l with
    | .ok (.request k' (some w)) => if k' = k then some w else none
    | _ => none

/-- The assignments id `k`'s response records make, in log order. -/
def responseWrites (k : PyKey) (lines : List PyStr) : List ResponseWrite :=
  lines.filterMap fun l => match convAction l with
    | .ok (.response k' w) => if k' = k then some w else none
    | _ => none

lemma requestWrites_filter (k : PyKey) (lines : List PyStr) :
    requestWrites k (lines.filter (isRequestOf k)) = requestWrites k lines := by
  simp only [requestWrites, List.filterMap_filter]
  congr 1; funext l
  unfold isRequestOf
  cases convAction l with
  | error e => rfl
  | ok a =>
    cases a with
    | request k' w => cases w <;> by_cases hk : k' = k <;> simp [hk]
    | _ => rfl

lemma responseWrites_filter (k : PyKey) (lines : List PyStr) :
    responseWrites k (lines.filter (isResponseOf k)) = responseWrites k lines := by
  simp only [responseWrites, List.filterMap_filter]
  congr 1; funext l
  unfold isResponseOf
  cases convAction l with
  | error e => rfl
  | ok a =>
    cases a with
    | response k' w => by_cases hk : k' = k <;> simp [hk]
    | _ => rfl

/-- The writes to `k` of a pass are its request writes and response writes. -/
lemma writesTo_keyed (k : PyKey) (lines : List PyStr) :
    KeyedWrite.reqs (writesTo k ((lines.map (actOr convAction .skip)).filterMap ConvAction.keyed))
      = requestWrites k lines ∧
    KeyedWrite.resps (writesTo k ((lines.map (actOr convAction .skip)).filterMap ConvAction.keyed))
      = responseWrites k lines := by
  simp only [KeyedWrite.reqs, KeyedWrite.resps, writesTo, requestWrites, responseWrites,
    List.filterMap_map, List.filterMap_filterMap]
  constructor <;> congr 1 <;> funext l <;> simp only [Function.comp_def, actOr] <;>
    rcases convAction l with e | _ | ⟨k', _ | w⟩ | ⟨k', w⟩ <;>
    (try by_cases hk : k' = k) <;> simp [Except.toOption, ConvAction.keyed, *]

/-! ## The entry of an id -/

/-- **The entry of `k` after the lines**: its request writes in order, then its response writes
in order, on a fresh entry; no entry if it has neither. -/
def conversationOf (k : PyKey) (lines : List PyStr) : Option Conversation :=
  KeyedWrite.entryOf RequestWrite.apply ResponseWrite.apply {} (requestWrites k lines)
    (responseWrites k lines) none

/-- **The entry of an id after a completed pass is fixed by that id's records**. -/
theorem lookup_collectConversations {lines : List PyStr} {m : Conversations}
    (h : collectConversations lines = .ok m) (k : PyKey) : m.lookup k = conversationOf k lines := by
  rw [foldlM_eq_ok convAction ConvAction.apply .skip h, foldl_apply_eq_keyed, lookup_foldl_write,
    ODict.lookup_empty, KeyedWrite.foldl_applyTo_eq_entryOf _ _ _ RequestWrite.apply_comm,
    (writesTo_keyed k lines).1, (writesTo_keyed k lines).2]
  rfl

/-! ## Field by field -/

/-- A request's assignments overwrite every key an earlier request assigned. -/
lemma foldl_requestWrite (qs : List RequestWrite) (c : Conversation) :
    qs.foldl (fun e q => q.apply e) c = match qs.getLast? with
      | some q => q.apply c
      | none => c := by
  induction qs generalizing c with
  | nil => rfl
  | cons q qs ih =>
    rw [List.foldl_cons, ih, List.getLast?_cons]
    cases qs.getLast? <;> rfl

/-- Response assignments: each key keeps the value of the last response that assigned it. -/
lemma foldl_responseWrite (rs : List ResponseWrite) (c : Conversation) :
    rs.foldl (fun e r => r.apply e) c =
      { c with responseRaw := (lastWritten rs fun r => r.raw.map Prod.fst).or c.responseRaw
               streaming := (lastWritten rs fun r => r.raw.map Prod.snd).or c.streaming
               responseText := (lastWritten rs (·.text)).or c.responseText
               usage := (lastWritten rs (·.usage)).or c.usage
               parseError := (lastWritten rs (·.error)).or c.parseError } := by
  induction rs generalizing c with
  | nil => rfl
  | cons r rs ih =>
    rw [List.foldl_cons, ih]
    simp only [ResponseWrite.apply, lastWritten_cons, Option.or_assoc]

/-- **The entry of `k`, field by field**: the request keys hold the last decoded request's
assignments, the response keys the last value any of `k`'s response records assigned them. -/
lemma conversationOf_eq (k : PyKey) (lines : List PyStr) :
    conversationOf k lines =
      if (requestWrites k lines).isEmpty ∧ (responseWrites k lines).isEmpty then none
      else
        let c : Conversation := match (requestWrites k lines).getLast? with
          | some q => q.apply {}
          | none => {}
        let rs := responseWrites k lines
        some { c with responseRaw := lastWritten rs fun r => r.raw.map Prod.fst
                      streaming := lastWritten rs fun r => r.raw.map Prod.snd
                      responseText := lastWritten rs (·.text)
                      usage := lastWritten rs (·.usage)
                      parseError := lastWritten rs (·.error) } := by
  unfold conversationOf KeyedWrite.entryOf
  split_ifs
  · rfl
  · rw [foldl_responseWrite, foldl_requestWrite]
    cases (requestWrites k lines).getLast? <;> simp [RequestWrite.apply]

lemma mem_completeConversations (m : Conversations) (k : PyKey) :
    k ∈ (completeConversations m).map Prod.fst ↔
      ∃ c, m.lookup k = some c ∧ c.request ≠ .none ∧ c.responseText.isSome := by
  simp only [completeConversations, List.mem_map, List.mem_filter, decide_eq_true_eq]
  constructor
  · rintro ⟨⟨k', c⟩, ⟨hmem, hc⟩, rfl⟩
    exact ⟨c, (ODict.mem_iff_lookup m.nodup _).mp hmem, hc⟩
  · rintro ⟨c, hl, hc⟩
    exact ⟨(k, c), ⟨(ODict.mem_iff_lookup m.nodup (k, c)).mpr hl, hc⟩, rfl⟩

/-! ## Response keys -/

/-- **The response keys of an entry hold what its id's response records last assigned to
them**, each on its own: a record that raised leaves the text and usage of an earlier one, and
one that parsed leaves the parse error of an earlier one. -/
theorem response_keys_last_assigned (lines : List PyStr) (m : Conversations)
    (h : collectConversations lines = .ok m) (k : PyKey) (c : Conversation)
    (hc : m.lookup k = some c) :
    c.responseRaw = lastWritten (responseWrites k lines) (fun r => r.raw.map Prod.fst) ∧
    c.streaming = lastWritten (responseWrites k lines) (fun r => r.raw.map Prod.snd) ∧
    c.responseText = lastWritten (responseWrites k lines) (·.text) ∧
    c.usage = lastWritten (responseWrites k lines) (·.usage) ∧
    c.parseError = lastWritten (responseWrites k lines) (·.error) := by
  rw [lookup_collectConversations h, conversationOf_eq] at hc
  split_ifs at hc
  cases hc
  exact ⟨rfl, rfl, rfl, rfl, rfl⟩

/-- Two `response_body` records for id `1`: an empty JSON document, then a body that is not
JSON. -/
def responseTwice : List PyStr :=
  [logLine [("event_type", strVal "response_body"), ("body", strVal "\x7b\x7d")]
      [("request_id", .int 1)],
   logLine [("event_type", strVal "response_body"), ("body", strVal "x")] [("request_id", .int 1)]]

/-- The entry `responseTwice` leaves: the raw body and the parse error of the second record
beside the text and usage of the first. -/
def staleEntry : Conversation :=
  { responseRaw := some (strVal "x"), streaming := some (.bool false), responseText := some [],
    usage := some (.dict []), parseError := some (lit "Expecting value: line 1 column 1 (char 0)") }

set_option maxRecDepth 100000 in
lemma responseTwice_run :
    collectConversations responseTwice = .ok (ODict.empty.set (.int 1) staleEntry) := by
  decide

theorem response_keys_last_assigned_responseTwice :
    staleEntry.responseRaw =
      lastWritten (responseWrites (.int 1) responseTwice) (fun r => r.raw.map Prod.fst) ∧
    staleEntry.streaming =
      lastWritten (responseWrites (.int 1) responseTwice) (fun r => r.raw.map Prod.snd) ∧
    staleEntry.responseText = lastWritten (responseWrites (.int 1) responseTwice) (·.text) ∧
    staleEntry.usage = lastWritten (responseWrites (.int 1) responseTwice) (·.usage) ∧
    staleEntry.parseError = lastWritten (responseWrites (.int 1) responseTwice) (·.error) :=
  response_keys_last_assigned responseTwice _ responseTwice_run (.int 1) staleEntry rfl

/-- The second record of `responseTwice`, handled on a fresh entry, records no text; the
entry keeps the first record's text beside the second record's raw body. -/
theorem failed_response_keeps_earlier_text :
    collectConversations responseTwice = .ok (ODict.empty.set (.int 1) staleEntry) ∧
    staleEntry.responseText = some [] ∧
    (responseWrite [(strVal "event_type", strVal "response_body"),
      (strVal "body", strVal "x")]).text = none :=
  ⟨responseTwice_run, rfl, by decide⟩

/-! ## Complete conversations -/

/-- A request whose body decodes to a dict, then a response for the same id whose body is not
JSON. -/
def requestThenBadResponse : List PyStr :=
  [logLine [("event_type", strVal "request_body"), ("body", strVal "\x7b\x7d")]
      [("request_id", .int 1)],
   logLine [("event_type", strVal "response_body"), ("body", strVal "x")] [("request_id", .int 1)]]

/-- **An id is complete exactly when its last decoded request is not `null` and one of its
response records recorded a text.** -/
theorem complete_iff_request_and_text (lines : List PyStr) (m : Conversations)
    (h : collectConversations lines = .ok m) (k : PyKey) :
    k ∈ (completeConversations m).map Prod.fst ↔
      (∃ q, (requestWrites k lines).getLast? = some q ∧ q.body ≠ .none) ∧
      ∃ r ∈ responseWrites k lines, r.text.isSome := by
  rw [mem_completeConversations, lookup_collectConversations h, conversationOf_eq]
  split_ifs with hempty
  · simp [List.isEmpty_iff.mp hempty.1]
  · cases (requestWrites k lines).getLast? <;>
      simp [RequestWrite.apply, lastWritten_isSome]

set_option maxRecDepth 100000 in
theorem complete_iff_request_and_text_requestThenBadResponse :
    ∃ m, collectConversations requestThenBadResponse = .ok m ∧
      (PyKey.int 1 ∈ (completeConversations m).map Prod.fst ↔
        (∃ q, (requestWrites (.int 1) requestThenBadResponse).getLast? = some q ∧
          q.body ≠ .none) ∧
        ∃ r ∈ responseWrites (.int 1) requestThenBadResponse, r.text.isSome) :=
  ⟨_, rfl, complete_iff_request_and_text requestThenBadResponse _ rfl (.int 1)⟩

set_option maxRecDepth 100000 in
/-- `requestThenBadResponse` has a request and a response record for id `1`, and no complete
conversation. -/
theorem unparsed_response_not_complete :
    (collectConversations requestThenBadResponse).map
      (fun m => (completeConversations m).map Prod.fst) = .ok [] := by
  decide

end GatewayLogs
