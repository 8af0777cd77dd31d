import GatewayLogs.Conversations.Entries
import GatewayLogs.Conversations.Summary
import GatewayLogs.Logs.Entries

/-!
# Arrival order

Both correlating scripts build the same map from any reordering of a log that keeps, for each
request id, the order of that id's request records and the order of its response records: the
entry of an id is fixed by those two sequences (`lookup_collectConversations`,
`lookup_collectLogs`), and by nothing else in the log.  Insertion order aside, the maps are then
equal, and so is the set of complete conversations.

The token totals are another matter.  They are sums in insertion order, and a sum of floats
depends on its order: `1e308 + 1e308 - 1e308` is infinite, `1e308 - 1e308 + 1e308` is not
(`float_totals_depend_on_order`).  The totals are order-free when every counter is an exact
integer.

* **`correlation_order_independent`** — each script's map on every log its own loop completes,
  with the complete set and the exact totals of `analyze_conversations`.
-/

namespace GatewayLogs

/-! ## The entry of one id -/

lemma conversationOf_congr {lines lines' : List PyStr} {k : PyKey}
    (hq : lines'.filter (isRequestOf k) = lines.filter (isRequestOf k))
    (hr : lines'.filter (isResponseOf k) = lines.filter (isResponseOf k)) :
    conversationOf k lines' = conversationOf k lines := by
  unfold conversationOf
  rw [← requestWrites_filter k lines', hq, requestWrites_filter, ← responseWrites_filter k lines',
    hr, responseWrites_filter]

lemma logEntryOf_congr {lines lines' : List PyStr} {k : PyKey}
    (hq : lines'.filter (isLogRequestOf k) = lines.filter (isLogRequestOf k))
    (hr : lines'.filter (isLogResponseOf k) = lines.filter (isLogResponseOf k)) :
    logEntryOf k lines' = logEntryOf k lines := by
  unfold logEntryOf
  rw [← logRequestWrites_filter k lines', hq, logRequestWrites_filter,
    ← logResponseWrites_filter k lines', hr, logResponseWrites_filter]

/-- A reordered log completes when the log does: each line decides the same either way. -/
lemma foldlM_perm_ok {ε α γ σ : Type} (act : α → Except ε γ) (apply : γ → σ → σ)
    {xs ys : List α} (hp : ys.Perm xs) (s : σ)
    (h : ∃ t, xs.foldlM (fun s x => (act x).map (apply · s)) s = .ok t) :
    ∃ t, ys.foldlM (fun s x => (act x).map (apply · s)) s = .ok t :=
  (foldlM_ok_iff act apply ys s).mpr fun x hx =>
    (foldlM_ok_iff act apply xs s).mp h x (hp.mem_iff.mp hx)

/-! ## Two logs of three conversations -/

/-- A request record for id `i` whose body is the empty JSON object. -/
def requestLine (i : Int) : PyStr :=
  logLine [("event_type", strVal "request_body"), ("body", strVal "\x7b\x7d")]
    [("request_id", .int i)]

/-- The `fields` of a non-streaming response record whose usage has `input_tokens` written as
`t`. -/
def usageFields (t : String) : List (String × PyVal) :=
  [("event_type", strVal "response_body"),
   ("body", .str (lit "\x7b\"usage\": \x7b\"input_tokens\": " ++ lit t ++ lit "\x7d\x7d"))]

/-- A response record for id `i` with `input_tokens` written as `t`. -/
def usageLine (i : Int) (t : String) : PyStr := logLine (usageFields t) [("request_id", .int i)]

/-- Three complete conversations whose input counters are `1e308`, `1e308` and `-1e308`. -/
def floatLogA : List PyStr :=
  [requestLine 1, usageLine 1 "1e308", requestLine 2, usageLine 2 "1e308", requestLine 3,
    usageLine 3 "-1e308"]

/-- `floatLogA` with the records of id `3` moved before those of id `2`. -/
def floatLogB : List PyStr :=
  [requestLine 1, usageLine 1 "1e308", requestLine 3, usageLine 3 "-1e308", requestLine 2,
    usageLine 2 "1e308"]

/-! ## The two maps -/

/-- **What arrival order cannot change in `analyze_conversations`' map `m` of `lines`**: another
log with the same request and the same response records of an id, in the same order, gives that
id the same entry; a reordering that keeps every id's request order and response order completes,
builds the same entries (insertion order aside), the same complete conversations, and — when the
counters are exact — the same summary. -/
def ConvOrderFree (lines : List PyStr) (m : Conversations) : Prop :=
  (∀ lines' m' k, collectConversations lines' = .ok m' →
    lines'.filter (isRequestOf k) = lines.filter (isRequestOf k) →
    lines'.filter (isResponseOf k) = lines.filter (isResponseOf k) → m'.lookup k = m.lookup k) ∧
  (∀ lines', lines'.Perm lines →
    (∀ k, lines'.filter (isRequestOf k) = lines.filter (isRequestOf k)) →
    (∀ k, lines'.filter (isResponseOf k) = lines.filter (isResponseOf k)) →
    ∃ m', collectConversations lines' = .ok m' ∧ m'.entries.Perm m.entries ∧
      (completeConversations m').Perm (completeConversations m) ∧
      (ExactUsage m → summarize m' = summarize m))

/-- **What arrival order cannot change in `analyze_logs`' map `lm` of `lines`**: the entry of
an id is fixed by its request and response records, and a reordering that keeps their orders
builds the same entries. -/
def LogOrderFree (lines : List PyStr) (lm : LogConversations) : Prop :=
  (∀ lines' lm' k, collectLogs lines' = .ok lm' →
    lines'.filter (isLogRequestOf k) = lines.filter (isLogRequestOf k) →
    lines'.filter (isLogResponseOf k) = lines.filter (isLogResponseOf k) →
    lm'.lookup k = lm.lookup k) ∧
  (∀ lines', lines'.Perm lines →
    (∀ k, lines'.filter (isLogRequestOf k) = lines.filter (isLogRequestOf k)) →
    (∀ k, lines'.filter (isLogResponseOf k) = lines.filter (isLogResponseOf k)) →
    ∃ lm', collectLogs lines' = .ok lm' ∧ lm'.entries.Perm lm.entries)

lemma convOrderFree_of_collect {lines : List PyStr} {m : Conversations}
    (h : collectConversations lines = .ok m) : ConvOrderFree lines m := by
  have local_ : ∀ lines' m' k, collectConversations lines' = .ok m' →
      lines'.filter (isRequestOf k) = lines.filter (isRequestOf k) →
      lines'.filter (isResponseOf k) = lines.filter (isResponseOf k) →
      m'.lookup k = m.lookup k := fun lines' m' k h' hq hr => by
    rw [lookup_collectConversations h', lookup_collectConversations h, conversationOf_congr hq hr]
  refine ⟨local_, fun lines' hp hq hr => ?_⟩
  obtain ⟨m', h'⟩ := foldlM_perm_ok convAction ConvAction.apply hp _ ⟨m, h⟩
  have hentries := ODict.perm_of_lookup_eq fun k => local_ lines' m' k h' (hq k) (hr k)
  have hcomplete : (completeConversations m').Perm (completeConversations m) := hentries.filter _
  refine ⟨m', h', hentries, hcomplete, fun hexact => summaryStage_congr fun name hname => ?_⟩
  exact usageTotal_perm (hcomplete.map Prod.snd) name fun c hc => by
    obtain ⟨p, hp, rfl⟩ := List.mem_map.mp ((hcomplete.map Prod.snd).mem_iff.mp hc)
    exact hexact p hp name hname

lemma logOrderFree_of_collect {lines : List PyStr} {lm : LogConversations}
    (h : collectLogs lines = .ok lm) : LogOrderFree lines lm := by
  have local_ : ∀ lines' lm' k, collectLogs lines' = .ok lm' →
      lines'.filter (isLogRequestOf k) = lines.filter (isLogRequestOf k) →
      lines'.filter (isLogResponseOf k) = lines.filter (isLogResponseOf k) →
      lm'.lookup k = lm.lookup k := fun lines' lm' k h' hq hr => by
    rw [lookup_collectLogs h', lookup_collectLogs h, logEntryOf_congr hq hr]
  refine ⟨local_, fun lines' hp hq hr => ?_⟩
  obtain ⟨lm', h'⟩ := foldlM_perm_ok logAction LogAction.apply hp _ ⟨lm, h⟩
  exact ⟨lm', h', ODict.perm_of_lookup_eq fun k => local_ lines' lm' k h' (hq k) (hr k)⟩

/-- **Correlation does not depend on arrival order**, in each script on every log its own loop
completes: `ConvOrderFree` for `analyze_conversations`, `LogOrderFree` for `analyze_logs`. -/
theorem correlation_order_independent :
    (∀ (lines : List PyStr) (m : Conversations), collectConversations lines = .ok m →
      ConvOrderFree lines m) ∧
    (∀ (lines : List PyStr) (lm : LogConversations), collectLogs lines = .ok lm →
      LogOrderFree lines lm) :=
  ⟨fun _ _ => convOrderFree_of_collect, fun _ _ => logOrderFree_of_collect⟩

set_option maxRecDepth 100000 in
theorem correlation_order_independent_floatLogA :
    ∃ m lm, collectConversations floatLogA = .ok m ∧ ConvOrderFree floatLogA m ∧
      collectLogs floatLogA = .ok lm ∧ LogOrderFree floatLogA lm :=
  ⟨_, _, rfl, correlation_order_independent.1 _ _ rfl, rfl,
    correlation_order_independent.2 _ _ rfl⟩

/-! ## Float totals -/

set_option maxRecDepth 100000 in
lemma floatLog_actions :
    (∀ i ∈ [1, 2, 3], convAction (requestLine i) =
      .ok (.request (.int i) (some ⟨.dict [], .none, .none, .none⟩))) ∧
    (∀ p ∈ [((1 : Int), "1e308"), (2, "1e308"), (3, "-1e308")], convAction (usageLine p.1 p.2) =
      .ok (.response (.int p.1)
        (responseWrite ((usageFields p.2).map fun kv => (strVal kv.1, kv.2))))) := by
  decide

/-- Moving id `3`'s records keeps the records of every id in order. -/
lemma floatLog_records (k : PyKey) :
    floatLogB.filter (isRequestOf k) = floatLogA.filter (isRequestOf k) ∧
    floatLogB.filter (isResponseOf k) = floatLogA.filter (isResponseOf k) := by
  obtain ⟨hq, hr⟩ := floatLog_actions
  simp only [List.forall_mem_cons, List.forall_mem_nil, and_true] at hq hr
  simp only [floatLogA, floatLogB, List.filter_cons, isRequestOf, isResponseOf, hq.1, hq.2.1,
    hq.2.2, hr.1, hr.2.1, hr.2.2]
  by_cases h1 : k = .int 1
  · subst h1; simp
  by_cases h2 : k = .int 2
  · subst h2; simp
  by_cases h3 : k = .int 3
  · subst h3; simp
  simp [Ne.symm h1, Ne.symm h2, Ne.symm h3]

set_option maxRecDepth 100000 in
/-- The two orders give different `total_input`: infinity, and `1e308`. -/
theorem float_totals_depend_on_order :
    floatLogB.Perm floatLogA ∧
    (∀ k, floatLogB.filter (isRequestOf k) = floatLogA.filter (isRequestOf k) ∧
      floatLogB.filter (isResponseOf k) = floatLogA.filter (isResponseOf k)) ∧
    (collectConversations floatLogA >>= summarize).map (·.input) = .ok (.float (.inf false)) ∧
    (collectConversations floatLogB >>= summarize).map (·.input) =
      .ok (.float (PyFloat.ofDecimal false 1 308)) :=
  ⟨by decide, floatLog_records, by decide, by decide⟩

end GatewayLogs
