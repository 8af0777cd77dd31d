import GatewayLogs.Report.Collect
import GatewayLogs.Loop
import GatewayLogs.Json.Dumps
import Mathlib.Algebra.BigOperators.Group.List
import Mathlib.Algebra.Order.Ring.Nat

/-!
# The totals of `analyze_detailed_logs` agree with each other

The report prints `sum(stats['errors'].values())` as the number of errors and then lists
`errors`, and it prints `total_requests` above the model and API-key histograms.  Each record
adds to these counters in a fixed order inside one `try`: the total first, then the model,
then the API key, then the stored conversation, each step only when the one before it
succeeded.  So along every run, from the empty state:

* the error counter sums to the number of listed errors;
* the conversations stored are at most the API keys counted, which are at most the models
  counted, which are at most the requests counted (**`collectReport_consistent`**).

`ReportAction.apply_consistent` is the step: every action keeps the four relations.
-/

namespace GatewayLogs

namespace ODict

variable {α β : Type} [DecidableEq α]

/-- `sum(counter.values())`. -/
def total (d : ODict α Nat) : Nat := (d.entries.map Prod.snd).sum

lemma mapAt_of_not_mem {k : α} (f : Option β → β) :
    ∀ {l : List (α × β)}, k ∉ l.map Prod.fst → mapAt k f l = l
  | [], _ => rfl
  | e :: l, h => by
    simp only [List.map_cons, List.mem_cons, not_or] at h
    simp only [mapAt, List.map_cons, if_neg (Ne.symm h.1), List.cons.injEq, true_and]
    exact mapAt_of_not_mem f h.2

lemma sum_mapAt_succ {k : α} : ∀ {l : List (α × Nat)}, (l.map Prod.fst).Nodup →
    k ∈ l.map Prod.fst →
    ((mapAt k (fun n => n.getD 0 + 1) l).map Prod.snd).sum = (l.map Prod.snd).sum + 1
  | [], _, h => absurd h (List.not_mem_nil _)
  | e :: l, hn, h => by
    rw [List.map_cons, List.nodup_cons] at hn
    by_cases he : e.1 = k
    · have hl : mapAt k (fun n => n.getD 0 + 1) l = l := mapAt_of_not_mem _ (he ▸ hn.1)
      simp only [mapAt, List.map_cons, if_pos he] at hl ⊢
      rw [hl]
      simp only [Option.getD_some, List.sum_cons]
      omega
    · have hk : k ∈ l.map Prod.fst := by
        simpa [Ne.symm he] using h
      have ih := sum_mapAt_succ hn.2 hk
      simp only [mapAt, List.map_cons, if_neg he, List.sum_cons] at ih ⊢
      omega

/-- `counter[k] += 1` adds one to the sum of the counts. -/
lemma total_incr (d : ODict α Nat) (k : α) : (d.incr k).total = d.total + 1 := by
  unfold incr alter total
  split
  · next h => exact sum_mapAt_succ d.nodup h
  · rw [List.map_append, List.map_singleton, List.sum_append, List.sum_singleton]
    rfl

/-- `d[k] = v` adds at most one entry. -/
lemma length_set_le (d : ODict α β) (k : α) (v : β) :
    (d.set k v).entries.length ≤ d.entries.length + 1 := by
  unfold set alter
  split
  · simp [mapAt]
  · simp

end ODict

/-! ## The four relations -/

/-- **The totals of a report state agree**: the error counter sums to the listed errors, and
stored conversations ≤ counted API keys ≤ counted models ≤ counted requests. -/
structure ReportState.Consistent (s : ReportState) : Prop where
  errors_total : s.errorCounts.total = s.errors.length
  conversations_le_apiKeys : s.conversations.entries.length ≤ s.apiKeys.total
  apiKeys_le_models : s.apiKeys.total ≤ s.models.total
  models_le_requests : s.models.total ≤ s.totalRequests

lemma ReportState.init_consistent : ReportState.init.Consistent := ⟨rfl, le_rfl, le_rfl, le_rfl⟩

/-- **Every action keeps the totals consistent.** -/
lemma ReportAction.apply_consistent (a : ReportAction) {s : ReportState} (h : s.Consistent) :
    (a.apply s).Consistent := by
  obtain ⟨h1, h2, h3, h4⟩ := h
  rcases a with ⟨_ | ⟨t, msg, tgt, k⟩, _ | (_ | m | ⟨m, ak⟩ | ⟨m, ak, r, en⟩)⟩ <;>
    simp only [ReportAction.apply, RequestOutcome.counted] <;>
    (try have := ODict.length_set_le s.conversations r en) <;>
    exact ⟨by (try simp only [ODict.total_incr, List.length_append, List.length_singleton]); omega,
      by (try simp only [ODict.total_incr]); omega, by (try simp only [ODict.total_incr]); omega,
      by (try simp only [ODict.total_incr]); omega⟩

lemma foldl_apply_consistent : ∀ (acts : List ReportAction) {s : ReportState},
    s.Consistent → (acts.foldl (fun s a => a.apply s) s).Consistent
  | [], _, h => h
  | a :: acts, _, h => foldl_apply_consistent acts (a.apply_consistent h)

/-- **After every completed run the report's totals agree**: `sum(stats['errors'].values())`
is `len(errors)`, and stored conversations ≤ counted API keys ≤ counted models ≤
`total_requests`. -/
theorem collectReport_consistent {lines : List PyStr} {s : ReportState}
    (h : collectReport lines = .ok s) : s.Consistent := by
  rw [foldlM_eq_ok reportAction ReportAction.apply ⟨none, none⟩ h]
  exact foldl_apply_consistent _ ReportState.init_consistent

/-- An `ERROR` record, a request whose body is not JSON, and a stored request. -/
def errorAndRequestsLog : List PyStr :=
  [lit "\x7b\"level\": \"ERROR\", \"fields\": \x7b\"message\": \"boom\"\x7d\x7d",
   logLine [("event_type", strVal "request_body"), ("body", strVal "oops")] [("request_id", .int 1)],
   logLine [("event_type", strVal "request_body"), ("body", strVal "\x7b\x7d")]
     [("request_id", .int 2)]]

set_option maxRecDepth 100000 in
theorem collectReport_consistent_errorAndRequests :
    ∃ s, collectReport errorAndRequestsLog = .ok s ∧ s.Consistent :=
  ⟨_, rfl, @collectReport_consistent errorAndRequestsLog _ rfl⟩

end GatewayLogs
