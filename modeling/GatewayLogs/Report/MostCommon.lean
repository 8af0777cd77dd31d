import GatewayLogs.Report.Histograms
import Mathlib.Data.List.Infix

/-!
# `Counter.most_common`: the order of the printed histograms

The report prints `stats['models']` and `stats['api_keys']` through `most_common()` (lines
77–81), which is `sorted(counter.items(), key=itemgetter(1), reverse=True)`.  Python's sort is
stable, also in reverse, so the lines come by decreasing count and, among equal counts, in the
counter's insertion order: the order in which the log first counted each key.

* `ODict.mostCommon` — the stable sort, core's `List.mergeSort`;
* `ODict.mostCommon_tie` — two entries of equal count keep their order in the counter;
* `FirstCounted` — what a counter keeps along a run: its keys are the keys counted, and one key
  stands before another only if some prefix of the run counted the first and not the second;
* **`printed_histograms_ordered`** — after a completed run each printed histogram goes down by
  count, and two lines of equal count come in the order the log first counted their keys.
-/

namespace GatewayLogs

/-! ## Two members of a list -/

section Pairs

variable {α : Type}

/-- Two distinct members of a list stand in it in one order or the other. -/
lemma pair_sublist_or {a b : α} (hab : a ≠ b) :
    ∀ {l : List α}, a ∈ l → b ∈ l → [a, b].Sublist l ∨ [b, a].Sublist l
  | x :: l, ha, hb => by
    rcases List.mem_cons.mp ha with rfl | ha'
    · exact Or.inl ((List.singleton_sublist.mpr
        ((List.mem_cons.mp hb).resolve_left (Ne.symm hab))).cons₂ _)
    rcases List.mem_cons.mp hb with rfl | hb'
    · exact Or.inr ((List.singleton_sublist.mpr ha').cons₂ _)
    exact (pair_sublist_or hab ha' hb').imp (·.cons _) (·.cons _)

/-- In a list without repeats, two members stand in one order only. -/
lemma pair_sublist_asymm {a b : α} :
    ∀ {l : List α}, l.Nodup → [a, b].Sublist l → ¬ [b, a].Sublist l
  | [], _, h, _ => absurd h.length_le (by simp)
  | x :: l, hn, h1, h2 => by
    rw [List.nodup_cons] at hn
    rw [List.sublist_cons_iff] at h1 h2
    rcases h1 with h1 | ⟨r, hr, h1⟩ <;> rcases h2 with h2 | ⟨r', hr', h2⟩
    · exact pair_sublist_asymm hn.2 h1 h2
    · obtain ⟨rfl, -⟩ := List.cons.inj hr'
      exact hn.1 (h1.subset (by simp))
    · obtain ⟨rfl, -⟩ := List.cons.inj hr
      exact hn.1 (h2.subset (by simp))
    · obtain ⟨rfl, rfl⟩ := List.cons.inj hr
      obtain ⟨hb, -⟩ := List.cons.inj hr'
      exact hn.1 (hb ▸ h1.subset (by simp))

/-- A pair in a list with one more element at the end. -/
lemma pair_sublist_append_singleton {a b k : α} {l : List α} :
    [a, b].Sublist (l ++ [k]) ↔ [a, b].Sublist l ∨ (a ∈ l ∧ b = k) := by
  rw [← List.reverse_sublist, List.reverse_append, List.reverse_singleton, List.singleton_append,
    List.sublist_cons_iff, List.reverse_sublist]
  refine or_congr_right
    ⟨fun ⟨r, he, hs⟩ => ?_, fun ⟨ha, hb⟩ => ⟨[a], by simp [hb], by simpa using ha⟩⟩
  simp only [List.reverse_cons, List.reverse_nil, List.nil_append, List.singleton_append,
    List.cons.injEq] at he
  exact ⟨by simpa [← he.2] using hs, he.1⟩

end Pairs

namespace ODict

variable {α : Type}

/-! ## The stable sort -/

/-- The comparison of `key=itemgetter(1), reverse=True`: `a` may come before `b` when its count
is at least `b`'s. -/
def byCount (a b : α × Nat) : Bool := b.2 ≤ a.2

/-- **`counter.most_common()`**: the entries by decreasing count, sorted stably. -/
def mostCommon (d : ODict α Nat) : List (α × Nat) := d.entries.mergeSort byCount

lemma byCount_trans (a b c : α × Nat) (hab : byCount a b) (hbc : byCount b c) :
    byCount a c := by
  simp only [byCount, decide_eq_true_eq] at *
  omega

lemma byCount_total (a b : α × Nat) : (byCount a b || byCount b a) = true := by
  simp only [byCount, Bool.or_eq_true, decide_eq_true_eq]
  omega

lemma mostCommon_perm (d : ODict α Nat) : d.mostCommon.Perm d.entries :=
  List.mergeSort_perm _ _

lemma nodup_mostCommon (d : ODict α Nat) : d.mostCommon.Nodup :=
  d.mostCommon_perm.nodup_iff.mpr (d.nodup.of_map _)

/-- Counts never go up along `most_common()`. -/
lemma mostCommon_sorted (d : ODict α Nat) : d.mostCommon.Pairwise fun a b => b.2 ≤ a.2 := by
  simpa [byCount] using List.sorted_mergeSort byCount_trans byCount_total d.entries

/-- **Ties keep the counter's order**: two entries of equal count stand in `most_common()` as
they stand in the counter. -/
lemma mostCommon_tie (d : ODict α Nat) {a b : α × Nat} (hs : [a, b].Sublist d.mostCommon)
    (he : a.2 = b.2) : [a, b].Sublist d.entries := by
  have hp := d.mostCommon_perm
  have hab : a ≠ b := by simpa using d.nodup_mostCommon.sublist hs
  have mem : ∀ {c}, c ∈ [a, b] → c ∈ d.entries := fun hc => hp.subset (hs.subset hc)
  rcases pair_sublist_or hab (mem (by simp)) (mem (by simp)) with h | h
  · exact h
  · have hba : byCount b a := by simp [byCount, he]
    exact absurd (List.pair_sublist_mergeSort byCount_trans byCount_total hba h)
      (pair_sublist_asymm d.nodup_mostCommon hs)

variable [DecidableEq α]

/-- `counter[k] += 1` keeps the keys, or appends a new one. -/
lemma keys_incr (d : ODict α Nat) (k : α) :
    (d.incr k).keys = if k ∈ d.keys then d.keys else d.keys ++ [k] := by
  unfold incr alter
  split <;> simp [keys, map_fst_mapAt, *]

end ODict

/-! ## The order of first counts -/

/-- **The counter's order is the order of first counts**: after counting `os` (`none` counts
nothing), the keys are those counted, and a key stands before another only if some prefix of
`os` counts the first and not the second. -/
structure FirstCounted (os : List (Option PyKey)) (d : ODict PyKey Nat) : Prop where
  mem_keys : ∀ k, k ∈ d.keys ↔ some k ∈ os
  before : ∀ a b, [a, b].Sublist d.keys → ∃ p, p <+: os ∧ some a ∈ p ∧ some b ∉ p

lemma FirstCounted.empty : FirstCounted [] .empty := ⟨by simp [ODict.keys, ODict.empty],
  fun _ _ h => absurd h.length_le (by simp [ODict.keys, ODict.empty])⟩

/-- **One count keeps the order of first counts.** -/
lemma FirstCounted.countIn {os : List (Option PyKey)} {d : ODict PyKey Nat}
    (h : FirstCounted os d) (o : Option PyKey) : FirstCounted (os ++ [o]) (countIn d o) := by
  have older :
      ∀ a b, [a, b].Sublist d.keys → ∃ p, p <+: os ++ [o] ∧ some a ∈ p ∧ some b ∉ p :=
    fun a b hs => (h.before a b hs).imp fun p hp => ⟨hp.1.trans (List.prefix_append _ _), hp.2⟩
  cases o with
  | none => exact ⟨by simpa using h.mem_keys, older⟩
  | some k =>
    show FirstCounted _ (d.incr k)
    have hkeys := ODict.keys_incr d k
    by_cases hk : k ∈ d.keys
    · rw [if_pos hk] at hkeys
      refine ⟨fun k' => ?_, fun a b hs => older a b (hkeys ▸ hs)⟩
      by_cases he : k' = k
      · subst he; simpa [hkeys] using hk
      · simpa [hkeys, he] using h.mem_keys k'
    · rw [if_neg hk] at hkeys
      refine ⟨fun k' => by simp [hkeys, h.mem_keys], fun a b hs => ?_⟩
      rcases pair_sublist_append_singleton.mp (hkeys ▸ hs) with hs | ⟨ha, rfl⟩
      · exact older a b hs
      · exact ⟨os, List.prefix_append _ _, (h.mem_keys a).mp ha, mt (h.mem_keys b).mpr hk⟩

/-- **What the order of first counts gives `most_common()`**: counts go down, and of two
entries of equal count the first is counted in some prefix of the run that does not count the
second. -/
lemma FirstCounted.mostCommon {os : List (Option PyKey)} {d : ODict PyKey Nat}
    (h : FirstCounted os d) :
    d.mostCommon.Pairwise fun a b =>
      b.2 ≤ a.2 ∧ (a.2 = b.2 → ∃ p, p <+: os ∧ some a.1 ∈ p ∧ some b.1 ∉ p) := by
  rw [List.pairwise_iff_forall_sublist]
  intro a b hs
  refine ⟨List.pairwise_iff_forall_sublist.mp d.mostCommon_sorted hs, fun he => ?_⟩
  exact h.before a.1 b.1 ((d.mostCommon_tie hs he).map Prod.fst)

/-- **A run keeps the order of first counts** in both histograms. -/
lemma firstCounted_foldl (acts : List ReportAction) {s : ReportState}
    {os₁ os₂ : List (Option PyKey)} (h₁ : FirstCounted os₁ s.models)
    (h₂ : FirstCounted os₂ s.apiKeys) :
    FirstCounted (os₁ ++ acts.map (·.counted.1)) (acts.foldl (fun s a => a.apply s) s).models ∧
    FirstCounted (os₂ ++ acts.map (·.counted.2))
      (acts.foldl (fun s a => a.apply s) s).apiKeys := by
  induction acts generalizing s os₁ os₂ with
  | nil => simpa using ⟨h₁, h₂⟩
  | cons a acts ih =>
    obtain ⟨e₁, e₂⟩ := a.apply_counts s
    have := ih (e₁ ▸ h₁.countIn a.counted.1) (e₂ ▸ h₂.countIn a.counted.2)
    simpa using this

/-- **How `most_common()` orders two printed lines** of a histogram whose key a log line counts
by `f`: the first has at least the second's count, and at equal counts its key is counted within
some first `n` lines of the log that do not count the second's. -/
def PrintedBefore (lines : List PyStr) (f : PyStr → Option PyKey) (a b : PyKey × Nat) : Prop :=
  b.2 ≤ a.2 ∧
    (a.2 = b.2 → ∃ n, some a.1 ∈ (lines.take n).map f ∧ some b.1 ∉ (lines.take n).map f)

lemma FirstCounted.printedBefore {lines : List PyStr} {f : PyStr → Option PyKey}
    {d : ODict PyKey Nat} (h : FirstCounted (lines.map f) d) :
    d.mostCommon.Pairwise (PrintedBefore lines f) :=
  h.mostCommon.imp fun ⟨hle, ht⟩ => ⟨hle, fun he => by
    obtain ⟨p, hp, ha, hb⟩ := ht he
    refine ⟨p.length, ?_⟩
    rw [List.map_take, ← List.prefix_iff_eq_take.mp hp]
    exact ⟨ha, hb⟩⟩

/-- **The printed histograms are ordered.**  After a completed run of `analyze_detailed_logs`,
`stats['models'].most_common()` goes down by count, and of two models with the same count the
one printed first is counted within some first `n` lines of the log that do not count the other;
and the same holds of `stats['api_keys'].most_common()`. -/
theorem printed_histograms_ordered {lines : List PyStr} {s : ReportState}
    (h : collectReport lines = .ok s) :
    s.models.mostCommon.Pairwise (PrintedBefore lines fun l => (recordCounts l).1) ∧
    s.apiKeys.mostCommon.Pairwise (PrintedBefore lines fun l => (recordCounts l).2) := by
  have hall := (foldlM_ok_iff reportAction ReportAction.apply lines _).mp ⟨s, h⟩
  have hc : ∀ l ∈ lines, (actOr reportAction ⟨none, none⟩ l).counted = recordCounts l :=
    fun l hl => by
      obtain ⟨a, ha⟩ := hall l hl
      rw [actOr_of_ok reportAction ha, reportAction_counted ha]
  have hmap : ∀ f : Option PyKey × Option PyKey → Option PyKey,
      (lines.map (actOr reportAction ⟨none, none⟩)).map (f ·.counted) =
        lines.map (f <| recordCounts ·) := fun f => by
    rw [List.map_map]
    exact List.map_congr_left fun l hl => by simp only [Function.comp_apply, hc l hl]
  have e := foldlM_eq_ok reportAction ReportAction.apply ⟨none, none⟩ h
  obtain ⟨h₁, h₂⟩ := @firstCounted_foldl (lines.map (actOr reportAction ⟨none, none⟩))
    ReportState.init _ _ FirstCounted.empty FirstCounted.empty
  rw [← e, List.nil_append, hmap Prod.fst] at h₁
  rw [← e, List.nil_append, hmap Prod.snd] at h₂
  exact ⟨h₁.printedBefore, h₂.printedBefore⟩

/-- Requests for the models `b` and then `a`, one each: a tie, printed `b` first. -/
def tiedModelsLog : List PyStr :=
  [logLine [("event_type", strVal "request_body"), ("body", strVal "\x7b\"model\": \"b\"\x7d")]
     [("request_id", .int 1)],
   logLine [("event_type", strVal "request_body"), ("body", strVal "\x7b\"model\": \"a\"\x7d")]
     [("request_id", .int 2)]]

set_option maxRecDepth 100000 in
theorem printed_histograms_ordered_tiedModels :
    ∃ s, collectReport tiedModelsLog = .ok s ∧
      s.models.mostCommon.Pairwise (PrintedBefore tiedModelsLog fun l => (recordCounts l).1) ∧
      s.apiKeys.mostCommon.Pairwise (PrintedBefore tiedModelsLog fun l => (recordCounts l).2) :=
  ⟨_, rfl, @printed_histograms_ordered tiedModelsLog _ rfl⟩

end GatewayLogs
