import GatewayLogs.Conversations.Collect
import GatewayLogs.Python.FloatRange
import GatewayLogs.Python.Print
import GatewayLogs.Loop
import Mathlib.Algebra.BigOperators.Group.List
import Mathlib.Algebra.Ring.Int.Defs

/-!
# `analyze_conversations`: the summary stage

After the per-conversation report, `analyze_conversations` sums four usage counters over
`complete_conversations` (lines 267–270), prints them with `:,` (lines 273–276), and prints
their total and the cache figures (lines 277–283).  Each counter is read as `conv.get('usage', {}).get(name, 0)`: an absent
map or counter is `0`, but a `usage` that is present and not a dict has no `get`, and a counter
that is not a number cannot be added.  Formatting an `int` of more than `maxStrDigits` digits
with `:,` raises `ValueError`; the texts printed hold digits, commas and the scripts' own
characters, which every error handler writes, and `.1f` and `,.0f` of a float never raise.

* `usageTotal_exact` — with exact counters (`int`, `bool`, absent) a total is their integer
  sum, in any order (`usageTotal_perm`);
* `summaryStage_ints` — on integer totals the stage completes iff the five printed numbers fit
  the digit limit and `total_cache_read` is below `2 ^ 1024 - 2 ^ 970`, the least `int`
  `float()` rejects;
* `usageTotal_malformed` — a `usage` that is not a dict or a counter that is not a number
  makes the stage raise;
* **`summary_totals`** — the three together, for the complete conversations of any map.
-/

namespace GatewayLogs

/-- `conv.get('usage', {}).get(name, 0)`. -/
def usageCounter (c : Conversation) (name : String) : Except PyExc PyVal :=
  (c.usage.getD (.dict [])).get (lit name) (.int 0)

/-- `sum(conv.get('usage', {}).get(name, 0) for conv in complete)`: the generator and the
additions interleave, so the first failure in order is the one raised. -/
def usageTotal (cs : List Conversation) (name : String) : Except PyExc PyNum :=
  cs.foldlM (fun acc c => do sumStep acc (← usageCounter c name)) (.int 0)

/-- `total_input`, `total_output`, `total_cache_read`, `total_cache_create`. -/
structure UsageTotals where
  input : PyNum
  output : PyNum
  cacheRead : PyNum
  cacheCreate : PyNum
  deriving DecidableEq, Repr

/-- The float the literal `0.9` on line 283 denotes. -/
def pointNine : PyFloat := PyFloat.ofDecimal false 9 (-1)

/-- **Lines 267–283**: the four totals, each printed with `:,`, then `total_input + total_output`
printed with `:,`, and when `total_cache_read > 0` the hit ratio
`(total_cache_read / (total_input or 1)) * 100` and `total_cache_read * 0.9`. -/
def summaryStage (complete : List Conversation) : Except PyExc UsageTotals := do
  let ti ← usageTotal complete "input_tokens"
  let tout ← usageTotal complete "output_tokens"
  let tr ← usageTotal complete "cache_read_input_tokens"
  let tc ← usageTotal complete "cache_creation_input_tokens"
  ti.formatGrouped?
  tout.formatGrouped?
  tr.formatGrouped?
  tc.formatGrouped?
  (← ti.add tout).formatGrouped?
  if tr.isPos then
    let ratio ← tr.trueDiv (if ti.truthy then ti else .int 1)
    let _ ← ratio.mul (.int 100)
    let _ ← tr.mul (.float pointNine)
  return ⟨ti, tout, tr, tc⟩

/-- The summary of a collected map: the stage over its complete conversations, in order. -/
def summarize (m : Conversations) : Except PyExc UsageTotals :=
  summaryStage ((completeConversations m).map Prod.snd)

/-- The counters the summary adds up. -/
def usageNames : List String :=
  ["input_tokens", "output_tokens", "cache_read_input_tokens", "cache_creation_input_tokens"]

/-- The stage reads the conversations only through the four totals. -/
lemma summaryStage_congr {cs cs' : List Conversation}
    (h : ∀ name ∈ usageNames, usageTotal cs name = usageTotal cs' name) :
    summaryStage cs = summaryStage cs' := by
  simp only [usageNames, List.mem_cons, List.mem_singleton, forall_eq_or_imp, forall_eq] at h
  simp only [summaryStage, h.1, h.2.1, h.2.2.1, h.2.2.2]

/-! ## Exact totals -/

/-- A counter as an exact integer: an `int`, a `bool`, or `0` when the counter or the whole
`usage` is absent; `none` for anything else, a `usage` that is not a dict included. -/
def exactCounter (c : Conversation) (name : String) : Option Int :=
  match usageCounter c name with
  | .ok v => match v.num? with
    | some (.int z) => some z
    | _ => none
  | .error _ => none

/-- The integer sum of a counter, each conversation's counter read by `exactCounter`. -/
def exactSum (cs : List Conversation) (name : String) : Int :=
  (cs.map fun c => (exactCounter c name).getD 0).sum

/-- **With exact counters a total is their integer sum**: no float, no overflow, no error. -/
lemma usageTotal_exact (cs : List Conversation) (name : String)
    (h : ∀ c ∈ cs, (exactCounter c name).isSome) :
    usageTotal cs name = .ok (.int (exactSum cs name)) := by
  suffices ∀ a : Int, cs.foldlM (fun acc c => do sumStep acc (← usageCounter c name)) (.int a) =
      .ok (.int (a + exactSum cs name)) by
    simpa using this 0
  induction cs with
  | nil => intro a; simp [pure, Except.pure, exactSum]
  | cons c cs ih =>
    intro a
    obtain ⟨hc, hcs⟩ := List.forall_mem_cons.mp h
    rw [List.foldlM_cons]
    unfold exactCounter at hc
    cases hu : usageCounter c name with
    | error e => simp [hu] at hc
    | ok v =>
      cases hv : v.num? with
      | none => simp [hu, hv] at hc
      | some n =>
        cases n with
        | float x => simp [hu, hv] at hc
        | int z =>
          have hstep : sumStep (.int a) v = .ok (.int (a + z)) := by simp [sumStep, hv, PyNum.add]
          have hz : exactCounter c name = some z := by simp [exactCounter, hu, hv]
          simp only [hu, ok_bind, hstep, ih hcs (a + z), hz, exactSum, Option.getD_some,
            List.map_cons, List.sum_cons, Int.add_assoc]

/-- Exact totals do not depend on the order of the conversations. -/
lemma usageTotal_perm {cs cs' : List Conversation} (hp : cs.Perm cs') (name : String)
    (h : ∀ c ∈ cs, (exactCounter c name).isSome) : usageTotal cs name = usageTotal cs' name := by
  rw [usageTotal_exact cs name h, usageTotal_exact cs' name fun c hc => h c (hp.mem_iff.mpr hc),
    exactSum, exactSum, (hp.map _).sum_eq]

/-- Every counter the summary adds is exact in every complete conversation. -/
def ExactUsage (m : Conversations) : Prop :=
  ∀ p ∈ completeConversations m, ∀ name ∈ usageNames, (exactCounter p.2 name).isSome

/-- A total over the complete conversations of `m`, read exactly. -/
def completeTotal (m : Conversations) (name : String) : Int :=
  exactSum ((completeConversations m).map Prod.snd) name

/-! ## Integer totals and the float threshold -/

/-- `format(n, ',')` of an `int`. -/
lemma formatGrouped?_int (z : Int) :
    (PyNum.int z).formatGrouped? = if intFitsStr z then .ok () else .error .intToStrLimit := rfl

lemma ite_ok_bind {ε β : Type} (c : Prop) [Decidable c] (e : ε) (f : Unit → Except ε β) :
    ((if c then .ok () else .error e) >>= f) = if c then f () else .error e := by
  split <;> rfl

/-- **The stage on integer totals.**  When the five numbers it prints fit the digit limit, it
returns the totals while `total_cache_read` is below the float threshold; from the threshold on,
`total_cache_read / (total_input or 1)` or, when the ratio is still finite,
`total_cache_read * 0.9` raises `OverflowError`.  A printed number past the digit limit raises
`ValueError` first. -/
lemma summaryStage_ints {cs : List Conversation} {ti tout tr tc : Int}
    (hi : usageTotal cs "input_tokens" = .ok (.int ti))
    (ho : usageTotal cs "output_tokens" = .ok (.int tout))
    (hr : usageTotal cs "cache_read_input_tokens" = .ok (.int tr))
    (hc : usageTotal cs "cache_creation_input_tokens" = .ok (.int tc)) :
    ((∀ z ∈ [ti, tout, tr, tc, ti + tout], intFitsStr z = true) →
      (tr < PyFloat.maxFloatInt → summaryStage cs = .ok ⟨.int ti, .int tout, .int tr, .int tc⟩) ∧
      (PyFloat.maxFloatInt ≤ tr → ∃ e, summaryStage cs = .error e ∧ e.cls = .overflowError)) ∧
    ((∃ z ∈ [ti, tout, tr, tc, ti + tout], intFitsStr z = false) →
      summaryStage cs = .error .intToStrLimit) := by
  simp only [summaryStage, hi, ho, hr, hc, ok_bind, PyNum.add, formatGrouped?_int, ite_ok_bind]
  refine ⟨fun hfit => ?_, fun ⟨z, hz, hf⟩ => ?_⟩
  · simp only [List.mem_cons, List.mem_singleton, List.not_mem_nil, or_false, forall_eq_or_imp,
      forall_eq] at hfit
    simp only [hfit, if_true]
    -- `total_input or 1`
    have hd : (if (PyNum.int ti).truthy then PyNum.int ti else .int 1) =
        .int (if ti = 0 then 1 else ti) := by
      by_cases h : ti = 0 <;> simp [PyNum.truthy, h]
    have hd0 : (if ti = 0 then 1 else ti) ≠ 0 := by split_ifs <;> omega
    have hd1 := Int.natAbs_pos.mpr hd0
    obtain ⟨y, hy⟩ := PyNum.toFloat?_int_ok (z := 100) (by decide)
    simp only [PyNum.isPos, hd]
    by_cases hpos : 0 < tr
    · rw [if_pos (decide_eq_true hpos)]
      constructor
      · intro hlt
        obtain ⟨x, hx⟩ := PyNum.trueDiv_int_ok (a := tr) hd0
          (Nat.lt_of_lt_of_le (by omega) (Nat.le_mul_of_pos_left _ hd1))
        obtain ⟨w, hw⟩ := PyNum.toFloat?_int_ok (z := tr) (by omega)
        simp [hx, PyNum.mul_float_int, hy, PyNum.mul_int_float, hw]
      · intro hge
        by_cases hq : tr.natAbs < (if ti = 0 then 1 else ti).natAbs * PyFloat.maxFloatInt
        · obtain ⟨x, hx⟩ := PyNum.trueDiv_int_ok hd0 hq
          refine ⟨PyNum.tooLarge, ?_, rfl⟩
          simp [hx, PyNum.mul_float_int, hy, PyNum.mul_int_float,
            PyNum.toFloat?_int_error (z := tr) (by omega)]
        · exact ⟨⟨.overflowError, lit "integer division result too large for a float"⟩,
            by simp [PyNum.trueDiv_int_error hd0 (Nat.le_of_not_lt hq)], rfl⟩
    · have : (0 : Int) < PyFloat.maxFloatInt := by decide
      rw [if_neg (by simpa using hpos)]
      exact ⟨fun _ => rfl, fun h => absurd h (by omega)⟩
  · simp only [List.mem_cons, List.mem_singleton, List.not_mem_nil, or_false] at hz
    rcases hz with rfl | rfl | rfl | rfl | rfl <;> simp [hf]

/-! ## Counters that cannot be added -/

/-- A counter the summary cannot add: a `usage` that is present and not a dict (it has no
`get`), or a counter that is present and not a number. -/
def counterMalformed (c : Conversation) (name : String) : Bool :=
  match usageCounter c name with
  | .ok v => v.num?.isNone
  | .error _ => true

/-- **One malformed counter makes its total raise**, wherever it stands. -/
lemma usageTotal_malformed {cs : List Conversation} {name : String}
    (h : ∃ c ∈ cs, counterMalformed c name) : (usageTotal cs name).isOk = false := by
  unfold usageTotal
  generalize PyNum.int 0 = acc
  induction cs generalizing acc with
  | nil => simp at h
  | cons c cs ih =>
    rw [List.foldlM_cons]
    cases hu : usageCounter c name with
    | error e => rfl
    | ok v =>
      cases hs : sumStep acc v with
      | error e => simp [hs]
      | ok acc' =>
        simp only [ok_bind, hs]
        obtain ⟨c', hc', hm⟩ := h
        rcases List.mem_cons.mp hc' with rfl | hc'
        · simp only [counterMalformed, hu, Option.isNone_iff_eq_none] at hm
          simp [sumStep, hm] at hs
        · exact ih ⟨c', hc', hm⟩ acc'

/-- The stage completes only if all four totals do. -/
lemma usageTotal_isOk_of_summaryStage {cs : List Conversation}
    (h : (summaryStage cs).isOk = true) :
    ∀ name ∈ usageNames, (usageTotal cs name).isOk = true := by
  simp only [summaryStage, isOk_bind] at h
  obtain ⟨_, hi, _, ho, _, hr, _, hc, -⟩ := h
  simp [usageNames, hi, ho, hr, hc]

/-! ## The summary -/

/-- The five numbers lines 273–277 print for `m`, read exactly: the four totals and
`total_input + total_output`. -/
def printedTotals (m : Conversations) : List Int :=
  [completeTotal m "input_tokens", completeTotal m "output_tokens",
    completeTotal m "cache_read_input_tokens", completeTotal m "cache_creation_input_tokens",
    completeTotal m "input_tokens" + completeTotal m "output_tokens"]

/-- **The summary stage, on the complete conversations of any map.**  When every counter is
exact, the four totals are their integer sums.  If a printed number has more than
`maxStrDigits` digits the stage raises `ValueError`; otherwise it returns the totals iff
`total_cache_read` is below `2 ^ 1024 - 2 ^ 970`, and raises `OverflowError` from there on.  When
some complete conversation has a `usage` that is not a dict or a counter that is not a number,
it raises. -/
theorem summary_totals (m : Conversations) :
    (ExactUsage m →
      ((∀ z ∈ printedTotals m, intFitsStr z = true) →
        (completeTotal m "cache_read_input_tokens" < PyFloat.maxFloatInt →
          summarize m = .ok ⟨.int (completeTotal m "input_tokens"),
            .int (completeTotal m "output_tokens"), .int (completeTotal m "cache_read_input_tokens"),
            .int (completeTotal m "cache_creation_input_tokens")⟩) ∧
        (PyFloat.maxFloatInt ≤ completeTotal m "cache_read_input_tokens" →
          ∃ e, summarize m = .error e ∧ e.cls = .overflowError)) ∧
      ((∃ z ∈ printedTotals m, intFitsStr z = false) → summarize m = .error .intToStrLimit)) ∧
    ((∃ p ∈ completeConversations m, ∃ name ∈ usageNames, counterMalformed p.2 name = true) →
      (summarize m).isOk = false) := by
  refine ⟨fun hexact => ?_, ?_⟩
  · have total : ∀ name ∈ usageNames, usageTotal ((completeConversations m).map Prod.snd) name =
        .ok (.int (completeTotal m name)) := fun name hname =>
      usageTotal_exact _ name fun c hc => by
        obtain ⟨p, hp, rfl⟩ := List.mem_map.mp hc
        exact hexact p hp name hname
    exact summaryStage_ints (total _ (by simp [usageNames])) (total _ (by simp [usageNames]))
      (total _ (by simp [usageNames])) (total _ (by simp [usageNames]))
  · rintro ⟨p, hp, name, hname, hm⟩
    have := usageTotal_malformed ⟨p.2, List.mem_map_of_mem Prod.snd hp, hm⟩
    cases hs : (summarize m).isOk
    · rfl
    · simp [usageTotal_isOk_of_summaryStage hs name hname] at this

/-- A request for id `1`, and a non-streaming response to it with body `body`. -/
def exchangeLog (body : String) : List PyStr :=
  [logLine [("event_type", strVal "request_body"), ("body", strVal "\x7b\x7d")]
      [("request_id", .int 1)],
   logLine [("event_type", strVal "response_body"), ("body", strVal body)] [("request_id", .int 1)]]

set_option maxRecDepth 100000 in
/-- `"usage": null` and a string counter make the summary raise. -/
theorem malformed_usage_raises :
    (collectConversations (exchangeLog "\x7b\"usage\": null\x7d") >>= summarize) =
      .error (.noAttr .none "get") ∧
    (collectConversations (exchangeLog "\x7b\"usage\": \x7b\"input_tokens\": \"5\"\x7d\x7d") >>=
      summarize) = .error ⟨.typeError, lit "unsupported operand type(s) for +: 'int' and 'str'"⟩ := by
  decide

end GatewayLogs
