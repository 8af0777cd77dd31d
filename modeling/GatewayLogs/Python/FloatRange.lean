import GatewayLogs.Python.Arith

/-!
# Where a `float` overflows

On the paths the scripts take, an exact number becomes a double in two places: `float(int)`,
when an `int` meets a `float` in `+` or `*`, and the true division of two `int`s.  Both round
first and raise `OverflowError` only when the rounded value is infinite.  So the threshold is not
the largest double `(2 ^ 53 - 1) · 2 ^ 971` but the midpoint between it and `2 ^ 1024`,
`2 ^ 1024 - 2 ^ 970`: its mantissa `2 ^ 53 - 1` is odd, so the tie rounds up, to infinity.

* `floorLog2_spec` — `floorLog2` finds the binade, so `roundIndex` scales to a 53-bit mantissa;
* **`roundIndex_lt_infIndex_iff`** — `a / b` units round to a finite double iff
  `a < b · overflowUnits`, the midpoint in units;
* **`ofInt?_isSome_iff`** — `float(z)` succeeds iff `|z| < maxFloatInt = 2 ^ 1024 - 2 ^ 970`;
* `PyNum.toFloat?_int_ok`, `PyNum.trueDiv_int_ok` and their `_error` twins — the same bounds
  for the Python operations.
-/

namespace GatewayLogs

namespace PyFloat

/-! ## The binade -/

lemma floorLog2_bits_spec : ∀ (fuel m : Nat), 0 < m → m < 2 ^ fuel →
    2 ^ floorLog2.bits fuel m ≤ m ∧ m < 2 ^ (floorLog2.bits fuel m + 1)
  | 0, m, h0, h1 => by simp at h1; omega
  | fuel + 1, m, h0, h1 => by
    unfold floorLog2.bits
    split_ifs with hm
    · simp; omega
    · have hs : m >>> 1 = m / 2 := by simp [Nat.shiftRight_eq_div_pow]
      rw [Nat.pow_succ] at h1
      obtain ⟨ih1, ih2⟩ := floorLog2_bits_spec fuel (m >>> 1) (by omega) (by omega)
      simp only [hs, Nat.pow_succ] at ih1 ih2 ⊢
      constructor <;> omega

lemma floorLog2_chunks_spec : ∀ (fuel m acc : Nat), 0 < m → m < 2 ^ (64 * (fuel + 1)) →
    ∃ L, floorLog2.chunks fuel m acc = acc + L ∧ 2 ^ L ≤ m ∧ m < 2 ^ (L + 1)
  | 0, m, acc, h0, h1 => ⟨_, rfl, floorLog2_bits_spec 64 m h0 h1⟩
  | fuel + 1, m, acc, h0, h1 => by
    unfold floorLog2.chunks
    have h64 : 0 < 2 ^ 64 := Nat.two_pow_pos 64
    rw [show m >>> 64 = m / 2 ^ 64 by simp [Nat.shiftRight_eq_div_pow]]
    split_ifs with hm
    · exact ⟨_, rfl, floorLog2_bits_spec 64 m h0 (by omega)⟩
    · have hlt : m / 2 ^ 64 < 2 ^ (64 * (fuel + 1)) := by
        rw [Nat.div_lt_iff_lt_mul h64, ← Nat.pow_add]
        rwa [show 64 * (fuel + 1) + 64 = 64 * (fuel + 1 + 1) by omega]
      obtain ⟨L, hL, h2, h3⟩ :=
        floorLog2_chunks_spec fuel (m / 2 ^ 64) (acc + 64) (by omega) hlt
      refine ⟨L + 64, by rw [hL]; omega, ?_, ?_⟩
      · calc 2 ^ (L + 64) = 2 ^ L * 2 ^ 64 := Nat.pow_add 2 L 64
          _ ≤ m / 2 ^ 64 * 2 ^ 64 := Nat.mul_le_mul_right _ h2
          _ ≤ m := Nat.div_mul_le_self m _
      · calc m < 2 ^ 64 * (m / 2 ^ 64 + 1) := Nat.lt_mul_div_succ m h64
          _ ≤ 2 ^ 64 * 2 ^ (L + 1) := Nat.mul_le_mul_left _ h3
          _ = 2 ^ (L + 64 + 1) := by rw [← Nat.pow_add]; congr 1; omega

/-- **`floorLog2` is `⌊log2 n⌋`**: `n` lies in the binade `[2 ^ L, 2 ^ (L + 1))`. -/
lemma floorLog2_spec {n : Nat} (hn : 0 < n) :
    2 ^ floorLog2 n ≤ n ∧ n < 2 ^ (floorLog2 n + 1) := by
  obtain ⟨L, hL, h1, h2⟩ := floorLog2_chunks_spec n n 0 hn
    (Nat.lt_of_lt_of_le (Nat.lt_two_pow n) (Nat.pow_le_pow_right (by omega) (by omega)))
  unfold floorLog2
  rw [hL, Nat.zero_add]
  exact ⟨h1, h2⟩

/-! ## Rounding at the top -/

lemma rne_cases (a b : Nat) : rne a b = a / b ∨ rne a b = a / b + 1 := by
  unfold rne; split_ifs <;> simp

lemma rne_eq_div_iff (a b : Nat) :
    rne a b = a / b ↔ 2 * (a % b) < b ∨ (2 * (a % b) = b ∧ a / b % 2 = 0) := by
  unfold rne; split_ifs <;> omega

/-- **A mantissa stays below `2 ^ 53` iff `a / B < 2 ^ 53 - 1/2`**: at the midpoint the lower
neighbour `2 ^ 53 - 1` is odd, so the tie rounds up. -/
lemma rne_lt_two_pow53_iff {a B : Nat} (hB : 0 < B) :
    rne a B < 2 ^ 53 ↔ 2 * a < B * (2 ^ 54 - 1) := by
  -- `omega` is kept away from the large coefficients: `M` stands for `2 ^ 53 - 1`
  obtain ⟨M, hM, hodd⟩ : ∃ M, 2 ^ 53 = M + 1 ∧ M % 2 = 1 := ⟨2 ^ 53 - 1, rfl, rfl⟩
  rw [hM, show B * (2 ^ 54 - 1) = 2 * (B * M) + B by
    rw [show 2 ^ 54 - 1 = 2 * M + 1 by omega, Nat.mul_add, Nat.mul_one, Nat.mul_left_comm]]
  have hdm := Nat.div_add_mod a B
  have hmod := Nat.mod_lt a hB
  have hr := rne_cases a B
  have he := rne_eq_div_iff a B
  generalize a / B = q at hdm hr he
  generalize a % B = r at hdm hmod he
  rcases Nat.lt_trichotomy q M with hlt | rfl | hgt
  · have := Nat.mul_le_mul_left B (Nat.succ_le_of_lt hlt)
    rw [Nat.mul_succ] at this
    omega
  · omega
  · have := Nat.mul_le_mul_left B (Nat.succ_le_of_lt hgt)
    rw [Nat.mul_succ] at this
    omega

/-- The index `(s + 1) · 2 ^ 52 + (m - 2 ^ 52)` of a mantissa `m ∈ [2 ^ 52, 2 ^ 53]` in the
`s`-th normal binade is finite iff the binade is below the top one, or is the top one and the
mantissa did not carry. -/
lemma binadeIndex_lt_infIndex_iff {s m : Nat} (h1 : 2 ^ 52 ≤ m) (h2 : m ≤ 2 ^ 53) :
    (s + 1) * 2 ^ 52 + (m - 2 ^ 52) < infIndex ↔ s < 2045 ∨ (s = 2045 ∧ m < 2 ^ 53) := by
  rw [show infIndex = 2047 * 2 ^ 52 from rfl, show (2 : Nat) ^ 53 = 2 * 2 ^ 52 from rfl] at *
  have hP : 0 < 2 ^ 52 := Nat.two_pow_pos 52
  generalize (2 : Nat) ^ 52 = P at *
  rcases Nat.lt_trichotomy s 2045 with hs | rfl | hs
  · have := Nat.mul_le_mul_right P (show s + 1 ≤ 2045 by omega)
    omega
  · omega
  · have := Nat.mul_le_mul_right P (show 2047 ≤ s + 1 by omega)
    omega

/-! ## The overflow threshold

The threshold is `2 ^ 2044` units times an odd 54-bit number; the few proofs that compare
against it let Lean evaluate powers up to `2 ^ 2100`. -/

/-- `2 ^ 1024 - 2 ^ 970` in units of `2 ^ -1074`: halfway between the largest double and
`2 ^ 1024`. -/
def overflowUnits : Nat := ((1 <<< 54) - 1) <<< 2044

/-- `2 ^ 1024 - 2 ^ 970`, the least `int` that `float()` rejects. -/
def maxFloatInt : Nat := (1 <<< 1024) - (1 <<< 970)

set_option maxRecDepth 100000 in
lemma overflowUnits_eq : overflowUnits = maxFloatInt * unitScale := by decide

lemma unitScale_pos : 0 < unitScale := by decide

set_option exponentiation.threshold 2100 in
lemma overflowUnits_eq_pow : overflowUnits = 2 ^ 2044 * (2 ^ 54 - 1) := by
  rw [overflowUnits, Nat.shiftLeft_eq, Nat.one_shiftLeft, Nat.mul_comm]

set_option exponentiation.threshold 2100 in
/-- **A quotient in the `s`-th normal binade rounds to a finite double iff it is below the
threshold.** -/
lemma normalIndex_lt_infIndex_iff {a b s : Nat} (hb : 0 < b)
    (hm1 : 2 ^ 52 ≤ a / (b * 2 ^ s)) (hm2 : a / (b * 2 ^ s) < 2 ^ 53) :
    (s + 1) * 2 ^ 52 + (rne a (b * 2 ^ s) - 2 ^ 52) < infIndex ↔ a < b * overflowUnits := by
  have hB := Nat.mul_pos hb (Nat.two_pow_pos s)
  have hr := rne_cases a (b * 2 ^ s)
  rw [binadeIndex_lt_infIndex_iff (by omega) (by omega), overflowUnits_eq_pow, ← Nat.mul_assoc]
  rcases Nat.lt_trichotomy s 2045 with hs | rfl | hs
  · -- below the top binade: finite, and under `2 ^ 2097` units
    refine iff_of_true (.inl hs) ?_
    calc a < 2 ^ 53 * (b * 2 ^ s) := (Nat.div_lt_iff_lt_mul hB).mp hm2
      _ ≤ 2 ^ 53 * (b * 2 ^ 2044) :=
        Nat.mul_le_mul_left _ (Nat.mul_le_mul_left _ (Nat.pow_le_pow_right (by omega) (by omega)))
      _ ≤ (2 ^ 54 - 1) * (b * 2 ^ 2044) := Nat.mul_le_mul_right _ (by omega)
      _ = b * 2 ^ 2044 * (2 ^ 54 - 1) := Nat.mul_comm _ _
  · -- the top binade: the tie at the midpoint rounds up
    rw [rne_lt_two_pow53_iff hB, show b * 2 ^ 2045 = 2 * (b * 2 ^ 2044) by
      rw [Nat.pow_succ]; ac_rfl, Nat.mul_assoc 2, Nat.mul_lt_mul_left (by omega)]
    simp only [Nat.lt_irrefl, false_or, true_and]
  · -- above it: infinite, and at least `2 ^ 2098` units
    refine iff_of_false (by omega) (Nat.not_lt.mpr ?_)
    calc b * 2 ^ 2044 * (2 ^ 54 - 1) ≤ b * 2 ^ 2044 * 2 ^ 54 :=
          Nat.mul_le_mul_left _ (Nat.sub_le _ _)
      _ = b * 2 ^ (2044 + 54) := by rw [Nat.mul_assoc, ← Nat.pow_add]
      _ ≤ b * 2 ^ (s + 52) := Nat.mul_le_mul_left _ (Nat.pow_le_pow_right (by omega) (by omega))
      _ = 2 ^ 52 * (b * 2 ^ s) := by rw [Nat.pow_add]; ac_rfl
      _ ≤ a := (Nat.le_div_iff_mul_le hB).mp hm1

/-- **Rounding overflows exactly at the midpoint**: `a / b` units round to a finite double iff
`a < b · overflowUnits`. -/
theorem roundIndex_lt_infIndex_iff {a b : Nat} (hb : 0 < b) :
    roundIndex a b < infIndex ↔ a < b * overflowUnits := by
  unfold roundIndex
  split_ifs with hq
  · -- under `2 ^ 52` units: spaced one unit apart, and finite
    have := rne_cases a b
    have : 2 ^ 52 < infIndex := by decide
    refine iff_of_true (by omega) ?_
    calc a < b * (a / b + 1) := Nat.lt_mul_div_succ a hb
      _ ≤ b * overflowUnits :=
        Nat.mul_le_mul_left _ (Nat.le_trans (by omega) (by decide : 2 ^ 52 ≤ overflowUnits))
  · obtain ⟨hL1, hL2⟩ := floorLog2_spec (n := a / b) (by omega)
    generalize floorLog2 (a / b) = L at hL1 hL2 ⊢
    have hL : 52 ≤ L := by
      by_contra hlt
      have : 2 ^ (L + 1) ≤ 2 ^ 52 := Nat.pow_le_pow_right (by omega) (by omega)
      omega
    obtain ⟨s, rfl⟩ : ∃ s, L = s + 52 := ⟨L - 52, by omega⟩
    rw [show s + 52 - 52 = s by omega, show s + 52 - 51 = s + 1 by omega, Nat.shiftLeft_eq]
    have hdd : a / (b * 2 ^ s) = a / b / 2 ^ s := (Nat.div_div_eq_div_mul a b _).symm
    apply normalIndex_lt_infIndex_iff hb
    · rw [hdd, Nat.le_div_iff_mul_le (Nat.two_pow_pos s), ← Nat.pow_add, Nat.add_comm]
      exact hL1
    · rw [hdd, Nat.div_lt_iff_lt_mul (Nat.two_pow_pos s), ← Nat.pow_add]
      rwa [show 53 + s = s + 52 + 1 by omega]

/-- `ofRatio` is finite below the threshold and infinite from it on. -/
lemma ofRatio_cases (neg : Bool) {a b : Nat} (hb : 0 < b) :
    (a < b * overflowUnits ∧ ∃ n, ofRatio neg a b = fin neg n) ∨
    (b * overflowUnits ≤ a ∧ ofRatio neg a b = inf neg) := by
  unfold ofRatio
  split_ifs with h
  · exact .inl ⟨(roundIndex_lt_infIndex_iff hb).mp h, _, rfl⟩
  · exact .inr ⟨Nat.le_of_not_lt fun h' => h ((roundIndex_lt_infIndex_iff hb).mpr h'), rfl⟩

lemma mul_unitScale_lt_iff (x y : Nat) :
    x * unitScale < y * overflowUnits ↔ x < y * maxFloatInt := by
  rw [overflowUnits_eq, ← Nat.mul_assoc, Nat.mul_lt_mul_right unitScale_pos]

/-- **`float(z)` succeeds iff `|z| < 2 ^ 1024 - 2 ^ 970`.** -/
theorem ofInt?_isSome_iff (z : Int) : (ofInt? z).isSome ↔ z.natAbs < maxFloatInt := by
  rw [← Nat.one_mul maxFloatInt, ← mul_unitScale_lt_iff]
  unfold ofInt?
  rcases ofRatio_cases (decide (z < 0)) (a := z.natAbs * unitScale) Nat.one_pos with
    ⟨h, n, hn⟩ | ⟨h, hn⟩ <;> rw [hn] <;> simp <;> omega

end PyFloat

namespace PyNum

open PyFloat

/-- `float(z)` of an `int` below the threshold is a float. -/
lemma toFloat?_int_ok {z : Int} (h : z.natAbs < maxFloatInt) :
    ∃ x, (int z).toFloat? = .ok x := by
  obtain ⟨x, hx⟩ := Option.isSome_iff_exists.mp ((ofInt?_isSome_iff z).mpr h)
  exact ⟨x, by simp [toFloat?, hx]⟩

/-- From the threshold on, `float(z)` raises `OverflowError: int too large to convert to
float`. -/
lemma toFloat?_int_error {z : Int} (h : maxFloatInt ≤ z.natAbs) :
    (int z).toFloat? = .error tooLarge := by
  have : ofInt? z = none := Option.not_isSome_iff_eq_none.mp fun hs => by
    rw [ofInt?_isSome_iff] at hs; omega
  simp [toFloat?, this]

/-- `x * z` for a float `x` converts the `int` `z` first. -/
lemma mul_float_int (x : PyFloat) (z : Int) :
    (float x).mul (int z) = (int z).toFloat?.map fun y => float (x.mul y) := by
  simp only [mul, toFloat?]
  cases ofInt? z <;> rfl

/-- `z * x` for a float `x` converts the `int` `z` first. -/
lemma mul_int_float (z : Int) (x : PyFloat) :
    (int z).mul (float x) = (int z).toFloat?.map fun y => float (y.mul x) := by
  simp only [mul, toFloat?]
  cases ofInt? z <;> rfl

/-- **`a / b` between `int`s is a float when `|a / b| < 2 ^ 1024 - 2 ^ 970`.** -/
lemma trueDiv_int_ok {a b : Int} (hb : b ≠ 0) (h : a.natAbs < b.natAbs * maxFloatInt) :
    ∃ x, (int a).trueDiv (int b) = .ok (float x) := by
  rw [← mul_unitScale_lt_iff] at h
  rcases ofRatio_cases (decide (a < 0) != decide (b < 0)) (a := a.natAbs * unitScale)
    (Int.natAbs_pos.mpr hb) with ⟨-, n, hn⟩ | ⟨h', -⟩
  · exact ⟨fin (decide (a < 0) != decide (b < 0)) n, by simp [trueDiv, hb, hn]⟩
  · omega

/-- From the threshold on, `a / b` between `int`s raises `OverflowError`. -/
lemma trueDiv_int_error {a b : Int} (hb : b ≠ 0) (h : b.natAbs * maxFloatInt ≤ a.natAbs) :
    (int a).trueDiv (int b) =
      .error ⟨.overflowError, lit "integer division result too large for a float"⟩ := by
  rw [← Nat.not_lt, ← mul_unitScale_lt_iff, Nat.not_lt] at h
  rcases ofRatio_cases (decide (a < 0) != decide (b < 0)) (a := a.natAbs * unitScale)
    (Int.natAbs_pos.mpr hb) with ⟨h', -⟩ | ⟨-, hn⟩
  · omega
  · simp [trueDiv, hb, hn]

end PyNum

end GatewayLogs
