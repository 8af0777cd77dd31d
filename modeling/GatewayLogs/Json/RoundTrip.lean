import GatewayLogs.Json.Loads
import GatewayLogs.Json.Dumps
import GatewayLogs.Loop
import Mathlib.Data.Nat.Digits

/-!
# `json.loads` reads back `json.dumps`

The record lines, request bodies and event payloads the scripts decode were written by
`json.dumps`.  This module proves that the decoder model reads such text back: for every value
with no float, whose strings hold no high surrogate directly before a low one and whose dicts
have distinct string keys (`PyVal.reloadable`), and whose nesting fits the recursion budget of
the call of `json.loads`, `json.loads(json.dumps(v)) == v` whenever `json.dumps(v)` returns
(**`loadsStr_dumps`**).

The conditions are the decoder's, not the proof's.  An `int` past the digit limit makes
`json.dumps` raise, and a nesting deeper than the budget makes `json.loads` raise
`RecursionError`.  `json.dumps` writes a high and a low
surrogate as two `\uXXXX` escapes, which `scanstring` joins into one astral character; and it
writes every key, so a repeated key comes back once, with the last value.  Floats are written by
`repr`, whose inversion by the correctly rounded decimal reader is a fact about binary64 that
this model does not prove.

The proof follows the scanner, a lemma per token saying what it returns on `token ++ rest`:

* `scanString_escapeChar` — one escaped character, including the lookahead after a high
  surrogate; `scanString_encode` — a whole string literal.
* `matchNumber_intRepr` — an `int`, up to a character that cannot continue a number.
* `scanOnce_dumps` — a value, with `(dumps v).length` as fuel and `v.depth` as recursion
  budget, mutually with the array and object loops over `joinComma`.
-/

namespace GatewayLogs

namespace Json

/-- No high surrogate directly followed by a low one. -/
def noSurrogatePair : PyStr → Bool
  | c :: d :: s => !(isHighSurrogate c.val && isLowSurrogate d.val) && noSurrogatePair (d :: s)
  | _ => true

end Json

mutual
/-- **The values `json.loads` reads back from `json.dumps`**: no float, no string with a
surrogate pair, and dicts whose keys are such strings, each once. -/
def PyVal.reloadable : PyVal → Bool
  | .float _ => false
  | .str s => Json.noSurrogatePair s
  | .list xs => PyVal.reloadableList xs
  | .dict kvs => PyVal.reloadableDict kvs
  | _ => true
/-- `reloadable` of every item. -/
def PyVal.reloadableList : List PyVal → Bool
  | [] => true
  | x :: xs => x.reloadable && PyVal.reloadableList xs
/-- String keys without a surrogate pair, none repeated later, over reloadable values. -/
def PyVal.reloadableDict : List (PyVal × PyVal) → Bool
  | [] => true
  | (k, v) :: kvs =>
    (match k with
      | .str s => Json.noSurrogatePair s
      | _ => false) &&
    kvs.all (fun kv => kv.1 != k) && v.reloadable && PyVal.reloadableDict kvs
end

mutual
/-- The nesting of objects and arrays in a value: the recursion budget the scanner needs to
read it. -/
def PyVal.depth : PyVal → Nat
  | .list xs => PyVal.depthList xs + 1
  | .dict kvs => PyVal.depthDict kvs + 1
  | _ => 0
/-- The deepest item. -/
def PyVal.depthList : List PyVal → Nat
  | [] => 0
  | x :: xs => max x.depth (PyVal.depthList xs)
/-- The deepest value. -/
def PyVal.depthDict : List (PyVal × PyVal) → Nat
  | [] => 0
  | (_, v) :: kvs => max v.depth (PyVal.depthDict kvs)
end

namespace Json

/-! ## Escapes -/

lemma hexVal?_hexDigit : ∀ d < 16,
    hexVal? (PyChar.ofNat (if d < 10 then 48 + d else 87 + d)) = some d := by
  decide

lemma hex4?_hex4 {n : Nat} (h : n < 0x10000) :
    ∃ a b c d, hex4 n = [a, b, c, d] ∧ hex4? a b c d = some n := by
  refine ⟨_, _, _, _, rfl, ?_⟩
  simp only [hex4?, hexVal?_hexDigit _ (Nat.mod_lt _ (by decide : 16 > 0)), Option.bind_eq_bind,
    Option.some_bind]
  congr 1
  omega

lemma ofNat_val (c : PyChar) : PyChar.ofNat c.val = c :=
  Fin.ext (Nat.mod_eq_of_lt c.isLt)

lemma lit_backslash_u : lit "\\u" = [PyChar.ofChar '\\', PyChar.ofChar 'u'] := rfl

/-- **What `encode_basestring_ascii` writes for one character**: a two-character escape, the
character itself, one `\uXXXX`, or two of them for a character beyond the basic plane. -/
lemma escapeChar_cases (c : PyChar) :
    (∃ e, escapeChar c = [PyChar.ofChar '\\', e] ∧ simpleEscape? e = some c ∧ e ≠ 'u') ∨
    (escapeChar c = [c] ∧ c ≠ '"' ∧ c ≠ '\\' ∧ 0x1f < c.val) ∨
    (c.val < 0x10000 ∧ escapeChar c = uEscape c.val) ∨
    (0x10000 ≤ c.val ∧ escapeChar c = uEscape (0xD800 + (c.val - 0x10000) / 0x400) ++
      uEscape (0xDC00 + (c.val - 0x10000) % 0x400)) := by
  by_cases h1 : c = '"'
  · subst h1; exact .inl ⟨'"', rfl, rfl, by decide⟩
  by_cases h2 : c = '\\'
  · subst h2; exact .inl ⟨'\\', rfl, rfl, by decide⟩
  have hv : ∀ n, c.val = n → c = PyChar.ofNat n := fun n h => by rw [← h, ofNat_val]
  by_cases h3 : c.val = 8
  · rw [hv 8 h3]; exact .inl ⟨'b', rfl, rfl, by decide⟩
  by_cases h4 : c.val = 12
  · rw [hv 12 h4]; exact .inl ⟨'f', rfl, rfl, by decide⟩
  by_cases h5 : c = '\n'
  · subst h5; exact .inl ⟨'n', rfl, rfl, by decide⟩
  by_cases h6 : c = '\r'
  · subst h6; exact .inl ⟨'r', rfl, rfl, by decide⟩
  by_cases h7 : c = '\t'
  · subst h7; exact .inl ⟨'t', rfl, rfl, by decide⟩
  right
  rw [escapeChar, if_neg h1, if_neg h2, if_neg h3, if_neg h4, if_neg h5, if_neg h6, if_neg h7]
  split_ifs with h8 h9
  · exact .inl ⟨rfl, h1, h2, by omega⟩
  · exact .inr (.inl ⟨h9, rfl⟩)
  · exact .inr (.inr ⟨by omega, rfl⟩)

/-- The two halves `json.dumps` writes for a code point beyond the basic plane, and the code
point `scanstring` rebuilds from them. -/
lemma surrogate_halves {v : Nat} (h1 : 0x10000 ≤ v) (h2 : v < 0x110000) :
    0xD800 + (v - 0x10000) / 0x400 < 0x10000 ∧
    isHighSurrogate (0xD800 + (v - 0x10000) / 0x400) = true ∧
    0xDC00 + (v - 0x10000) % 0x400 < 0x10000 ∧
    isLowSurrogate (0xDC00 + (v - 0x10000) % 0x400) = true ∧
    isLowSurrogate (0xD800 + (v - 0x10000) / 0x400) = false ∧
    0x10000 + (0xD800 + (v - 0x10000) / 0x400 - 0xD800) * 0x400 +
      (0xDC00 + (v - 0x10000) % 0x400 - 0xDC00) = v := by
  refine ⟨by omega, ?_, by omega, ?_, ?_, by omega⟩ <;>
    simp only [isHighSurrogate, isLowSurrogate, Bool.and_eq_true, decide_eq_true_eq,
      Bool.and_eq_false_iff, decide_eq_false_iff_not] <;> omega

/-! ## `scanstring`, a character at a time

`scanString` has no usable equation lemmas (its nested match defeats their generation), so
each step below unfolds it by definition, with smart unfolding off. -/

/-- The result type of `scanString`. -/
abbrev ScanResult := Except DecodeError (PyStr × PyStr)

set_option smartUnfolding false in
lemma scanString_quote (begin acc rest : PyStr) :
    scanString begin acc ('"' :: rest) = .ok (acc.reverse, rest) := rfl

set_option smartUnfolding false in
lemma scanString_plain (begin acc : PyStr) {c : PyChar} (h1 : c ≠ '"') (h2 : c ≠ '\\')
    (h3 : 0x1f < c.val) (t : PyStr) :
    scanString begin acc (c :: t) = scanString begin (c :: acc) t := by
  show (if c = '"' then (_ : ScanResult) else if c = '\\' then (_ : ScanResult)
    else if c.val ≤ 0x1f then (_ : ScanResult) else scanString begin (c :: acc) t) = _
  rw [if_neg h1, if_neg h2, if_neg (by omega)]

set_option smartUnfolding false in
lemma scanString_short (begin acc : PyStr) {e c : PyChar} (he : simpleEscape? e = some c)
    (hu : e ≠ 'u') (t : PyStr) :
    scanString begin acc ('\\' :: e :: t) = scanString begin (c :: acc) t := by
  show (if e = 'u' then (_ : ScanResult) else match simpleEscape? e with
      | some d => scanString begin (d :: acc) t
      | none => (_ : ScanResult)) = _
  rw [if_neg hu, he]

/-- What may follow the escape of a high surrogate without being read as its low half: no
`\u`, or a `\u` escape of a code point that is not a low surrogate. -/
def NoLowEscape (t : PyStr) : Prop :=
  ∀ g1 g2 g3 g4 r rest,
    t = ('\\' : PyChar) :: ('u' : PyChar) :: g1 :: g2 :: g3 :: g4 :: r :: rest →
    ∃ lo, hex4? g1 g2 g3 g4 = some lo ∧ isLowSurrogate lo = false

set_option smartUnfolding false in
/-- A `\uXXXX` escape that is not the high half of a pair: its code point is pushed. -/
lemma scanString_u_push (begin acc : PyStr) {a b c d : PyChar} {n : Nat}
    (hx : hex4? a b c d = some n) {t : PyStr} (ht : t ≠ [])
    (hlo : isHighSurrogate n = true → NoLowEscape t) :
    scanString begin acc ('\\' :: 'u' :: a :: b :: c :: d :: t) =
      scanString begin (PyChar.ofNat n :: acc) t := by
  match t, ht with
  | [_], _ | [_, _], _ | [_, _, _], _ | [_, _, _, _], _ | [_, _, _, _, _], _
  | [_, _, _, _, _, _], _ =>
    conv_lhs => whnf
    rw [hx]
    exact rfl
  | b' :: u :: g1 :: g2 :: g3 :: g4 :: r :: rest, _ =>
    conv_lhs => whnf
    rw [hx]
    by_cases hc : isHighSurrogate n = true ∧ b' = '\\' ∧ u = 'u'
    · obtain ⟨lo, hg, hnl⟩ := hlo hc.1 g1 g2 g3 g4 r rest (by rw [hc.2.1, hc.2.2])
      show (if isHighSurrogate n = true ∧ b' = '\\' ∧ u = 'u' then (_ : ScanResult)
        else (_ : ScanResult)) = _
      rw [if_pos hc, hg]
      show (if isLowSurrogate lo = true then (_ : ScanResult) else scanString begin
        (PyChar.ofNat n :: acc) (b' :: u :: g1 :: g2 :: g3 :: g4 :: r :: rest)) = _
      rw [if_neg (by rw [hnl]; decide)]
    · show (if isHighSurrogate n = true ∧ b' = '\\' ∧ u = 'u' then (_ : ScanResult) else
        scanString begin (PyChar.ofNat n :: acc) (b' :: u :: g1 :: g2 :: g3 :: g4 :: r :: rest)) = _
      rw [if_neg hc]

set_option smartUnfolding false in
/-- A high and a low surrogate escape, followed by a character: one code point is pushed. -/
lemma scanString_u_pair (begin acc : PyStr) {a b c d g1 g2 g3 g4 : PyChar} {hi lo : Nat}
    (hx : hex4? a b c d = some hi) (hhi : isHighSurrogate hi = true)
    (hg : hex4? g1 g2 g3 g4 = some lo) (hlo : isLowSurrogate lo = true) (r : PyChar)
    (rest : PyStr) :
    scanString begin acc
        ('\\' :: 'u' :: a :: b :: c :: d :: '\\' :: 'u' :: g1 :: g2 :: g3 :: g4 :: r :: rest) =
      scanString begin
        (PyChar.ofNat (0x10000 + (hi - 0xD800) * 0x400 + (lo - 0xDC00)) :: acc) (r :: rest) := by
  conv_lhs => whnf
  rw [hx]
  show (if isHighSurrogate hi = true ∧ ('\\' : PyChar) = '\\' ∧ ('u' : PyChar) = 'u'
    then (_ : ScanResult) else (_ : ScanResult)) = _
  rw [if_pos ⟨hhi, rfl, rfl⟩, hg]
  show (if isLowSurrogate lo = true then scanString begin
    (PyChar.ofNat (0x10000 + (hi - 0xD800) * 0x400 + (lo - 0xDC00)) :: acc) (r :: rest)
    else (_ : ScanResult)) = _
  rw [if_pos hlo]

/-- **One character of a string literal**: `scanstring` reads back what `escapeChar` wrote,
provided some character follows and, after a high surrogate, no low surrogate's escape. -/
lemma scanString_escapeChar (begin acc : PyStr) (c : PyChar) {t : PyStr} (ht : t ≠ [])
    (hlo : isHighSurrogate c.val = true → NoLowEscape t) :
    scanString begin acc (escapeChar c ++ t) = scanString begin (c :: acc) t := by
  rcases escapeChar_cases c with ⟨e, he, hs, hu⟩ | ⟨he, h1, h2, h3⟩ | ⟨hlt, he⟩ | ⟨hge, he⟩
  · rw [he]
    exact scanString_short begin acc hs hu t
  · rw [he]
    exact scanString_plain begin acc h1 h2 h3 t
  · obtain ⟨a, b, c', d, hh, hx⟩ := hex4?_hex4 hlt
    rw [he, uEscape, hh, ← ofNat_val c]
    exact scanString_u_push begin acc hx ht hlo
  · obtain ⟨hhi, hhi', hlo', hlo'', -, hv⟩ := surrogate_halves hge c.isLt
    obtain ⟨a, b, c', d, hh, hx⟩ := hex4?_hex4 hhi
    obtain ⟨g1, g2, g3, g4, hg, hgx⟩ := hex4?_hex4 hlo'
    obtain ⟨r, rest, rfl⟩ := List.exists_cons_of_ne_nil ht
    rw [he, uEscape, uEscape, hh, hg]
    refine (scanString_u_pair begin acc hx hhi' hgx hlo'' r rest).trans ?_
    rw [hv, ofNat_val]

lemma noLowEscape_quote (rest : PyStr) : NoLowEscape (('"' : PyChar) :: rest) :=
  fun _ _ _ _ _ _ h => absurd (List.cons.inj h).1 (by decide)

/-- The escape of a character that is not a low surrogate is never read as a low half. -/
lemma noLowEscape_escapeChar {d : PyChar} (hd : isLowSurrogate d.val = false) (t : PyStr) :
    NoLowEscape (escapeChar d ++ t) := by
  intro g1 g2 g3 g4 r rest h
  rcases escapeChar_cases d with ⟨e, he, -, hu⟩ | ⟨he, -, h2, -⟩ | ⟨hlt, he⟩ | ⟨hge, he⟩
  · rw [he] at h
    exact absurd (List.cons.inj (List.cons.inj h).2).1 hu
  · rw [he] at h
    exact absurd (List.cons.inj h).1 h2
  · obtain ⟨a, b, c', d', hh, hx⟩ := hex4?_hex4 hlt
    rw [he, uEscape, hh, lit_backslash_u] at h
    simp only [List.cons_append, List.nil_append, List.cons.injEq] at h
    obtain ⟨-, -, rfl, rfl, rfl, rfl, -⟩ := h
    exact ⟨_, hx, hd⟩
  · obtain ⟨hhi, -, -, -, hnl, -⟩ := surrogate_halves hge d.isLt
    obtain ⟨a, b, c', d', hh, hx⟩ := hex4?_hex4 hhi
    rw [he, uEscape, hh, lit_backslash_u] at h
    simp only [List.cons_append, List.nil_append, List.append_assoc, List.cons.injEq] at h
    obtain ⟨-, -, rfl, rfl, rfl, rfl, -⟩ := h
    exact ⟨_, hx, hnl⟩

/-- **`scanstring` inverts `encode_basestring_ascii`** on a text with no surrogate pair. -/
lemma scanString_encode (begin : PyStr) : ∀ (s acc rest : PyStr), noSurrogatePair s = true →
    scanString begin acc (s.flatMap escapeChar ++ ('"' : PyChar) :: rest) =
      .ok (acc.reverse ++ s, rest)
  | [], acc, rest, _ => by simpa using scanString_quote begin acc rest
  | [c], acc, rest, _ => by
    rw [List.flatMap_cons, List.flatMap_nil, List.append_nil,
      scanString_escapeChar begin acc c (List.cons_ne_nil _ _) fun _ => noLowEscape_quote rest,
      scanString_quote]
    simp
  | c :: d :: s, acc, rest, h => by
    simp only [noSurrogatePair, Bool.and_eq_true, Bool.not_eq_true', Bool.and_eq_false_iff] at h
    rw [List.flatMap_cons, List.append_assoc, scanString_escapeChar begin acc c (by simp) ?_,
      scanString_encode begin (d :: s) (c :: acc) rest h.2]
    · simp
    · intro hc
      rw [List.flatMap_cons, List.append_assoc]
      exact noLowEscape_escapeChar (h.1.resolve_left (by rw [hc]; decide)) _


/-! ## Numbers -/

/-- What may follow a number written by `json.dumps`: nothing, or a character that cannot
continue it. -/
def NumberEnd (rest : PyStr) : Prop :=
  ∀ c t, rest = c :: t → isDigit c = false ∧ c ≠ '.' ∧ c ≠ 'e' ∧ c ≠ 'E'

lemma numberEnd_nil : NumberEnd [] := fun _ _ h => nomatch h

lemma numberEnd_cons {c : PyChar} (hc : isDigit c = false ∧ c ≠ '.' ∧ c ≠ 'e' ∧ c ≠ 'E')
    (t : PyStr) : NumberEnd (c :: t) := fun _ _ h => by
  obtain ⟨rfl, rfl⟩ := List.cons.inj h
  exact hc

lemma digitChar_spec : ∀ m < 10,
    isDigit (PyChar.ofChar (Nat.digitChar m)) = true ∧
    (PyChar.ofChar (Nat.digitChar m)).val - 48 = m ∧ (Nat.digitChar m = '0' → m = 0) := by
  decide

/-- `Nat.toDigitsCore` (unfolded by definition: its equation lemmas belong to the library)
writes digits only. -/
lemma toDigitsCore_isDigit : ∀ (f n : Nat) (ds : List Char),
    (∀ c ∈ ds, isDigit (PyChar.ofChar c) = true) →
    ∀ c ∈ Nat.toDigitsCore 10 f n ds, isDigit (PyChar.ofChar c) = true
  | 0, _, _, h => h
  | f + 1, n, ds, h => by
    have hd : ∀ c ∈ Nat.digitChar (n % 10) :: ds, isDigit (PyChar.ofChar c) = true :=
      List.forall_mem_cons.mpr ⟨(digitChar_spec _ (Nat.mod_lt _ (by decide))).1, h⟩
    show ∀ c ∈ (if n / 10 = 0 then _ else Nat.toDigitsCore 10 f (n / 10) _), _
    split
    · exact hd
    · exact toDigitsCore_isDigit f _ _ hd

lemma toDigitsCore_val : ∀ (f n : Nat) (ds : List Char), n < f →
    digitsVal ((Nat.toDigitsCore 10 f n ds).map PyChar.ofChar) =
      (ds.map PyChar.ofChar).foldl (fun n c => n * 10 + (c.val - 48)) n
  | 0, _, _, h => absurd h (Nat.not_lt_zero _)
  | f + 1, n, ds, h => by
    have hm := (digitChar_spec (n % 10) (Nat.mod_lt _ (by decide))).2.1
    show digitsVal ((if n / 10 = 0 then _ else Nat.toDigitsCore 10 f (n / 10) _).map _) = _
    split
    · simp only [digitsVal, List.map_cons, List.foldl_cons, hm]
      congr 1
      omega
    · rw [toDigitsCore_val f _ _ (by omega)]
      simp only [List.map_cons, List.foldl_cons, hm]
      congr 1
      omega

lemma toDigitsCore_head : ∀ (f n : Nat) (ds : List Char), 0 < n → n < f →
    ∃ c cs, Nat.toDigitsCore 10 f n ds = c :: cs ∧ c ≠ '0'
  | 0, _, _, _, h => absurd h (Nat.not_lt_zero _)
  | f + 1, n, ds, hn, h => by
    show ∃ c cs, (if n / 10 = 0 then _ else Nat.toDigitsCore 10 f (n / 10) _) = c :: cs ∧ c ≠ '0'
    split
    · refine ⟨_, _, rfl, fun e => ?_⟩
      have := (digitChar_spec (n % 10) (Nat.mod_lt _ (by decide))).2.2 e
      omega
    · exact toDigitsCore_head f _ _ (by omega) (by omega)

/-- **The decimal digits of `n`**: not empty, digits only, no leading zero unless `n = 0`,
and `digitsVal` reads `n` back. -/
lemma toDigits_spec (n : Nat) :
    ∃ c cs, (Nat.toDigits 10 n).map PyChar.ofChar = c :: cs ∧ isDigit c = true ∧
      (∀ x ∈ cs, isDigit x = true) ∧ (c = '0' → cs = []) ∧ digitsVal (c :: cs) = n := by
  have e : Nat.toDigits 10 n = Nat.toDigitsCore 10 (n + 1) n [] := rfl
  have hval := toDigitsCore_val (n + 1) n [] (Nat.lt_succ_self n)
  have hdig := toDigitsCore_isDigit (n + 1) n [] (fun _ h => absurd h (List.not_mem_nil _))
  rw [e]
  rcases Nat.eq_zero_or_pos n with rfl | hn
  · exact ⟨_, _, rfl, rfl, fun _ h => absurd h (List.not_mem_nil _), fun _ => rfl, rfl⟩
  · obtain ⟨c, cs, hc, h0⟩ := toDigitsCore_head (n + 1) n [] hn (Nat.lt_succ_self n)
    rw [hc] at hdig hval ⊢
    exact ⟨_, _, rfl, hdig c (List.mem_cons_self _ _),
      fun x hx => by
        obtain ⟨y, hy, rfl⟩ := List.mem_map.mp hx
        exact hdig y (List.mem_cons_of_mem _ hy),
      fun e => absurd (PyChar.ofChar_injective e) h0, hval⟩

/-- A run of `k` digits read after `a` stays below `(a + 1) * 10 ^ k`. -/
lemma foldl_digits_lt : ∀ (ds : PyStr) (a : Nat), (∀ x ∈ ds, isDigit x = true) →
    ds.foldl (fun n c => n * 10 + (c.val - 48)) a < (a + 1) * 10 ^ ds.length
  | [], a, _ => by simp
  | d :: ds, a, h => by
    obtain ⟨hd, hds⟩ := List.forall_mem_cons.mp h
    have h9 : d.val - 48 ≤ 9 := by simp only [isDigit, Bool.and_eq_true, decide_eq_true_eq] at hd; omega
    calc _ < (a * 10 + (d.val - 48) + 1) * 10 ^ ds.length := foldl_digits_lt ds _ hds
      _ ≤ (a + 1) * 10 * 10 ^ ds.length := Nat.mul_le_mul_right _ (by omega)
      _ = (a + 1) * 10 ^ (d :: ds).length := by rw [List.length_cons, pow_succ']; ring

/-- **The digit limit as a bound**: `str(z)` is within the limit exactly when
`|z| < 10 ^ 4300`. -/
lemma intFitsStr_iff (z : Int) : intFitsStr z = true ↔ z.natAbs < 10 ^ maxStrDigits := by
  obtain ⟨c, cs, hds, hc, hcs, -, hv⟩ := toDigits_spec z.natAbs
  have hlen : (Nat.toDigits 10 z.natAbs).length = (c :: cs).length := by
    rw [← hds, List.length_map]
  rw [intFitsStr, decide_eq_true_iff, hlen]
  constructor
  · intro h
    have hlt := foldl_digits_lt (c :: cs) 0 (List.forall_mem_cons.mpr ⟨hc, hcs⟩)
    rw [← hv]
    calc _ < (0 + 1) * 10 ^ (c :: cs).length := hlt
      _ ≤ 10 ^ maxStrDigits := by rw [Nat.zero_add, Nat.one_mul]; exact Nat.pow_le_pow_right (by decide) h
  · intro h
    rw [← hlen]
    exact Nat.toDigitsCore_length 10 (by decide) _ _ _ h (by decide)

lemma takeWhile_isDigit_of_numberEnd {rest : PyStr} (h : NumberEnd rest) :
    rest.takeWhile isDigit = [] ∧ rest.dropWhile isDigit = rest := by
  cases rest with
  | nil => exact ⟨rfl, rfl⟩
  | cons c t =>
    have hc := (h c t rfl).1
    simp [List.takeWhile_cons, List.dropWhile_cons, hc]

/-- **`_match_number_unicode` on the digits of an `int`**, with or without a sign, up to a
character that cannot continue a number. -/
lemma matchNumber_digits {c : PyChar} {cs rest : PyStr} (hc : isDigit c = true)
    (hcs : ∀ x ∈ cs, isDigit x = true) (h0 : c = '0' → cs = []) (hr : NumberEnd rest)
    (hlen : (c :: cs).length ≤ maxStrDigits) (neg : Bool) :
    matchNumber ((if neg then [PyChar.ofChar '-'] else []) ++ c :: cs ++ rest) =
      .ok (.int (if neg then -(digitsVal (c :: cs) : Int) else digitsVal (c :: cs)), rest) := by
  have hip : (if c = '0' then some ([c], cs ++ rest)
      else if isDigit c then some (c :: (cs ++ rest).takeWhile isDigit,
        (cs ++ rest).dropWhile isDigit) else none) = some (c :: cs, rest) := by
    obtain ⟨ht, hd⟩ := takeWhile_isDigit_of_numberEnd hr
    split_ifs with hz
    · rw [h0 hz]; rfl
    · rw [List.takeWhile_append_of_pos hcs, List.dropWhile_append_of_pos hcs, ht, hd,
        List.append_nil]
  have hsign : ∀ t : PyStr,
      ((if neg then [PyChar.ofChar '-'] else []) ++ c :: t).head? = some '-' ↔ neg = true := by
    have hneg : ¬ (some c = some (PyChar.ofChar '-')) := fun e => by
      rw [Option.some.inj e] at hc; exact absurd hc (by decide)
    cases neg
    · exact fun t => ⟨fun h => absurd h hneg, fun h => absurd h (by decide)⟩
    · exact fun t => ⟨fun _ => rfl, fun _ => rfl⟩
  have hr0 : ∀ t : PyStr,
      (if ((if neg then [PyChar.ofChar '-'] else []) ++ c :: t).head? = some '-'
        then ((if neg then [PyChar.ofChar '-'] else []) ++ c :: t).tail
        else (if neg then [PyChar.ofChar '-'] else []) ++ c :: t) = c :: t := by
    intro t
    cases neg
    · exact if_neg ((hsign t).not.mpr (by decide))
    · exact if_pos ((hsign t).mpr rfl)
  rw [List.append_assoc, List.cons_append]
  unfold matchNumber
  dsimp only
  rw [hr0]
  dsimp only
  rw [hip]
  dsimp only
  rcases rest with _ | ⟨x, _ | ⟨y, r⟩⟩
  · simp only [hsign, if_pos hlen]
  · simp only [hsign, if_pos hlen]
  · -- neither a fraction nor an exponent starts at `x`
    obtain ⟨-, hx2, hx3, hx4⟩ := hr x (y :: r) rfl
    dsimp only
    rw [if_neg (show ¬(x = '.' ∧ isDigit y = true) from fun h => hx2 h.1)]
    dsimp only
    rw [if_neg (show ¬(x = 'e' ∨ x = 'E') by rintro (h | h) <;> contradiction)]
    simp only [hsign, if_pos hlen]

lemma intRepr_cases (z : Int) : ∃ (neg : Bool) (ds : Nat), intRepr z =
    (if neg then [PyChar.ofChar '-'] else []) ++ (Nat.toDigits 10 ds).map PyChar.ofChar ∧
    z = (if neg then -(ds : Int) else ds) ∧ ds = z.natAbs := by
  cases z with
  | ofNat n => exact ⟨false, n, rfl, rfl, rfl⟩
  | negSucc m => exact ⟨true, m + 1, rfl, rfl, rfl⟩

/-- **An `int` within the digit limit reads back as itself.** -/
lemma matchNumber_intRepr {z : Int} (hfit : intFitsStr z = true) {rest : PyStr}
    (hr : NumberEnd rest) : matchNumber (intRepr z ++ rest) = .ok (.int z, rest) := by
  obtain ⟨neg, n, hz, rfl, hn⟩ := intRepr_cases z
  obtain ⟨c, cs, hds, hc, hcs, h0, hv⟩ := toDigits_spec n
  have hlen : (c :: cs).length ≤ maxStrDigits := by
    rw [← hds, List.length_map, hn]
    exact of_decide_eq_true hfit
  rw [hz, hds, matchNumber_digits hc hcs h0 hr hlen neg, hv]

/-! ## The scanner at a value -/

/-- The result type of `scanOnce` and the container loops. -/
abbrev ScanOnceResult := Except DecodeError (PyVal × PyStr)

lemma scanOnce_quote (f room : Nat) (t : PyStr) :
    scanOnce (f + 1) room ('"' :: t) =
      (scanString ('"' :: t) [] t).map fun p => (.str p.1, p.2) := by
  rw [scanOnce, if_pos rfl]

set_option smartUnfolding false in
lemma scanOnce_null (f room : Nat) (rest : PyStr) :
    scanOnce (f + 1) room (lit "null" ++ rest) = .ok (.none, rest) := rfl

set_option smartUnfolding false in
lemma scanOnce_true (f room : Nat) (rest : PyStr) :
    scanOnce (f + 1) room (lit "true" ++ rest) = .ok (.bool true, rest) := rfl

set_option smartUnfolding false in
lemma scanOnce_false (f room : Nat) (rest : PyStr) :
    scanOnce (f + 1) room (lit "false" ++ rest) = .ok (.bool false, rest) := rfl

lemma scanOnce_number (f room : Nat) {c : PyChar} {t : PyStr}
    (h : c ≠ '"' ∧ c ≠ '{' ∧ c ≠ '[' ∧ c ≠ 'n' ∧ c ≠ 't' ∧ c ≠ 'f' ∧ c ≠ 'N' ∧ c ≠ 'I')
    (hneg : c = '-' → t.take 8 ≠ lit "Infinity") :
    scanOnce (f + 1) room (c :: t) = matchNumber (c :: t) := by
  obtain ⟨h1, h2, h3, h4, h5, h6, h7, h8⟩ := h
  rw [scanOnce, if_neg h1, if_neg h2, if_neg h3, if_neg (fun h => h4 h.1),
    if_neg (fun h => h5 h.1), if_neg (fun h => h6 h.1), if_neg (fun h => h7 h.1),
    if_neg (fun h => h8 h.1), if_neg (fun h => hneg h.1 h.2)]

lemma scanOnce_list (f room : Nat) {t r : PyStr} {d : PyChar} (hs : skipWs t = d :: r)
    (hd : d ≠ ']') : scanOnce (f + 1) (room + 1) ('[' :: t) = parseArray f room [] (d :: r) := by
  rw [scanOnce, if_neg (by decide), if_neg (by decide), if_pos rfl, enter, hs]
  exact if_neg hd

lemma scanOnce_emptyList (f room : Nat) {t r : PyStr} (hs : skipWs t = (']' : PyChar) :: r) :
    scanOnce (f + 1) (room + 1) ('[' :: t) = .ok (.list [], r) := by
  rw [scanOnce, if_neg (by decide), if_neg (by decide), if_pos rfl, enter, hs]
  exact if_pos rfl

lemma scanOnce_dict (f room : Nat) {t r : PyStr} {d : PyChar} (hs : skipWs t = d :: r)
    (hd : d ≠ '}') :
    scanOnce (f + 1) (room + 1) ('{' :: t) = parseObject f room [] (d :: r) := by
  rw [scanOnce, if_neg (by decide), if_pos rfl, enter, hs]
  exact if_neg hd

lemma scanOnce_emptyDict (f room : Nat) {t r : PyStr} (hs : skipWs t = ('}' : PyChar) :: r) :
    scanOnce (f + 1) (room + 1) ('{' :: t) = .ok (.dict [], r) := by
  rw [scanOnce, if_neg (by decide), if_pos rfl, enter, hs]
  exact if_pos rfl

lemma parseArray_close (f room : Nat) (acc : List PyVal) {s r1 r2 : PyStr} {v : PyVal}
    (hs : scanOnce f room s = .ok (v, r1)) (hr : skipWs r1 = (']' : PyChar) :: r2) :
    parseArray (f + 1) room acc s = .ok (.list (acc ++ [v]), r2) := by
  rw [parseArray, hs]
  dsimp only
  rw [hr]
  exact if_pos rfl

lemma parseArray_next (f room : Nat) (acc : List PyVal) {s r1 r2 : PyStr} {v : PyVal}
    (hs : scanOnce f room s = .ok (v, r1)) (hr : skipWs r1 = (',' : PyChar) :: r2) :
    parseArray (f + 1) room acc s = parseArray f room (acc ++ [v]) (skipWs r2) := by
  rw [parseArray, hs]
  dsimp only
  rw [hr]
  exact (if_neg (by decide)).trans (if_pos rfl)

/-- The member loop after one `"key": value`, at the character that follows it. -/
lemma parseObject_member (f room : Nat) (acc : List (PyVal × PyVal)) {t r1 r2 r3 r4 : PyStr}
    {k : PyStr} {v : PyVal} {e : PyChar} (hk : scanString ('"' :: t) [] t = .ok (k, r1))
    (hc : skipWs r1 = (':' : PyChar) :: r2) (hv : scanOnce f room (skipWs r2) = .ok (v, r3))
    (he : skipWs r3 = e :: r4) :
    parseObject (f + 1) room acc ('"' :: t) =
      if e = '}' then .ok (.dict (dictSet acc (.str k) v), r4)
      else if e = ',' then parseObject f room (dictSet acc (.str k) v) (skipWs r4)
      else .error (.invalid "Expecting ',' delimiter" (e :: r4)) := by
  rw [parseObject, if_pos rfl, hk]
  dsimp only
  rw [hc]
  dsimp only
  rw [if_pos rfl, hv]
  dsimp only
  rw [he]

/-! ## Where a serialised value starts -/

/-- A text that starts as `json.dumps` output does: with a character that is not JSON
whitespace, not a closing bracket and not a byte-order mark. -/
def Starts (d : PyStr) : Prop :=
  ∃ c t, d = c :: t ∧ isWs c = false ∧ c ≠ ']' ∧ c ≠ '}' ∧ c ≠ PyChar.ofNat 0xFEFF

lemma Starts.append {a : PyStr} (h : Starts a) (b : PyStr) : Starts (a ++ b) := by
  obtain ⟨c, t, rfl, h⟩ := h
  exact ⟨c, t ++ b, rfl, h⟩

lemma skipWs_cons_of_not_ws {c : PyChar} (h : isWs c = false) (t : PyStr) :
    skipWs (c :: t) = c :: t := by
  simp [skipWs, List.dropWhile_cons, h]

lemma Starts.skipWs {a : PyStr} (h : Starts a) : skipWs a = a := by
  obtain ⟨c, t, rfl, h, -⟩ := h
  exact skipWs_cons_of_not_ws h t

lemma skipWs_space (t : PyStr) : skipWs (PyChar.ofChar ' ' :: t) = skipWs t := by
  simp [skipWs, List.dropWhile_cons, isWs]

lemma starts_cons {c : PyChar} (h : isWs c = false ∧ c ≠ ']' ∧ c ≠ '}' ∧ c ≠ PyChar.ofNat 0xFEFF)
    (t : PyStr) : Starts (c :: t) := ⟨c, t, rfl, h⟩

lemma digit_starts {c : PyChar} (hc : isDigit c = true) (t : PyStr) : Starts (c :: t) := by
  refine starts_cons ⟨?_, ?_, ?_, ?_⟩ t
  · cases h : isWs c
    · rfl
    · simp only [isWs, Bool.or_eq_true, decide_eq_true_eq] at h
      rcases h with ((rfl | rfl) | rfl) | rfl <;> exact absurd hc (by decide)
  all_goals rintro rfl; exact absurd hc (by decide)

lemma joinComma_cons {a : PyStr} {b : List PyStr} (hb : b ≠ []) :
    joinComma (a :: b) = a ++ lit ", " ++ joinComma b := by
  obtain ⟨b1, b', rfl⟩ := List.exists_cons_of_ne_nil hb
  rfl

lemma intRepr_starts (z : Int) (t : PyStr) : Starts (intRepr z ++ t) := by
  obtain ⟨neg, n, hz, -⟩ := intRepr_cases z
  obtain ⟨c, cs, hds, hc, -⟩ := toDigits_spec n
  rw [hz, hds]
  cases neg
  · exact digit_starts hc _
  · exact starts_cons (by decide) _

/-- **`json.dumps` output never starts with whitespace, a closing bracket or a byte-order
mark.** -/
lemma dumps_starts : ∀ (v : PyVal) {d : PyStr}, v.reloadable = true → dumps v = .ok d →
    Starts d
  | .none, _, _, h => by cases h; exact starts_cons (by decide) _
  | .bool b, _, _, h => by cases b <;> cases h <;> exact starts_cons (by decide) _
  | .int z, _, _, h => by
    rw [(intRepr?_eq_ok h).2]
    simpa using intRepr_starts z []
  | .str s, _, _, h => by cases h; exact starts_cons (by decide) _
  | .list xs, _, _, h => by
    obtain ⟨ds, -, h⟩ := bind_eq_ok.mp h
    cases h
    exact starts_cons (by decide) _
  | .dict kvs, _, _, h => by
    obtain ⟨ds, -, h⟩ := bind_eq_ok.mp h
    cases h
    exact starts_cons (by decide) _

lemma scanOnce_intRepr (f room : Nat) {z : Int} (hfit : intFitsStr z = true) {rest : PyStr}
    (hr : NumberEnd rest) : scanOnce (f + 1) room (intRepr z ++ rest) = .ok (.int z, rest) := by
  obtain ⟨neg, n, hz, -⟩ := intRepr_cases z
  obtain ⟨c, cs, hds, hc, -⟩ := toDigits_spec n
  have h9 : c ≠ '"' ∧ c ≠ '{' ∧ c ≠ '[' ∧ c ≠ 'n' ∧ c ≠ 't' ∧ c ≠ 'f' ∧ c ≠ 'N' ∧ c ≠ 'I' ∧
      c ≠ '-' := by
    refine ⟨?_, ?_, ?_, ?_, ?_, ?_, ?_, ?_, ?_⟩ <;> (rintro rfl; exact absurd hc (by decide))
  obtain ⟨h1, h2, h3, h4, h5, h6, h7, h8, hm⟩ := h9
  rw [← matchNumber_intRepr hfit hr, hz, hds]
  cases neg
  · exact scanOnce_number f room ⟨h1, h2, h3, h4, h5, h6, h7, h8⟩ fun e => absurd e hm
  · exact scanOnce_number f room (by decide) fun _ e => by
      have := (List.cons.inj e).1
      subst this
      exact absurd hc (by decide)

/-! ## The scanner over a serialised value -/

lemma eq_str_of_key? {v : PyVal} {s : PyStr} (h : v.key? = some (.str s)) : v = .str s := by
  cases v with
  | str s' => cases h; rfl
  | float x =>
    rcases x with _ | _ | ⟨neg, n⟩ <;> simp only [PyVal.key?, Option.some.injEq] at h
    · cases h
    · cases h
    · split at h <;> cases h
  | _ => simp [PyVal.key?] at h

/-- A string key not yet in the dict goes to its end. -/
lemma dictSet_fresh {acc : List (PyVal × PyVal)} {s : PyStr} (h : ∀ kv ∈ acc, kv.1 ≠ .str s)
    (v : PyVal) : dictSet acc (.str s) v = acc ++ [(.str s, v)] := by
  rw [dictSet, if_neg]
  simp only [List.any_eq_true, decide_eq_true_eq, not_exists, not_and]
  exact fun kv hkv e => h kv hkv (eq_str_of_key? e)

lemma encodeStr_append (s rest : PyStr) :
    encodeStr s ++ rest = ('"' : PyChar) :: (s.flatMap escapeChar ++ ('"' : PyChar) :: rest) := by
  simp [encodeStr, lit]

lemma length_lit_comma : (lit ", ").length = 2 := rfl

lemma Starts.joinComma {a : PyStr} (h : Starts a) (b : List PyStr) (r : PyStr) :
    Starts (joinComma (a :: b) ++ r) := by
  cases b with
  | nil => exact h.append r
  | cons b1 b' =>
    rw [joinComma_cons (List.cons_ne_nil _ _), List.append_assoc, List.append_assoc]
    exact h.append _

lemma joinComma_comma {a : PyStr} {b : List PyStr} (hb : b ≠ []) (e : PyChar) (rest : PyStr) :
    joinComma (a :: b) ++ e :: rest =
      a ++ (',' : PyChar) :: PyChar.ofChar ' ' :: (joinComma b ++ e :: rest) := by
  simp [joinComma_cons hb, lit]

lemma reloadableDict_cons {k v : PyVal} {kvs : List (PyVal × PyVal)}
    (h : PyVal.reloadableDict ((k, v) :: kvs) = true) :
    ∃ s, k = .str s ∧ noSurrogatePair s = true ∧ kvs.all (fun kv => kv.1 != k) = true ∧
      v.reloadable = true ∧ PyVal.reloadableDict kvs = true := by
  cases k with
  | str s =>
    simp only [PyVal.reloadableDict, Bool.and_eq_true] at h
    exact ⟨s, rfl, h.1.1.1, h.1.1.2, h.1.2, h.2⟩
  | _ => simp [PyVal.reloadableDict] at h

lemma dumpsDict_str_cons {s : PyStr} {v : PyVal} {kvs : List (PyVal × PyVal)}
    {ds : List PyStr} (h : dumpsDict ((.str s, v) :: kvs) = .ok ds) :
    ∃ dv b, dumps v = .ok dv ∧ dumpsDict kvs = .ok b ∧ ds = (encodeStr s ++ lit ": " ++ dv) :: b := by
  obtain ⟨a, ha, h⟩ := bind_eq_ok.mp h
  obtain ⟨dv, hdv, h⟩ := bind_eq_ok.mp h
  obtain ⟨b, hb, h⟩ := bind_eq_ok.mp h
  cases ha
  cases h
  exact ⟨dv, b, hdv, hb, rfl⟩

/-- A serialised member starts with the quote of its key. -/
lemma member_append (s dv : PyStr) (e : PyChar) (rest : PyStr) :
    encodeStr s ++ lit ": " ++ dv ++ e :: rest = ('"' : PyChar) :: (s.flatMap escapeChar ++
      ('"' : PyChar) :: (':' : PyChar) :: PyChar.ofChar ' ' :: (dv ++ e :: rest)) := by
  simp [encodeStr, lit]

lemma dumpsDict_head {kvs : List (PyVal × PyVal)} {ds : List PyStr}
    (hv : PyVal.reloadableDict kvs = true) (h : dumpsDict kvs = .ok ds) (hne : kvs ≠ []) :
    ∃ a b, ds = a :: b ∧ Starts a := by
  obtain ⟨⟨k, v⟩, kvs, rfl⟩ := List.exists_cons_of_ne_nil hne
  obtain ⟨s, rfl, -⟩ := reloadableDict_cons hv
  obtain ⟨dv, b, -, -, rfl⟩ := dumpsDict_str_cons h
  refine ⟨_, b, rfl, ?_⟩
  rw [List.append_assoc, encodeStr_append]
  exact starts_cons (by decide) _

mutual
/-- **`scan_once` reads a serialised value back**, given as much fuel as the text is long, a
recursion budget as deep as the value, and followed by a character that cannot continue a
number. -/
lemma scanOnce_dumps : ∀ (v : PyVal) {d : PyStr}, v.reloadable = true → dumps v = .ok d →
    ∀ (fuel room : Nat) (rest : PyStr), d.length ≤ fuel → v.depth ≤ room → NumberEnd rest →
    scanOnce fuel room (d ++ rest) = .ok (v, rest)
  | .none, _, _, h, fuel, room, rest, hf, _, _ => by
    cases h
    obtain ⟨f, rfl⟩ : ∃ f, fuel = f + 1 := ⟨fuel - 1, by simp only [lit] at hf; simp at hf; omega⟩
    exact scanOnce_null f room rest
  | .bool b, _, _, h, fuel, room, rest, hf, _, _ => by
    obtain ⟨f, rfl⟩ : ∃ f, fuel = f + 1 :=
      ⟨fuel - 1, by cases b <;> cases h <;> simp only [lit] at hf <;> simp at hf <;> omega⟩
    cases b <;> cases h
    · exact scanOnce_false f room rest
    · exact scanOnce_true f room rest
  | .int z, _, _, h, fuel, room, rest, hf, _, hr => by
    obtain ⟨hfit, rfl⟩ := intRepr?_eq_ok h
    obtain ⟨c, t, hct, -⟩ := intRepr_starts z []
    obtain ⟨f, rfl⟩ : ∃ f, fuel = f + 1 :=
      ⟨fuel - 1, by rw [List.append_nil] at hct; rw [hct] at hf; simp at hf; omega⟩
    exact scanOnce_intRepr f room hfit hr
  | .float _, _, hv, _, _, _, _, _, _, _ => nomatch hv
  | .str s, _, hv, h, fuel, room, rest, hf, _, _ => by
    cases h
    obtain ⟨f, rfl⟩ : ∃ f, fuel = f + 1 := ⟨fuel - 1, by simp [encodeStr, lit] at hf; omega⟩
    rw [encodeStr_append, scanOnce_quote, scanString_encode _ s [] rest hv]
    rfl
  | .list xs, _, hv, h, fuel, room, rest, hf, hroom, _ => by
    obtain ⟨ds, hds, h⟩ := bind_eq_ok.mp h
    cases h
    obtain ⟨f, rfl⟩ : ∃ f, fuel = f + 1 := ⟨fuel - 1, by simp [lit] at hf; omega⟩
    obtain ⟨r, rfl⟩ : ∃ r, room = r + 1 := ⟨room - 1, by simp only [PyVal.depth] at hroom; omega⟩
    have hl : lit "[" ++ joinComma ds ++ lit "]" ++ rest =
        ('[' : PyChar) :: (joinComma ds ++ (']' : PyChar) :: rest) := by simp [lit]
    rw [hl]
    rcases xs with _ | ⟨x, xs⟩
    · cases hds
      exact scanOnce_emptyList f r (skipWs_cons_of_not_ws (by decide) rest)
    · obtain ⟨a, ha, h⟩ := bind_eq_ok.mp hds
      obtain ⟨b, -, h⟩ := bind_eq_ok.mp h
      cases h
      have hx : x.reloadable = true := by
        simp only [PyVal.reloadable, PyVal.reloadableList, Bool.and_eq_true] at hv
        exact hv.1
      obtain ⟨c, t, hj, hws, hc, -⟩ := (dumps_starts x hx ha).joinComma b ((']' : PyChar) :: rest)
      rw [hj, scanOnce_list f r (skipWs_cons_of_not_ws hws t) hc, ← hj]
      exact parseArray_dumpsList (x :: xs) hv hds (List.cons_ne_nil _ _) f r [] rest
        (by simp [lit] at hf; omega) (by simp only [PyVal.depth] at hroom; omega)
  | .dict kvs, _, hv, h, fuel, room, rest, hf, hroom, _ => by
    obtain ⟨ds, hds, h⟩ := bind_eq_ok.mp h
    cases h
    obtain ⟨f, rfl⟩ : ∃ f, fuel = f + 1 := ⟨fuel - 1, by simp [lit] at hf; omega⟩
    obtain ⟨r, rfl⟩ : ∃ r, room = r + 1 := ⟨room - 1, by simp only [PyVal.depth] at hroom; omega⟩
    have hl : lit "\x7b" ++ joinComma ds ++ lit "\x7d" ++ rest =
        ('{' : PyChar) :: (joinComma ds ++ ('}' : PyChar) :: rest) := by simp [lit]
    rw [hl]
    rcases kvs with _ | ⟨⟨k, v⟩, kvs⟩
    · cases hds
      exact scanOnce_emptyDict f r (skipWs_cons_of_not_ws (by decide) rest)
    · obtain ⟨a, b, rfl, ha⟩ := dumpsDict_head hv hds (List.cons_ne_nil _ _)
      obtain ⟨c, t, hj, hws, -, hc, -⟩ := ha.joinComma b (('}' : PyChar) :: rest)
      rw [hj, scanOnce_dict f r (skipWs_cons_of_not_ws hws t) hc, ← hj]
      simpa using parseObject_dumpsDict ((k, v) :: kvs) hv hds (List.cons_ne_nil _ _) f r [] rest
        (fun _ h => nomatch h) (by simp [lit] at hf; omega)
        (by simp only [PyVal.depth] at hroom; omega)
/-- The element loop over `joinComma` of serialised items, up to the closing `]`. -/
lemma parseArray_dumpsList : ∀ (xs : List PyVal) {ds : List PyStr},
    PyVal.reloadableList xs = true → dumpsList xs = .ok ds → xs ≠ [] →
    ∀ (fuel room : Nat) (acc : List PyVal) (rest : PyStr), (joinComma ds).length < fuel →
    PyVal.depthList xs ≤ room →
    parseArray fuel room acc (joinComma ds ++ (']' : PyChar) :: rest) =
      .ok (.list (acc ++ xs), rest)
  | [], _, _, _, hne, _, _, _, _, _, _ => absurd rfl hne
  | x :: xs, _, hv, h, _, fuel, room, acc, rest, hf, hroom => by
    obtain ⟨a, ha, h⟩ := bind_eq_ok.mp h
    obtain ⟨b, hb, h⟩ := bind_eq_ok.mp h
    cases h
    simp only [PyVal.reloadableList, Bool.and_eq_true] at hv
    simp only [PyVal.depthList, Nat.max_le] at hroom
    obtain ⟨f, rfl⟩ : ∃ f, fuel = f + 1 := ⟨fuel - 1, by omega⟩
    rcases xs with _ | ⟨y, ys⟩
    · cases hb
      exact parseArray_close f room acc (scanOnce_dumps x hv.1 ha f room _
        (by simp [joinComma] at hf; omega) hroom.1 (numberEnd_cons (by decide) rest))
        (skipWs_cons_of_not_ws (by decide) rest)
    · obtain ⟨a', ha', h⟩ := bind_eq_ok.mp hb
      obtain ⟨b', -, h⟩ := bind_eq_ok.mp h
      cases h
      have hne : a' :: b' ≠ [] := List.cons_ne_nil _ _
      have hf' := hf
      rw [joinComma_cons hne] at hf'
      simp only [List.length_append, length_lit_comma] at hf'
      have hy : y.reloadable = true := by
        simp only [PyVal.reloadableList, Bool.and_eq_true] at hv
        exact hv.2.1
      rw [joinComma_comma hne, parseArray_next f room acc (scanOnce_dumps x hv.1 ha f room _
        (by omega) hroom.1 (numberEnd_cons (by decide) _)) (skipWs_cons_of_not_ws (by decide) _),
        skipWs_space, ((dumps_starts y hy ha').joinComma b' _).skipWs,
        parseArray_dumpsList (y :: ys) hv.2 hb (List.cons_ne_nil _ _) f room (acc ++ [x]) rest
          (by omega) hroom.2]
      simp
/-- The member loop over `joinComma` of serialised `key: value` members, up to the closing
`}`, with keys distinct from those already read. -/
lemma parseObject_dumpsDict : ∀ (kvs : List (PyVal × PyVal)) {ds : List PyStr},
    PyVal.reloadableDict kvs = true → dumpsDict kvs = .ok ds → kvs ≠ [] →
    ∀ (fuel room : Nat) (acc : List (PyVal × PyVal)) (rest : PyStr),
    (∀ kv ∈ acc, ∀ kv' ∈ kvs, kv.1 ≠ kv'.1) → (joinComma ds).length < fuel →
    PyVal.depthDict kvs ≤ room →
    parseObject fuel room acc (joinComma ds ++ ('}' : PyChar) :: rest) =
      .ok (.dict (acc ++ kvs), rest)
  | [], _, _, _, hne, _, _, _, _, _, _, _ => absurd rfl hne
  | (k, v) :: kvs, _, hv, h, _, fuel, room, acc, rest, hacc, hf, hroom => by
    obtain ⟨s, rfl, hs, hfresh, hv1, hv2⟩ := reloadableDict_cons hv
    obtain ⟨dv, b, hdv, hb, rfl⟩ := dumpsDict_str_cons h
    simp only [PyVal.depthDict, Nat.max_le] at hroom
    obtain ⟨f, rfl⟩ : ∃ f, fuel = f + 1 := ⟨fuel - 1, by omega⟩
    have hacc' : ∀ kv ∈ acc, kv.1 ≠ .str s := fun kv hkv => hacc kv hkv _ (List.mem_cons_self _ _)
    -- the key, the colon and the value, up to the character `e` after it
    have hmember : ∀ (e : PyChar) (r : PyStr), isWs e = false → isDigit e = false ∧ e ≠ '.' ∧
        e ≠ 'e' ∧ e ≠ 'E' → dv.length ≤ f →
        parseObject (f + 1) room acc (encodeStr s ++ lit ": " ++ dv ++ e :: r) =
          if e = '}' then .ok (.dict (acc ++ [(.str s, v)]), r)
          else if e = ',' then parseObject f room (acc ++ [(.str s, v)]) (skipWs r)
          else .error (.invalid "Expecting ',' delimiter" (e :: r)) := by
      intro e r hws hnum hlen
      rw [member_append, parseObject_member f room acc (scanString_encode _ s [] _ hs)
        (skipWs_cons_of_not_ws (by decide) _)
        (by rw [skipWs_space, ((dumps_starts v hv1 hdv).append _).skipWs]
            exact scanOnce_dumps v hv1 hdv f room _ hlen hroom.1 (numberEnd_cons hnum r))
        (skipWs_cons_of_not_ws hws r), List.reverse_nil, List.nil_append, dictSet_fresh hacc']
    rcases kvs with _ | ⟨⟨k2, v2⟩, kvs⟩
    · cases hb
      exact (hmember _ rest (by decide) (by decide) (by simp [joinComma] at hf; omega)).trans
        (if_pos rfl)
    · obtain ⟨a, b', rfl, ha⟩ := dumpsDict_head hv2 hb (List.cons_ne_nil _ _)
      have hf' := hf
      rw [joinComma_cons (List.cons_ne_nil _ _)] at hf'
      simp only [List.length_append, length_lit_comma] at hf'
      rw [joinComma_comma (List.cons_ne_nil _ _), hmember _ _ (by decide) (by decide) (by omega),
        if_neg (by decide), if_pos rfl, skipWs_space, (ha.joinComma b' _).skipWs,
        parseObject_dumpsDict _ hv2 hb (List.cons_ne_nil _ _) f room _ rest ?_ (by omega)
          hroom.2]
      · simp
      · intro kv hkv kv' hkv'
        rcases List.mem_append.mp hkv with hkv | hkv
        · exact hacc kv hkv kv' (List.mem_cons_of_mem _ hkv')
        · rw [List.mem_singleton.mp hkv]
          have := List.all_eq_true.mp hfresh kv' hkv'
          simp only [bne_iff_ne, ne_eq] at this
          exact Ne.symm this
end

mutual
/-- `json.dumps` succeeds on every value without floats whose dict keys are strings and whose
`int`s are within the digit limit. -/
lemma dumps_isOk : ∀ (v : PyVal), v.reloadable = true → v.intsFit = true → ∃ d, dumps v = .ok d
  | .none, _, _ => ⟨_, rfl⟩
  | .bool b, _, _ => by cases b <;> exact ⟨_, rfl⟩
  | .int _, _, hi => ⟨_, if_pos hi⟩
  | .float _, hv, _ => nomatch hv
  | .str _, _, _ => ⟨_, rfl⟩
  | .list xs, hv, hi => by
    obtain ⟨ds, hds⟩ := dumpsList_isOk xs hv hi
    exact ⟨_, by rw [dumps, hds]; rfl⟩
  | .dict kvs, hv, hi => by
    obtain ⟨ds, hds⟩ := dumpsDict_isOk kvs hv hi
    exact ⟨_, by rw [dumps, hds]; rfl⟩
lemma dumpsList_isOk : ∀ (xs : List PyVal), PyVal.reloadableList xs = true →
    PyVal.intsFitList xs = true → ∃ ds, dumpsList xs = .ok ds
  | [], _, _ => ⟨_, rfl⟩
  | x :: xs, hv, hi => by
    simp only [PyVal.reloadableList, PyVal.intsFitList, Bool.and_eq_true] at hv hi
    obtain ⟨a, ha⟩ := dumps_isOk x hv.1 hi.1
    obtain ⟨b, hb⟩ := dumpsList_isOk xs hv.2 hi.2
    exact ⟨_, by rw [dumpsList, ha, hb]; rfl⟩
lemma dumpsDict_isOk : ∀ (kvs : List (PyVal × PyVal)), PyVal.reloadableDict kvs = true →
    PyVal.intsFitDict kvs = true → ∃ ds, dumpsDict kvs = .ok ds
  | [], _, _ => ⟨_, rfl⟩
  | (k, v) :: kvs, hv, hi => by
    obtain ⟨s, rfl, -, -, hv1, hv2⟩ := reloadableDict_cons hv
    simp only [PyVal.intsFitDict, Bool.and_eq_true] at hi
    obtain ⟨a, ha⟩ := dumps_isOk v hv1 hi.1.2
    obtain ⟨b, hb⟩ := dumpsDict_isOk kvs hv2 hi.2
    exact ⟨_, by rw [dumpsDict, ha, hb]; rfl⟩
end

/-- `json.loads` of a text that starts as a serialised value does and that `scan_once` reads
whole. -/
lemma loadsStr_of_scanOnce {room : Nat} {d : PyStr} {v : PyVal} (hd : Starts d)
    (hs : ∀ fuel, d.length ≤ fuel → scanOnce fuel room (d ++ []) = .ok (v, [])) :
    loadsStr room d = .ok v := by
  obtain ⟨c, t, rfl, hws, -, -, hbom⟩ := hd
  have h := hs (2 * (c :: t).length + 2) (by omega)
  rw [List.append_nil] at h
  rw [loadsStr, if_neg (by simpa using hbom), skipWs_cons_of_not_ws hws, h]
  rfl

/-- **`json.loads(json.dumps(v)) == v`** for every value without floats, surrogate pairs or
repeated keys that `json.dumps` writes, with a recursion budget as deep as the value. -/
theorem loadsStr_dumps {room : Nat} {v : PyVal} {d : PyStr} (hv : v.reloadable = true)
    (hdepth : v.depth ≤ room) (h : dumps v = .ok d) : loadsStr room d = .ok v :=
  loadsStr_of_scanOnce (dumps_starts v hv h) fun fuel hf =>
    scanOnce_dumps v hv h fuel room [] hf hdepth numberEnd_nil

/-- A record with an escaped string, a negative number and a nested list. -/
def nestedRecord : PyVal :=
  obj [("text", strVal "caf\u00e9 \"q\"\n"), ("n", .int (-12)),
    ("xs", .list [.none, .bool true, .dict []])]

theorem loadsStr_dumps_nestedRecord :
    ∃ d, nestedRecord.reloadable = true ∧ nestedRecord.depth ≤ loadsRoom 2 ∧
      dumps nestedRecord = .ok d ∧ loadsStr (loadsRoom 2) d = .ok nestedRecord :=
  ⟨_, by decide, by decide, rfl, loadsStr_dumps (by decide) (by decide) rfl⟩

end Json

end GatewayLogs
