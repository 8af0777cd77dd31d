import Mathlib.Data.List.Basic

/-!
# Python `str` and the string methods the scripts call

A Python string is a sequence of code points, lone surrogates included (`json.loads` turns an
unpaired `\ud800` escape into one), so `PyChar` is a code point below `0x110000` and not a Lean
`Char`.  The methods are the ones `parse_sse_response` and the record loops call, each written
the way CPython computes it:

* `strip` — `str.strip()`, over Python's whitespace (`str.isspace`).
* `split` — `str.split(sep)` for a non-empty separator: cut at each occurrence, left to right.
* `splitOnce` — `str.split(c, 1)` for a one-character separator.
* `replaceFirst` — `str.replace(old, new, 1)`.
* `isInfixOf` — `sub in s`.

What the stream decoder needs of them is how they treat a longer text.  A separator that no
proper suffix of itself begins (`BorderFree`, as `event:` is) cuts `s + sep + t` into the pieces
of `s` and those of `t` (`split_append_sep`), and cuts a prefix of a text into the same pieces
up to a last one that is cut short (`split_truncate`).  `strip` and `split(c, 1)` of an extended
text extend those of the text (`strip_append`, `splitOnce_append_of_eq_some`).
-/

namespace GatewayLogs

/-- A Python code point. -/
abbrev PyChar := Fin 0x110000

/-- A Python `str`. -/
abbrev PyStr := List PyChar

/-- The code point of a Lean character. -/
def PyChar.ofChar (c : Char) : PyChar :=
  ⟨c.toNat, by
    have h := c.valid
    simp only [UInt32.isValidChar, Nat.isValidChar] at h
    simp only [Char.toNat]
    omega⟩

instance : Coe Char PyChar := ⟨PyChar.ofChar⟩

lemma PyChar.ofChar_injective : Function.Injective PyChar.ofChar := fun d e h => by
  have h' := Fin.val_eq_of_eq h
  change d.toNat = e.toNat at h'
  rw [← Char.ofNat_toNat d, h', Char.ofNat_toNat]

/-- The code point `n`, reduced below `0x110000`. -/
def PyChar.ofNat (n : Nat) : PyChar := ⟨n % 0x110000, Nat.mod_lt _ (by decide)⟩

/-- A string literal of the scripts, as a Python `str`. -/
def lit (s : String) : PyStr := s.toList.map PyChar.ofChar

namespace PyStr

/-- `c.isspace()`: the characters of bidirectional class WS, B or S or of category Zs. -/
def isSpace (c : PyChar) : Bool :=
  (9 ≤ c.val && c.val ≤ 13) || (28 ≤ c.val && c.val ≤ 32) || c.val = 0x85 || c.val = 0xA0 ||
    c.val = 0x1680 || (0x2000 ≤ c.val && c.val ≤ 0x200A) || c.val = 0x2028 || c.val = 0x2029 ||
    c.val = 0x202F || c.val = 0x205F || c.val = 0x3000

/-- `s.strip()`. -/
def strip (s : PyStr) : PyStr :=
  ((s.dropWhile isSpace).reverse.dropWhile isSpace).reverse

/-- `s.split(sep)` for a non-empty `sep`: the pieces between the occurrences of `sep` found
left to right, each occurrence skipped whole before the search resumes. -/
def split (sep s : PyStr) : List PyStr := go 0 [] s
where
  /-- `skip` characters of a separator still to pass over; `cur` is the piece so far,
  reversed. -/
  go : Nat → PyStr → PyStr → List PyStr
    | _, cur, [] => [cur.reverse]
    | skip + 1, cur, _ :: cs => go skip cur cs
    | 0, cur, c :: cs =>
      if sep.isPrefixOf (c :: cs) then cur.reverse :: go (sep.length - 1) [] cs
      else go 0 (c :: cur) cs

/-- `s.split(c, 1)`: `none` when `c` does not occur (a one-element list in Python), else the
text before its first occurrence and the text after it. -/
def splitOnce (c : PyChar) : PyStr → Option (PyStr × PyStr)
  | [] => none
  | d :: ds => if d = c then some ([], ds) else (splitOnce c ds).map fun p => (d :: p.1, p.2)

/-- `s.replace(old, new, 1)` for a non-empty `old`. -/
def replaceFirst (old new : PyStr) : PyStr → PyStr
  | [] => []
  | c :: cs =>
    if old.isPrefixOf (c :: cs) then new ++ (c :: cs).drop old.length
    else c :: replaceFirst old new cs

/-- `sub in s`. -/
def isInfixOf (sub : PyStr) : PyStr → Bool
  | [] => sub.isEmpty
  | c :: cs => sub.isPrefixOf (c :: cs) || isInfixOf sub cs

/-! ## Splitting at a separator -/

/-- No proper suffix of `sep` is also a prefix of it, so two occurrences of `sep` never
overlap. -/
def BorderFree (sep : PyStr) : Prop :=
  ∀ j < sep.length, 0 < j → sep.drop j ≠ sep.take (sep.length - j)

instance instDecidableBorderFree (sep : PyStr) : Decidable (BorderFree sep) :=
  inferInstanceAs (Decidable (∀ j < sep.length, 0 < j → _))

variable {sep : PyStr}

/-- An occurrence of a border-free `sep` cannot start inside a shorter text placed before
another occurrence. -/
lemma not_prefix_straddle (hb : BorderFree sep) {x : PyStr} (h0 : 0 < x.length)
    (h1 : x.length < sep.length) (t : PyStr) : ¬ sep <+: x ++ (sep ++ t) := by
  intro h
  have hs : sep = x ++ sep.take (sep.length - x.length) := by
    conv_lhs => rw [List.prefix_iff_eq_take.mp h]
    rw [List.take_append_eq_append_take, List.take_of_length_le (by omega),
      List.take_append_of_le_length (by omega)]
  apply hb x.length h1 h0
  conv_lhs => rw [hs]
  exact List.drop_left _ _

lemma prefix_append_sep_iff (hb : BorderFree sep) {x : PyStr} (hx : x ≠ []) (t : PyStr) :
    sep <+: x ++ (sep ++ t) ↔ sep <+: x := by
  refine ⟨fun h => ?_, fun h => h.trans (List.prefix_append _ _)⟩
  by_cases hl : sep.length ≤ x.length
  · exact List.prefix_of_prefix_length_le h (List.prefix_append _ _) hl
  · exact absurd h (not_prefix_straddle hb (List.length_pos.mpr hx) (by omega) t)

/-- One step of the split at a character, with the test written as a prefix relation. -/
lemma split_go_cons (cur : PyStr) (c : PyChar) (cs : PyStr) :
    split.go sep 0 cur (c :: cs) =
      if sep <+: c :: cs then cur.reverse :: split.go sep (sep.length - 1) [] cs
      else split.go sep 0 (c :: cur) cs := by
  simp only [split.go, List.isPrefixOf_iff_prefix]

lemma split_go_drop (cur t : PyStr) : ∀ (x : PyStr) (n : Nat), x.length = n →
    split.go sep n cur (x ++ t) = split.go sep 0 cur t
  | [], _, rfl => rfl
  | _ :: x, _, rfl => split_go_drop cur t x _ rfl

lemma split_go_append_sep (hs : sep ≠ []) (hb : BorderFree sep) (t : PyStr) :
    ∀ (s cur : PyStr) (skip : Nat), skip ≤ s.length →
      split.go sep skip cur (s ++ (sep ++ t)) = split.go sep skip cur s ++ split.go sep 0 [] t
  | [], cur, skip, h => by
    obtain rfl : skip = 0 := by simpa using h
    obtain ⟨c, cs, rfl⟩ := List.exists_cons_of_ne_nil hs
    have hp : c :: cs <+: c :: (cs ++ t) := List.prefix_append _ t
    rw [List.nil_append, List.cons_append, split_go_cons, if_pos hp,
      split_go_drop [] t cs _ (by simp)]
    rfl
  | c :: s, cur, skip + 1, h => split_go_append_sep hs hb t s cur skip (by simpa using h)
  | c :: s, cur, 0, _ => by
    have hp := prefix_append_sep_iff hb (List.cons_ne_nil c s) t
    rw [List.cons_append] at hp
    rw [List.cons_append, split_go_cons, split_go_cons]
    by_cases h : sep <+: c :: s
    · have hl := h.length_le
      rw [if_pos (hp.mpr h), if_pos h, split_go_append_sep hs hb t s [] _ (by simp at hl; omega)]
      rfl
    · rw [if_neg (mt hp.mp h), if_neg h, split_go_append_sep hs hb t s _ 0 (Nat.zero_le _)]

/-- **Splitting at an occurrence of a border-free separator**: the pieces of `s + sep + t` are
those of `s` followed by those of `t`. -/
lemma split_append_sep (hs : sep ≠ []) (hb : BorderFree sep) (s t : PyStr) :
    split sep (s ++ (sep ++ t)) = split sep s ++ split sep t :=
  split_go_append_sep hs hb t s [] 0 (Nat.zero_le _)

lemma split_go_subset : ∀ (skip : Nat) (cur t : PyStr), ∀ p ∈ split.go sep skip cur t, p ⊆ cur ++ t
  | _, cur, [], p, hp => by
    obtain rfl : p = cur.reverse := by simpa [split.go] using hp
    simp
  | skip + 1, cur, c :: cs, p, hp => fun d hd => by
    have := split_go_subset skip cur cs p hp hd
    simp only [List.mem_append, List.mem_cons] at this ⊢
    tauto
  | 0, cur, c :: cs, p, hp => fun d hd => by
    rw [split_go_cons] at hp
    split at hp
    · rcases List.mem_cons.mp hp with rfl | hp
      · simp_all
      · have := split_go_subset _ [] cs p hp hd
        simp_all
    · have := split_go_subset 0 (c :: cur) cs p hp hd
      simp only [List.mem_append, List.mem_cons] at this ⊢
      tauto

/-- Every piece of a split is made of characters of the text. -/
lemma split_subset {s p : PyStr} (hp : p ∈ split sep s) : p ⊆ s := by
  simpa using split_go_subset 0 [] s p hp

/-- The first piece a split produces starts with the piece in progress. -/
lemma split_go_head : ∀ (t cur : PyStr) (skip : Nat),
    ∃ x rest, split.go sep skip cur t = (cur.reverse ++ x) :: rest
  | [], cur, _ => ⟨[], [], by simp [split.go]⟩
  | _ :: t, cur, skip + 1 => split_go_head t cur skip
  | c :: t, cur, 0 => by
    rw [split_go_cons]
    split
    · exact ⟨[], split.go sep (sep.length - 1) [] t, by simp⟩
    · obtain ⟨x, rest, h⟩ := split_go_head t (c :: cur) 0
      exact ⟨c :: x, rest, by simp [h]⟩

/-- A text shorter than the separator is not cut. -/
lemma split_go_short : ∀ (t cur : PyStr), t.length < sep.length →
    split.go sep 0 cur t = [cur.reverse ++ t]
  | [], cur, _ => by simp [split.go]
  | c :: t, cur, h => by
    have hp : ¬ sep <+: c :: t := fun hp => absurd hp.length_le (by omega)
    rw [split_go_cons, if_neg hp, split_go_short t (c :: cur) (by simp at h; omega)]
    simp

/-- **Splitting a prefix**: the pieces of a prefix `p` of a text are those of the text up to
some piece `M`, and then a last piece `L` that is either a prefix of `M` or, when `p` ends
inside the separator after `M`, `M` followed by a prefix of the separator. -/
lemma split_go_truncate (r : PyStr) : ∀ (p cur : PyStr) (skip : Nat), ∃ ps L M rest,
    split.go sep skip cur p = ps ++ [L] ∧ split.go sep skip cur (p ++ r) = ps ++ M :: rest ∧
      (L <+: M ∨ ∃ w, L = M ++ w ∧ w <+: sep)
  | [], cur, skip => by
    obtain ⟨x, rest, h⟩ := split_go_head r cur skip
    exact ⟨[], cur.reverse, _, rest, by simp [split.go], h, .inl (List.prefix_append _ _)⟩
  | _ :: p, cur, skip + 1 => split_go_truncate r p cur skip
  | c :: p, cur, 0 => by
    rw [List.cons_append, split_go_cons, split_go_cons]
    by_cases hp : sep <+: c :: p
    · obtain ⟨ps, L, M, rest, h1, h2, h3⟩ := split_go_truncate r p [] (sep.length - 1)
      rw [if_pos hp, if_pos (show sep <+: c :: (p ++ r) from hp.trans (List.prefix_append _ r))]
      exact ⟨cur.reverse :: ps, L, M, rest, by simp [h1], by simp [h2], h3⟩
    by_cases hr : sep <+: c :: (p ++ r)
    · -- `p` ends inside an occurrence of `sep` that starts at `c`
      have hw : c :: p <+: sep := List.prefix_of_prefix_length_le (List.prefix_append _ r) hr
        (Nat.le_of_not_lt fun hl => hp (List.prefix_of_prefix_length_le hr
          (List.prefix_append _ r) hl.le))
      have hlt : (c :: p).length < sep.length := lt_of_le_of_ne hw.length_le
        fun he => hp (List.IsPrefix.eq_of_length hw he ▸ List.prefix_refl _)
      rw [if_neg hp, if_pos hr, split_go_short p (c :: cur) (by simp at hlt; omega)]
      exact ⟨[], cur.reverse ++ c :: p, cur.reverse, split.go sep (sep.length - 1) [] (p ++ r),
        by simp, by simp, .inr ⟨c :: p, by simp, hw⟩⟩
    · rw [if_neg hp, if_neg hr]
      exact split_go_truncate r p (c :: cur) 0

lemma split_truncate (p r : PyStr) : ∃ ps L M rest,
    split sep p = ps ++ [L] ∧ split sep (p ++ r) = ps ++ M :: rest ∧
      (L <+: M ∨ ∃ w, L = M ++ w ∧ w <+: sep) :=
  split_go_truncate r p [] 0

/-! ## `strip` and `split(c, 1)` on an extended text -/

/-- What `strip` keeps of a text lies in it. -/
lemma strip_subset (s : PyStr) : strip s ⊆ s := fun c hc => by
  simp only [strip, List.mem_reverse] at hc
  exact (List.dropWhile_suffix _).subset
    (List.mem_reverse.mp ((List.dropWhile_suffix _).subset hc))

/-- **Stripping an extended text**: what `strip` keeps of `q + r` is what it keeps of `q`,
followed by trailing spaces of `q` and characters of `r`. -/
lemma strip_append (q r : PyStr) :
    ∃ z, strip (q ++ r) = strip q ++ z ∧ ∀ c ∈ z, c ∈ r ∨ isSpace c = true := by
  unfold strip
  rw [List.dropWhile_append]
  split
  · rename_i h
    refine ⟨strip r, ?_, fun c hc => .inl (strip_subset r hc)⟩
    simp [List.isEmpty_iff.mp h, strip]
  · generalize q.dropWhile isSpace = X
    have hX :
        (X.reverse.dropWhile isSpace).reverse ++ (X.reverse.takeWhile isSpace).reverse = X := by
      have h := congrArg List.reverse (List.takeWhile_append_dropWhile isSpace X.reverse)
      rwa [List.reverse_append, List.reverse_reverse] at h
    rw [List.reverse_append, List.dropWhile_append]
    split
    · exact ⟨[], by simp, by simp⟩
    · refine ⟨(X.reverse.takeWhile isSpace).reverse ++ (r.reverse.dropWhile isSpace).reverse,
        ?_, ?_⟩
      · rw [List.reverse_append, List.reverse_reverse, ← List.append_assoc, hX]
      · intro c hc
        rcases List.mem_append.mp hc with hc | hc
        · exact .inr (List.mem_takeWhile_imp (List.mem_reverse.mp hc))
        · exact .inl (List.mem_reverse.mp
            ((List.dropWhile_suffix _).subset (List.mem_reverse.mp hc)))

lemma replaceFirst_at_start {old new s : PyStr} (hne : old ≠ []) (h : old <+: s) :
    replaceFirst old new s = new ++ s.drop old.length := by
  cases s with
  | nil => exact absurd (List.prefix_nil.mp h) hne
  | cons c cs => rw [replaceFirst, if_pos (List.isPrefixOf_iff_prefix.mpr h)]

lemma splitOnce_eq_some {c : PyChar} : ∀ {s f d : PyStr}, splitOnce c s = some (f, d) →
    s = f ++ c :: d
  | [], _, _, h => by simp [splitOnce] at h
  | e :: s, f, d, h => by
    simp only [splitOnce] at h
    split_ifs at h with he
    · cases h
      simp [he]
    · obtain ⟨⟨f', d'⟩, h', hfd⟩ := Option.map_eq_some'.mp h
      cases hfd
      simp [splitOnce_eq_some h']

lemma splitOnce_append_of_eq_some {c : PyChar} (r : PyStr) : ∀ {s f d : PyStr},
    splitOnce c s = some (f, d) → splitOnce c (s ++ r) = some (f, d ++ r)
  | [], _, _, h => by simp [splitOnce] at h
  | e :: s, f, d, h => by
    simp only [splitOnce, List.cons_append] at h ⊢
    split_ifs at h ⊢ with he
    · cases h
      rfl
    · obtain ⟨⟨f', d'⟩, h', hfd⟩ := Option.map_eq_some'.mp h
      cases hfd
      simp [splitOnce_append_of_eq_some r h']

lemma splitOnce_append_of_eq_none {c : PyChar} (r : PyStr) : ∀ {s : PyStr},
    splitOnce c s = none → splitOnce c (s ++ r) = (splitOnce c r).map fun p => (s ++ p.1, p.2)
  | [], _ => by simp
  | e :: s, h => by
    simp only [splitOnce, List.cons_append] at h ⊢
    split_ifs at h ⊢ with he
    simp [splitOnce_append_of_eq_none r (Option.map_eq_none'.mp h), Option.map_map,
      Function.comp_def]

end PyStr

end GatewayLogs
