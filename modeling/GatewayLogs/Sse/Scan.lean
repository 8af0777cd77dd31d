import GatewayLogs.Sse.Parse
import GatewayLogs.Json.Dumps
import GatewayLogs.Loop

/-!
# The brace scan of `parse_sse_response`

Lines 35–44 find the end of the JSON text after `data:` by counting braces, with no regard for
quotes.  This module says what that scan finds.

* `jsonEnd_append_of_ne_zero`, `jsonEnd_append_of_not_mem` — once the scan ends inside a text,
  it ends at the same place in any longer text, and text with no `}` after it changes nothing.
  Decoding is stable under truncation because of these (`GatewayLogs.Sse.Stream`).
* `ScanBalanced` — a text the scan passes over from any positive count.  The serialisation of a
  value none of whose strings holds a brace is one (`dumps_scanBalanced`): numbers, literals,
  separators and escaped strings carry no brace.
* `jsonEnd_dumps_append` — over `json.dumps(v) + t` for such an object, `json_end` is
  `len(json.dumps(v))`, whatever `t` is.
* **`brace_in_string_moves_jsonEnd`** — a brace inside a string is counted like any other: the
  scan then ends inside the object, and `json.loads` fails on what it cut, or runs past the
  object into `t`.
-/

namespace GatewayLogs

/-! ## The scan over a longer text -/

/-- A text with no `}` never ends the scan. -/
lemma jsonEnd_go_eq_zero : ∀ {s : PyStr}, ('}' : PyChar) ∉ s → ∀ count i, jsonEnd.go s count i = 0
  | [], _, _, _ => rfl
  | c :: s, h, count, i => by
    have hc : c ≠ '}' := fun e => h (e ▸ List.mem_cons_self _ _)
    have hs : ('}' : PyChar) ∉ s := fun m => h (List.mem_cons_of_mem _ m)
    simp only [jsonEnd.go, hc, if_false]
    split <;> exact jsonEnd_go_eq_zero hs _ _

/-- Once the scan has ended inside `s`, what follows `s` does not matter. -/
lemma jsonEnd_go_append_of_ne_zero (r : PyStr) : ∀ (s : PyStr) (count : Int) (i : Nat),
    jsonEnd.go s count i ≠ 0 → jsonEnd.go (s ++ r) count i = jsonEnd.go s count i
  | [], _, _, h => absurd rfl h
  | c :: s, count, i, h => by
    simp only [List.cons_append, jsonEnd.go] at h ⊢
    split_ifs at h ⊢ <;> first | rfl | exact jsonEnd_go_append_of_ne_zero r s _ _ h

/-- Text with no `}` after `s` does not change where the scan ends. -/
lemma jsonEnd_go_append_of_not_mem {r : PyStr} (hr : ('}' : PyChar) ∉ r) :
    ∀ (s : PyStr) (count : Int) (i : Nat), jsonEnd.go (s ++ r) count i = jsonEnd.go s count i
  | [], count, i => jsonEnd_go_eq_zero hr count i
  | c :: s, count, i => by
    simp only [List.cons_append, jsonEnd.go]
    split_ifs <;> first | rfl | exact jsonEnd_go_append_of_not_mem hr s _ _

lemma jsonEnd_go_le : ∀ (s : PyStr) (count : Int) (i : Nat), jsonEnd.go s count i ≤ i + s.length
  | [], _, _ => Nat.zero_le _
  | c :: s, count, i => by
    simp only [jsonEnd.go, List.length_cons]
    split_ifs <;> first | omega | exact (jsonEnd_go_le s _ (i + 1)).trans (by omega)

/-- **The scan is stable under extension**: once `json_end` is set inside `s`, the same
`json_end` is found in any text that starts with `s`, and it lies within `s`. -/
lemma jsonEnd_append_of_ne_zero {s : PyStr} (h : jsonEnd s ≠ 0) (r : PyStr) :
    jsonEnd (s ++ r) = jsonEnd s ∧ jsonEnd s ≤ s.length :=
  ⟨jsonEnd_go_append_of_ne_zero r s 0 0 h, by simpa using jsonEnd_go_le s 0 0⟩

lemma jsonEnd_append_of_not_mem {r : PyStr} (hr : ('}' : PyChar) ∉ r) (s : PyStr) :
    jsonEnd (s ++ r) = jsonEnd s :=
  jsonEnd_go_append_of_not_mem hr s 0 0


/-! ## Texts with no brace

Outside the characters of its strings, what `json.dumps` writes holds no brace: digits, the
letters and signs of numbers and literals, separators, quotes and escapes. -/

lemma forall_mem_ite {α : Type} {p : Prop} [Decidable p] {a b : List α} {P : α → Prop}
    (ha : ∀ x ∈ a, P x) (hb : ∀ x ∈ b, P x) : ∀ x ∈ (if p then a else b), P x := by
  split
  · exact ha
  · exact hb

lemma map_ofChar_ne_brace {l : List Char} (h : ∀ c ∈ l, c ≠ '{' ∧ c ≠ '}') :
    ∀ c ∈ l.map PyChar.ofChar, c ≠ '{' ∧ c ≠ '}' := by
  intro c hc
  obtain ⟨d, hd, rfl⟩ := List.mem_map.mp hc
  exact ⟨fun e => (h d hd).1 (PyChar.ofChar_injective e),
    fun e => (h d hd).2 (PyChar.ofChar_injective e)⟩

lemma lit_ne_brace {s : String} (h : ∀ c ∈ s.toList, c ≠ '{' ∧ c ≠ '}') :
    ∀ c ∈ lit s, c ≠ '{' ∧ c ≠ '}' :=
  map_ofChar_ne_brace h

lemma digitChar_ne_brace : ∀ m < 10, Nat.digitChar m ≠ '{' ∧ Nat.digitChar m ≠ '}' := by
  decide

lemma toDigitsCore_ne_brace : ∀ (f n : Nat) (ds : List Char),
    (∀ c ∈ ds, c ≠ '{' ∧ c ≠ '}') → ∀ c ∈ Nat.toDigitsCore 10 f n ds, c ≠ '{' ∧ c ≠ '}'
  | 0, _, _, h => h
  | f + 1, n, ds, h => by
    have hd : ∀ c ∈ Nat.digitChar (n % 10) :: ds, c ≠ '{' ∧ c ≠ '}' :=
      List.forall_mem_cons.mpr ⟨digitChar_ne_brace _ (Nat.mod_lt _ (by decide)), h⟩
    exact forall_mem_ite hd (toDigitsCore_ne_brace f _ _ hd)

lemma toDigits_ne_brace (n : Nat) : ∀ c ∈ Nat.toDigits 10 n, c ≠ '{' ∧ c ≠ '}' :=
  toDigitsCore_ne_brace _ n [] fun _ h => absurd h (List.not_mem_nil _)

lemma intRepr_ne_brace (z : Int) : ∀ c ∈ Json.intRepr z, c ≠ '{' ∧ c ≠ '}' := by
  cases z with
  | ofNat m => exact lit_ne_brace (toDigits_ne_brace m)
  | negSucc m =>
    exact lit_ne_brace (List.forall_mem_cons.mpr ⟨by decide, toDigits_ne_brace (m + 1)⟩)

lemma layout_ne_brace {ds : List Char} (h : ∀ c ∈ ds, c ≠ '{' ∧ c ≠ '}') (decpt : Int) :
    ∀ c ∈ PyFloat.layout ds decpt, c ≠ '{' ∧ c ≠ '}' := by
  have ht : ∀ n, ∀ c ∈ ds.take n, c ≠ '{' ∧ c ≠ '}' := fun n c hc => h c (List.mem_of_mem_take hc)
  have hd : ∀ n, ∀ c ∈ ds.drop n, c ≠ '{' ∧ c ≠ '}' := fun n c hc => h c (List.mem_of_mem_drop hc)
  have hz : ∀ n, ∀ c ∈ List.replicate n '0', c ≠ '{' ∧ c ≠ '}' := fun n c hc =>
    List.eq_of_mem_replicate hc ▸ by decide
  have hsign : ∀ x : Int,
      (if x < 0 then '-' else '+') ≠ '{' ∧ (if x < 0 then '-' else '+') ≠ '}' :=
    fun x => by split <;> decide
  have hexp : ∀ xs : List Char, (∀ c ∈ xs, c ≠ '{' ∧ c ≠ '}') →
      ∀ c ∈ (if xs.length < 2 then '0' :: xs else xs), c ≠ '{' ∧ c ≠ '}' := fun xs hxs =>
    forall_mem_ite (List.forall_mem_cons.mpr ⟨by decide, hxs⟩) hxs
  unfold PyFloat.layout
  refine forall_mem_ite ?_ (forall_mem_ite ?_ (forall_mem_ite ?_ ?_))
  · -- `1.5e+16` style
    exact List.forall_mem_append.mpr ⟨List.forall_mem_append.mpr ⟨ht 1,
      forall_mem_ite (fun _ h => absurd h (List.not_mem_nil _))
        (List.forall_mem_cons.mpr ⟨by decide, hd 1⟩)⟩,
      List.forall_mem_cons.mpr ⟨by decide, List.forall_mem_cons.mpr
        ⟨hsign _, hexp _ (toDigits_ne_brace _)⟩⟩⟩
  · exact List.forall_mem_cons.mpr ⟨by decide, List.forall_mem_cons.mpr
      ⟨by decide, List.forall_mem_append.mpr ⟨hz _, h⟩⟩⟩
  · exact List.forall_mem_append.mpr ⟨List.forall_mem_append.mpr ⟨h, hz _⟩, by decide⟩
  · exact List.forall_mem_append.mpr ⟨ht _, List.forall_mem_cons.mpr ⟨by decide, hd _⟩⟩

lemma reprFinite_ne_brace (neg : Bool) (n : Nat) :
    ∀ c ∈ PyFloat.reprFinite neg n, c ≠ '{' ∧ c ≠ '}' := by
  unfold PyFloat.reprFinite
  refine List.forall_mem_append.mpr ⟨by split <;> decide, ?_⟩
  split
  · decide
  · exact layout_ne_brace (toDigits_ne_brace _) _

lemma floatStr_ne_brace (x : PyFloat) : ∀ c ∈ Json.floatStr x, c ≠ '{' ∧ c ≠ '}' := by
  cases x with
  | nan => exact lit_ne_brace (by decide)
  | inf neg => cases neg <;> exact lit_ne_brace (by decide)
  | fin neg n => exact map_ofChar_ne_brace (reprFinite_ne_brace neg n.val)

lemma hexDigit_ne_brace :
    ∀ d < 16, PyChar.ofNat (if d < 10 then 48 + d else 87 + d) ≠ '{' ∧
      PyChar.ofNat (if d < 10 then 48 + d else 87 + d) ≠ '}' := by
  decide

lemma escapeChar_ne_brace {c : PyChar} (h : c ≠ '{' ∧ c ≠ '}') :
    ∀ e ∈ Json.escapeChar c, e ≠ '{' ∧ e ≠ '}' := by
  have hu : ∀ n, ∀ e ∈ Json.uEscape n, e ≠ '{' ∧ e ≠ '}' := fun n => by
    simp only [Json.uEscape, Json.hex4, List.map_cons, List.map_nil, List.forall_mem_append,
      List.forall_mem_cons, List.forall_mem_nil]
    exact ⟨lit_ne_brace (by decide), hexDigit_ne_brace _ (Nat.mod_lt _ (by decide)),
      hexDigit_ne_brace _ (Nat.mod_lt _ (by decide)),
      hexDigit_ne_brace _ (Nat.mod_lt _ (by decide)),
      hexDigit_ne_brace _ (Nat.mod_lt _ (by decide)), fun _ h => absurd h (List.not_mem_nil _)⟩
  unfold Json.escapeChar
  refine forall_mem_ite (lit_ne_brace (by decide)) <| forall_mem_ite (lit_ne_brace (by decide)) <|
    forall_mem_ite (lit_ne_brace (by decide)) <| forall_mem_ite (lit_ne_brace (by decide)) <|
    forall_mem_ite (lit_ne_brace (by decide)) <| forall_mem_ite (lit_ne_brace (by decide)) <|
    forall_mem_ite (lit_ne_brace (by decide)) <| forall_mem_ite (List.forall_mem_singleton.mpr h) <|
    forall_mem_ite (hu _) (List.forall_mem_append.mpr ⟨hu _, hu _⟩)

lemma encodeStr_ne_brace {s : PyStr} (h : ∀ c ∈ s, c ≠ '{' ∧ c ≠ '}') :
    ∀ c ∈ Json.encodeStr s, c ≠ '{' ∧ c ≠ '}' := by
  refine List.forall_mem_append.mpr
    ⟨List.forall_mem_append.mpr ⟨lit_ne_brace (by decide), ?_⟩, lit_ne_brace (by decide)⟩
  intro e he
  obtain ⟨c, hc, he⟩ := List.mem_flatMap.mp he
  exact escapeChar_ne_brace (h c hc) e he

/-! ## Values with no brace in their strings -/

/-- No `{` or `}` in a text. -/
def PyStr.braceFree (s : PyStr) : Bool := s.all fun c => c ≠ '{' && c ≠ '}'

lemma PyStr.braceFree_iff {s : PyStr} :
    PyStr.braceFree s = true ↔ ∀ c ∈ s, c ≠ '{' ∧ c ≠ '}' := by
  simp [PyStr.braceFree]

mutual
/-- **No string of `v`, key or value at any depth, holds `{` or `}`.** -/
def PyVal.braceFree : PyVal → Bool
  | .str s => PyStr.braceFree s
  | .list xs => PyVal.braceFreeList xs
  | .dict kvs => PyVal.braceFreeDict kvs
  | _ => true
/-- `braceFree` of every item. -/
def PyVal.braceFreeList : List PyVal → Bool
  | [] => true
  | x :: xs => x.braceFree && PyVal.braceFreeList xs
/-- `braceFree` of every key and value. -/
def PyVal.braceFreeDict : List (PyVal × PyVal) → Bool
  | [] => true
  | (k, v) :: kvs => k.braceFree && v.braceFree && PyVal.braceFreeDict kvs
end

lemma keyStr?_ne_brace {k : PyVal} {d : PyStr} (hk : k.braceFree = true)
    (h : Json.keyStr? k = .ok d) : ∀ c ∈ d, c ≠ '{' ∧ c ≠ '}' := by
  cases k with
  | str s => cases h; exact encodeStr_ne_brace (PyStr.braceFree_iff.mp hk)
  | bool b => cases b <;> cases h <;> exact encodeStr_ne_brace (lit_ne_brace (by decide))
  | none => cases h; exact encodeStr_ne_brace (lit_ne_brace (by decide))
  | int z =>
    obtain ⟨t, ht, rfl⟩ := map_eq_ok.mp h
    rw [(Json.intRepr?_eq_ok ht).2]
    exact encodeStr_ne_brace (intRepr_ne_brace z)
  | float x => cases h; exact encodeStr_ne_brace (floatStr_ne_brace x)
  | list _ => cases h
  | dict _ => cases h

/-! ## The scan over a serialised value -/

/-- **A balanced text for the scan**: from any positive count the scan passes over it and
comes out at the same count, without ending. -/
def ScanBalanced (d : PyStr) : Prop :=
  ∀ (count : Int), 0 < count → ∀ rest i,
    jsonEnd.go (d ++ rest) count i = jsonEnd.go rest count (i + d.length)

lemma ScanBalanced.append {a b : PyStr} (ha : ScanBalanced a) (hb : ScanBalanced b) :
    ScanBalanced (a ++ b) := fun count hc rest i => by
  rw [List.append_assoc, ha count hc, hb count hc, List.length_append, Nat.add_assoc]

/-- A text with no brace leaves the count alone. -/
lemma scanBalanced_of_ne_brace : ∀ {x : PyStr}, (∀ c ∈ x, c ≠ '{' ∧ c ≠ '}') → ScanBalanced x
  | [], _ => fun _ _ _ _ => rfl
  | c :: x, h => fun count hc rest i => by
    obtain ⟨h1, h2⟩ := h c (List.mem_cons_self _ _)
    simp only [List.cons_append, jsonEnd.go, h1, h2, if_false, List.length_cons, List.append_eq]
    rw [scanBalanced_of_ne_brace (fun d hd => h d (List.mem_cons_of_mem _ hd)) count hc rest]
    congr 1
    omega

/-- Braces around a balanced text keep it balanced. -/
lemma ScanBalanced.braces {x : PyStr} (hx : ScanBalanced x) :
    ScanBalanced (lit "\x7b" ++ x ++ lit "\x7d") := fun count hc rest i => by
  have hc' : (0 : Int) < count + 1 := by omega
  have hne : count + 1 - 1 ≠ 0 := by omega
  have hl : lit "\x7b" = [PyChar.ofChar '{'] ∧ lit "\x7d" = [PyChar.ofChar '}'] := ⟨rfl, rfl⟩
  rw [hl.1, hl.2, List.append_assoc, List.append_assoc, List.singleton_append,
    List.singleton_append, jsonEnd.go, if_pos rfl, hx _ hc', jsonEnd.go, if_neg (by decide),
    if_pos rfl, if_neg hne, Int.add_sub_cancel]
  simp only [List.length_append, List.length_singleton]
  congr 1
  omega

lemma scanBalanced_joinComma : ∀ {ds : List PyStr}, (∀ d ∈ ds, ScanBalanced d) →
    ScanBalanced (Json.joinComma ds)
  | [], _ => fun _ _ _ _ => rfl
  | [d], h => h d (List.mem_singleton_self d)
  | d :: d' :: ds, h => by
    have hds := List.forall_mem_cons.mp h
    exact (hds.1.append (scanBalanced_of_ne_brace (lit_ne_brace (by decide)))).append
      (scanBalanced_joinComma hds.2)

mutual
/-- **The serialisation of a brace-free value is balanced for the scan.** -/
lemma dumps_scanBalanced : ∀ (v : PyVal) {d : PyStr}, v.braceFree = true →
    Json.dumps v = .ok d → ScanBalanced d
  | .none, _, _, h => by cases h; exact scanBalanced_of_ne_brace (lit_ne_brace (by decide))
  | .bool b, _, _, h => by
    cases b <;> cases h <;> exact scanBalanced_of_ne_brace (lit_ne_brace (by decide))
  | .int z, _, _, h => by
    rw [(Json.intRepr?_eq_ok h).2]
    exact scanBalanced_of_ne_brace (intRepr_ne_brace z)
  | .float x, _, _, h => by cases h; exact scanBalanced_of_ne_brace (floatStr_ne_brace x)
  | .str s, _, hv, h => by
    cases h
    exact scanBalanced_of_ne_brace (encodeStr_ne_brace (PyStr.braceFree_iff.mp hv))
  | .list xs, _, hv, h => by
    obtain ⟨ds, hds, h⟩ := bind_eq_ok.mp h
    cases h
    exact ((scanBalanced_of_ne_brace (lit_ne_brace (by decide))).append
      (scanBalanced_joinComma (dumpsList_scanBalanced xs hv hds))).append
      (scanBalanced_of_ne_brace (lit_ne_brace (by decide)))
  | .dict kvs, _, hv, h => by
    obtain ⟨ds, hds, h⟩ := bind_eq_ok.mp h
    cases h
    exact (scanBalanced_joinComma (dumpsDict_scanBalanced kvs hv hds)).braces
lemma dumpsList_scanBalanced : ∀ (xs : List PyVal) {ds : List PyStr},
    PyVal.braceFreeList xs = true → Json.dumpsList xs = .ok ds → ∀ d ∈ ds, ScanBalanced d
  | [], _, _, h => by cases h; simp
  | x :: xs, _, hv, h => by
    obtain ⟨a, ha, h⟩ := bind_eq_ok.mp h
    obtain ⟨b, hb, h⟩ := bind_eq_ok.mp h
    cases h
    simp only [PyVal.braceFreeList, Bool.and_eq_true] at hv
    exact List.forall_mem_cons.mpr ⟨dumps_scanBalanced x hv.1 ha, dumpsList_scanBalanced xs hv.2 hb⟩
lemma dumpsDict_scanBalanced : ∀ (kvs : List (PyVal × PyVal)) {ds : List PyStr},
    PyVal.braceFreeDict kvs = true → Json.dumpsDict kvs = .ok ds → ∀ d ∈ ds, ScanBalanced d
  | [], _, _, h => by cases h; simp
  | (k, v) :: kvs, _, hv, h => by
    obtain ⟨a, ha, h⟩ := bind_eq_ok.mp h
    obtain ⟨b, hb, h⟩ := bind_eq_ok.mp h
    obtain ⟨c, hc, h⟩ := bind_eq_ok.mp h
    cases h
    simp only [PyVal.braceFreeDict, Bool.and_eq_true] at hv
    refine List.forall_mem_cons.mpr ⟨?_, dumpsDict_scanBalanced kvs hv.2 hc⟩
    exact ((scanBalanced_of_ne_brace (keyStr?_ne_brace hv.1.1 ha)).append
      (scanBalanced_of_ne_brace (lit_ne_brace (by decide)))).append (dumps_scanBalanced v hv.1.2 hb)
end

/-- **The brace scan over a serialised object**: for a JSON object whose strings hold no brace,
`json_end` over `json.dumps(v) + t` is `len(json.dumps(v))` whatever `t` is, so `json.loads` is
given exactly `json.dumps(v)`. -/
lemma jsonEnd_dumps_append {kvs : List (PyVal × PyVal)} {d : PyStr}
    (hv : (PyVal.dict kvs).braceFree = true) (hd : Json.dumps (.dict kvs) = .ok d) (t : PyStr) :
    jsonEnd (d ++ t) = d.length ∧ (d ++ t).take (jsonEnd (d ++ t)) = d := by
  obtain ⟨ds, hds, h⟩ := bind_eq_ok.mp hd
  cases h
  have hb := scanBalanced_joinComma (dumpsDict_scanBalanced kvs hv hds)
  have hl : lit "\x7b" = [PyChar.ofChar '{'] ∧ lit "\x7d" = [PyChar.ofChar '}'] := ⟨rfl, rfl⟩
  have hend : jsonEnd (lit "\x7b" ++ Json.joinComma ds ++ lit "\x7d" ++ t) =
      (lit "\x7b" ++ Json.joinComma ds ++ lit "\x7d").length := by
    rw [hl.1, hl.2, List.append_assoc, List.append_assoc, List.singleton_append,
      List.singleton_append, jsonEnd, jsonEnd.go, if_pos rfl, hb _ (by decide), jsonEnd.go,
      if_neg (by decide), if_pos rfl, if_pos (by decide)]
    simp only [List.length_append, List.length_singleton]
  exact ⟨hend, by rw [hend, List.take_left]⟩

/-- A one-member object whose string value is `s`. -/
def braceMember (s : String) : PyVal := obj [("a", strVal s)]

set_option maxRecDepth 100000 in
/-- A `}` inside a string ends the scan inside the object, and `json.loads` fails on what is
cut; a `{` inside a string makes the scan run past the object into the next `}`. -/
theorem brace_in_string_moves_jsonEnd :
    (Json.dumps (braceMember "\x7d")).map (fun d =>
        (jsonEnd d, d.length, (Json.loadsStr (Json.loadsRoom 3) (d.take (jsonEnd d))).toOption)) =
      .ok (8, 10, none) ∧
    (Json.dumps (braceMember "\x7b")).map (fun d =>
        (jsonEnd (d ++ lit "\x7d"), d.length)) = .ok (11, 10) := by
  decide

end GatewayLogs
