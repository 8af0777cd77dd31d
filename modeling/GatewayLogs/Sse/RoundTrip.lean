import GatewayLogs.Sse.Stream
import GatewayLogs.Sse.Encode
import GatewayLogs.Json.RoundTrip
import Mathlib.Data.List.Infix

/-!
# `parse_sse_response` reads back an encoded stream

`sseEncode` writes each event as `event: <kind>`, a `data: ` line holding `json.dumps` of its
payload, and a blank line.  This module proves that `parse_sse_response` decodes such a stream
to the events it was written from (`decodedBlocks_sseEncode`), so that the state it returns is
the state of taking those events one after the other (**`parseSseResponse_sseEncode`**).

That needs every event to be `Framed`, and each condition is one the decoder imposes:

* the body is cut at every `event:`, so neither the kind nor what `json.dumps` writes for the
  payload may hold it (`PyVal.eventFree`: no string of the payload is escaped into a text with
  `event:`, for an escape such as `þ` followed by `vent:` makes one);
* the event type is the first line, stripped, so the kind is one non-empty stripped line;
* the brace scan counts braces inside strings and stops at the first `}` that closes the first
  `{`, so the payload is an object whose strings hold no brace (`PyVal.braceFree`);
* what the scan cut goes to `json.loads`, which reads back `json.dumps` only for values without
  floats, surrogate pairs or repeated keys (`PyVal.reloadable`), and only as deep as the
  recursion budget it has inside `parse_sse_response` (993 levels, `Json.loadsRoom 3`).

The proof follows the decoder: the split of the whole body (`split_sseEncode`), then one part
(`decodeBlock_ssePart`) through `strip`, the first line break, the `data:` prefix and the brace
scan.

* **`loads_jsonEnd_dumps_append`** — over `json.dumps(v) + t` for such an object, the scan sets
  `json_end` to `len(json.dumps(v))`, and `json.loads` of the cut text yields `v`;
* `brace_in_text_loses_event` — without those conditions the round trip fails: a single text
  delta `{` never balances, so its block decodes to no event and adds no text.
-/

namespace GatewayLogs

/-! ## Where a separator can occur -/

section Infix

variable {α : Type} {sep : List α}

/-- **An occurrence of `sep` cannot cross a character that `sep` does not hold.** -/
lemma not_infix_append_cons {c : α} (hc : c ∉ sep) {b : List α} (hb : ¬ sep <:+: b) :
    ∀ {a : List α}, ¬ sep <:+: a → ¬ sep <:+: a ++ c :: b
  | [], ha, h => by
    rcases List.infix_cons_iff.mp h with ⟨t, ht⟩ | h
    · cases sep with
      | nil => exact ha (List.nil_infix)
      | cons s0 s' =>
        rw [List.cons_append, List.cons.injEq] at ht
        exact hc (ht.1 ▸ List.mem_cons_self s0 s')
    · exact hb h
  | x :: a, ha, h => by
    rcases List.infix_cons_iff.mp h with h | h
    · by_cases hl : sep.length ≤ (x :: a).length
      · exact ha (List.prefix_of_prefix_length_le h (List.prefix_append _ _) hl).isInfix
      · have hp : x :: a ++ [c] <+: sep :=
          List.prefix_of_prefix_length_le ⟨b, by simp⟩ h (by simp at hl ⊢; omega)
        exact hc (hp.subset (by simp))
    · exact not_infix_append_cons hc hb (fun h' => ha (List.infix_cons h')) h

lemma not_infix_of_not_mem {c : α} (hc : c ∈ sep) {x : List α} (hx : c ∉ x) : ¬ sep <:+: x :=
  fun h => hx (h.subset hc)

end Infix

/-- The separator of `parse_sse_response`. -/
lemma event_ne_nil : lit "event:" ≠ [] := by decide

lemma event_borderFree : PyStr.BorderFree (lit "event:") := by decide

/-- A character of a literal with no `event:`-character. -/
lemma not_mem_event {c : PyChar} (h : c = '"' ∨ c = ',' ∨ c = ' ' ∨ c = '[' ∨ c = ']' ∨
    c = '{' ∨ c = '}' ∨ c = '\n') : c ∉ lit "event:" := by
  rcases h with rfl | rfl | rfl | rfl | rfl | rfl | rfl | rfl <;> decide

/-! ## Payloads with no `event:` in their serialisation -/

mutual
/-- **No string of `v`, key or value at any depth, is escaped by `json.dumps` into a text
holding `event:`.** -/
def PyVal.eventFree : PyVal → Bool
  | .str s => !decide (lit "event:" <:+: s.flatMap Json.escapeChar)
  | .list xs => PyVal.eventFreeList xs
  | .dict kvs => PyVal.eventFreeDict kvs
  | _ => true
/-- `eventFree` of every item. -/
def PyVal.eventFreeList : List PyVal → Bool
  | [] => true
  | x :: xs => x.eventFree && PyVal.eventFreeList xs
/-- `eventFree` of every key and value. -/
def PyVal.eventFreeDict : List (PyVal × PyVal) → Bool
  | [] => true
  | (k, v) :: kvs => k.eventFree && v.eventFree && PyVal.eventFreeDict kvs
end

lemma colon_mem_event : PyChar.ofChar ':' ∈ lit "event:" := by decide

lemma colon_not_mem_intRepr (z : Int) : PyChar.ofChar ':' ∉ Json.intRepr z := by
  obtain ⟨neg, n, hz, -⟩ := Json.intRepr_cases z
  obtain ⟨c, cs, hds, hc, hcs, -⟩ := Json.toDigits_spec n
  rw [hz, hds]
  have hd : ∀ x ∈ c :: cs, Json.isDigit x = true := List.forall_mem_cons.mpr ⟨hc, hcs⟩
  have hcol : PyChar.ofChar ':' ∉ c :: cs := fun h => absurd (hd _ h) (by decide)
  cases neg
  · simpa using hcol
  · intro h
    rcases List.mem_cons.mp h with h | h
    · exact absurd h (by decide)
    · exact hcol h

/-- A string literal as `json.dumps` writes it, between its quotes. -/
lemma encodeStr_noEvent {s : PyStr} (hs : ¬ lit "event:" <:+: s.flatMap Json.escapeChar)
    (rest : PyStr) (hr : ¬ lit "event:" <:+: rest) :
    ¬ lit "event:" <:+: Json.encodeStr s ++ rest := by
  rw [Json.encodeStr_append]
  exact not_infix_append_cons (a := []) (not_mem_event (.inl rfl))
    (not_infix_append_cons (not_mem_event (.inl rfl)) hr hs) (by decide)

lemma joinComma_noEvent : ∀ {ds : List PyStr}, (∀ d ∈ ds, ¬ lit "event:" <:+: d) →
    ¬ lit "event:" <:+: Json.joinComma ds
  | [], _ => by decide
  | [d], h => h d (List.mem_singleton_self d)
  | d :: d' :: ds, h => by
    have hds := List.forall_mem_cons.mp h
    rw [Json.joinComma_cons (List.cons_ne_nil _ _), List.append_assoc]
    exact not_infix_append_cons (not_mem_event (.inr (.inl rfl)))
      (not_infix_append_cons (a := []) (not_mem_event (.inr (.inr (.inl rfl))))
        (joinComma_noEvent hds.2) (by decide)) hds.1

/-- Brackets around a text. -/
lemma brackets_noEvent {o e : PyChar} (ho : o ∉ lit "event:") (he : e ∉ lit "event:")
    {x : PyStr} (hx : ¬ lit "event:" <:+: x) : ¬ lit "event:" <:+: o :: (x ++ [e]) :=
  not_infix_append_cons (a := []) ho (not_infix_append_cons he (by decide) hx) (by decide)

mutual
/-- **What `json.dumps` writes for an event-free value holds no `event:`.** -/
lemma dumps_noEvent : ∀ (v : PyVal) {d : PyStr}, v.reloadable = true → v.eventFree = true →
    Json.dumps v = .ok d → ¬ lit "event:" <:+: d
  | .none, _, _, _, h => by cases h; decide
  | .bool b, _, _, _, h => by cases b <;> cases h <;> decide
  | .int z, _, _, _, h => by
    obtain ⟨-, rfl⟩ := Json.intRepr?_eq_ok h
    exact not_infix_of_not_mem colon_mem_event (colon_not_mem_intRepr z)
  | .float _, _, hv, _, _ => by simp [PyVal.reloadable] at hv
  | .str s, _, _, he, h => by
    cases h
    simpa using encodeStr_noEvent (by simpa [PyVal.eventFree] using he) [] (by decide)
  | .list xs, _, hv, he, h => by
    obtain ⟨ds, hds, h⟩ := bind_eq_ok.mp h
    cases h
    exact brackets_noEvent (not_mem_event (by decide)) (not_mem_event (by decide))
      (joinComma_noEvent (dumpsList_noEvent xs hv he hds))
  | .dict kvs, _, hv, he, h => by
    obtain ⟨ds, hds, h⟩ := bind_eq_ok.mp h
    cases h
    exact brackets_noEvent (not_mem_event (by decide)) (not_mem_event (by decide))
      (joinComma_noEvent (dumpsDict_noEvent kvs hv he hds))
lemma dumpsList_noEvent : ∀ (xs : List PyVal) {ds : List PyStr},
    PyVal.reloadableList xs = true → PyVal.eventFreeList xs = true → Json.dumpsList xs = .ok ds →
    ∀ d ∈ ds, ¬ lit "event:" <:+: d
  | [], _, _, _, h => by cases h; simp
  | x :: xs, _, hv, he, h => by
    obtain ⟨a, ha, h⟩ := bind_eq_ok.mp h
    obtain ⟨b, hb, h⟩ := bind_eq_ok.mp h
    cases h
    simp only [PyVal.reloadableList, PyVal.eventFreeList, Bool.and_eq_true] at hv he
    exact List.forall_mem_cons.mpr
      ⟨dumps_noEvent x hv.1 he.1 ha, dumpsList_noEvent xs hv.2 he.2 hb⟩
lemma dumpsDict_noEvent : ∀ (kvs : List (PyVal × PyVal)) {ds : List PyStr},
    PyVal.reloadableDict kvs = true → PyVal.eventFreeDict kvs = true →
    Json.dumpsDict kvs = .ok ds → ∀ d ∈ ds, ¬ lit "event:" <:+: d
  | [], _, _, _, h => by cases h; simp
  | (k, v) :: kvs, _, hv, he, h => by
    obtain ⟨s, rfl, -, -, hv1, hv2⟩ := Json.reloadableDict_cons hv
    obtain ⟨dv, b, hdv, hb, rfl⟩ := Json.dumpsDict_str_cons h
    simp only [PyVal.eventFreeDict, PyVal.eventFree, Bool.and_eq_true, Bool.not_eq_true',
      decide_eq_false_iff_not] at he
    refine List.forall_mem_cons.mpr ⟨?_, dumpsDict_noEvent kvs hv2 he.2 hb⟩
    rw [List.append_assoc]
    exact encodeStr_noEvent he.1.1 _ (not_infix_append_cons (a := [PyChar.ofChar ':'])
      (not_mem_event (by decide)) (dumps_noEvent v hv1 he.1.2 hdv) (by decide))
end

/-! ## One event's part of the body -/

/-- **The part of the body the split yields for one event**: the text between its `event:` and
the next, for a payload serialised as `d`. -/
def ssePart (kind d : PyStr) : PyStr :=
  lit " " ++ kind ++ lit "\n" ++ lit "data: " ++ d ++ lit "\n\n"

/-- The stream of `sseEncode`, one `event:` and one part per event. -/
lemma sseEncode_cons {ev : PyStr × PyVal} {L : List (PyStr × PyVal)} {s : PyStr}
    (h : sseEncode (ev :: L) = .ok s) :
    ∃ d t, Json.dumps ev.2 = .ok d ∧ sseEncode L = .ok t ∧
      s = lit "event:" ++ (ssePart ev.1 d ++ t) := by
  unfold sseEncode at h ⊢
  rw [List.mapM_cons] at h
  obtain ⟨blocks, hb, h⟩ := bind_eq_ok.mp h
  cases h
  obtain ⟨b, hb1, hb⟩ := bind_eq_ok.mp hb
  obtain ⟨bs, hbs, h⟩ := bind_eq_ok.mp hb
  cases h
  obtain ⟨d, hd, h⟩ := bind_eq_ok.mp hb1
  cases h
  refine ⟨d, _, hd, by rw [hbs]; rfl, ?_⟩
  simp [ssePart, lit]

/-- `sseEncode` succeeds when every payload can be serialised. -/
lemma sseEncode_isOk : ∀ {L : List (PyStr × PyVal)},
    (∀ ev ∈ L, ev.2.reloadable = true ∧ ev.2.intsFit = true) → ∃ s, sseEncode L = .ok s
  | [], _ => ⟨_, rfl⟩
  | ev :: L, h => by
    obtain ⟨d, hd⟩ := Json.dumps_isOk ev.2 (h ev (List.mem_cons_self _ _)).1
      (h ev (List.mem_cons_self _ _)).2
    obtain ⟨t, ht⟩ := sseEncode_isOk (fun e he => h e (List.mem_cons_of_mem _ he))
    unfold sseEncode at ht ⊢
    obtain ⟨bs, hbs, -⟩ := bind_eq_ok.mp ht
    exact ⟨_, by rw [List.mapM_cons]; simp only [hd, hbs, ok_bind]; rfl⟩

/-- What `strip` keeps of a text with spaces around a core whose ends are no spaces. -/
lemma strip_around {a b m u w : PyStr} {x y : PyChar} (ha : ∀ c ∈ a, PyStr.isSpace c = true)
    (hb : ∀ c ∈ b, PyStr.isSpace c = true) (hx : PyStr.isSpace x = false)
    (hy : PyStr.isSpace y = false) (h1 : m = x :: u) (h2 : m = w ++ [y]) :
    PyStr.strip (a ++ m ++ b) = m := by
  have hb' : ∀ c ∈ b.reverse, PyStr.isSpace c = true := fun c hc => hb c (List.mem_reverse.mp hc)
  unfold PyStr.strip
  rw [List.append_assoc, List.dropWhile_append_of_pos ha, h1, List.cons_append,
    List.dropWhile_cons_of_neg (by simp [hx]), ← List.cons_append, ← h1, List.reverse_append,
    List.dropWhile_append_of_pos hb', h2, List.reverse_append, List.reverse_singleton,
    List.singleton_append, List.dropWhile_cons_of_neg (by simp [hy])]
  simp

/-- A non-empty stripped text starts with no space. -/
lemma isSpace_head_of_strip {c : PyChar} {t : PyStr} (h : PyStr.strip (c :: t) = c :: t) :
    PyStr.isSpace c = false := by
  cases hc : PyStr.isSpace c
  · rfl
  · have hle : (PyStr.strip (c :: t)).length ≤ t.length := by
      unfold PyStr.strip
      rw [List.dropWhile_cons_of_pos (by simp [hc]), List.length_reverse]
      calc _ ≤ (List.dropWhile PyStr.isSpace t).reverse.length := (List.dropWhile_suffix _).length_le
        _ ≤ t.length := by rw [List.length_reverse]; exact (List.dropWhile_suffix _).length_le
    rw [h, List.length_cons] at hle
    omega

lemma splitOnce_of_not_mem {c : PyChar} : ∀ {s : PyStr}, c ∉ s → PyStr.splitOnce c s = none
  | [], _ => rfl
  | d :: s, h => by
    rw [PyStr.splitOnce, if_neg (fun e => h (by subst e; exact List.mem_cons_self _ _)),
      splitOnce_of_not_mem (fun m => h (List.mem_cons_of_mem _ m))]
    rfl

/-- What `json.dumps` wrote is read back by the `json.loads` of `parse_sse_response`, within the
recursion budget it has there. -/
lemma loads_dumps_sse {v : PyVal} {d : PyStr} (hr : v.reloadable = true)
    (hdepth : v.depth ≤ Json.loadsRoom 3) (hd : Json.dumps v = .ok d) :
    Json.loadsStr (Json.loadsRoom 3) d = .ok v :=
  Json.loadsStr_of_scanOnce (Json.dumps_starts _ hr hd) fun f hf =>
    Json.scanOnce_dumps _ hr hd f _ [] hf hdepth Json.numberEnd_nil

/-- **The brace scan cuts exactly a serialised object, and `json.loads` reads it back**: for an
object whose strings hold no brace, that `json.loads` reads back within its budget inside
`parse_sse_response`, the scan over `json.dumps(v) + t` sets `json_end` to `len(json.dumps(v))`
and `json.loads` of the cut text yields `v`, whatever `t` is. -/
theorem loads_jsonEnd_dumps_append {kvs : List (PyVal × PyVal)} {d : PyStr}
    (hb : (PyVal.dict kvs).braceFree = true) (hr : (PyVal.dict kvs).reloadable = true)
    (hdepth : (PyVal.dict kvs).depth ≤ Json.loadsRoom 3) (hd : Json.dumps (.dict kvs) = .ok d)
    (t : PyStr) :
    jsonEnd (d ++ t) = d.length ∧
      Json.loadsStr (Json.loadsRoom 3) ((d ++ t).take (jsonEnd (d ++ t))) = .ok (.dict kvs) := by
  obtain ⟨hend, htake⟩ := jsonEnd_dumps_append hb hd t
  rw [htake]
  exact ⟨hend, loads_dumps_sse hr hdepth hd⟩

theorem loads_jsonEnd_dumps_append_nestedRecord :
    ∃ d, Json.nestedRecord.braceFree = true ∧ Json.nestedRecord.reloadable = true ∧
      Json.nestedRecord.depth ≤ Json.loadsRoom 3 ∧ Json.dumps Json.nestedRecord = .ok d ∧
      jsonEnd (d ++ lit "\x7d, x") = d.length ∧
      Json.loadsStr (Json.loadsRoom 3) ((d ++ lit "\x7d, x").take (jsonEnd (d ++ lit "\x7d, x"))) =
        .ok Json.nestedRecord := by
  refine ⟨_, by decide, by decide, by decide, rfl, ?_⟩
  refine loads_jsonEnd_dumps_append ?_ ?_ ?_ ?_ _
  all_goals decide

/-- **Lines 34–48 on a serialised object**: the scan cuts exactly the object, and `json.loads`
reads it back. -/
lemma cutJson_dumps {kvs : List (PyVal × PyVal)} {d : PyStr}
    (hb : (PyVal.dict kvs).braceFree = true) (hr : (PyVal.dict kvs).reloadable = true)
    (hdepth : (PyVal.dict kvs).depth ≤ Json.loadsRoom 3) (hd : Json.dumps (.dict kvs) = .ok d) :
    cutJson d = some (.dict kvs) := by
  obtain ⟨hend, htake⟩ := jsonEnd_dumps_append hb hd []
  rw [List.append_nil] at hend htake
  have hne : d.length ≠ 0 := by
    obtain ⟨ds, -, h⟩ := bind_eq_ok.mp hd
    cases h
    simp [lit]
  rw [cutJson, if_neg (hend ▸ hne), htake, loads_dumps_sse hr hdepth hd]
  rfl

lemma ssePart_eq (k d : PyStr) : ssePart k d = PyChar.ofChar ' ' :: (k ++ PyChar.ofChar '\n' ::
    (lit "data:" ++ PyChar.ofChar ' ' :: (d ++ [PyChar.ofChar '\n', PyChar.ofChar '\n']))) := by
  simp [ssePart, lit]

/-- **One part decodes to its event**: the stripped first line is the kind, the rest starts
with `data:`, and what follows it is cut and decoded as the payload. -/
lemma decodeBlock_ssePart {k d e f : PyStr} {v : PyVal} (hk : k ≠ [])
    (hks : PyStr.strip k = k) (hkn : PyChar.ofChar '\n' ∉ k) (hd1 : d = PyChar.ofChar '{' :: e)
    (hd2 : d = f ++ [PyChar.ofChar '}']) (hv : cutJson d = some v) :
    decodeBlock (ssePart k d) = some (k, v) := by
  obtain ⟨c, k', rfl⟩ := List.exists_cons_of_ne_nil hk
  have hstrip : PyStr.strip (ssePart (c :: k') d) =
      (c :: k') ++ PyChar.ofChar '\n' :: (lit "data: " ++ d) := by
    have h := strip_around (a := lit " ") (b := lit "\n\n") (x := c) (y := PyChar.ofChar '}')
      (u := k' ++ PyChar.ofChar '\n' :: (lit "data: " ++ d))
      (w := (c :: k') ++ PyChar.ofChar '\n' :: (lit "data: " ++ f))
      (by simp [lit]; rfl) (by simp [lit]; rfl) (isSpace_head_of_strip hks) (by decide) rfl
      (by rw [hd2]; simp)
    rw [show ssePart (c :: k') d = lit " " ++ c :: (k' ++ PyChar.ofChar '\n' ::
      (lit "data: " ++ d)) ++ lit "\n\n" by simp [ssePart_eq, lit], h]
    rfl
  have hsplit : PyStr.splitOnce (PyChar.ofChar '\n') (PyStr.strip (ssePart (c :: k') d)) =
      some (c :: k', lit "data: " ++ d) := by
    rw [hstrip, PyStr.splitOnce_append_of_eq_none _ (splitOnce_of_not_mem hkn)]
    simp [PyStr.splitOnce]
  have hdata : PyStr.strip (lit " " ++ d ++ []) = d :=
    strip_around (x := PyChar.ofChar '{') (y := PyChar.ofChar '}') (by simp [lit]; rfl)
      (by simp) (by decide) (by decide) hd1 hd2
  rw [decodeBlock_eq, hsplit, Option.some_bind]
  dsimp only
  rw [jsonPayload_of_data (d := lit "data: " ++ d) ⟨lit " " ++ d, by simp [lit]⟩, hks]
  rw [show (lit "data: " ++ d).drop 5 = lit " " ++ d ++ [] by simp [lit], hdata, hv]
  rfl

/-! ## The whole stream -/

/-- **An event that the encoded stream carries intact**: its kind is one non-empty stripped line
without `event:`, and its payload an object that `json.dumps` writes with no `event:` and no
brace in a string, and that `json.loads` reads back within the recursion budget it has inside
`parse_sse_response`. -/
@[mk_iff]
structure Framed (ev : PyStr × PyVal) : Prop where
  kind_ne_nil : ev.1 ≠ []
  kind_strip : PyStr.strip ev.1 = ev.1
  kind_one_line : PyChar.ofChar '\n' ∉ ev.1
  kind_no_event : ¬ lit "event:" <:+: ev.1
  payload_dict : ev.2.isDict = true
  payload_braceFree : ev.2.braceFree = true
  payload_reloadable : ev.2.reloadable = true
  payload_depth : ev.2.depth ≤ Json.loadsRoom 3
  payload_eventFree : ev.2.eventFree = true

instance (ev : PyStr × PyVal) : Decidable (Framed ev) := decidable_of_iff _ (framed_iff ev).symm

/-- The part of a framed event holds no `event:`. -/
lemma Framed.ssePart_noEvent {ev : PyStr × PyVal} (h : Framed ev) {d : PyStr}
    (hd : Json.dumps ev.2 = .ok d) : ¬ lit "event:" <:+: ssePart ev.1 d := by
  have hnl : PyChar.ofChar '\n' ∉ lit "event:" := not_mem_event (by decide)
  have hsp : PyChar.ofChar ' ' ∉ lit "event:" := not_mem_event (by decide)
  rw [ssePart_eq]
  exact not_infix_append_cons (a := []) hsp (not_infix_append_cons hnl
    (not_infix_append_cons hsp (not_infix_append_cons hnl (by decide)
      (dumps_noEvent _ h.payload_reloadable h.payload_eventFree hd)) (by decide))
    h.kind_no_event) (by decide)

/-- The part of a framed event decodes to the event. -/
lemma Framed.decodeBlock_ssePart {ev : PyStr × PyVal} (h : Framed ev) {d : PyStr}
    (hd : Json.dumps ev.2 = .ok d) : decodeBlock (ssePart ev.1 d) = some ev := by
  obtain ⟨k, v⟩ := ev
  cases v with
  | dict kvs =>
    obtain ⟨ds, -, hds⟩ := bind_eq_ok.mp hd
    cases hds
    exact GatewayLogs.decodeBlock_ssePart h.kind_ne_nil h.kind_strip h.kind_one_line
      (e := Json.joinComma ds ++ lit "\x7d") (f := lit "\x7b" ++ Json.joinComma ds)
      (by simp [lit]) (by simp [lit])
      (cutJson_dumps h.payload_braceFree h.payload_reloadable h.payload_depth hd)
  | _ => exact absurd h.payload_dict (by simp [PyVal.isDict])

lemma split_go_of_not_infix {sep : PyStr} : ∀ (x cur : PyStr), ¬ sep <:+: x →
    PyStr.split.go sep 0 cur x = [cur.reverse ++ x]
  | [], cur, _ => by simp [PyStr.split.go]
  | c :: x, cur, hx => by
    rw [PyStr.split_go_cons, if_neg (fun h => hx h.isInfix),
      split_go_of_not_infix x (c :: cur) (fun h => hx (List.infix_cons h))]
    simp

/-- **The split of an encoded stream**: after a text `x` with no `event:`, the parts of the
encoded events are cut out exactly, and each decodes to its event. -/
lemma split_sseEncode : ∀ (L : List (PyStr × PyVal)) {s : PyStr}, (∀ ev ∈ L, Framed ev) →
    sseEncode L = .ok s → ∀ x, ¬ lit "event:" <:+: x →
    (PyStr.split (lit "event:") (x ++ s)).filterMap decodeBlock = (decodeBlock x).toList ++ L
  | [], _, _, h, x, hx => by
    obtain rfl : _ = [] := (Except.ok.inj h).symm
    rw [List.append_nil, PyStr.split, split_go_of_not_infix x [] hx, List.reverse_nil,
      List.nil_append]
    rw [List.filterMap_cons, List.filterMap_nil]
    cases decodeBlock x <;> rfl
  | ev :: L, _, hL, h, x, hx => by
    obtain ⟨d, t, hd, ht, rfl⟩ := sseEncode_cons h
    have hev := hL ev (List.mem_cons_self _ _)
    rw [PyStr.split_append_sep event_ne_nil event_borderFree, List.filterMap_append,
      split_sseEncode L (fun e he => hL e (List.mem_cons_of_mem _ he)) ht _
        (hev.ssePart_noEvent hd), hev.decodeBlock_ssePart hd, PyStr.split,
      split_go_of_not_infix x [] hx, List.reverse_nil, List.nil_append]
    rw [List.filterMap_cons, List.filterMap_nil]
    cases decodeBlock x <;> rfl

/-- **An encoded stream decodes to the events it was written from.** -/
lemma decodedBlocks_sseEncode {L : List (PyStr × PyVal)} {s : PyStr}
    (hL : ∀ ev ∈ L, Framed ev) (h : sseEncode L = .ok s) : decodedBlocks s = L :=
  split_sseEncode L hL h [] (by decide)

/-! ## Where the round trip stops -/

/-- **The text a list of events carries**: the in-order concatenation of `payload.delta.text`
over the `content_block_delta` events whose delta is an object with a string `text`. -/
def carriedText (events : List (PyStr × PyVal)) : PyStr :=
  events.flatMap fun ev =>
    if ev.1 = lit "content_block_delta" then
      match ev.2.get (lit "delta") .none with
      | .ok (.dict kvs) => match dictGet? kvs (.str (lit "text")) with
        | some (.str t) => t
        | _ => []
      | _ => []
    else []

/-- One text delta whose text is an opening brace. -/
def braceDelta : List (PyStr × PyVal) :=
  [(lit "content_block_delta", obj [("delta", obj [("text", strVal "\x7b")])])]

set_option maxRecDepth 100000 in
/-- The stream of `braceDelta` decodes to no event and no text, where it carries `{`. -/
theorem brace_in_text_loses_event :
    (sseEncode braceDelta).map
        (fun s => ((parseSseResponse s).events, (parseSseResponse s).fullText)) = .ok ([], []) ∧
    carriedText braceDelta = lit "\x7b" := by
  decide

/-! ## The state after the stream -/

/-- The fold over the parts is the fold of `takeEvent` over those that decode. -/
lemma foldl_step_eq (parts : List PyStr) (st : SseState) :
    parts.foldl SseState.step st =
      (parts.filterMap decodeBlock).foldl (fun st ev => st.takeEvent ev.1 ev.2) st := by
  induction parts generalizing st with
  | nil => rfl
  | cons p ps ih =>
    rw [List.foldl_cons, ih, SseState.step, List.filterMap_cons]
    cases decodeBlock p <;> rfl

/-- **`parse_sse_response` of an encoded stream takes the events it was written from**, one
after the other, from the initial state: the text, the usage and the recorded events are those
of the events themselves. -/
theorem parseSseResponse_sseEncode {L : List (PyStr × PyVal)} {s : PyStr}
    (hL : ∀ ev ∈ L, Framed ev) (h : sseEncode L = .ok s) :
    parseSseResponse s = L.foldl (fun st ev => st.takeEvent ev.1 ev.2) SseState.init := by
  rw [parseSseResponse, foldl_step_eq, ← decodedBlocks, decodedBlocks_sseEncode hL h]

theorem parseSseResponse_sseEncode_block :
    (∀ ev ∈ blockEvents 0 [lit "hi"], Framed ev) ∧ ∃ s, sseEncode (blockEvents 0 [lit "hi"]) = .ok s ∧
      parseSseResponse s =
        (blockEvents 0 [lit "hi"]).foldl (fun st ev => st.takeEvent ev.1 ev.2) SseState.init :=
  have hL : ∀ ev ∈ blockEvents 0 [lit "hi"], Framed ev := by decide
  ⟨hL, _, rfl, parseSseResponse_sseEncode hL rfl⟩

end GatewayLogs
