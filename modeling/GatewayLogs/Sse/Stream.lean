import GatewayLogs.Sse.Scan

/-!
# Truncated and concatenated streams

What `parse_sse_response` returns as text and event types depends on the stream only through
the list of blocks it decodes (`decodedBlocks`), block by block: each decoded block appends its
type to the event types and `blockText` to the text, whatever came before
(`takeEvent_fullText_eventTypes`, `parseSseResponse_fullText_eventTypes`).  So the laws of the
decoder are laws of `decodedBlocks`.

* **Truncation.**  A prefix of a stream splits into the same parts up to a last one cut short,
  possibly with the start of an `event:` after it (`PyStr.split_truncate`).  A part that decodes
  keeps its event when text is added after it (`decodeBlock_append`), and text with no `}` can
  neither complete nor spoil a part (`decodeBlock_append_of_not_mem`).  Hence
  **`parseSse_truncation_monotone`**: the text and event types of a truncated stream are prefixes
  of those of the whole stream.
* **Concatenation.**  `event:` overlaps no other occurrence of itself, so a stream followed by
  a block starts no new part inside the first stream (`PyStr.split_append_sep`), and
  **`parseSseResponse_append_at_boundary`**: the text and types of `s1 + s2` are those of `s1`
  followed by those of `s2`, so a block that decodes to nothing can be inserted at a boundary
  without effect.
-/

namespace GatewayLogs

/-! ## The payload of a longer part -/

lemma cutJson_append {j : PyStr} {v : PyVal} (h : cutJson j = some v) (r : PyStr) :
    cutJson (j ++ r) = some v := by
  unfold cutJson at h ⊢
  split_ifs at h with h0
  obtain ⟨he, hle⟩ := jsonEnd_append_of_ne_zero h0 r
  rw [he, if_neg h0, List.take_append_of_le_length hle, h]

lemma cutJson_append_of_not_mem {z : PyStr} (hz : ('}' : PyChar) ∉ z) (j : PyStr) :
    cutJson (j ++ z) = cutJson j := by
  unfold cutJson
  rw [jsonEnd_append_of_not_mem hz]
  split_ifs with h0
  · rfl
  · rw [List.take_append_of_le_length (jsonEnd_append_of_ne_zero h0 z).2]

lemma cutJson_of_not_mem {j : PyStr} (hj : ('}' : PyChar) ∉ j) : cutJson j = none := by
  rw [cutJson, if_pos (show jsonEnd j = 0 from jsonEnd_go_eq_zero hj 0 0)]

lemma jsonPayload_of_data {d : PyStr} (h : lit "data:" <+: d) :
    jsonPayload d = cutJson (PyStr.strip (d.drop 5)) := by
  rw [jsonPayload, if_neg (by simpa using List.isPrefixOf_iff_prefix.mpr h),
    PyStr.replaceFirst_at_start (by decide) h]
  rfl

lemma jsonPayload_of_not_data {d : PyStr} (h : ¬ lit "data:" <+: d) :
    jsonPayload d = none := by
  have hf : (lit "data:").isPrefixOf d = false :=
    Bool.eq_false_iff.mpr (mt List.isPrefixOf_iff_prefix.mp h)
  rw [jsonPayload, hf]
  rfl

/-- Once a payload decodes, what follows it does not matter. -/
lemma jsonPayload_append {d : PyStr} {v : PyVal} (h : jsonPayload d = some v) (r : PyStr) :
    jsonPayload (d ++ r) = some v := by
  by_cases hd : lit "data:" <+: d
  · have h5 : 5 ≤ d.length := hd.length_le
    rw [jsonPayload_of_data hd] at h
    obtain ⟨z, hz, -⟩ := PyStr.strip_append (d.drop 5) r
    rw [jsonPayload_of_data (hd.trans (List.prefix_append d r)),
      List.drop_append_of_le_length h5, hz, cutJson_append h]
  · rw [jsonPayload_of_not_data hd] at h
    cases h

/-- Text with no `}` after a payload changes nothing. -/
lemma jsonPayload_append_of_not_mem {z : PyStr} (hz : ('}' : PyChar) ∉ z) (d : PyStr) :
    jsonPayload (d ++ z) = jsonPayload d := by
  by_cases hd : lit "data:" <+: d
  · have h5 : 5 ≤ d.length := hd.length_le
    obtain ⟨z', hz', hzz⟩ := PyStr.strip_append (d.drop 5) z
    have hz'' : ('}' : PyChar) ∉ z' := fun m => (hzz _ m).elim hz (by decide)
    rw [jsonPayload_of_data hd, jsonPayload_of_data (hd.trans (List.prefix_append d z)),
      List.drop_append_of_le_length h5, hz', cutJson_append_of_not_mem hz'']
  · rw [jsonPayload_of_not_data hd]
    by_cases hdz : lit "data:" <+: d ++ z
    · -- the `data:` ends inside `z`, and so does everything after it
      have hlt : d.length < 5 := Nat.lt_of_not_le fun hl =>
        hd (List.prefix_of_prefix_length_le hdz (List.prefix_append d z) (by simpa using hl))
      rw [jsonPayload_of_data hdz, cutJson_of_not_mem]
      intro m
      have m' := PyStr.strip_subset _ m
      rw [List.drop_append_eq_append_drop, List.drop_eq_nil_of_le hlt.le, List.nil_append] at m'
      exact hz (List.mem_of_mem_drop m')
    · exact jsonPayload_of_not_data hdz

lemma jsonPayload_of_not_mem {d : PyStr} (hd : ('}' : PyChar) ∉ d) : jsonPayload d = none :=
  (jsonPayload_append_of_not_mem hd []).trans
    (jsonPayload_of_not_data fun h => absurd (List.prefix_nil.mp h) (by decide))

/-! ## Decoding a longer part -/

/-- **A decoded part stays decoded**: a part that decodes to an event decodes to the same event
whatever follows it. -/
lemma decodeBlock_append {q : PyStr} {e : PyStr × PyVal} (h : decodeBlock q = some e)
    (r : PyStr) : decodeBlock (q ++ r) = some e := by
  rw [decodeBlock_eq] at h ⊢
  obtain ⟨z, hz, -⟩ := PyStr.strip_append q r
  rw [hz]
  rcases hs : PyStr.splitOnce '\n' (PyStr.strip q) with _ | ⟨f, d⟩
  · rw [hs] at h
    cases h
  · rw [hs] at h
    obtain ⟨v, hv, rfl⟩ := Option.map_eq_some'.mp h
    rw [PyStr.splitOnce_append_of_eq_some z hs]
    dsimp only [Option.bind]
    rw [jsonPayload_append hv]
    rfl

/-- **Text with no `}` after a part changes nothing**: it can neither complete the JSON of the
part nor spoil it. -/
lemma decodeBlock_append_of_not_mem {w : PyStr} (hw : ('}' : PyChar) ∉ w) (q : PyStr) :
    decodeBlock (q ++ w) = decodeBlock q := by
  rw [decodeBlock_eq, decodeBlock_eq]
  obtain ⟨z, hz, hzw⟩ := PyStr.strip_append q w
  have hz' : ('}' : PyChar) ∉ z := fun m => (hzw _ m).elim hw (by decide)
  rw [hz]
  rcases hs : PyStr.splitOnce '\n' (PyStr.strip q) with _ | ⟨f, d⟩
  · -- the first line break, if any, is in `z`, and so is the payload after it
    rw [PyStr.splitOnce_append_of_eq_none z hs]
    rcases hz2 : PyStr.splitOnce '\n' z with _ | ⟨f', d'⟩
    · rfl
    · have hd' : ('}' : PyChar) ∉ d' := fun m => hz' (by simp [PyStr.splitOnce_eq_some hz2, m])
      simp [jsonPayload_of_not_mem hd']
  · rw [PyStr.splitOnce_append_of_eq_some z hs]
    dsimp only [Option.bind]
    rw [jsonPayload_append_of_not_mem hz']

/-! ## Text and event types, block by block -/

/-- The list of event types, `[e['type'] for e in events]`. -/
def SseState.eventTypes (st : SseState) : List PyStr := st.events.map Prod.fst

/-- **The text a decoded block adds to `full_text`** (lines 52–55): for a
`content_block_delta`, `data.get('delta', {}).get('text', '')` when that is a `str`; nothing
otherwise, where a lookup or the `+=` raises and the `except` swallows it. -/
def blockText (ev : PyStr × PyVal) : PyStr :=
  if ev.1 = lit "content_block_delta" then
    match (do (← ev.2.get (lit "delta") (.dict [])).get (lit "text") (.str []) :
        Except PyExc PyVal) with
    | .ok (.str t) => t
    | _ => []
  else []

lemma map_modify_fst {α β : Type} {f : α × β → α × β} (hf : ∀ x, (f x).1 = x.1) :
    ∀ (n : Nat) (l : List (α × β)), (l.modify f n).map Prod.fst = l.map Prod.fst
  | 0, [] => rfl
  | 0, x :: l => by simp [List.modify, List.modifyTailIdx, hf]
  | _ + 1, [] => rfl
  | n + 1, x :: l => by
    simpa [List.modify, List.modifyTailIdx] using map_modify_fst hf n l

/-- `usage.update(...)` touches neither the text nor the event types, only the data of the
event that owns the dict. -/
lemma updateUsage_fullText_eventTypes (st : SseState) (u : PyVal) :
    (st.updateUsage u).fullText = st.fullText ∧ (st.updateUsage u).eventTypes = st.eventTypes := by
  unfold SseState.updateUsage
  split
  · refine ⟨rfl, ?_⟩
    split
    · dsimp only [SseState.eventTypes]
      apply map_modify_fst
      intro x
      rfl
    · rfl
  · exact ⟨rfl, rfl⟩

/-- **What a decoded block does to the text and the event types**: it appends its type to the
event types and `blockText` to the text, whatever came before. -/
lemma takeEvent_fullText_eventTypes (st : SseState) (t : PyStr) (data : PyVal) :
    (st.takeEvent t data).fullText = st.fullText ++ blockText (t, data) ∧
    (st.takeEvent t data).eventTypes = st.eventTypes ++ [t] := by
  unfold SseState.takeEvent blockText
  dsimp only
  split_ifs with h1 h2 h3
  · rcases hd : data.get (lit "delta") (.dict []) with e | delta
    · simp [SseState.eventTypes]
    · rcases ht : delta.get (lit "text") (.str []) with e | text
      · simp [ht, SseState.eventTypes]
      · cases text <;> simp only [ht, ok_bind, concatStr, SseState.eventTypes, List.append_nil,
          List.map_append, List.map_cons, List.map_nil, and_self]
  · split <;> simp [SseState.eventTypes]
  · split
    · split_ifs
      · rw [(updateUsage_fullText_eventTypes _ _).1, (updateUsage_fullText_eventTypes _ _).2]
        simp [SseState.eventTypes]
      · simp [SseState.eventTypes]
    · simp [SseState.eventTypes]
  · simp [SseState.eventTypes]

lemma step_fullText_eventTypes (st : SseState) (part : PyStr) :
    (st.step part).fullText = st.fullText ++ ((decodeBlock part).map blockText).getD [] ∧
    (st.step part).eventTypes = st.eventTypes ++ ((decodeBlock part).map Prod.fst).toList := by
  unfold SseState.step
  rcases decodeBlock part with _ | ⟨t, data⟩
  · simp
  · exact takeEvent_fullText_eventTypes st t data

/-- **A run adds the text and the types of its decoded parts**, whatever state it starts in. -/
lemma foldl_step_fullText_eventTypes (parts : List PyStr) (st : SseState) :
    (parts.foldl SseState.step st).fullText =
      st.fullText ++ (parts.filterMap decodeBlock).flatMap blockText ∧
    (parts.foldl SseState.step st).eventTypes =
      st.eventTypes ++ (parts.filterMap decodeBlock).map Prod.fst := by
  induction parts generalizing st with
  | nil => simp
  | cons p ps ih =>
    obtain ⟨h1, h2⟩ := step_fullText_eventTypes st p
    obtain ⟨ih1, ih2⟩ := ih (st.step p)
    rw [List.foldl_cons, ih1, ih2, h1, h2]
    rcases h : decodeBlock p with _ | e <;> simp [List.filterMap_cons, h]

/-- **The blocks a stream decodes to**: the parts of `sse_text.split('event:')` that decode,
in order. -/
def decodedBlocks (s : PyStr) : List (PyStr × PyVal) :=
  (PyStr.split (lit "event:") s).filterMap decodeBlock

/-- **The text and the event types of a stream are those of its decoded blocks.** -/
lemma parseSseResponse_fullText_eventTypes (s : PyStr) :
    (parseSseResponse s).fullText = (decodedBlocks s).flatMap blockText ∧
    (parseSseResponse s).eventTypes = (decodedBlocks s).map Prod.fst := by
  simpa [SseState.init, SseState.eventTypes] using
    foldl_step_fullText_eventTypes (PyStr.split (lit "event:") s) SseState.init

/-! ## Truncated and concatenated streams -/

/-- `}` is not in `event:`, nor in any prefix of it. -/
lemma close_not_mem_of_prefix_event {w : PyStr} (hw : w <+: lit "event:") :
    ('}' : PyChar) ∉ w :=
  fun m => absurd (hw.subset m) (by decide)

/-- **A truncated stream decodes to a prefix of the blocks.** -/
lemma decodedBlocks_truncate {p s : PyStr} (h : p <+: s) :
    ∃ u, decodedBlocks s = decodedBlocks p ++ u := by
  obtain ⟨r, rfl⟩ := h
  obtain ⟨ps, L, M, rest, h1, h2, h3⟩ := @PyStr.split_truncate (lit "event:") p r
  have hLM : ∀ e, decodeBlock L = some e → decodeBlock M = some e := fun e he => by
    rcases h3 with ⟨u, rfl⟩ | ⟨w, rfl, hw⟩
    · exact decodeBlock_append he u
    · rwa [decodeBlock_append_of_not_mem (close_not_mem_of_prefix_event hw)] at he
  unfold decodedBlocks
  rw [h1, h2, List.filterMap_append, List.filterMap_append]
  rcases hL : decodeBlock L with _ | e
  · exact ⟨(M :: rest).filterMap decodeBlock, by simp [hL]⟩
  · exact ⟨rest.filterMap decodeBlock, by simp [hL, hLM e hL]⟩

/-- **Concatenation at a block boundary**: the blocks of `s1 + s2`, for `s2` empty or starting
with `event:`, are those of `s1` followed by those of `s2`. -/
lemma decodedBlocks_append {s1 s2 : PyStr} (h : s2 = [] ∨ lit "event:" <+: s2) :
    decodedBlocks (s1 ++ s2) = decodedBlocks s1 ++ decodedBlocks s2 := by
  have h0 : decodedBlocks [] = [] := rfl
  rcases h with rfl | ⟨t, rfl⟩
  · rw [List.append_nil, h0, List.append_nil]
  · have hs : lit "event:" ≠ [] := by decide
    have hb : PyStr.BorderFree (lit "event:") := by decide
    have h2 := PyStr.split_append_sep hs hb [] t
    rw [List.nil_append] at h2
    unfold decodedBlocks at h0 ⊢
    rw [PyStr.split_append_sep hs hb s1 t, h2, List.filterMap_append, List.filterMap_append, h0,
      List.nil_append]

lemma parseSseResponse_fullText_eventTypes_append {s1 s2 : PyStr}
    (h : s2 = [] ∨ lit "event:" <+: s2) :
    (parseSseResponse (s1 ++ s2)).fullText =
      (parseSseResponse s1).fullText ++ (parseSseResponse s2).fullText ∧
    (parseSseResponse (s1 ++ s2)).eventTypes =
      (parseSseResponse s1).eventTypes ++ (parseSseResponse s2).eventTypes := by
  simp only [(parseSseResponse_fullText_eventTypes _).1, (parseSseResponse_fullText_eventTypes _).2,
    decodedBlocks_append h, List.flatMap_append, List.map_append, and_self]

/-- **A truncated stream yields a prefix of what the whole stream yields**: for every prefix
`p` of `s`, `parse_sse_response` returns on both, and the text and the event types it returns
for `p` are prefixes of those for `s`. -/
theorem parseSse_truncation_monotone {p s : PyStr} (h : p <+: s) :
    ∃ a b, parseSse? (.str p) = .ok a ∧ parseSse? (.str s) = .ok b ∧
      a.fullText <+: b.fullText ∧ a.eventTypes <+: b.eventTypes := by
  obtain ⟨u, hu⟩ := decodedBlocks_truncate h
  refine ⟨_, _, rfl, rfl, ?_, ?_⟩
  · rw [(parseSseResponse_fullText_eventTypes p).1, (parseSseResponse_fullText_eventTypes s).1, hu,
      List.flatMap_append]
    exact List.prefix_append _ _
  · rw [(parseSseResponse_fullText_eventTypes p).2, (parseSseResponse_fullText_eventTypes s).2, hu,
      List.map_append]
    exact List.prefix_append _ _

theorem parseSse_truncation_monotone_in_json :
    lit "event: a\ndata: \x7b\"x\": 1" <+: lit "event: a\ndata: \x7b\"x\": 1\x7d\n\n" ∧
      ∃ a b, parseSse? (.str (lit "event: a\ndata: \x7b\"x\": 1")) = .ok a ∧
        parseSse? (.str (lit "event: a\ndata: \x7b\"x\": 1\x7d\n\n")) = .ok b ∧
        a.fullText <+: b.fullText ∧ a.eventTypes <+: b.eventTypes :=
  ⟨⟨lit "\x7d\n\n", rfl⟩, parseSse_truncation_monotone ⟨lit "\x7d\n\n", rfl⟩⟩

/-- **Decoding is a homomorphism over block boundaries**: when `s2` is empty or starts with
`event:`, the text and the event types of `s1 + s2` are those of `s1` followed by those of `s2`;
so a block that decodes to no event, put at such a boundary, changes neither. -/
theorem parseSseResponse_append_at_boundary {s1 s2 : PyStr}
    (h : s2 = [] ∨ lit "event:" <+: s2) :
    (parseSseResponse (s1 ++ s2)).fullText =
      (parseSseResponse s1).fullText ++ (parseSseResponse s2).fullText ∧
    (parseSseResponse (s1 ++ s2)).eventTypes =
      (parseSseResponse s1).eventTypes ++ (parseSseResponse s2).eventTypes ∧
    ∀ b, lit "event:" <+: b → (parseSseResponse b).events = [] →
      (parseSseResponse (s1 ++ b ++ s2)).fullText = (parseSseResponse (s1 ++ s2)).fullText ∧
      (parseSseResponse (s1 ++ b ++ s2)).eventTypes = (parseSseResponse (s1 ++ s2)).eventTypes := by
  refine ⟨(parseSseResponse_fullText_eventTypes_append h).1,
    (parseSseResponse_fullText_eventTypes_append h).2, fun b hb he => ?_⟩
  have hnil : decodedBlocks b = [] := by
    have ht := (parseSseResponse_fullText_eventTypes b).2
    rw [SseState.eventTypes, he, List.map_nil] at ht
    exact List.map_eq_nil_iff.mp ht.symm
  have hblocks : decodedBlocks (s1 ++ b ++ s2) = decodedBlocks (s1 ++ s2) := by
    rw [decodedBlocks_append h, decodedBlocks_append (.inr hb), hnil, List.append_nil,
      decodedBlocks_append h]
  simp only [(parseSseResponse_fullText_eventTypes _).1, (parseSseResponse_fullText_eventTypes _).2,
    hblocks, and_self]

/-- A block of kind `kind` whose data is the empty object. -/
def emptyDataBlock (kind : String) : PyStr := lit ("event: " ++ kind ++ "\ndata: \x7b\x7d\n\n")

theorem parseSseResponse_append_at_boundary_two_blocks :
    (emptyDataBlock "b" = [] ∨ lit "event:" <+: emptyDataBlock "b") ∧
    (parseSseResponse (emptyDataBlock "a" ++ emptyDataBlock "b")).fullText =
      (parseSseResponse (emptyDataBlock "a")).fullText ++
        (parseSseResponse (emptyDataBlock "b")).fullText ∧
    (parseSseResponse (emptyDataBlock "a" ++ emptyDataBlock "b")).eventTypes =
      (parseSseResponse (emptyDataBlock "a")).eventTypes ++
        (parseSseResponse (emptyDataBlock "b")).eventTypes ∧
    ∀ b, lit "event:" <+: b → (parseSseResponse b).events = [] →
      (parseSseResponse (emptyDataBlock "a" ++ b ++ emptyDataBlock "b")).fullText =
        (parseSseResponse (emptyDataBlock "a" ++ emptyDataBlock "b")).fullText ∧
      (parseSseResponse (emptyDataBlock "a" ++ b ++ emptyDataBlock "b")).eventTypes =
        (parseSseResponse (emptyDataBlock "a" ++ emptyDataBlock "b")).eventTypes :=
  ⟨.inr ⟨lit " b\ndata: \x7b\x7d\n\n", rfl⟩,
    parseSseResponse_append_at_boundary (.inr ⟨lit " b\ndata: \x7b\x7d\n\n", rfl⟩)⟩

end GatewayLogs
