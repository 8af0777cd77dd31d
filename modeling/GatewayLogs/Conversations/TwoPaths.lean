import GatewayLogs.Sse.RoundTrip
import GatewayLogs.Sse.Usage
import GatewayLogs.Conversations.Response

/-!
# The two paths of the response handler on every message

`streaming_path_drops_start_usage` compares the two paths of the response handler on one
message.  This module compares them on every message the upstream API can send: text blocks
streamed in any pieces, and any four counters.  The document path decodes the body with
`json.loads` (`jsonResponseText_messageDoc`), the stream path with `parse_sse_response`, which
reads back the events of the stream (`decodedBlocks_sseEncode`).  Both record the same text, the
blocks' texts one after the other; the stream path records as usage only the `output_tokens` of
`message_delta`, the document path all four counters (**`response_paths_text_and_usage`**).

The conditions on the pieces are the stream decoder's: no brace (the brace scan), no `event:`
in their escaped form (the split), and no surrogate pair in a block's text (`json.loads` joins
one into a single character, on the document path as well).  The counters, and the number of
blocks the stream numbers, are within the digit limit: past it `json.loads` raises
`ValueError`, and the document path records a `parse_error` and no text.
-/

namespace GatewayLogs

/-! ## The upstream events are carried intact -/

section Upstream

variable {i : Nat} {p : PyStr}

/-- What the pieces of a streamed message must avoid: a brace, and `event:` once escaped. -/
def PieceOk (p : PyStr) : Prop :=
  PyStr.braceFree p = true ∧ ¬ lit "event:" <:+: p.flatMap Json.escapeChar

instance : DecidablePred PieceOk := fun _ => inferInstanceAs (Decidable (_ ∧ _))

lemma noSurrogatePair_append_left : ∀ (a b : PyStr),
    Json.noSurrogatePair (a ++ b) = true → Json.noSurrogatePair a = true
  | [], _, _ => rfl
  | [_], _, _ => rfl
  | c :: d :: a, b, h => by
    simp only [Json.noSurrogatePair, List.cons_append, Bool.and_eq_true] at h ⊢
    exact ⟨h.1, noSurrogatePair_append_left (d :: a) b h.2⟩

lemma noSurrogatePair_append_right : ∀ (a b : PyStr),
    Json.noSurrogatePair (a ++ b) = true → Json.noSurrogatePair b = true
  | [], _, h => h
  | [_], [], _ => rfl
  | [_], _ :: _, h => by
    simp only [Json.noSurrogatePair, List.singleton_append, Bool.and_eq_true] at h
    exact h.2
  | c :: d :: a, b, h => by
    simp only [Json.noSurrogatePair, List.cons_append, Bool.and_eq_true] at h
    exact noSurrogatePair_append_right (d :: a) b h.2

lemma noSurrogatePair_of_mem_flatten {ps : List PyStr}
    (h : Json.noSurrogatePair ps.flatten = true) : ∀ p ∈ ps, Json.noSurrogatePair p = true := by
  induction ps with
  | nil => simp
  | cons q ps ih =>
    rw [List.flatten_cons] at h
    exact List.forall_mem_cons.mpr ⟨noSurrogatePair_append_left _ _ h,
      ih (noSurrogatePair_append_right _ _ h)⟩

lemma Framed.of_kind {k : PyStr} {v : PyVal}
    (hk : k ≠ [] ∧ PyStr.strip k = k ∧ PyChar.ofChar '\n' ∉ k ∧ ¬ lit "event:" <:+: k)
    (h1 : v.isDict = true) (h2 : v.braceFree = true) (h3 : v.reloadable = true)
    (h4 : v.depth ≤ Json.loadsRoom 3) (h5 : v.eventFree = true) : Framed (k, v) :=
  ⟨hk.1, hk.2.1, hk.2.2.1, hk.2.2.2, h1, h2, h3, h4, h5⟩

lemma framed_delta (hp : PieceOk p) (hs : Json.noSurrogatePair p = true) :
    Framed (lit "content_block_delta", obj [("type", strVal "content_block_delta"),
      ("index", .int i), ("delta", obj [("type", strVal "text_delta"), ("text", .str p)])]) := by
  refine Framed.of_kind (by decide) rfl ?_ ?_ (Nat.le_of_ble_eq_true rfl) ?_ <;>
    simp +decide [obj, strVal, PyVal.braceFree, PyVal.braceFreeDict, PyVal.reloadable,
      PyVal.reloadableDict, PyVal.eventFree, PyVal.eventFreeDict, hp.1, hp.2, hs]

lemma blockEvents_framed (i : Nat) {ps : List PyStr} (hp : ∀ p ∈ ps, PieceOk p)
    (hs : Json.noSurrogatePair ps.flatten = true) : ∀ ev ∈ blockEvents i ps, Framed ev := by
  have hs' := noSurrogatePair_of_mem_flatten hs
  intro ev hev
  simp only [blockEvents, List.cons_append, List.mem_cons, List.mem_append, List.mem_map,
    List.mem_singleton, List.not_mem_nil, or_false] at hev
  rcases hev with rfl | ⟨p, hmem, rfl⟩ | rfl
  · exact Framed.of_kind (by decide) rfl rfl rfl (Nat.le_of_ble_eq_true rfl) rfl
  · exact framed_delta (hp p hmem) (hs' p hmem)
  · exact Framed.of_kind (by decide) rfl rfl rfl (Nat.le_of_ble_eq_true rfl) rfl

/-- **Every event of a streamed message is carried intact** when its pieces avoid braces and
`event:` and no block's text holds a surrogate pair. -/
lemma upstreamEvents_framed {chunks : List (List PyStr)} (hp : ∀ ps ∈ chunks, ∀ p ∈ ps, PieceOk p)
    (hs : ∀ ps ∈ chunks, Json.noSurrogatePair ps.flatten = true)
    (input output cacheCreate cacheRead : Nat) :
    ∀ ev ∈ upstreamEvents chunks input output cacheCreate cacheRead, Framed ev := by
  intro ev hev
  simp only [upstreamEvents, List.cons_append, List.mem_cons, List.mem_append, List.mem_flatten,
    List.mem_map, List.mem_singleton, List.not_mem_nil, or_false] at hev
  rcases hev with rfl | ⟨_, ⟨c, hc, rfl⟩, hev⟩ | rfl | rfl
  · exact Framed.of_kind (by decide) rfl rfl rfl (Nat.le_of_ble_eq_true rfl) rfl
  · have hmem := List.snd_mem_of_mem_enum hc
    exact blockEvents_framed c.1 (hp c.2 hmem) (hs c.2 hmem) ev hev
  · exact Framed.of_kind (by decide) rfl rfl rfl (Nat.le_of_ble_eq_true rfl) rfl
  · exact Framed.of_kind (by decide) rfl rfl rfl (Nat.le_of_ble_eq_true rfl) rfl

/-- **`json.dumps` writes every event of a streamed message** when its counters and the number
of its blocks are within the digit limit. -/
lemma upstreamEvents_intsFit {chunks : List (List PyStr)} {input output cacheCreate cacheRead : Nat}
    (hfit : ∀ n ∈ [chunks.length, input, output, cacheCreate, cacheRead], intFitsStr n = true) :
    ∀ ev ∈ upstreamEvents chunks input output cacheCreate cacheRead, ev.2.intsFit = true := by
  simp only [List.mem_cons, List.mem_singleton, forall_eq_or_imp, forall_eq,
    List.not_mem_nil, or_false] at hfit
  obtain ⟨hlen, hin, hout, hcc, hcr⟩ := hfit
  intro ev hev
  simp only [upstreamEvents, List.cons_append, List.mem_cons, List.mem_append, List.mem_flatten,
    List.mem_map, List.mem_singleton, List.not_mem_nil, or_false] at hev
  rcases hev with rfl | ⟨_, ⟨c, hc, rfl⟩, hev⟩ | rfl | rfl
  · simp [obj, strVal, PyVal.intsFit, PyVal.intsFitDict, PyVal.intsFitList, hin, hcc, hcr]; rfl
  · have hi : intFitsStr (c.1 : Int) = true := by
      rw [Json.intFitsStr_iff] at hlen ⊢
      have := List.fst_lt_of_mem_enum hc
      simp only [Int.natAbs_ofNat] at hlen ⊢
      omega
    simp only [blockEvents, List.cons_append, List.mem_cons, List.mem_append, List.mem_map,
      List.mem_singleton, List.not_mem_nil, or_false] at hev
    rcases hev with rfl | ⟨p, -, rfl⟩ | rfl <;>
      simp [obj, strVal, textBlock, PyVal.intsFit, PyVal.intsFitDict, PyVal.intsFitList, hi]
  · simp [obj, strVal, PyVal.intsFit, PyVal.intsFitDict, hout]
  · rfl

end Upstream

/-! ## What the stream path records -/

/-- An event of another kind than `content_block_delta` adds no text. -/
lemma blockText_of_ne {k : PyStr} (h : k ≠ lit "content_block_delta") (v : PyVal) :
    blockText (k, v) = [] := by
  rw [blockText, if_neg h]

lemma flatMap_blockText_blockEvents (i : Nat) (ps : List PyStr) :
    (blockEvents i ps).flatMap blockText = ps.flatten := by
  have hd : ∀ p : PyStr, blockText (lit "content_block_delta", obj [("type",
      strVal "content_block_delta"), ("index", .int i),
      ("delta", obj [("type", strVal "text_delta"), ("text", .str p)])]) = p := fun _ => rfl
  simp only [blockEvents, List.flatMap_cons, List.flatMap_append, List.flatMap_map,
    hd, blockText_of_ne (k := lit "content_block_start") (by decide),
    blockText_of_ne (k := lit "content_block_stop") (by decide), List.flatMap_nil, List.nil_append,
    List.append_nil]
  exact List.flatten_eq_flatMap.symm

lemma flatMap_blockText_enumFrom (n : Nat) : ∀ chunks : List (List PyStr),
    ((chunks.enumFrom n).map fun c => blockEvents c.1 c.2).flatten.flatMap blockText =
      (chunks.map List.flatten).flatten
  | [] => rfl
  | ps :: chunks => by
    simp only [List.enumFrom_cons, List.map_cons, List.flatten_cons, List.flatMap_append,
      flatMap_blockText_blockEvents, flatMap_blockText_enumFrom (n + 1) chunks]

/-- **The text of a streamed message** is its pieces, in order. -/
lemma flatMap_blockText_upstreamEvents (chunks : List (List PyStr))
    (input output cacheCreate cacheRead : Nat) :
    (upstreamEvents chunks input output cacheCreate cacheRead).flatMap blockText =
      (chunks.map List.flatten).flatten := by
  simp only [upstreamEvents, List.cons_append, List.flatMap_cons, List.flatMap_append,
    List.enum, flatMap_blockText_enumFrom, blockText_of_ne (k := lit "message_start") (by decide),
    blockText_of_ne (k := lit "message_delta") (by decide),
    blockText_of_ne (k := lit "message_stop") (by decide), List.flatMap_nil, List.nil_append,
    List.append_nil]

lemma foldl_usageStep_of_fixed (u : PyVal) : ∀ L : List (PyStr × PyVal),
    (∀ ev ∈ L, usageStep u ev = u) → L.foldl usageStep u = u
  | [], _ => rfl
  | ev :: L, h => by
    rw [List.foldl_cons, (List.forall_mem_cons.mp h).1]
    exact foldl_usageStep_of_fixed u L (List.forall_mem_cons.mp h).2

/-- **The usage of a streamed message**: `message_start` sets the input and cache counters, no
block event touches them, and `message_delta` replaces them all by its `output_tokens`. -/
lemma foldl_usageStep_upstreamEvents (chunks : List (List PyStr))
    (input output cacheCreate cacheRead : Nat) :
    (upstreamEvents chunks input output cacheCreate cacheRead).foldl usageStep (.dict []) =
      obj [("output_tokens", .int output)] := by
  have hblocks : ∀ u, ∀ ev ∈ (chunks.enum.map fun c => blockEvents c.1 c.2).flatten,
      usageStep u ev = u := by
    intro u ev hev
    simp only [List.mem_flatten, List.mem_map] at hev
    obtain ⟨_, ⟨c, -, rfl⟩, hev⟩ := hev
    simp only [blockEvents, List.cons_append, List.mem_cons, List.mem_append, List.mem_map,
      List.mem_singleton, List.not_mem_nil, or_false] at hev
    rcases hev with rfl | ⟨p, -, rfl⟩ | rfl <;> rfl
  simp only [upstreamEvents, List.cons_append, List.foldl_cons, List.foldl_append,
    foldl_usageStep_of_fixed _ _ (hblocks _), List.foldl_nil]
  rfl

/-- **What the handler records for a streamed message**: the text of its pieces, and as usage
the `output_tokens` of `message_delta` alone. -/
lemma recordedTextUsage_stream {chunks : List (List PyStr)}
    (hp : ∀ ps ∈ chunks, ∀ p ∈ ps, PieceOk p)
    (hs : ∀ ps ∈ chunks, Json.noSurrogatePair ps.flatten = true)
    (input output cacheCreate cacheRead : Nat)
    (hfit : ∀ n ∈ [chunks.length, input, output, cacheCreate, cacheRead], intFitsStr n = true) :
    (sseEncode (upstreamEvents chunks input output cacheCreate cacheRead)).map
        (recordedTextUsage · true) =
      .ok (some (chunks.map List.flatten).flatten, some (obj [("output_tokens", .int output)])) := by
  have hL := upstreamEvents_framed hp hs input output cacheCreate cacheRead
  obtain ⟨s, he⟩ := sseEncode_isOk fun ev hev =>
    ⟨(hL ev hev).payload_reloadable, upstreamEvents_intsFit hfit ev hev⟩
  have hblocks := decodedBlocks_sseEncode hL he
  rw [he, map_ok]
  show Except.ok (some (parseSseResponse s).fullText, some (parseSseResponse s).usage) = _
  rw [(parseSseResponse_fullText_eventTypes s).1, parseSseResponse_usage, ← decodedBlocks, hblocks,
    flatMap_blockText_upstreamEvents, foldl_usageStep_upstreamEvents]

/-! ## What the document path records -/

lemma reloadableList_textBlocks : ∀ {texts : List PyStr},
    (∀ t ∈ texts, Json.noSurrogatePair t = true) → PyVal.reloadableList (texts.map textBlock) = true
  | [], _ => rfl
  | t :: texts, h => by
    have ht := List.forall_mem_cons.mp h
    simp +decide [PyVal.reloadableList, textBlock, obj, strVal, PyVal.reloadable,
      PyVal.reloadableDict, ht.1, reloadableList_textBlocks ht.2]

lemma intsFitList_textBlocks : ∀ texts : List PyStr,
    PyVal.intsFitList (texts.map textBlock) = true
  | [] => rfl
  | t :: texts => by
    simp [PyVal.intsFitList, textBlock, obj, strVal, PyVal.intsFit, PyVal.intsFitDict,
      intsFitList_textBlocks texts]

lemma depthList_textBlocks : ∀ texts : List PyStr, PyVal.depthList (texts.map textBlock) ≤ 1
  | [] => Nat.zero_le _
  | t :: texts => by
    simp only [List.map_cons, PyVal.depthList, Nat.max_le]
    exact ⟨Nat.le_of_ble_eq_true rfl, depthList_textBlocks texts⟩

lemma foldlM_addItemText (acc : PyStr) : ∀ texts : List PyStr,
    (texts.map textBlock).foldlM addItemText acc = .ok (acc ++ texts.flatten)
  | [] => by simp
  | t :: texts => by
    rw [List.map_cons, List.foldlM_cons, show addItemText acc (textBlock t) = .ok (acc ++ t) from rfl,
      ok_bind, foldlM_addItemText, List.flatten_cons, List.append_assoc]

lemma messageDoc_reloadable {texts : List PyStr} (hs : ∀ t ∈ texts, Json.noSurrogatePair t = true)
    (input output cacheCreate cacheRead : Nat) :
    (messageDoc texts input output cacheCreate cacheRead).reloadable = true := by
  simp +decide [messageDoc, usageMap, obj, strVal, PyVal.reloadable, PyVal.reloadableDict,
    reloadableList_textBlocks hs]

/-- **Lines 120–125 on a serialised message**: the document is read back, and the text is its
blocks' texts one after the other. -/
lemma jsonResponseText_messageDoc {texts : List PyStr}
    (hs : ∀ t ∈ texts, Json.noSurrogatePair t = true) (input output cacheCreate cacheRead : Nat)
    {d : PyStr} (hd : Json.dumps (messageDoc texts input output cacheCreate cacheRead) = .ok d) :
    jsonResponseText? (.str d) =
      .ok (messageDoc texts input output cacheCreate cacheRead, texts.flatten) := by
  have hr := messageDoc_reloadable hs input output cacheCreate cacheRead
  have hdepth : (messageDoc texts input output cacheCreate cacheRead).depth ≤ Json.loadsRoom 2 := by
    have := depthList_textBlocks texts
    simp only [messageDoc, usageMap, obj, strVal, List.map_cons, List.map_nil, PyVal.depth,
      PyVal.depthDict]
    simp only [Json.loadsRoom, recursionLimit]
    omega
  have hload := Json.loadsStr_of_scanOnce (Json.dumps_starts _ hr hd) fun f hf =>
    Json.scanOnce_dumps _ hr hd f _ [] hf hdepth Json.numberEnd_nil
  have hjson : jsonLoads (.str d) = .ok (messageDoc texts input output cacheCreate cacheRead) := by
    rw [jsonLoads, hload]
  have hc : (messageDoc texts input output cacheCreate cacheRead).contains (lit "content") =
      .ok true := rfl
  have hg : (messageDoc texts input output cacheCreate cacheRead).getItem (lit "content")
      "content" = .ok (.list (texts.map textBlock)) := rfl
  unfold jsonResponseText?
  rw [hjson, ok_bind, hc, ok_bind, if_neg (by decide)]
  simp only [hg, ok_bind]
  cases texts with
  | nil => rfl
  | cons t ts =>
    rw [if_neg (by simp [PyVal.truthy])]
    simp only [pure_eq_ok, ok_bind, PyVal.iter, foldlM_addItemText, List.nil_append]

/-- **What the handler records for a message sent as one document**: the text of its blocks,
and as usage its four counters. -/
lemma recordedTextUsage_document {texts : List PyStr}
    (hs : ∀ t ∈ texts, Json.noSurrogatePair t = true) (input output cacheCreate cacheRead : Nat)
    (hfit : ∀ n ∈ [input, output, cacheCreate, cacheRead], intFitsStr n = true) :
    (Json.dumps (messageDoc texts input output cacheCreate cacheRead)).map
        (recordedTextUsage · false) =
      .ok (some texts.flatten, some (usageMap input output cacheCreate cacheRead)) := by
  simp only [List.mem_cons, List.mem_singleton, forall_eq_or_imp, forall_eq,
    List.not_mem_nil, or_false] at hfit
  obtain ⟨d, hd⟩ := Json.dumps_isOk _ (messageDoc_reloadable hs input output cacheCreate cacheRead)
    (by simp [messageDoc, usageMap, obj, strVal, PyVal.intsFit, PyVal.intsFitDict,
      intsFitList_textBlocks, hfit])
  have ht := jsonResponseText_messageDoc hs input output cacheCreate cacheRead hd
  have hb : (PyVal.dict (responseFields d false)).getItem (lit "body") "body" = .ok (.str d) := rfl
  have hu : (messageDoc texts input output cacheCreate cacheRead).get (lit "usage") (.dict []) =
      .ok (usageMap input output cacheCreate cacheRead) := rfl
  rw [hd, map_ok]
  unfold recordedTextUsage responseWrite
  simp only [hb, show (getOr (responseFields d false) "streaming" (.bool false)).truthy = false
    from rfl, Bool.false_eq_true, if_false, ht, hu]

/-! ## The two paths -/

/-- **The two paths record the same text and different usage, on every message**: streamed in
any pieces that avoid braces and `event:`, with no surrogate pair in a block's text, and with its
counters and its number of blocks within the digit limit, a message is recorded with the text of
its blocks on both paths; as usage the stream path keeps the `output_tokens` of `message_delta`
alone, the document path all four counters. -/
theorem response_paths_text_and_usage {chunks : List (List PyStr)}
    (hp : ∀ ps ∈ chunks, ∀ p ∈ ps, PieceOk p)
    (hs : ∀ ps ∈ chunks, Json.noSurrogatePair ps.flatten = true)
    (input output cacheCreate cacheRead : Nat)
    (hfit : ∀ n ∈ [chunks.length, input, output, cacheCreate, cacheRead], intFitsStr n = true) :
    (sseEncode (upstreamEvents chunks input output cacheCreate cacheRead)).map
        (recordedTextUsage · true) =
      .ok (some (chunks.map List.flatten).flatten, some (obj [("output_tokens", .int output)])) ∧
    (Json.dumps (messageDoc (chunks.map List.flatten) input output cacheCreate cacheRead)).map
        (recordedTextUsage · false) =
      .ok (some (chunks.map List.flatten).flatten,
        some (usageMap input output cacheCreate cacheRead)) :=
  ⟨recordedTextUsage_stream hp hs input output cacheCreate cacheRead hfit,
    recordedTextUsage_document (by simpa using hs) input output cacheCreate cacheRead
      fun n hn => hfit n (List.mem_cons_of_mem _ hn)⟩

theorem response_paths_text_and_usage_twoBlocks :
    (∀ ps ∈ [[lit "Hel", lit "lo"], [lit "world"]], ∀ p ∈ ps, PieceOk p) ∧
    (∀ ps ∈ [[lit "Hel", lit "lo"], [lit "world"]], Json.noSurrogatePair ps.flatten = true) ∧
    (∀ n ∈ [[[lit "Hel", lit "lo"], [lit "world"]].length, 3, 5, 0, 7], intFitsStr n = true) ∧
    (sseEncode (upstreamEvents [[lit "Hel", lit "lo"], [lit "world"]] 3 5 0 7)).map
        (recordedTextUsage · true) =
      .ok (some ([[lit "Hel", lit "lo"], [lit "world"]].map List.flatten).flatten,
        some (obj [("output_tokens", .int 5)])) ∧
    (Json.dumps (messageDoc ([[lit "Hel", lit "lo"], [lit "world"]].map List.flatten) 3 5 0 7)).map
        (recordedTextUsage · false) =
      .ok (some ([[lit "Hel", lit "lo"], [lit "world"]].map List.flatten).flatten,
        some (usageMap 3 5 0 7)) :=
  have hp : ∀ ps ∈ [[lit "Hel", lit "lo"], [lit "world"]], ∀ p ∈ ps, PieceOk p := by decide
  have hs : ∀ ps ∈ [[lit "Hel", lit "lo"], [lit "world"]], Json.noSurrogatePair ps.flatten = true :=
    by decide
  have hfit : ∀ n ∈ [[[lit "Hel", lit "lo"], [lit "world"]].length, 3, 5, 0, 7],
      intFitsStr n = true := by decide
  ⟨hp, hs, hfit, response_paths_text_and_usage hp hs 3 5 0 7 hfit⟩

end GatewayLogs
