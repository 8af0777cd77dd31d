import GatewayLogs.Sse.Encode
import GatewayLogs.Sse.Parse

/-!
# The usage `parse_sse_response` returns

Of the state `parse_sse_response` keeps, `usage` runs on its own: what it becomes after a block
depends only on what it was and on the block's event type and data, never on the text or the
events so far.  So the usage of a whole stream is a fold of `usageStep` over the decoded
blocks (`parseSseResponse_usage`), and the events appended on the way — even the one whose
dict `usage` is bound to and later updates — play no part in it.

`usageStep` makes the asymmetry of lines 57–62 plain: a `message_start` merges its counters
into `usage`, a `message_delta` throws `usage` away and takes its own `usage` map.  The merge
rule stated for streams, `mergedUsage`, merges both; on the upstream shape, where the input and
cache counters come with `message_start` and only `output_tokens` with `message_delta`, the two
differ (`message_delta_replaces_start_usage`).
-/

namespace GatewayLogs

/-- **What one decoded block does to `usage`** (lines 57–62). -/
def usageStep (u : PyVal) (ev : PyStr × PyVal) : PyVal :=
  if ev.1 = lit "content_block_delta" then u
  else if ev.1 = lit "message_delta" then (ev.2.get (lit "usage") (.dict [])).toOption.getD u
  else if ev.1 = lit "message_start" then
    match (do (← ev.2.get (lit "message") (.dict [])).get (lit "usage") (.dict []) :
        Except PyExc PyVal) with
    | .ok msgUsage =>
      if msgUsage.truthy then
        match u with
        | .dict d => .dict (dictUpdate d msgUsage)
        | _ => u
      else u
    | .error _ => u
  else u

lemma updateUsage_usage (st : SseState) (msgUsage : PyVal) :
    (st.updateUsage msgUsage).usage = match st.usage with
      | .dict d => .dict (dictUpdate d msgUsage)
      | _ => st.usage := by
  unfold SseState.updateUsage
  split <;> simp_all

lemma takeEvent_usage (st : SseState) (t : PyStr) (data : PyVal) :
    (st.takeEvent t data).usage = usageStep st.usage (t, data) := by
  unfold SseState.takeEvent usageStep
  dsimp only
  split_ifs
  · split <;> rfl
  · split <;> simp_all [Except.toOption]
  · split <;> (try split_ifs) <;> simp_all [updateUsage_usage]
  · rfl

lemma step_usage (st : SseState) (part : PyStr) :
    (st.step part).usage = ((decodeBlock part).map (usageStep st.usage)).getD st.usage := by
  unfold SseState.step
  split <;> simp_all [takeEvent_usage]

/-- **The usage of a stream is the fold of `usageStep` over its decoded blocks.** -/
lemma parseSseResponse_usage (s : PyStr) :
    (parseSseResponse s).usage =
      ((PyStr.split (lit "event:") s).filterMap decodeBlock).foldl usageStep (.dict []) := by
  suffices ∀ (parts : List PyStr) (st : SseState),
      (parts.foldl SseState.step st).usage = (parts.filterMap decodeBlock).foldl usageStep st.usage
    from this _ _
  intro parts
  induction parts with
  | nil => simp
  | cons p ps ih =>
    intro st
    rw [List.foldl_cons, ih, step_usage]
    cases h : decodeBlock p <;> simp [List.filterMap_cons, h]

/-! ## The merge rule for streams -/

/-- The usage payload of an event under the stated merge rule: `message.usage` of a
`message_start`, `usage` of a `message_delta` (absent is empty), nothing for other events. -/
def usagePayload (ev : PyStr × PyVal) : List (PyVal × PyVal) :=
  let payload : Except PyExc PyVal :=
    if ev.1 = lit "message_start" then
      (do (← ev.2.get (lit "message") (.dict [])).get (lit "usage") (.dict []))
    else if ev.1 = lit "message_delta" then ev.2.get (lit "usage") (.dict [])
    else .ok (.dict [])
  match payload with
  | .ok (.dict kvs) => kvs
  | _ => []

/-- **The stated merge rule**: from the empty map, each event's usage payload overwrites the
counters it names, field by field. -/
def mergedUsage (events : List (PyStr × PyVal)) : PyVal :=
  .dict (events.foldl (fun u ev => (usagePayload ev).foldl (fun u kv => dictSet u kv.1 kv.2) u) [])

/-- A `message_start` carrying the input counter, then a `message_delta` carrying the output
counter: the stream decodes to exactly these two events, its usage is the delta's map alone,
and the merge rule keeps both counters. -/
def startThenDelta : List (PyStr × PyVal) :=
  [(lit "message_start", obj [("message", obj [("usage", obj [("input_tokens", .int 5)])])]),
   (lit "message_delta", obj [("usage", obj [("output_tokens", .int 3)])])]

set_option maxRecDepth 100000 in
theorem message_delta_replaces_start_usage :
    (sseEncode startThenDelta).map (fun s => (parseSseResponse s).events) = .ok startThenDelta ∧
    (sseEncode startThenDelta).map (fun s => (parseSseResponse s).usage) =
      .ok (obj [("output_tokens", .int 3)]) ∧
    mergedUsage startThenDelta = obj [("input_tokens", .int 5), ("output_tokens", .int 3)] := by
  decide

end GatewayLogs
