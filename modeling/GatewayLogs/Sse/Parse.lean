import GatewayLogs.Json.Loads

/-!
# `parse_sse_response`

The decoder of streamed responses (`analyze_conversations.py`, lines 8–66).  The body is cut
on every `event:`; in each part the first line names the event type, the rest must start with
`data:`, and a brace count picks out the text up to the first `}` that brings the count of
`{` minus `}` to zero.  That text alone goes to `json.loads`.  A decoded block is appended to
`events` and may add to `full_text` (`content_block_delta`) or to `usage` (`message_start`,
`message_delta`); any exception in that step is swallowed by the bare `except`.

* `jsonEnd` — the brace scan (lines 35–44).
* `decodeBlock` — lines 18–48: the event type and decoded data of one part, or nothing.
* `takeEvent` — lines 49–64: record the event and extract its text and usage.
* `parseSseResponse` — the fold of the two over the parts, from `("", {}, [])`.

Python binds, it does not copy: after a `message_delta`, `usage` *is* the dict stored under
`"usage"` in that event's data, so a later `message_start`'s `usage.update(...)` also changes
the recorded event.  `SseState.usageOwner` remembers which event that is.
-/

namespace GatewayLogs

/-- The locals of `parse_sse_response` between parts: `full_text`, `usage`, `events`, and which
event (if any) owns the dict `usage` is bound to. -/
structure SseState where
  fullText : PyStr
  usage : PyVal
  usageOwner : Option Nat
  events : List (PyStr × PyVal)
  deriving DecidableEq, Repr

/-- `full_text = ""`, `usage = {}`, `events = []`. -/
def SseState.init : SseState := ⟨[], .dict [], none, []⟩

/-- **The brace scan**, `json_end` for `json_str`: one past the first `}` that brings the count
of `{` minus `}` to zero, or `0` if none does.  The count is a plain `int`: it may go negative,
and only a `}` is checked against zero.  Quotes are not looked at. -/
def jsonEnd (s : PyStr) : Nat := go s 0 0
where
  /-- The scan from position `i` with brace count `count`. -/
  go : PyStr → Int → Nat → Nat
    | [], _, _ => 0
    | c :: cs, count, i =>
      if c = '{' then go cs (count + 1) (i + 1)
      else if c = '}' then (if count - 1 = 0 then i + 1 else go cs (count - 1) (i + 1))
      else go cs count (i + 1)

/-- **Lines 18–48 on one part**: skip it when it is blank, has no second line, or its second
line does not start with `data:`; strip the first `data:` and the surrounding whitespace, cut
the text at `json_end`, and decode it.  The result is the event type (the first line, stripped)
and the decoded data, or `none` when the part contributes no event. -/
def decodeBlock (part : PyStr) : Option (PyStr × PyVal) :=
  if (PyStr.strip part).isEmpty then none
  else
    match PyStr.splitOnce '\n' (PyStr.strip part) with
    | none => none
    | some (first, dataPart) =>
      if !(lit "data:").isPrefixOf dataPart then none
      else
        let jsonStr := PyStr.strip (PyStr.replaceFirst (lit "data:") [] dataPart)
        if jsonEnd jsonStr = 0 then none
        else
          match Json.loadsStr (Json.loadsRoom 3) (jsonStr.take (jsonEnd jsonStr)) with
          | .ok data => some (PyStr.strip first, data)
          | .error _ => none

/-- **Lines 34–48 on `json_str`**: the text up to `json_end`, decoded, if the scan ends and
`json.loads` accepts what it cut. -/
def cutJson (jsonStr : PyStr) : Option PyVal :=
  if jsonEnd jsonStr = 0 then none
  else (Json.loadsStr (Json.loadsRoom 3) (jsonStr.take (jsonEnd jsonStr))).toOption

/-- **Lines 28–48 on the text after the first line**: nothing unless it starts with `data:`;
else `cutJson` of the text after the first `data:`, stripped. -/
def jsonPayload (dataPart : PyStr) : Option PyVal :=
  if !(lit "data:").isPrefixOf dataPart then none
  else cutJson (PyStr.strip (PyStr.replaceFirst (lit "data:") [] dataPart))

/-- A part decodes through its first line and the payload of the rest; the blank test of line
18 is the case of a stripped part with no line break. -/
lemma decodeBlock_eq (part : PyStr) :
    decodeBlock part = (PyStr.splitOnce '\n' (PyStr.strip part)).bind
      fun p => (jsonPayload p.2).map (PyStr.strip p.1, ·) := by
  unfold decodeBlock jsonPayload cutJson
  split
  · rename_i h
    rw [List.isEmpty_iff.mp h]
    rfl
  · cases PyStr.splitOnce '\n' (PyStr.strip part) with
    | none => rfl
    | some p =>
      dsimp only [Option.bind]
      split_ifs <;> try rfl
      cases Json.loadsStr _ _ <;> rfl

/-- `usage.update(msg_usage)`: only a dict has `update` (anything else raises, and nothing
changes); the owning event, if any, sees the change. -/
def SseState.updateUsage (st : SseState) (msgUsage : PyVal) : SseState :=
  match st.usage with
  | .dict d =>
    let u := PyVal.dict (dictUpdate d msgUsage)
    { st with
      usage := u
      events := match st.usageOwner with
        | some i => st.events.modify (fun ev => (ev.1, match ev.2 with
            | .dict kvs => .dict (dictSet kvs (.str (lit "usage")) u)
            | other => other)) i
        | none => st.events }
  | _ => st

/-- **Lines 49–64 for a decoded block**: append the event; for `content_block_delta` add
`data.get('delta', {}).get('text', '')` to the text; for `message_delta` rebind `usage` to
`data.get('usage', {})` (the data's own dict when the key is there); for `message_start` merge
`data.get('message', {}).get('usage', {})` into `usage` when it is truthy.  An exception on the
way leaves what was done before it. -/
def SseState.takeEvent (st : SseState) (eventType : PyStr) (data : PyVal) : SseState :=
  let st := { st with events := st.events ++ [(eventType, data)] }
  if eventType = lit "content_block_delta" then
    match (do
        let delta ← data.get (lit "delta") (.dict [])
        let text ← delta.get (lit "text") (.str [])
        concatStr st.fullText text : Except PyExc PyStr) with
    | .ok t => { st with fullText := t }
    | .error _ => st
  else if eventType = lit "message_delta" then
    match data.get (lit "usage") (.dict []) with
    | .ok u =>
      { st with
        usage := u
        usageOwner := match data with
          | .dict kvs => if (dictGet? kvs (.str (lit "usage"))).isSome
              then some (st.events.length - 1) else none
          | _ => none }
    | .error _ => st
  else if eventType = lit "message_start" then
    match (do (← data.get (lit "message") (.dict [])).get (lit "usage") (.dict []) :
        Except PyExc PyVal) with
    | .ok msgUsage => if msgUsage.truthy then st.updateUsage msgUsage else st
    | .error _ => st
  else st

/-- One part of the split body. -/
def SseState.step (st : SseState) (part : PyStr) : SseState :=
  match decodeBlock part with
  | some (t, data) => st.takeEvent t data
  | none => st

/-- **`parse_sse_response(sse_text)`** for a `str`: the state after every part of
`sse_text.split('event:')`. -/
def parseSseResponse (sseText : PyStr) : SseState :=
  (PyStr.split (lit "event:") sseText).foldl SseState.step SseState.init

/-- `parse_sse_response(body)` for any value: a non-string has no `split`. -/
def parseSse? (body : PyVal) : Except PyExc SseState :=
  match body with
  | .str s => .ok (parseSseResponse s)
  | _ => .error (.noAttr body "split")

end GatewayLogs
