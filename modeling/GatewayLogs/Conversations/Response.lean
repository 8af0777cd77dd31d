import GatewayLogs.Conversations.Collect
import GatewayLogs.Sse.Encode
import GatewayLogs.Loop

/-!
# The response handler's two paths

A `response_body` record is decoded along one of two paths, chosen by its `streaming` flag:
`parse_sse_response` for an event stream, `json.loads` for a single document.  The upstream
API sends one message either way, but not with the same usage layout: a stream opens with the
input and cache counters in `message_start` and closes with `output_tokens` in
`message_delta`.  The streaming path keeps only what `message_delta` carries, so on one and the
same message the two paths record the same text and different usage
(`streaming_path_drops_start_usage`).
-/

namespace GatewayLogs

/-- **When a response record records a text**: its body is present, and it is a string if the
record is flagged as streaming, or a document whose `content` can be read if not. -/
lemma responseWrite_text_isSome (fields : List (PyVal × PyVal)) :
    (responseWrite fields).text.isSome ↔ ∃ body, dictGet? fields (.str (lit "body")) = some body ∧
      if (getOr fields "streaming" (.bool false)).truthy then ∃ s, body = .str s
      else (jsonResponseText? body).isOk := by
  unfold responseWrite
  simp only [PyVal.getItem]
  cases dictGet? fields (.str (lit "body")) with
  | none => simp
  | some body =>
    simp only [Option.some.injEq, exists_eq_left']
    split_ifs
    · cases body <;> simp [parseSse?]
    · cases jsonResponseText? body with
      | error e => simp
      | ok r => simp only [isOk_ok]; split <;> simp

/-- The `fields` of a logged `response_body` record with a string body and a streaming flag. -/
def responseFields (body : PyStr) (streaming : Bool) : List (PyVal × PyVal) :=
  [(strVal "event_type", strVal "response_body"), (.str (lit "body"), .str body),
   (strVal "streaming", .bool streaming)]

/-- The `response_text` and `usage` the handler records for such a record. -/
def recordedTextUsage (body : PyStr) (streaming : Bool) : Option PyStr × Option PyVal :=
  let w := responseWrite (responseFields body streaming)
  (w.text, w.usage)

set_option maxRecDepth 100000 in
/-- One message, the text `hi` with one input and two output tokens: sent as a document, it is
recorded with its four counters; sent as a stream in one piece, with `output_tokens` alone. -/
theorem streaming_path_drops_start_usage :
    (Json.dumps (messageDoc [lit "hi"] 1 2 0 0)).map (recordedTextUsage · false) =
      .ok (some (lit "hi"), some (usageMap 1 2 0 0)) ∧
    (sseEncode (upstreamEvents [[lit "hi"]] 1 2 0 0)).map (recordedTextUsage · true) =
      .ok (some (lit "hi"), some (obj [("output_tokens", .int 2)])) := by
  decide

end GatewayLogs
