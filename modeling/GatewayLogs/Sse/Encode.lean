import GatewayLogs.Json.Dumps

/-!
# What the upstream API sends

The scripts decode response bodies the gateway logged from the upstream messages API.  This
module builds those bodies, so that properties of the decoders can be stated over them:

* `sseEncode` — an event stream, each event written as `event: <kind>`, a `data: ` line with
  the `json.dumps` of its payload, and a blank line;
* `upstreamEvents` — the events of one message in the upstream order: `message_start` (input
  and cache counters, `output_tokens` 1), per text block a `content_block_start`, one
  `content_block_delta` per piece and a `content_block_stop`, then `message_delta` (the final
  `output_tokens`) and `message_stop`;
* `messageDoc` — the same message as one non-streaming JSON document.
-/

namespace GatewayLogs

/-- **The event-stream encoding** of a list of events: `'event: ' + kind + '\n' + 'data: ' +
json.dumps(payload) + '\n\n'` for each, concatenated. -/
def sseEncode (events : List (PyStr × PyVal)) : Except PyExc PyStr := do
  let blocks ← events.mapM fun ev => do
    return lit "event: " ++ ev.1 ++ lit "\n" ++ lit "data: " ++ (← Json.dumps ev.2) ++ lit "\n\n"
  return blocks.flatten

/-- The four usage counters of a finished message. -/
def usageMap (input output cacheCreate cacheRead : Nat) : PyVal :=
  obj [("input_tokens", .int input), ("output_tokens", .int output),
    ("cache_creation_input_tokens", .int cacheCreate), ("cache_read_input_tokens", .int cacheRead)]

/-- A text content block. -/
def textBlock (t : PyStr) : PyVal := obj [("type", strVal "text"), ("text", .str t)]

/-- **The non-streaming response**: the text blocks and the usage counters. -/
def messageDoc (texts : List PyStr) (input output cacheCreate cacheRead : Nat) : PyVal :=
  obj [("type", strVal "message"), ("role", strVal "assistant"),
    ("content", .list (texts.map textBlock)),
    ("usage", usageMap input output cacheCreate cacheRead)]

/-- The events of text block `i`, streamed as `pieces`. -/
def blockEvents (i : Nat) (pieces : List PyStr) : List (PyStr × PyVal) :=
  (lit "content_block_start", obj [("type", strVal "content_block_start"), ("index", .int i),
      ("content_block", textBlock [])]) ::
    pieces.map (fun p => (lit "content_block_delta", obj [("type", strVal "content_block_delta"),
      ("index", .int i), ("delta", obj [("type", strVal "text_delta"), ("text", .str p)])])) ++
    [(lit "content_block_stop", obj [("type", strVal "content_block_stop"), ("index", .int i)])]

/-- **The streamed response**: a message whose blocks are streamed as `chunks` (one list of
pieces per block), with the counters split as the upstream API splits them. -/
def upstreamEvents (chunks : List (List PyStr)) (input output cacheCreate cacheRead : Nat) :
    List (PyStr × PyVal) :=
  (lit "message_start", obj [("type", strVal "message_start"), ("message", obj [
      ("type", strVal "message"), ("role", strVal "assistant"), ("content", .list []),
      ("usage", obj [("input_tokens", .int input),
        ("cache_creation_input_tokens", .int cacheCreate),
        ("cache_read_input_tokens", .int cacheRead), ("output_tokens", .int 1)])])]) ::
    (chunks.enum.map fun c => blockEvents c.1 c.2).flatten ++
    [(lit "message_delta", obj [("type", strVal "message_delta"),
        ("delta", obj [("stop_reason", strVal "end_turn"), ("stop_sequence", .none)]),
        ("usage", obj [("output_tokens", .int output)])]),
      (lit "message_stop", obj [("type", strVal "message_stop")])]

end GatewayLogs
