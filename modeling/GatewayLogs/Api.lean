import GatewayLogs.Python.Ops
import GatewayLogs.Python.Print

/-!
# The requests and usage counters of the Messages API

What the gateway forwards, and so what a `request_body` record holds once decoded, is a
request of the Messages API; what a response reports as `usage` is a usage object of that
API.  This module says what such values look like, as JSON objects built from typed
fields, so that the report stages can be checked against every one of them: the stages read
`system`, `messages`, `tools`, `output_config` and `usage`, and everything else a request holds
(its model, `max_tokens`, `stream`, sampling settings, metadata, ...) is left free.

A structure that has free-form fields carries, as a field, that they do not reuse the names
the typed fields encode.  Whether such a value prints (`PyVal.printable`) is a property of its
strings and numbers, not of its shape; it is a hypothesis of the results that print one, and
it passes to the parts of a request (`Request.printable_lookup`).
-/

namespace GatewayLogs

namespace Api

/-- A `cache_control` marker, `{"type": t}`. -/
structure CacheControl where
  type : PyStr
  deriving DecidableEq, Repr

def CacheControl.toPyVal (c : CacheControl) : PyVal := obj [("type", .str c.type)]

/-- The `cache_control` entry of a block, if it has one. -/
def cacheField (c : Option CacheControl) : List (String × PyVal) :=
  c.toList.map fun c => ("cache_control", c.toPyVal)

/-- A text block, `{"type": "text", "text": t}`, maybe with a `cache_control`. -/
structure TextBlock where
  text : PyStr
  cache : Option CacheControl
  deriving DecidableEq, Repr

def TextBlock.toPyVal (b : TextBlock) : PyVal :=
  obj ([("type", strVal "text"), ("text", .str b.text)] ++ cacheField b.cache)

/-- A content block of a message: a text block, or a block of another type (`image`,
`tool_use`, `tool_result`, `document`, ...) with its own fields, none of them `text` or
`cache_control`, and maybe a `cache_control`. -/
inductive ContentBlock where
  | text (b : TextBlock)
  | other (type : PyStr) (fields : List (String × PyVal)) (cache : Option CacheControl)
      (fresh : ∀ kv ∈ fields, kv.1 ≠ "text" ∧ kv.1 ≠ "cache_control")

def ContentBlock.toPyVal : ContentBlock → PyVal
  | .text b => b.toPyVal
  | .other type fields cache _ => obj ([("type", .str type)] ++ fields ++ cacheField cache)

/-- A message's `content`: a string, or a list of blocks. -/
inductive MessageContent where
  | text (s : PyStr)
  | blocks (bs : List ContentBlock)

def MessageContent.toPyVal : MessageContent → PyVal
  | .text s => .str s
  | .blocks bs => .list (bs.map ContentBlock.toPyVal)

/-- A message, `{"role": r, "content": c}`. -/
structure Message where
  role : PyStr
  content : MessageContent

def Message.toPyVal (m : Message) : PyVal :=
  obj [("role", .str m.role), ("content", m.content.toPyVal)]

/-- The `system` prompt: a string, or a list of text blocks. -/
inductive SystemPrompt where
  | text (s : PyStr)
  | blocks (bs : List TextBlock)

def SystemPrompt.toPyVal : SystemPrompt → PyVal
  | .text s => .str s
  | .blocks bs => .list (bs.map TextBlock.toPyVal)

/-- A tool: its `name`, maybe a `description`, and its `input_schema`. -/
structure Tool where
  name : PyStr
  description : Option PyStr
  inputSchema : List (String × PyVal)

def Tool.toPyVal (t : Tool) : PyVal :=
  obj ([("name", .str t.name)] ++ t.description.toList.map (fun d => ("description", .str d)) ++
    [("input_schema", obj t.inputSchema)])

/-- A JSON schema: maybe its `properties`, and its other keywords. -/
structure JsonSchema where
  properties : Option (List (String × PyVal))
  keywords : List (String × PyVal)
  fresh : ∀ kv ∈ keywords, kv.1 ≠ "properties"

def JsonSchema.toPyVal (s : JsonSchema) : PyVal :=
  obj (s.keywords ++ s.properties.toList.map fun p => ("properties", obj p))

/-- An output `format`: its `type`, maybe with a `schema`. -/
structure OutputFormat where
  type : PyStr
  schema : Option JsonSchema

def OutputFormat.toPyVal (f : OutputFormat) : PyVal :=
  obj ([("type", .str f.type)] ++ f.schema.toList.map fun s => ("schema", s.toPyVal))

/-- `output_config`: maybe a `format`. -/
structure OutputConfig where
  format : Option OutputFormat

def OutputConfig.toPyVal (c : OutputConfig) : PyVal :=
  obj (c.format.toList.map fun f => ("format", f.toPyVal))

/-- **A request of the Messages API**: its messages, maybe a system prompt, tools and an output
configuration, and any other settings under other names. -/
structure Request where
  messages : List Message
  system : Option SystemPrompt
  tools : Option (List Tool)
  outputConfig : Option OutputConfig
  settings : List (String × PyVal)
  fresh : ∀ kv ∈ settings, kv.1 ∉ ["messages", "system", "tools", "output_config"]

/-- The entries of a request that the report stages read. -/
def Request.readFields (r : Request) : List (String × PyVal) :=
  ("messages", .list (r.messages.map Message.toPyVal)) ::
    (r.system.toList.map fun s => ("system", s.toPyVal)) ++
    (r.tools.toList.map fun ts => ("tools", .list (ts.map Tool.toPyVal))) ++
    (r.outputConfig.toList.map fun c => ("output_config", c.toPyVal))

/-- The entries of a request, its other settings first. -/
def Request.fields (r : Request) : List (String × PyVal) := r.settings ++ r.readFields

def Request.toPyVal (r : Request) : PyVal := obj r.fields

/-- **A `usage` object**: maybe `input_tokens` and `output_tokens`, and other counters. -/
structure Usage where
  inputTokens : Option Int
  outputTokens : Option Int
  counters : List (String × PyVal)
  fresh : ∀ kv ∈ counters, kv.1 ≠ "input_tokens" ∧ kv.1 ≠ "output_tokens"

/-- The entries of a usage object. -/
def Usage.fields (u : Usage) : List (String × PyVal) :=
  u.inputTokens.toList.map (fun n => ("input_tokens", .int n)) ++
    u.outputTokens.toList.map (fun n => ("output_tokens", .int n)) ++ u.counters

def Usage.toPyVal (u : Usage) : PyVal := obj u.fields

/-- **A response of the Messages API**: its content blocks, maybe a usage object, and its other
fields (`id`, `type`, `role`, `model`, `stop_reason`, ...) under other names. -/
structure Response where
  content : List ContentBlock
  usage : Option Usage
  others : List (String × PyVal)
  fresh : ∀ kv ∈ others, kv.1 ≠ "content" ∧ kv.1 ≠ "usage"

/-- The entries of a response, its other fields first. -/
def Response.fields (r : Response) : List (String × PyVal) :=
  r.others ++ ("content", .list (r.content.map ContentBlock.toPyVal)) ::
    r.usage.toList.map fun u => ("usage", u.toPyVal)

def Response.toPyVal (r : Response) : PyVal := obj r.fields

end Api

/-! ## Reading a JSON object with string keys -/

@[simp] lemma contains_obj (kvs : List (String × PyVal)) (k : String) :
    (obj kvs).contains (lit k) = .ok (List.lookup k kvs).isSome := by
  simp only [obj, PyVal.contains, dictGet_obj]

@[simp] lemma get_obj (kvs : List (String × PyVal)) (k : String) (d : PyVal) :
    (obj kvs).get (lit k) d = .ok ((List.lookup k kvs).getD d) := by
  rw [obj, get_dict, getOr_obj]

lemma getItem_obj (kvs : List (String × PyVal)) (k : String) (r : String) :
    (obj kvs).getItem (lit k) r = match List.lookup k kvs with
      | some x => .ok x
      | none => .error (.keyError r) := by
  show (match dictGet? (kvs.map fun kv => (strVal kv.1, kv.2)) (.str (lit k)) with
    | some x => (Except.ok x : Except PyExc PyVal)
    | none => Except.error (PyExc.keyError r)) = _
  rw [dictGet_obj]

/-- An absent entry is not walked. -/
lemma forFirst_obj_none {kvs : List (String × PyVal)} {key : String}
    (h : List.lookup key kvs = none) (n : Nat) (f : PyVal → Except PyExc Unit) :
    forFirst key n f (obj kvs) = .ok () := by
  simp [forFirst, h]

/-- The first items of a list entry are walked, and pass when every item does. -/
lemma forFirst_obj_list {kvs : List (String × PyVal)} {key : String} {xs : List PyVal}
    (h : List.lookup key kvs = some (.list xs)) {f : PyVal → Except PyExc Unit}
    (hf : ∀ x ∈ xs, f x = .ok ()) (n : Nat) : forFirst key n f (obj kvs) = .ok () := by
  simp only [forFirst, contains_obj, getItem_obj, h, Option.isSome_some, if_true, ok_bind,
    PyVal.sliceTo?, PyVal.iter]
  split
  · exact forM_eq_ok fun x hx => hf x (List.mem_of_mem_take hx)
  · rfl

/-- The first characters of a string entry are walked, as one-character strings. -/
lemma forFirst_obj_str {kvs : List (String × PyVal)} {key : String} {s : PyStr}
    (h : List.lookup key kvs = some (.str s)) {f : PyVal → Except PyExc Unit}
    (hf : ∀ c, f (.str [c]) = .ok ()) (n : Nat) : forFirst key n f (obj kvs) = .ok () := by
  simp only [forFirst, contains_obj, getItem_obj, h, Option.isSome_some, if_true, ok_bind,
    PyVal.sliceTo?, PyVal.iter]
  split
  · exact forM_eq_ok fun x hx => by
      obtain ⟨c, -, rfl⟩ := List.mem_map.mp hx
      exact hf c
  · rfl

/-- Names that a prefix of the entries does not use are looked up past it. -/
lemma lookup_append_fresh {k : String} {l₁ : List (String × PyVal)}
    (h : ∀ kv ∈ l₁, kv.1 ≠ k) (l₂ : List (String × PyVal)) :
    List.lookup k (l₁ ++ l₂) = List.lookup k l₂ := by
  induction l₁ with
  | nil => rfl
  | cons kv l₁ ih =>
    have hk : (k == kv.1) = false := beq_false_of_ne (h kv (by simp)).symm
    rw [List.cons_append, List.lookup_cons, hk]
    exact ih fun kv' hm => h kv' (by simp [hm])

namespace Api

/-- The settings of a request never hide what the report stages read. -/
lemma Request.lookup_fields (r : Request) {k : String}
    (hk : k ∈ ["messages", "system", "tools", "output_config"]) :
    List.lookup k r.fields = List.lookup k r.readFields :=
  lookup_append_fresh (fun kv hm he => r.fresh kv hm (he ▸ hk)) _

@[simp] lemma Request.lookup_messages (r : Request) :
    List.lookup "messages" r.fields = some (.list (r.messages.map Message.toPyVal)) := by
  rw [r.lookup_fields (by simp), Request.readFields]
  simp [List.lookup_cons]

@[simp] lemma Request.lookup_system (r : Request) :
    List.lookup "system" r.fields = r.system.map SystemPrompt.toPyVal := by
  rw [r.lookup_fields (by simp), Request.readFields]
  cases r.system <;> cases r.tools <;> cases r.outputConfig <;> simp [List.lookup_cons]

@[simp] lemma Request.lookup_tools (r : Request) :
    List.lookup "tools" r.fields = r.tools.map fun ts => .list (ts.map Tool.toPyVal) := by
  rw [r.lookup_fields (by simp), Request.readFields]
  cases r.system <;> cases r.tools <;> cases r.outputConfig <;> simp [List.lookup_cons]

@[simp] lemma Request.lookup_outputConfig (r : Request) :
    List.lookup "output_config" r.fields = r.outputConfig.map OutputConfig.toPyVal := by
  rw [r.lookup_fields (by simp), Request.readFields]
  cases r.system <;> cases r.tools <;> cases r.outputConfig <;> simp [List.lookup_cons]

/-- **The system prompt of a request is walked item by item**: a string by its characters, a
list of text blocks by its blocks, so a loop body that passes on both passes on the request. -/
lemma Request.forFirst_system (r : Request) {f : PyVal → Except PyExc Unit}
    (hc : ∀ c, f (.str [c]) = .ok ())
    (hb : ∀ bs, r.system = some (.blocks bs) → ∀ b ∈ bs, f b.toPyVal = .ok ()) (n : Nat) :
    forFirst "system" n f r.toPyVal = .ok () := by
  cases hs : r.system with
  | none => exact forFirst_obj_none (by simp [hs]) _ _
  | some sp =>
    cases sp with
    | text s => exact forFirst_obj_str (by rw [r.lookup_system, hs]; rfl) hc _
    | blocks bs =>
      refine forFirst_obj_list (by rw [r.lookup_system, hs]; rfl) (fun x hx => ?_) _
      obtain ⟨b, hm, rfl⟩ := List.mem_map.mp hx
      exact hb bs hs b hm

/-- The messages of a request are walked message by message. -/
lemma Request.forFirst_messages (r : Request) {f : PyVal → Except PyExc Unit}
    (hm : ∀ m ∈ r.messages, f m.toPyVal = .ok ()) (n : Nat) :
    forFirst "messages" n f r.toPyVal = .ok () :=
  forFirst_obj_list r.lookup_messages (fun x hx => by
    obtain ⟨m, hm', rfl⟩ := List.mem_map.mp hx
    exact hm m hm') _

lemma Usage.lookup_counters (u : Usage) {k : String}
    (hk : k = "input_tokens" ∨ k = "output_tokens") : List.lookup k u.counters = none :=
  List.lookup_eq_none_iff.mpr fun kv hm => bne_iff_ne.mpr <| by
    rcases hk with rfl | rfl
    exacts [Ne.symm (u.fresh kv hm).1, Ne.symm (u.fresh kv hm).2]

@[simp] lemma Usage.lookup_input (u : Usage) :
    List.lookup "input_tokens" u.fields = u.inputTokens.map .int := by
  have h := u.lookup_counters (Or.inl rfl)
  rw [Usage.fields]
  cases u.inputTokens <;> cases u.outputTokens <;> simp [List.lookup_cons, h]

@[simp] lemma Usage.lookup_output (u : Usage) :
    List.lookup "output_tokens" u.fields = u.outputTokens.map .int := by
  have h := u.lookup_counters (Or.inr rfl)
  rw [Usage.fields]
  cases u.inputTokens <;> cases u.outputTokens <;> simp [List.lookup_cons, h]

@[simp] lemma Response.lookup_content (r : Response) :
    List.lookup "content" r.fields = some (.list (r.content.map ContentBlock.toPyVal)) := by
  rw [Response.fields, lookup_append_fresh fun kv hm he => (r.fresh kv hm).1 he]
  simp [List.lookup_cons]

@[simp] lemma Response.lookup_usage (r : Response) :
    List.lookup "usage" r.fields = r.usage.map Usage.toPyVal := by
  rw [Response.fields, lookup_append_fresh fun kv hm he => (r.fresh kv hm).2 he]
  cases r.usage <;> simp [List.lookup_cons]

/-! ## The parts of a printable request print -/

section Printable

variable {e : EncodeErrors}

lemma Request.printable_lookup {r : Request} (h : r.toPyVal.printable e = true) {k : String}
    {v : PyVal} (hk : List.lookup k r.fields = some v) : v.printable e = true :=
  PyVal.printable_of_lookup h hk

lemma CacheControl.encodes_type {c : CacheControl} (h : c.toPyVal.printable e = true) :
    c.type.encodes e = true := by
  simpa [CacheControl.toPyVal] using h

/-- `d.get(k, default)` of a printable object is printable when the default is. -/
lemma getD_lookup_printable {kvs : List (String × PyVal)} (h : (obj kvs).printable e = true)
    (k : String) {d : PyVal} (hd : d.printable e = true) :
    ((List.lookup k kvs).getD d).printable e = true := by
  cases hk : List.lookup k kvs with
  | none => exact hd
  | some v => exact PyVal.printable_of_lookup h hk

/-- `req.get(k, default)` of a printable request is printable when the default is. -/
lemma Request.get_printable {r : Request} (h : r.toPyVal.printable e = true) (k : String)
    {d : PyVal} (hd : d.printable e = true) :
    ∃ v, r.toPyVal.get (lit k) d = .ok v ∧ v.printable e = true :=
  ⟨_, get_obj _ _ _, getD_lookup_printable h k hd⟩

end Printable

end Api

end GatewayLogs
