import GatewayLogs.Report.Collect
import GatewayLogs.Python.FloatRange
import GatewayLogs.Json.Dumps
import GatewayLogs.Loop

/-!
# `analyze_detailed_logs`: the interaction analysis

Lines 177–218 of `log_analysis_report.py` classify every collected request: streamed, with
tools, with a system prompt, with a cached system block, with a JSON-schema output format; then
each of the first four counts is printed as a share of `len(conversations)`.  Nothing checks a
type on the way:

* a truthy `system` is iterated, so a number or `True` there raises `TypeError`;
* a present `output_config` and its `format` are called `.get` on, so anything but a dict there
  raises `AttributeError`;
* the shares divide by `len(conversations)`, so an empty map raises `ZeroDivisionError`.

The printing itself (`:.1f` of the shares, `most_common` of literal keys) never raises and is
not modelled; the overview and the detail printed between collection and this stage are
`GatewayLogs.Report.Detail`.

The loop body raises or not by the request alone (`interactionAborts`), and otherwise adds one
to the counters whose predicate the request satisfies (`interactionStep_eq_ok_iff`); the loop is
then a count (`foldlM_interactionStep`), and each share is finite because a count never exceeds
the number of conversations (`share_ok`).

* **`interaction_stage_iff`** — on any non-empty map, the stage completes iff no request
  aborts, and then returns the five counts of the predicates.
-/

namespace GatewayLogs

/-- The counters of lines 177–181.  `interaction_types` counts tool use and cache use exactly as
`has_tools` and `has_cache` do, so of it only the JSON-schema counter is kept apart. -/
structure InteractionCounts where
  streaming : Nat
  tools : Nat
  systemPrompt : Nat
  cache : Nat
  jsonSchema : Nat
  deriving DecidableEq, Repr

/-- All counters at zero. -/
def InteractionCounts.zero : InteractionCounts := ⟨0, 0, 0, 0, 0⟩

/-- `req.get(name)` is truthy. -/
def flag (req : List (PyVal × PyVal)) (name : String) : Bool := (getOr req name .none).truthy

/-- A system block that marks the prompt as cached: a dict with a truthy `cache_control`. -/
def cachedBlock (m : PyVal) : Bool :=
  match m with
  | .dict kvs => flag kvs "cache_control"
  | _ => false

/-- **Lines 197–202**: whether the `for` over a truthy `system` reaches a cached block. -/
def systemCached (req : List (PyVal × PyVal)) : Except PyExc Bool :=
  if flag req "system" then
    (PyVal.iter (getOr req "system" .none)).map fun ms => ms.any cachedBlock
  else .ok false

/-- **Lines 205–207**: `req['output_config'].get('format', {}).get('type')`, when the key is
there. -/
def outputFormat (req : List (PyVal × PyVal)) : Except PyExc PyVal :=
  match dictGet? req (.str (lit "output_config")) with
  | none => .ok .none
  | some cfg => do
    let fmt ← cfg.get (lit "format") (.dict [])
    fmt.get (lit "type") .none

/-- One conversation of the loop of lines 183–208. -/
def interactionStep (acc : InteractionCounts) (req : List (PyVal × PyVal)) :
    Except PyExc InteractionCounts := do
  let cached ← systemCached req
  let fmt ← outputFormat req
  return { streaming := acc.streaming + (if flag req "stream" then 1 else 0)
           tools := acc.tools + (if flag req "tools" then 1 else 0)
           systemPrompt := acc.systemPrompt + (if flag req "system" then 1 else 0)
           cache := acc.cache + (if cached then 1 else 0)
           jsonSchema := acc.jsonSchema + (if fmt = .str (lit "json_schema") then 1 else 0) }

/-- `count/total*100`, as each line 211–214 computes it. -/
def share (count total : Nat) : Except PyExc PyNum := do
  (← (PyNum.int count).trueDiv (.int total)).mul (.int 100)

/-- **Lines 177–214**: the counts over `conversations.values()`, then the four shares. -/
def interactionStage (convs : ReportConversations) : Except PyExc InteractionCounts := do
  let counts ← (convs.entries.map fun e => e.2.request).foldlM interactionStep .zero
  let n := convs.entries.length
  let _ ← share counts.streaming n
  let _ ← share counts.tools n
  let _ ← share counts.systemPrompt n
  let _ ← share counts.cache n
  return counts

/-! ## What a request does -/

/-- A value a `for` loop can iterate: a list, a string or a dict. -/
def PyVal.isIterable : PyVal → Bool
  | .list _ | .str _ | .dict _ => true
  | _ => false

/-- What a `for` over a `system` value visits that could be a dict: the items of a list, the
keys of a dict.  A string's items are one-character strings. -/
def systemItems : PyVal → List PyVal
  | .list xs => xs
  | .dict kvs => kvs.map Prod.fst
  | _ => []

/-- **The request marks its system prompt for caching**: a truthy `system` with an item that is
a dict with a truthy `cache_control`. -/
def usesCache (req : List (PyVal × PyVal)) : Bool :=
  flag req "system" && (systemItems (getOr req "system" .none)).any cachedBlock

/-- **The request asks for JSON-schema output**: `output_config.format.type` is
`"json_schema"`. -/
def jsonSchemaFormat (req : List (PyVal × PyVal)) : Bool :=
  match dictGet? req (.str (lit "output_config")) with
  | some (.dict cfg) =>
    match getOr cfg "format" (.dict []) with
    | .dict fmt => getOr fmt "type" .none = strVal "json_schema"
    | _ => false
  | _ => false

/-- A truthy `system` that a `for` cannot iterate (a number, `true`). -/
def systemAborts (req : List (PyVal × PyVal)) : Bool :=
  flag req "system" && !(getOr req "system" .none).isIterable

/-- An `output_config` that is not a dict, or whose `format` is not a dict. -/
def formatAborts (req : List (PyVal × PyVal)) : Bool :=
  match dictGet? req (.str (lit "output_config")) with
  | none => false
  | some (.dict cfg) => !(getOr cfg "format" (.dict [])).isDict
  | some _ => true

/-- **The requests on which the loop of lines 183–208 raises.** -/
def interactionAborts (req : List (PyVal × PyVal)) : Bool := systemAborts req || formatAborts req

lemma systemCached_eq (req : List (PyVal × PyVal)) :
    systemCached req = if systemAborts req
      then .error (.notIterable (getOr req "system" .none)) else .ok (usesCache req) := by
  unfold systemCached systemAborts usesCache
  cases flag req "system"
  · rfl
  · cases getOr req "system" .none <;>
      simp [PyVal.iter, PyVal.isIterable, systemItems, List.any_map, Function.comp_def, cachedBlock]

lemma outputFormat_isOk (req : List (PyVal × PyVal)) :
    (outputFormat req).isOk = !formatAborts req := by
  unfold outputFormat formatAborts
  cases dictGet? req (.str (lit "output_config")) with
  | none => rfl
  | some cfg =>
    cases cfg
    case dict cfg =>
      simp only [get_dict, ok_bind]
      cases getOr cfg "format" (.dict []) <;> rfl
    all_goals rfl

lemma outputFormat_ok {req : List (PyVal × PyVal)} {v : PyVal} (h : outputFormat req = .ok v) :
    decide (v = .str (lit "json_schema")) = jsonSchemaFormat req := by
  unfold outputFormat at h
  unfold jsonSchemaFormat
  cases hc : dictGet? req (.str (lit "output_config")) with
  | none => simp [hc] at h; simp [← h]
  | some cfg =>
    rw [hc] at h
    cases cfg
    case dict cfg =>
      simp only [get_dict, ok_bind] at h
      cases hf : getOr cfg "format" (.dict [])
      case dict fmt => simp_all [strVal]
      all_goals simp [hf, PyVal.get, PyVal.entries?] at h
    all_goals simp [PyVal.get, PyVal.entries?] at h

/-! ## The loop -/

/-- **The five counts over a list of requests**: how many are streamed, have tools, have a
system prompt, mark it for caching, and ask for JSON-schema output. -/
def tally (reqs : List (List (PyVal × PyVal))) : InteractionCounts :=
  ⟨reqs.countP (flag · "stream"), reqs.countP (flag · "tools"), reqs.countP (flag · "system"),
    reqs.countP usesCache, reqs.countP jsonSchemaFormat⟩

lemma tally_concat (rs : List (List (PyVal × PyVal))) (req : List (PyVal × PyVal)) :
    tally (rs ++ [req]) =
      { streaming := (tally rs).streaming + if flag req "stream" then 1 else 0
        tools := (tally rs).tools + if flag req "tools" then 1 else 0
        systemPrompt := (tally rs).systemPrompt + if flag req "system" then 1 else 0
        cache := (tally rs).cache + if usesCache req then 1 else 0
        jsonSchema := (tally rs).jsonSchema + if jsonSchemaFormat req then 1 else 0 } := by
  simp [tally, List.countP_append, List.countP_cons]

/-- **One step**: the loop body completes iff the request does not abort, and then counts it. -/
lemma interactionStep_eq_ok_iff (rs : List (List (PyVal × PyVal))) (req : List (PyVal × PyVal))
    (c : InteractionCounts) :
    interactionStep (tally rs) req = .ok c ↔
      interactionAborts req = false ∧ c = tally (rs ++ [req]) := by
  unfold interactionStep interactionAborts
  rw [systemCached_eq]
  cases hs : systemAborts req
  · have hfmt := outputFormat_isOk req
    cases hf : outputFormat req with
    | error e => simp_all
    | ok v =>
      simp only [hf, isOk_ok] at hfmt
      rw [tally_concat, ← outputFormat_ok hf]
      simp only [Bool.false_eq_true, if_false, ok_bind, pure_eq_ok, Except.ok.injEq,
        Bool.false_or, decide_eq_true_eq]
      constructor
      · rintro rfl
        exact ⟨by simpa using hfmt.symm, rfl⟩
      · rintro ⟨-, rfl⟩
        rfl
  · simp

/-- **The loop**: it completes iff no request aborts, and then the counters are the counts. -/
lemma foldlM_interactionStep (reqs rs : List (List (PyVal × PyVal))) (c : InteractionCounts) :
    reqs.foldlM interactionStep (tally rs) = .ok c ↔
      (∀ r ∈ reqs, interactionAborts r = false) ∧ c = tally (rs ++ reqs) := by
  induction reqs generalizing rs with
  | nil => simpa [pure, Except.pure] using eq_comm
  | cons r reqs ih =>
    rw [List.foldlM_cons, List.forall_mem_cons]
    cases h : interactionStep (tally rs) r with
    | error e =>
      have : interactionAborts r = true := by
        cases ha : interactionAborts r
        · exact absurd ((interactionStep_eq_ok_iff rs r _).mpr ⟨ha, rfl⟩) (by simp [h])
        · rfl
      simp [this]
    | ok a =>
      obtain ⟨ha, rfl⟩ := (interactionStep_eq_ok_iff rs r a).mp h
      simp [ha, ih, List.append_assoc]

/-! ## The shares -/

/-- **A share of a non-empty total is a float**: `count / total` is at most `1`, far below the
overflow threshold. -/
lemma share_ok {c n : Nat} (hc : c ≤ n) (hn : 0 < n) : ∃ x, share c n = .ok (.float x) := by
  have h2 : 2 ≤ PyFloat.maxFloatInt := by decide
  obtain ⟨x, hx⟩ := PyNum.trueDiv_int_ok (a := c) (b := n) (by omega)
    (by simp only [Int.natAbs_ofNat]; exact Nat.lt_of_le_of_lt hc (by
      have := Nat.mul_le_mul_left n h2; omega))
  obtain ⟨y, hy⟩ := PyNum.toFloat?_int_ok (z := 100) (by decide)
  exact ⟨x.mul y, by simp [share, hx, PyNum.mul_float_int, hy]⟩

/-- A share of an empty total divides by zero. -/
lemma share_zero (c : Nat) : share c 0 = .error ⟨.zeroDivisionError, lit "division by zero"⟩ :=
  rfl

/-! ## The stage -/

/-- One `request_body` record per pair of a request id and a body. -/
def requestBodyLog (bodies : List (Int × String)) : List PyStr :=
  bodies.map fun b =>
    logLine [("event_type", strVal "request_body"), ("body", strVal b.2)] [("request_id", .int b.1)]

/-- Three requests: a streamed one with a cached system block, one with tools and a JSON-schema
output format, and one with a string system prompt. -/
def interactionLog : List PyStr :=
  requestBodyLog
    [(1, "\x7b\"stream\": true, \"system\": [\x7b\"type\": \"text\", \"text\": \"hi\", " ++
        "\"cache_control\": \x7b\"type\": \"ephemeral\"\x7d\x7d]\x7d"),
     (2, "\x7b\"tools\": [\x7b\"name\": \"t\"\x7d], " ++
        "\"output_config\": \x7b\"format\": \x7b\"type\": \"json_schema\"\x7d\x7d\x7d"),
     (3, "\x7b\"system\": \"be brief\"\x7d")]

/-- The requests of the collected conversations, in insertion order. -/
def requestsOf (convs : ReportConversations) : List (List (PyVal × PyVal)) :=
  convs.entries.map fun e => e.2.request

/-- **The interaction stage on a non-empty map**: it completes iff no collected request has a
truthy `system` that cannot be iterated, or an `output_config` or `format` that is not a dict;
and then `streaming_count`, `has_tools`, `has_system_prompt`, `has_cache` and the JSON-schema
counter are the numbers of requests satisfying each predicate. -/
theorem interaction_stage_iff (convs : ReportConversations) (hne : convs.entries ≠ [])
    (c : InteractionCounts) :
    interactionStage convs = .ok c ↔
      (∀ r ∈ requestsOf convs, interactionAborts r = false) ∧ c = tally (requestsOf convs) := by
  have hn : 0 < convs.entries.length := List.length_pos.mpr hne
  have hle : ∀ p, (requestsOf convs).countP p ≤ convs.entries.length := fun p =>
    (List.countP_le_length p).trans (List.length_map _ _).le
  have hrun := foldlM_interactionStep (requestsOf convs) []
  simp only [List.nil_append] at hrun
  change ((requestsOf convs).foldlM interactionStep (tally []) >>= _) = _ ↔ _
  cases h : (requestsOf convs).foldlM interactionStep (tally []) with
  | error e =>
    simp only [error_bind, reduceCtorEq, false_iff, not_and]
    intro ha hc
    simpa [h] using (hrun c).mpr ⟨ha, hc⟩
  | ok counts =>
    obtain ⟨ha, rfl⟩ := (hrun counts).mp h
    obtain ⟨_, h1⟩ := share_ok (hle (flag · "stream")) hn
    obtain ⟨_, h2⟩ := share_ok (hle (flag · "tools")) hn
    obtain ⟨_, h3⟩ := share_ok (hle (flag · "system")) hn
    obtain ⟨_, h4⟩ := share_ok (hle usesCache) hn
    simp only [ok_bind, tally, h1, h2, h3, h4, pure_eq_ok, Except.ok.injEq]
    exact ⟨fun h => ⟨ha, h.symm⟩, fun h => h.2.symm⟩

set_option maxRecDepth 100000 in
theorem interaction_stage_iff_interactionLog :
    ∃ s, collectReport interactionLog = .ok s ∧ s.conversations.entries ≠ [] ∧
      (interactionStage s.conversations = .ok ⟨1, 1, 2, 1, 1⟩ ↔
        (∀ r ∈ requestsOf s.conversations, interactionAborts r = false) ∧
          (⟨1, 1, 2, 1, 1⟩ : InteractionCounts) = tally (requestsOf s.conversations)) :=
  ⟨_, rfl, by decide, interaction_stage_iff _ (by decide) _⟩

set_option maxRecDepth 100000 in
/-- A log without requests divides by `len(conversations) = 0`, and a request whose `system` is
`5` iterates a number. -/
theorem interaction_stage_raises :
    (collectReport [] >>= fun s => interactionStage s.conversations) =
      .error ⟨.zeroDivisionError, lit "division by zero"⟩ ∧
    (collectReport (requestBodyLog [(1, "\x7b\"system\": 5\x7d")]) >>= fun s =>
      interactionStage s.conversations) = .error (.notIterable (.int 5)) := by
  decide

end GatewayLogs
