import GatewayLogs.Report.Collect
import GatewayLogs.Json.Dumps
import GatewayLogs.Loop

/-!
# `analyze_detailed_logs`: the model and API-key histograms

`stats['models']` and `stats['api_keys']` are incremented inside the `try` of a `request_body`
record, before the conversation is stored.  They count records, not conversations: a record
whose body decodes to a dict counts its model, and then its API key, whether or not its request
id is new, present or hashable.

* `recordCounts` — what one line adds to the two histograms, read off the line;
* `reportAction_counted` — the action the loop decides for a line counts exactly that;
* `foldl_apply_count` — a run adds up its actions' counts;
* **`histograms_count_records`** — after a completed run, `models[m]` and `api_keys[k]` are the
  numbers of lines counting `m` and `k`.
-/

namespace GatewayLogs

/-! ## What a record counts -/

/-- **The counts of the `try` block of lines 45–55**, given a record's `fields` and `span`: the
model of a body that is a string holding a JSON object (`'unknown'` when absent), if it is
hashable; and then the span's `api_key_name` (`'unknown'` when absent), if it is hashable. -/
def bodyCounts (fields span : List (PyVal × PyVal)) : Option PyKey × Option PyKey :=
  match dictGet? fields (.str (lit "body")) with
  | some (.str b) =>
    match Json.loadsStr (Json.loadsRoom 2) b with
    | .ok (.dict req) =>
      match (getOr req "model" (strVal "unknown")).key? with
      | some m => (some m, (getOr span "api_key_name" (strVal "unknown")).key?)
      | none => (none, none)
    | _ => (none, none)
  | _ => (none, none)

/-- **What a record adds to `models` and `api_keys`**: the counts of its body if it is a
`request_body` record, nothing otherwise. -/
def logCounts (log : PyVal) : Option PyKey × Option PyKey :=
  match log with
  | .dict kvs =>
    match getOr kvs "fields" (.dict []) with
    | .dict fields =>
      if getOr fields "event_type" .none = strVal "request_body" then
        match getOr kvs "span" (.dict []) with
        | .dict span => bodyCounts fields span
        | _ => (none, none)
      else (none, none)
    | _ => (none, none)
  | _ => (none, none)

/-- What a line adds: nothing if it is not JSON. -/
def recordCounts (line : PyStr) : Option PyKey × Option PyKey :=
  match Json.loadsStr (Json.loadsRoom 2) (PyStr.strip line) with
  | .ok log => logCounts log
  | .error _ => (none, none)

/-- The model and API key an action counts. -/
def ReportAction.counted (a : ReportAction) : Option PyKey × Option PyKey :=
  (a.request.map RequestOutcome.counted).getD (none, none)

lemma requestOutcome_counted (log : PyVal) (fields span : List (PyVal × PyVal))
    (requestId : PyVal) :
    (requestOutcome log fields span requestId).counted = bodyCounts fields span := by
  unfold requestOutcome bodyCounts
  simp only [PyVal.getItem]
  cases dictGet? fields (.str (lit "body")) with
  | none => rfl
  | some body =>
    cases body
    case str b =>
      simp only [ok_bind, jsonLoads]
      cases Json.loadsStr (Json.loadsRoom 2) b with
      | error e => rfl
      | ok v =>
        cases v
        case dict req =>
          simp only [PyVal.entries?_dict, strVal]
          split <;> simp_all [RequestOutcome.counted]
        all_goals rfl
    all_goals rfl

lemma requestPart_counted {log : PyVal} {r : Option RequestOutcome}
    (h : requestPart log = .ok r) :
    (r.map RequestOutcome.counted).getD (none, none) = logCounts log := by
  cases log
  case dict kvs =>
    simp only [requestPart, get_dict, ok_bind] at h
    cases hf : getOr kvs "fields" (.dict [])
    case dict fields =>
      simp only [hf, PyVal.entries?_dict, ok_bind] at h
      split_ifs at h with het
      · cases hs : getOr kvs "span" (.dict []) with
        | dict span =>
          simp only [hs, PyVal.entries?_dict, ok_bind, pure_eq_ok, Except.ok.injEq] at h
          subst h
          simp [logCounts, hf, hs, het, strVal, requestOutcome_counted]
        | _ => simp [hs, PyVal.entries?] at h
      · simp only [pure_eq_ok, Except.ok.injEq] at h
        subst h
        simp [logCounts, hf, het, strVal]
    all_goals simp [hf, PyVal.entries?] at h
  all_goals simp [requestPart, PyVal.get, PyVal.entries?] at h

/-- **The loop decides for a line exactly what `recordCounts` reads off it.** -/
lemma reportAction_counted {line : PyStr} {a : ReportAction} (h : reportAction line = .ok a) :
    a.counted = recordCounts line := by
  unfold reportAction at h
  unfold recordCounts
  cases hl : Json.loadsStr (Json.loadsRoom 2) (PyStr.strip line) with
  | error e =>
    cases e <;> rw [hl] at h <;> cases h
    rfl
  | ok log =>
    rw [hl] at h
    obtain ⟨e, -, h⟩ := bind_eq_ok.mp h
    obtain ⟨r, hr, h⟩ := bind_eq_ok.mp h
    cases h
    exact requestPart_counted hr

/-! ## The run -/

/-- Adding what an action counts, if anything, to a counter. -/
def countIn (d : ODict PyKey Nat) : Option PyKey → ODict PyKey Nat
  | some m => d.incr m
  | none => d

lemma count_countIn (d : ODict PyKey Nat) (c : Option PyKey) (k : PyKey) :
    (countIn d c).count k = d.count k + if c = some k then 1 else 0 := by
  cases c with
  | none => simp [countIn]
  | some m =>
    rw [countIn, ODict.count_incr]
    by_cases h : k = m
    · simp [h]
    · simp [h, Ne.symm h]

/-- One action adds its model to `models` and its API key to `api_keys`. -/
lemma ReportAction.apply_counts (a : ReportAction) (s : ReportState) :
    (a.apply s).models = countIn s.models a.counted.1 ∧
    (a.apply s).apiKeys = countIn s.apiKeys a.counted.2 := by
  rcases a with ⟨e, _ | o⟩
  · cases e <;> exact ⟨rfl, rfl⟩
  · cases e <;> cases o <;> exact ⟨rfl, rfl⟩

/-- **A run adds up its actions' counts.** -/
lemma foldl_apply_count (acts : List ReportAction) (s : ReportState) (k : PyKey) :
    (acts.foldl (fun s a => a.apply s) s).models.count k =
      s.models.count k + acts.countP (fun a => a.counted.1 = some k) ∧
    (acts.foldl (fun s a => a.apply s) s).apiKeys.count k =
      s.apiKeys.count k + acts.countP (fun a => a.counted.2 = some k) := by
  induction acts generalizing s with
  | nil => simp
  | cons a acts ih =>
    obtain ⟨h1, h2⟩ := a.apply_counts s
    obtain ⟨ih1, ih2⟩ := ih (a.apply s)
    simp only [List.foldl_cons, ih1, ih2, h1, h2, count_countIn, List.countP_cons]
    constructor <;> split_ifs <;> simp_all <;> omega

/-- Two `request_body` records of id `1`, then one without a request id. -/
def repeatedRequestLog : List PyStr :=
  let req := [("event_type", strVal "request_body"), ("body", strVal "\x7b\x7d")]
  [logLine req [("request_id", .int 1)], logLine req [("request_id", .int 1)], logLine req []]

/-- **The histograms count records.**  After a completed run of `analyze_detailed_logs`,
`stats['models'][m]` is the number of lines whose record counts the model `m`, and
`stats['api_keys'][k]` the number whose record counts the API key `k`. -/
theorem histograms_count_records {lines : List PyStr} {s : ReportState}
    (h : collectReport lines = .ok s) (k : PyKey) :
    s.models.count k = lines.countP (fun l => (recordCounts l).1 = some k) ∧
    s.apiKeys.count k = lines.countP (fun l => (recordCounts l).2 = some k) := by
  have hall := (foldlM_ok_iff reportAction ReportAction.apply lines _).mp ⟨s, h⟩
  have hacts : ∀ l ∈ lines, (actOr reportAction ⟨none, none⟩ l).counted = recordCounts l :=
    fun l hl => by
      obtain ⟨a, ha⟩ := hall l hl
      rw [actOr_of_ok reportAction ha, reportAction_counted ha]
  rw [foldlM_eq_ok reportAction ReportAction.apply ⟨none, none⟩ h]
  obtain ⟨h1, h2⟩ := foldl_apply_count (lines.map (actOr reportAction ⟨none, none⟩)) .init k
  rw [h1, h2, List.countP_map, List.countP_map]
  simp only [ReportState.init, ODict.count_empty, Nat.zero_add]
  constructor <;> apply List.countP_congr <;> intro l hl <;> simp [Function.comp_def, hacts l hl]

set_option maxRecDepth 100000 in
theorem histograms_count_records_repeatedRequestLog :
    ∃ s, collectReport repeatedRequestLog = .ok s ∧
      s.models.count (.str (lit "unknown")) =
        repeatedRequestLog.countP (fun l => (recordCounts l).1 = some (.str (lit "unknown"))) ∧
      s.apiKeys.count (.str (lit "unknown")) =
        repeatedRequestLog.countP (fun l => (recordCounts l).2 = some (.str (lit "unknown"))) :=
  ⟨_, rfl, @histograms_count_records repeatedRequestLog _ rfl _⟩

set_option maxRecDepth 100000 in
/-- Three counts of the model `'unknown'` and of the key `'unknown'`, for two conversations: id
`1`, and `None`. -/
theorem models_count_repeated_records :
    (collectReport repeatedRequestLog).map (fun s => (s.models.count (.str (lit "unknown")),
      s.apiKeys.count (.str (lit "unknown")), s.conversations.keys)) =
      .ok (3, 3, [.int 1, .none]) := by
  decide

end GatewayLogs
