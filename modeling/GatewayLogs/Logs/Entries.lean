import GatewayLogs.Logs.Collect
import GatewayLogs.Correlation
import GatewayLogs.Loop

/-!
# The entries `analyze_logs` builds

`analyze_logs` correlates the same way as `analyze_conversations`, with fewer keys: a request
record assigns `request`, `model` and `api_key`, a response record assigns `response`.  The two
sides are disjoint, so the entry of an id is its decoded requests, then its decoded responses,
each overwriting the one before (`lookup_collectLogs`).
-/

namespace GatewayLogs

/-- A request's assignments: `request`, `model`, `api_key`. -/
def LogEntry.setRequest (w : PyVal × PyVal × PyVal) (c : LogEntry) : LogEntry :=
  { c with request := w.1, model := some w.2.1, apiKey := some w.2.2 }

/-- A response's assignment: `response`. -/
def LogEntry.setResponse (b : PyVal) (c : LogEntry) : LogEntry := { c with response := b }

/-- The keyed write an action makes, if any. -/
def LogAction.keyed : LogAction → Option (PyKey × KeyedWrite (PyVal × PyVal × PyVal) PyVal)
  | .request k (some w) => some (k, .req w)
  | .response k (some b) => some (k, .resp b)
  | _ => none

lemma foldl_logApply_eq_keyed (acts : List LogAction) (m : LogConversations) :
    acts.foldl (fun m a => a.apply m) m =
      (acts.filterMap LogAction.keyed).foldl
        (fun m p => m.alter p.1 (p.2.applyTo LogEntry.setRequest LogEntry.setResponse {})) m := by
  induction acts generalizing m with
  | nil => rfl
  | cons a acts ih =>
    cases a with
    | skip => exact ih m
    | request k w => cases w <;> exact ih _
    | response k b => cases b <;> exact ih _

/-- Whether a line is a request record of id `k` for `analyze_logs`. -/
def isLogRequestOf (k : PyKey) (line : PyStr) : Bool :=
  match logAction line with
  | .ok (.request k' _) => k' = k
  | _ => false

/-- Whether a line is a response record of id `k` for `analyze_logs`. -/
def isLogResponseOf (k : PyKey) (line : PyStr) : Bool :=
  match logAction line with
  | .ok (.response k' _) => k' = k
  | _ => false

/-- The assignments of id `k`'s request records whose body decoded, in log order. -/
def logRequestWrites (k : PyKey) (lines : List PyStr) : List (PyVal × PyVal × PyVal) :=
  lines.filterMap fun l => match logAction l with
    | .ok (.request k' (some w)) => if k' = k then some w else none
    | _ => none

/-- The decoded bodies of id `k`'s response records, in log order. -/
def logResponseWrites (k : PyKey) (lines : List PyStr) : List PyVal :=
  lines.filterMap fun l => match logAction l with
    | .ok (.response k' (some b)) => if k' = k then some b else none
    | _ => none

lemma logRequestWrites_filter (k : PyKey) (lines : List PyStr) :
    logRequestWrites k (lines.filter (isLogRequestOf k)) = logRequestWrites k lines := by
  simp only [logRequestWrites, List.filterMap_filter]
  congr 1; funext l
  unfold isLogRequestOf
  cases logAction l with
  | error e => rfl
  | ok a =>
    cases a with
    | request k' w => cases w <;> by_cases hk : k' = k <;> simp [hk]
    | _ => rfl

lemma logResponseWrites_filter (k : PyKey) (lines : List PyStr) :
    logResponseWrites k (lines.filter (isLogResponseOf k)) = logResponseWrites k lines := by
  simp only [logResponseWrites, List.filterMap_filter]
  congr 1; funext l
  unfold isLogResponseOf
  cases logAction l with
  | error e => rfl
  | ok a =>
    cases a with
    | response k' b => cases b <;> by_cases hk : k' = k <;> simp [hk]
    | _ => rfl

lemma writesTo_logKeyed (k : PyKey) (lines : List PyStr) :
    KeyedWrite.reqs (writesTo k ((lines.map (actOr logAction .skip)).filterMap LogAction.keyed))
      = logRequestWrites k lines ∧
    KeyedWrite.resps (writesTo k ((lines.map (actOr logAction .skip)).filterMap LogAction.keyed))
      = logResponseWrites k lines := by
  simp only [KeyedWrite.reqs, KeyedWrite.resps, writesTo, logRequestWrites, logResponseWrites,
    List.filterMap_map, List.filterMap_filterMap]
  constructor <;> congr 1 <;> funext l <;> simp only [Function.comp_def, actOr] <;>
    rcases logAction l with e | _ | ⟨k', _ | w⟩ | ⟨k', _ | b⟩ <;>
    (try by_cases hk : k' = k) <;> simp [Except.toOption, LogAction.keyed, *]

/-- The entry of `k` after the lines: its decoded requests, then its decoded responses. -/
def logEntryOf (k : PyKey) (lines : List PyStr) : Option LogEntry :=
  KeyedWrite.entryOf LogEntry.setRequest LogEntry.setResponse {} (logRequestWrites k lines)
    (logResponseWrites k lines) none

/-- **The entry of an id after a completed run is fixed by that id's records.** -/
lemma lookup_collectLogs {lines : List PyStr} {m : LogConversations}
    (h : collectLogs lines = .ok m) (k : PyKey) : m.lookup k = logEntryOf k lines := by
  rw [foldlM_eq_ok logAction LogAction.apply .skip h, foldl_logApply_eq_keyed, lookup_foldl_write,
    ODict.lookup_empty,
    KeyedWrite.foldl_applyTo_eq_entryOf LogEntry.setRequest LogEntry.setResponse {}
      (fun _ _ _ => rfl),
    (writesTo_logKeyed k lines).1, (writesTo_logKeyed k lines).2]
  rfl

end GatewayLogs
