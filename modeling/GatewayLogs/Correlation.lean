import GatewayLogs.Python.Dict

/-!
# Correlating requests and responses by id

`analyze_conversations` and `analyze_logs` both fill a `defaultdict` keyed by request id.  A
request record writes the request-side fields of its id's entry, a response record the
response-side fields, and an entry is made by the factory on its first write.  This module is
that design on its own, for any entry type:

* **Locality** (`lookup_foldl_write`): after any sequence of keyed writes, the entry of `k`
  is the writes to `k` alone, applied in order to its old entry.
* **Interleaving** (`foldl_applyTo_eq_entryOf`): when the two sides write disjoint parts of an
  entry, so that a request write and a response write commute, the entry is the request writes
  in order followed by the response writes in order (`entryOf`).  How the two sides interleave
  never matters.

The two scripts' maps are instances: their actions are keyed writes
(`ConvAction.keyed`, `LogAction.keyed`), and their runs are folds of them.
-/

namespace GatewayLogs

/-- A write to one entry, from a request record or from a response record. -/
inductive KeyedWrite (Q R : Type) where
  | req (q : Q)
  | resp (r : R)
  deriving DecidableEq, Repr

namespace KeyedWrite

variable {E Q R : Type} (applyQ : Q → E → E) (applyR : R → E → E) (fresh : E)

/-- Perform a write on an entry, made by the factory `fresh` if there is none yet. -/
def applyTo : KeyedWrite Q R → Option E → E
  | req q, c => applyQ q (c.getD fresh)
  | resp r, c => applyR r (c.getD fresh)

/-- The request-side writes of a list, in order. -/
def reqs (ws : List (KeyedWrite Q R)) : List Q :=
  ws.filterMap fun
    | req q => some q
    | resp _ => none

/-- The response-side writes of a list, in order. -/
def resps (ws : List (KeyedWrite Q R)) : List R :=
  ws.filterMap fun
    | req _ => none
    | resp r => some r

/-- **The entry after the request writes `qs` and the response writes `rs`**: the old entry
if there are none; otherwise the request writes in order and then the response writes in order,
on the old entry or a fresh one. -/
def entryOf (qs : List Q) (rs : List R) (c : Option E) : Option E :=
  if qs.isEmpty ∧ rs.isEmpty then c
  else some (rs.foldl (fun e r => applyR r e) (qs.foldl (fun e q => applyQ q e) (c.getD fresh)))

lemma entryOf_some (qs : List Q) (rs : List R) (e : E) :
    entryOf applyQ applyR fresh qs rs (some e) =
      some (rs.foldl (fun e r => applyR r e) (qs.foldl (fun e q => applyQ q e) e)) := by
  unfold entryOf
  split_ifs with h
  · obtain ⟨hq, hr⟩ := h
    simp [List.isEmpty_iff.mp hq, List.isEmpty_iff.mp hr]
  · rfl

/-- A response write passes through request writes that commute with it. -/
lemma foldl_reqs_applyR (comm : ∀ q r e, applyQ q (applyR r e) = applyR r (applyQ q e))
    (qs : List Q) (r : R) (e : E) :
    qs.foldl (fun e q => applyQ q e) (applyR r e) =
      applyR r (qs.foldl (fun e q => applyQ q e) e) := by
  induction qs generalizing e with
  | nil => rfl
  | cons q qs ih => simp only [List.foldl_cons, comm, ih]

/-- **Interleaving does not matter**: writes applied in any order give `entryOf` of their
request side and response side. -/
lemma foldl_applyTo_eq_entryOf (comm : ∀ q r e, applyQ q (applyR r e) = applyR r (applyQ q e))
    (ws : List (KeyedWrite Q R)) (c : Option E) :
    ws.foldl (fun c w => some (w.applyTo applyQ applyR fresh c)) c =
      entryOf applyQ applyR fresh (reqs ws) (resps ws) c := by
  induction ws generalizing c with
  | nil => simp [entryOf, reqs, resps]
  | cons w ws ih =>
    rw [List.foldl_cons, ih, entryOf_some]
    cases w with
    | req q => simp [entryOf, reqs, resps, applyTo]
    | resp r => simp [entryOf, reqs, resps, applyTo, foldl_reqs_applyR applyQ applyR comm]

end KeyedWrite

/-! ## Last write wins -/

section LastWritten

variable {α β : Type}

/-- The value the last of a list of writes gave a field, where `f` reads what a write assigns
to it (`none` when it leaves the field alone). -/
def lastWritten (ws : List α) (f : α → Option β) : Option β := (ws.filterMap f).getLast?

lemma lastWritten_cons (w : α) (ws : List α) (f : α → Option β) :
    lastWritten (w :: ws) f = (lastWritten ws f).or (f w) := by
  unfold lastWritten
  cases h : f w <;> cases hl : (ws.filterMap f).getLast? <;>
    simp [List.filterMap_cons, List.getLast?_cons, h, hl]

lemma lastWritten_isSome (ws : List α) (f : α → Option β) :
    (lastWritten ws f).isSome ↔ ∃ w ∈ ws, (f w).isSome := by
  simp [lastWritten, List.getLast?_isSome, List.filterMap_eq_nil_iff, Option.isSome_iff_ne_none]

end LastWritten

/-! ## Keyed writes on a map -/

section Map

variable {K E Q R : Type} [DecidableEq K] (applyQ : Q → E → E) (applyR : R → E → E) (fresh : E)

/-- The writes to the key `k`, in order. -/
def writesTo (k : K) (ws : List (K × KeyedWrite Q R)) : List (KeyedWrite Q R) :=
  ws.filterMap fun p => if p.1 = k then some p.2 else none

/-- **Locality**: after a sequence of keyed writes the entry of `k` is the writes to `k`,
applied in order to its old entry. -/
lemma lookup_foldl_write (ws : List (K × KeyedWrite Q R)) (m : ODict K E) (k : K) :
    (ws.foldl (fun m p => m.alter p.1 (p.2.applyTo applyQ applyR fresh)) m).lookup k =
      (writesTo k ws).foldl (fun c w => some (w.applyTo applyQ applyR fresh c)) (m.lookup k) := by
  induction ws generalizing m with
  | nil => rfl
  | cons p ws ih =>
    rw [List.foldl_cons, ih, ODict.lookup_alter]
    by_cases h : p.1 = k
    · simp [writesTo, h]
    · simp [writesTo, h, Ne.symm h]

end Map

end GatewayLogs
