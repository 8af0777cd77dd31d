import Mathlib.Data.List.Nodup
import Mathlib.Data.List.Perm.Basic

/-!
# Dictionaries keyed by request id, model or API key

The scripts keep their state in Python dicts: `conversations` (a `defaultdict`), and the
`Counter`s of `analyze_detailed_logs`.  Such a dict is an `ODict`: its entries in insertion
order, with the keys (already reduced to `PyKey`, so that equal Python keys are equal here)
pairwise distinct, a fact the structure carries.

* `alter` is `d[k]` followed by an assignment: the entry of `k` is rewritten in place, or
  created at the end from the `defaultdict` factory.  `set` (`d[k] = v`) and `incr`
  (`counter[k] += 1`) are instances.
* `lookup_alter` says everything `alter` does to the lookups: `k` changes and no other key does.
* `perm_of_lookup_eq`: two dicts with the same lookups hold the same entries, in some order.
-/

namespace GatewayLogs

/-- An insertion-ordered dictionary with distinct keys. -/
structure ODict (α β : Type) where
  entries : List (α × β)
  nodup : (entries.map Prod.fst).Nodup

namespace ODict

variable {α β : Type}

/-- Two dicts are equal when their entries are: the distinctness proof is irrelevant. -/
lemma ext_entries {d₁ d₂ : ODict α β} (h : d₁.entries = d₂.entries) : d₁ = d₂ := by
  cases d₁; cases d₂; cases h; rfl

instance [DecidableEq α] [DecidableEq β] : DecidableEq (ODict α β) := fun d₁ d₂ =>
  decidable_of_iff (d₁.entries = d₂.entries) ⟨ext_entries, fun h => h ▸ rfl⟩

variable [DecidableEq α]

/-- The empty dict. -/
def empty : ODict α β := ⟨[], List.nodup_nil⟩

/-- `d.get(k)`. -/
def lookup (d : ODict α β) (k : α) : Option β := d.entries.lookup k

/-- The keys, in insertion order. -/
def keys (d : ODict α β) : List α := d.entries.map Prod.fst

/-- The entries with `f` applied to the value of key `k`. -/
def mapAt (k : α) (f : Option β → β) (l : List (α × β)) : List (α × β) :=
  l.map fun e => if e.1 = k then (e.1, f (some e.2)) else e

lemma map_fst_mapAt (k : α) (f : Option β → β) (l : List (α × β)) :
    (mapAt k f l).map Prod.fst = l.map Prod.fst := by
  induction l with
  | nil => rfl
  | cons e l ih => by_cases h : e.1 = k <;> simp [mapAt, h] at ih ⊢ <;> exact ih

/-- **`d[k] = f(d.get(k))`**: rewrite the value of `k` in place, or append `k` with
`f none` (the `defaultdict` factory followed by the assignment). -/
def alter (d : ODict α β) (k : α) (f : Option β → β) : ODict α β :=
  if h : k ∈ d.keys then ⟨mapAt k f d.entries, by rw [map_fst_mapAt]; exact d.nodup⟩
  else ⟨d.entries ++ [(k, f none)], by
    rw [List.map_append, List.nodup_append]
    exact ⟨d.nodup, List.nodup_singleton _, by simpa [keys] using h⟩⟩

/-- `d[k] = v`. -/
def set (d : ODict α β) (k : α) (v : β) : ODict α β := d.alter k fun _ => v

/-- `counter[k] += 1`, a missing key counting from `0`. -/
def incr (d : ODict α Nat) (k : α) : ODict α Nat := d.alter k fun n => n.getD 0 + 1

/-- `counter[k]`: a missing key counts `0`. -/
def count (d : ODict α Nat) (k : α) : Nat := (d.lookup k).getD 0

/-- `List.lookup` on a cons, as an `if`. -/
lemma lookup_cons_eq (a k : α) (b : β) (es : List (α × β)) :
    ((k, b) :: es).lookup a = if a = k then some b else es.lookup a := by
  by_cases h : a = k
  · simp [h]
  · have : (a == k) = false := beq_false_of_ne h
    simp [List.lookup_cons, this, h]

lemma lookup_mapAt (k k' : α) (f : Option β → β) (l : List (α × β)) :
    (mapAt k f l).lookup k' = if k' = k then (l.lookup k).map (f ∘ some) else l.lookup k' := by
  induction l with
  | nil => split <;> rfl
  | cons e l ih =>
    obtain ⟨a, b⟩ := e
    simp only [mapAt, List.map_cons] at ih ⊢
    by_cases ha : a = k
    · subst ha
      by_cases hk : k' = a
      · simp [lookup_cons_eq, hk]
      · simpa [lookup_cons_eq, hk] using ih
    · simp only [ha, if_false, lookup_cons_eq, ih]
      by_cases hk : k' = k
      · subst hk; simp [Ne.symm ha]
      · simp [hk]

lemma lookup_eq_none_of_not_mem {d : ODict α β} {k : α} (h : k ∉ d.keys) :
    d.lookup k = none := by
  simp only [keys, List.mem_map, not_exists, not_and] at h
  simp only [lookup, List.lookup_eq_none_iff, bne_iff_ne, ne_eq]
  intro p hp hk
  exact h p hp hk.symm

lemma lookup_isSome_of_mem {d : ODict α β} {k : α} (h : k ∈ d.keys) :
    (d.lookup k).isSome := by
  obtain ⟨p, hp, rfl⟩ := List.mem_map.mp h
  exact List.lookup_isSome_iff.mpr ⟨p, hp, by simp⟩

/-- **What `alter` changes**: the lookup of `k` becomes `f` of its old lookup; every other key
is untouched. -/
lemma lookup_alter (d : ODict α β) (k k' : α) (f : Option β → β) :
    (d.alter k f).lookup k' = if k' = k then some (f (d.lookup k)) else d.lookup k' := by
  unfold alter
  split
  · next h =>
    rw [lookup, lookup_mapAt]
    split
    · obtain ⟨b, hb⟩ := Option.isSome_iff_exists.mp (lookup_isSome_of_mem h)
      simp only [lookup] at hb
      simp [lookup, hb]
    · rfl
  · next h =>
    have hn := lookup_eq_none_of_not_mem h
    simp only [lookup] at hn ⊢
    rw [List.lookup_append]
    split
    · next hk => subst hk; simp [hn]
    · next hk => cases hl : d.entries.lookup k' <;> simp [lookup_cons_eq, hk]

@[simp] lemma lookup_empty (k : α) : (empty : ODict α β).lookup k = none := rfl

/-- With distinct keys, an entry is in the list exactly when the lookup of its key finds its
value. -/
lemma mem_iff_lookup {l : List (α × β)} (h : (l.map Prod.fst).Nodup) (p : α × β) :
    p ∈ l ↔ l.lookup p.1 = some p.2 := by
  induction l with
  | nil => simp
  | cons e l ih =>
    obtain ⟨a, b⟩ := e
    simp only [List.map_cons, List.nodup_cons] at h
    by_cases hp : p.1 = a
    · have hl : p ∉ l := fun hm => h.1 (hp ▸ List.mem_map_of_mem Prod.fst hm)
      obtain ⟨p1, p2⟩ := p
      simp only at hp
      subst hp
      simp [lookup_cons_eq, hl, eq_comm]
    · have hne : p ≠ (a, b) := fun he => hp (by rw [he])
      simp [lookup_cons_eq, hne, hp, ih h.2]

/-- `counter[k] += 1` adds one to the count of `k` and leaves every other count alone. -/
lemma count_incr (d : ODict α Nat) (k k' : α) :
    (d.incr k).count k' = d.count k' + if k' = k then 1 else 0 := by
  unfold count incr
  rw [lookup_alter]
  split_ifs with h <;> simp [h]

@[simp] lemma count_empty (k : α) : (empty : ODict α Nat).count k = 0 := rfl

/-- Distinct keys make a list of entries determined, up to order, by its lookups. -/
lemma perm_of_lookup_eq {d e : ODict α β} (h : ∀ k, d.lookup k = e.lookup k) :
    d.entries.Perm e.entries :=
  (List.perm_ext_iff_of_nodup (List.Nodup.of_map _ d.nodup) (List.Nodup.of_map _ e.nodup)).mpr
    fun p => by rw [mem_iff_lookup d.nodup, mem_iff_lookup e.nodup]; exact Eq.congr_left (h p.1)

end ODict

end GatewayLogs
