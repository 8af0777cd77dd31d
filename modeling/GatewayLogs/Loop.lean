import Mathlib.Data.List.Basic

/-!
# Loops that decide, then act

The three collection loops have one shape.  Each line is decided on its own — what it will do
to the state, or the exception that ends the run — and what it decides is then applied by a
total function.  The state is never read while deciding.  Such a loop is a fold of the
decisions:

* **`foldlM_ok_iff`** — the run completes exactly when every line's decision does;
* **`foldlM_eq_ok`** — and then its result is the plain fold of the decisions;
* **`foldlM_drop_noop`** — a line whose decision changes nothing can be deleted.
-/

namespace GatewayLogs

/-! ## Running `Except` -/

section ExceptSimp

variable {ε α β : Type}

@[simp] lemma ok_bind (a : α) (f : α → Except ε β) : (Except.ok a >>= f) = f a := rfl

@[simp] lemma error_bind (e : ε) (f : α → Except ε β) :
    (Except.error e >>= f : Except ε β) = .error e := rfl

@[simp] lemma pure_eq_ok (a : α) : (pure a : Except ε α) = .ok a := rfl

@[simp] lemma throw_eq_error (e : ε) : (throw e : Except ε α) = .error e := rfl

@[simp] lemma map_ok (f : α → β) (a : α) : (Except.ok a : Except ε α).map f = .ok (f a) := rfl

@[simp] lemma map_error (f : α → β) (e : ε) : (Except.error e : Except ε α).map f = .error e :=
  rfl

@[simp] lemma isOk_ok (a : α) : (Except.ok a : Except ε α).isOk = true := rfl

@[simp] lemma isOk_error (e : ε) : (Except.error e : Except ε α).isOk = false := rfl

@[simp] lemma isOk_bind (x : Except ε α) (f : α → Except ε β) :
    (x >>= f).isOk = true ↔ ∃ a, x = .ok a ∧ (f a).isOk = true := by
  cases x <;> simp

lemma bind_eq_ok {x : Except ε α} {f : α → Except ε β} {b : β} :
    x >>= f = .ok b ↔ ∃ a, x = .ok a ∧ f a = .ok b := by
  cases x <;> simp

lemma map_eq_ok {x : Except ε α} {f : α → β} {b : β} :
    x.map f = .ok b ↔ ∃ a, x = .ok a ∧ f a = b := by
  cases x <;> simp

lemma exists_ok_iff_isOk (x : Except ε α) : (∃ a, x = .ok a) ↔ x.isOk = true := by
  cases x <;> simp

/-- A `for` loop whose body passes on every item runs through. -/
lemma forM_eq_ok {f : α → Except ε Unit} :
    ∀ {xs : List α}, (∀ x ∈ xs, f x = .ok ()) → xs.forM f = .ok ()
  | [], _ => rfl
  | x :: xs, h => by
    show f x >>= (fun _ => xs.forM f) = _
    rw [h x (List.mem_cons_self x xs), ok_bind]
    exact forM_eq_ok fun y hy => h y (List.mem_cons_of_mem x hy)

/-- A `for` loop runs through exactly when its body passes on every item. -/
lemma forM_eq_ok_iff {f : α → Except ε Unit} :
    ∀ {xs : List α}, xs.forM f = .ok () ↔ ∀ x ∈ xs, f x = .ok ()
  | [] => by simp
  | x :: xs => by
    rw [List.forM_cons', List.forall_mem_cons, ← forM_eq_ok_iff]
    cases f x <;> simp

/-- A `for` loop whose body does, on every item, what another does on a part of it. -/
lemma forM_eq_forM_map {γ : Type} {f : α → Except ε Unit} {g : γ → Except ε Unit}
    {p : α → γ} : ∀ {xs : List α}, (∀ x ∈ xs, f x = g (p x)) → xs.forM f = (xs.map p).forM g
  | [], _ => rfl
  | x :: xs, h => by
    rw [List.map_cons, List.forM_cons', List.forM_cons', h x (List.mem_cons_self x xs),
      forM_eq_forM_map fun y hy => h y (List.mem_cons_of_mem x hy)]

end ExceptSimp

/-! ## The loop -/

section DecideApply

variable {ε α γ σ : Type} (act : α → Except ε γ) (apply : γ → σ → σ)

/-- The decision for an item, with `d` standing in where deciding raised. -/
def actOr (d : γ) (x : α) : γ := (act x).toOption.getD d

lemma actOr_of_ok {d : γ} {x : α} {a : γ} (h : act x = .ok a) : actOr act d x = a := by
  simp [actOr, h, Except.toOption]

/-- **A run completes iff every decision does.** -/
theorem foldlM_ok_iff (xs : List α) (s : σ) :
    (∃ t, xs.foldlM (fun s x => (act x).map (apply · s)) s = .ok t) ↔
      ∀ x ∈ xs, ∃ a, act x = .ok a := by
  induction xs generalizing s with
  | nil => simp [pure, Except.pure]
  | cons x xs ih =>
    rw [List.foldlM_cons, List.forall_mem_cons]
    cases h : act x with
    | error e => simp [Except.map, bind, Except.bind]
    | ok a => simpa [Except.map, bind, Except.bind] using ih (apply a s)

/-- **A completed run is the fold of its decisions.** -/
theorem foldlM_eq_ok (d : γ) {xs : List α} {s t : σ}
    (h : xs.foldlM (fun s x => (act x).map (apply · s)) s = .ok t) :
    t = (xs.map (actOr act d)).foldl (fun s a => apply a s) s := by
  induction xs generalizing s with
  | nil => simpa [pure, Except.pure] using h.symm
  | cons x xs ih =>
    rw [List.foldlM_cons] at h
    cases hx : act x with
    | error e => simp [hx, Except.map, bind, Except.bind] at h
    | ok a =>
      simp only [hx, Except.map, bind, Except.bind] at h
      simpa [actOr_of_ok act hx] using ih h

/-- **A line that decides to do nothing can be deleted** from any place of the input. -/
theorem foldlM_drop_noop {x : α} {a : γ} (hx : act x = .ok a) (hid : ∀ s, apply a s = s)
    (xs ys : List α) (s : σ) :
    (xs ++ x :: ys).foldlM (fun s x => (act x).map (apply · s)) s =
      (xs ++ ys).foldlM (fun s x => (act x).map (apply · s)) s := by
  simp only [List.foldlM_append, List.foldlM_cons, hx, Except.map, hid]
  rfl

end DecideApply

end GatewayLogs
