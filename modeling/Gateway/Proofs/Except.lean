import Mathlib.Data.List.Forall2

/-!
# Computations that may be refused

When a sequence, a map or a traversal in `Except` succeeds. `mapM_eq_ok_iff` gives the results of a
traversal item by item. `FailsOnly` bounds the ways in which a computation fails by those of its parts.
`bind_of_ok` and `bind_of_error` say how a computation that also has a state goes on.
-/

namespace Gateway

variable {ε α β γ : Type}

theorem bind_eq_ok_iff {x : Except ε α} {f : α → Except ε β} {b : β} :
    x >>= f = .ok b ↔ ∃ a, x = .ok a ∧ f a = .ok b := by
  cases x with
  | error e => simp [bind, Except.bind]
  | ok a => simp [bind, Except.bind]

theorem map_eq_ok_iff {x : Except ε α} {f : α → β} {b : β} :
    x.map f = .ok b ↔ ∃ a, x = .ok a ∧ f a = b := by
  cases x with
  | error e => simp [Except.map]
  | ok a => simp [Except.map]

theorem mapError_eq_ok_iff {δ : Type} {x : Except ε α} {f : ε → δ} {a : α} :
    x.mapError f = .ok a ↔ x = .ok a := by
  cases x <;> simp [Except.mapError]

/-- What is refused under a condition goes on when the condition fails. -/
theorem refuse_eq_ok_iff {c : Prop} [Decidable c] {e : ε} {x : Except ε α} {a : α} :
    (if c then .error e else x) = .ok a ↔ ¬ c ∧ x = .ok a := by
  by_cases h : c <;> simp [h]

/-- What has no result is refused. -/
theorem exists_error_iff {x : Except ε α} : (∃ e, x = .error e) ↔ ∀ a, x ≠ .ok a := by
  cases x with
  | error e => simp
  | ok a => simp

/-- **A traversal succeeds** when each of its items does, and gives their results in order. -/
theorem mapM_eq_ok_iff {f : α → Except ε β} {xs : List α} {ys : List β} :
    xs.mapM f = .ok ys ↔ List.Forall₂ (fun x y => f x = .ok y) xs ys := by
  induction xs generalizing ys with
  | nil =>
    rw [List.mapM_nil, List.forall₂_nil_left_iff]
    exact ⟨fun h => (Except.ok.inj h).symm, fun h => h ▸ rfl⟩
  | cons x xs ih =>
    rw [List.mapM_cons, bind_eq_ok_iff]
    constructor
    · rintro ⟨y, first, rest⟩
      obtain ⟨more, later, same⟩ := bind_eq_ok_iff.1 rest
      obtain rfl := Except.ok.inj same
      exact .cons first (ih.1 later)
    · rintro (- | ⟨first, later⟩)
      exact ⟨_, first, bind_eq_ok_iff.2 ⟨_, ih.2 later, rfl⟩⟩

/-- **A traversal is refused** when one of its items is. -/
theorem mapM_refused_iff {f : α → Except ε β} {xs : List α} :
    (∃ e, xs.mapM f = .error e) ↔ ∃ x ∈ xs, ∃ e, f x = .error e := by
  induction xs with
  | nil =>
    rw [List.mapM_nil]
    constructor
    · rintro ⟨e, refused⟩
      cases refused
    · rintro ⟨x, mem, -⟩
      cases mem
  | cons x xs ih =>
    rw [List.mapM_cons, List.exists_mem_cons_iff, ← ih]
    cases f x with
    | error e => exact iff_of_true ⟨e, rfl⟩ (.inl ⟨e, rfl⟩)
    | ok y =>
      cases xs.mapM f with
      | error e => exact iff_of_true ⟨e, rfl⟩ (.inr ⟨e, rfl⟩)
      | ok ys =>
        refine iff_of_false ?_ ?_
        · rintro ⟨e, refused⟩
          cases refused
        · rintro (⟨e, refused⟩ | ⟨e, refused⟩) <;> cases refused

/-- Where one of two related lists is split, so is the other. -/
theorem exists_append_of_forall₂ {R : α → β → Prop} {xs : List α} {before after : List β} {y : β}
    (pairs : List.Forall₂ R xs (before ++ y :: after)) :
    ∃ before' x after', xs = before' ++ x :: after' ∧ R x y ∧ List.Forall₂ R after' after := by
  have rest := List.forall₂_drop_append xs before (y :: after) pairs
  obtain ⟨x, after', here, behind, split⟩ := List.forall₂_cons_right_iff.1 rest
  exact ⟨xs.take before.length, x, after', by rw [← split, List.take_append_drop], here, behind⟩

theorem exists_of_mem_forall₂ {R : α → β → Prop} {xs : List α} {ys : List β} {y : β}
    (pairs : List.Forall₂ R xs ys) (mem : y ∈ ys) : ∃ x ∈ xs, R x y := by
  obtain ⟨before, after, rfl⟩ := List.append_of_mem mem
  obtain ⟨front, x, back, rfl, here, -⟩ := exists_append_of_forall₂ pairs
  exact ⟨x, List.mem_append_right front List.mem_cons_self, here⟩

/-- Every result of a traversal is the result of one of its items. -/
theorem exists_of_mem_mapM {f : α → Except ε β} {xs : List α} {ys : List β} (h : xs.mapM f = .ok ys)
    {y : β} (mem : y ∈ ys) : ∃ x ∈ xs, f x = .ok y := by
  obtain ⟨x, inside, result⟩ := exists_of_mem_forall₂ (mapM_eq_ok_iff.1 h) mem
  exact ⟨x, inside, result⟩

/-- Every item of a traversal has a result. -/
theorem exists_ok_of_mem {f : α → Except ε β} {xs : List α} {ys : List β} (h : xs.mapM f = .ok ys)
    {x : α} (mem : x ∈ xs) : ∃ y, f x = .ok y := by
  cases found : f x with
  | ok y => exact ⟨y, rfl⟩
  | error e =>
    obtain ⟨e, refused⟩ := mapM_refused_iff.2 ⟨x, mem, e, found⟩
    rw [h] at refused
    cases refused

/-- Changing the results of a traversal is changing the result of each item. -/
theorem map_mapM (f : α → Except ε β) (g : β → γ) (xs : List α) :
    (xs.mapM f).map (List.map g) = xs.mapM fun x => (f x).map g := by
  induction xs with
  | nil => rfl
  | cons x xs ih =>
    rw [List.mapM_cons, List.mapM_cons, ← ih]
    cases f x with
    | error e => rfl
    | ok y => cases xs.mapM f <;> rfl

theorem map_map (x : Except ε α) (f : α → β) (g : β → γ) : (x.map f).map g = x.map fun a => g (f a) := by
  cases x <;> rfl

/-- Two results that agree in one respect agree in every respect that depends on it. -/
theorem map_eq_map_of_imp {x y : Except ε α} {f : α → β} {g g' : α → γ} (same : x.map f = y.map f)
    (depends : ∀ a b, f a = f b → g a = g' b) : x.map g = y.map g' := by
  cases x with
  | error e =>
    cases y with
    | error e' =>
      obtain rfl : e = e' := Except.error.inj same
      rfl
    | ok b => exact absurd same (by simp [Except.map])
  | ok a =>
    cases y with
    | error e => exact absurd same (by simp [Except.map])
    | ok b => exact congrArg Except.ok (depends a b (Except.ok.inj same))

/-! ## ways to fail -/

/-- **A computation fails only in such ways.** -/
def FailsOnly (P : ε → Prop) (x : Except ε α) : Prop :=
  ∀ e, x = .error e → P e

namespace FailsOnly

variable {P : ε → Prop}

theorem ok (a : α) : FailsOnly P (.ok a) := by
  intro e failed
  cases failed

theorem error {e : ε} (h : P e) : FailsOnly P (.error e : Except ε α) := by
  intro other failed
  exact Except.error.inj failed ▸ h

theorem bind {x : Except ε α} {f : α → Except ε β} (first : FailsOnly P x)
    (rest : ∀ a, FailsOnly P (f a)) : FailsOnly P (x >>= f) := by
  cases x with
  | error e => exact error (first e rfl)
  | ok a => exact rest a

theorem map {x : Except ε α} (h : FailsOnly P x) (f : α → β) : FailsOnly P (x.map f) := by
  cases x with
  | error e => exact error (h e rfl)
  | ok a => exact ok (f a)

end FailsOnly

/-! ## with a state -/

section
variable {τ : Type} {x : ExceptT ε (StateM τ) α} {s t : τ}

/-- What follows a part that succeeds starts where that part ended. -/
theorem bind_of_ok {a : α} (h : x s = (.ok a, t)) (g : α → ExceptT ε (StateM τ) β) :
    (x >>= g) s = g a t := by
  show (match x s with | (a, t) => ExceptT.bindCont g a t) = _
  rw [h]
  rfl

/-- Nothing follows a part that fails. -/
theorem bind_of_error {e : ε} (h : x s = (.error e, t)) (g : α → ExceptT ε (StateM τ) β) :
    (x >>= g) s = (.error e, t) := by
  show (match x s with | (a, t) => ExceptT.bindCont g a t) = _
  rw [h]
  rfl

end

end Gateway
