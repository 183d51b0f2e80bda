import Mathlib.Data.List.Forall2
import RouteSchema.World

/-!
# Steps in sequence

A computation in steps ends with a value exactly when each of its steps does, and otherwise as the
first failing step ends.

* `Outcome.bind_eq_ok`, `Outcome.map_eq_ok`: steps without a state.
* `Stateful.outcome_bind`: two steps with a state; a failing step leaves its state behind.
-/

namespace RouteSchema

namespace Outcome

variable {ε α β : Type}

theorem bind_eq_ok {x : Except ε α} {f : α → Except ε β} {b : β} :
    x >>= f = .ok b ↔ ∃ a, x = .ok a ∧ f a = .ok b := by
  constructor
  · intro h
    cases x with
    | ok a => exact ⟨a, rfl, h⟩
    | error e => cases h
  · rintro ⟨a, rfl, h⟩
    exact h

theorem map_eq_ok {x : Except ε α} {f : α → β} {b : β} :
    x.map f = .ok b ↔ ∃ a, x = .ok a ∧ f a = b := by
  constructor
  · intro h
    cases x with
    | ok a => exact ⟨a, rfl, Except.ok.inj h⟩
    | error e => cases h
  · rintro ⟨a, rfl, rfl⟩
    rfl

theorem exists_map_eq_ok {x : Except ε α} {f : α → β} :
    (∃ b, x.map f = .ok b) ↔ ∃ a, x = .ok a := by
  simp only [map_eq_ok]
  exact ⟨fun ⟨_, a, h, _⟩ => ⟨a, h⟩, fun ⟨a, h⟩ => ⟨_, a, h, rfl⟩⟩

theorem bind_eq_error {x : Except ε α} {f : α → Except ε β} {e : ε} :
    x >>= f = .error e ↔ x = .error e ∨ ∃ a, x = .ok a ∧ f a = .error e := by
  constructor
  · intro h
    cases x with
    | ok a => exact .inr ⟨a, rfl, h⟩
    | error e' =>
      cases h
      exact .inl rfl
  · rintro (rfl | ⟨a, rfl, h⟩)
    · rfl
    · exact h

theorem mapError_eq_ok {ε' : Type} {x : Except ε α} {wrap : ε → ε'} {a : α} :
    x.mapError wrap = .ok a ↔ x = .ok a := by
  cases x <;> simp [Except.mapError]

theorem mapError_eq_error {ε' : Type} {x : Except ε α} {wrap : ε → ε'} {e : ε'} :
    x.mapError wrap = .error e ↔ ∃ fault, x = .error fault ∧ wrap fault = e := by
  cases x <;> simp [Except.mapError]

theorem map_eq_error {x : Except ε α} {f : α → β} {e : ε} :
    x.map f = .error e ↔ x = .error e := by
  cases x with
  | ok a => exact ⟨nofun, nofun⟩
  | error e' =>
    constructor <;>
    · rintro ⟨⟩
      rfl

/-- What holds of the value of a computation, if there is one. -/
theorem exists_of_toOption_map {x : Except ε α} {f : α → β} {b : β}
    (h : x.toOption.map f = some b) : ∃ a, x = .ok a ∧ f a = b := by
  cases x with
  | ok a => exact ⟨a, rfl, Option.some.inj h⟩
  | error e => cases h

/-- A traversal gives the values of its items. -/
theorem mapM_eq_ok {f : α → Except ε β} {xs : List α} {ys : List β} :
    xs.mapM f = .ok ys ↔ List.Forall₂ (fun x y => f x = .ok y) xs ys := by
  induction xs generalizing ys with
  | nil =>
    rw [List.mapM_nil, List.forall₂_nil_left_iff]
    exact ⟨fun h => (Except.ok.inj h).symm, fun h => congrArg _ h.symm⟩
  | cons x xs ih =>
    rw [List.mapM_cons, bind_eq_ok, List.forall₂_cons_left_iff]
    constructor
    · rintro ⟨y, hy, h⟩
      obtain ⟨rest, hrest, h⟩ := bind_eq_ok.1 h
      cases h
      exact ⟨y, rest, hy, ih.1 hrest, rfl⟩
    · rintro ⟨y, rest, hy, hrest, rfl⟩
      exact ⟨y, hy, bind_eq_ok.2 ⟨rest, ih.2 hrest, rfl⟩⟩

/-- A traversal by a function that has a value exactly under a condition. -/
theorem mapM_eq_ok_iff_of {f : α → Except ε β} {P : α → Prop} {g : α → β}
    (value : ∀ x y, f x = .ok y ↔ P x ∧ g x = y) {xs : List α} {ys : List β} :
    xs.mapM f = .ok ys ↔ (∀ x ∈ xs, P x) ∧ xs.map g = ys := by
  simp only [mapM_eq_ok, value]
  induction xs generalizing ys with
  | nil => simp [eq_comm]
  | cons x xs ih =>
    rw [List.forall₂_cons_left_iff, List.forall_mem_cons, List.map_cons]
    constructor
    · rintro ⟨_, _, ⟨holds, rfl⟩, rest, rfl⟩
      obtain ⟨all, rfl⟩ := ih.1 rest
      exact ⟨⟨holds, all⟩, rfl⟩
    · rintro ⟨⟨holds, all⟩, rfl⟩
      exact ⟨_, _, ⟨holds, rfl⟩, ih.2 ⟨all, rfl⟩, rfl⟩

/-- A traversal succeeds exactly if every item does. -/
theorem exists_mapM_eq_ok {f : α → Except ε β} {xs : List α} :
    (∃ ys, xs.mapM f = .ok ys) ↔ ∀ x ∈ xs, ∃ y, f x = .ok y := by
  simp only [mapM_eq_ok]
  induction xs with
  | nil => simp
  | cons x xs ih =>
    rw [List.forall_mem_cons, ← ih]
    constructor
    · rintro ⟨_, _ | ⟨first, rest⟩⟩
      exact ⟨⟨_, first⟩, _, rest⟩
    · rintro ⟨⟨y, first⟩, ys, rest⟩
      exact ⟨y :: ys, .cons first rest⟩

/-- Every value of a traversal is that of an item. -/
theorem exists_of_mem_mapM {f : α → Except ε β} {xs : List α} {ys : List β}
    (h : xs.mapM f = .ok ys) : ∀ y ∈ ys, ∃ x ∈ xs, f x = .ok y := by
  induction xs generalizing ys with
  | nil =>
    cases h
    exact fun y hy => absurd hy List.not_mem_nil
  | cons x xs ih =>
    rw [List.mapM_cons] at h
    obtain ⟨y, hy, h⟩ := bind_eq_ok.1 h
    obtain ⟨rest, hrest, h⟩ := bind_eq_ok.1 h
    cases h
    intro z hz
    rcases List.mem_cons.1 hz with rfl | hz
    · exact ⟨x, List.mem_cons_self, hy⟩
    · obtain ⟨x', hx', found⟩ := ih hrest z hz
      exact ⟨x', List.mem_cons_of_mem x hx', found⟩

/-- A traversal fails as the first of its items that does, whatever follows it. -/
theorem mapM_eq_error {f : α → Except ε β} {xs : List α} {e : ε} :
    xs.mapM f = .error e ↔ ∃ before x after, xs = before ++ x :: after ∧
      (∀ y ∈ before, ∃ z, f y = .ok z) ∧ f x = .error e := by
  induction xs with
  | nil =>
    constructor
    · rintro ⟨⟩
    · rintro ⟨before, x, after, split, -⟩
      exact absurd split.symm (by simp)
  | cons x xs ih =>
    rw [List.mapM_cons, bind_eq_error]
    constructor
    · rintro (fails | ⟨y, hy, h⟩)
      · exact ⟨[], x, xs, rfl, List.forall_mem_nil _, fails⟩
      · rcases bind_eq_error.1 h with h | ⟨ys, -, ⟨⟩⟩
        obtain ⟨before, x', after, rfl, passed, fails⟩ := ih.1 h
        exact ⟨x :: before, x', after, rfl, List.forall_mem_cons.2 ⟨⟨y, hy⟩, passed⟩, fails⟩
    · rintro ⟨before, x', after, split, passed, fails⟩
      cases before with
      | nil =>
        cases split
        exact .inl fails
      | cons y before =>
        cases split
        obtain ⟨⟨z, hz⟩, passed⟩ := List.forall_mem_cons.1 passed
        have rest := ih.2 ⟨before, x', after, rfl, passed, fails⟩
        exact .inr ⟨z, hz, bind_eq_error.2 (.inl rest)⟩

/-- A traversal fails as one of its items does. -/
theorem exists_of_mapM_eq_error {f : α → Except ε β} {xs : List α} {e : ε}
    (h : xs.mapM f = .error e) : ∃ x ∈ xs, f x = .error e := by
  obtain ⟨before, x, after, rfl, -, fails⟩ := mapM_eq_error.1 h
  exact ⟨x, List.mem_append_right before List.mem_cons_self, fails⟩

/-- A traversal for its failures alone. -/
theorem forM_discard (f : α → Except ε β) (xs : List α) :
    (xs.forM fun x => discard (f x)) = (xs.mapM f).map fun _ => () := by
  induction xs with
  | nil => rfl
  | cons x xs ih =>
    rw [List.mapM_cons, List.forM, ih]
    cases f x with
    | error e => rfl
    | ok y => cases xs.mapM f <;> rfl

/-- The fault of a computation that fails. -/
def fault? : Except ε α → Option ε
  | .ok _ => none
  | .error e => some e

theorem fault?_eq_some_iff {x : Except ε α} {e : ε} : fault? x = some e ↔ x = .error e := by
  cases x <;> simp [fault?]

theorem fault?_bind_pure (x : Except ε α) (f : α → β) :
    fault? (x >>= fun a => pure (f a)) = fault? x := by
  cases x <;> rfl

/-- Where the second step fails in one way only, two steps fail in the way of the first, or else in
that one. -/
theorem fault?_bind {x : Except ε α} {f : α → Except ε β} {o : Option ε}
    (second : ∀ a, fault? (f a) = o) : fault? (x >>= f) = (fault? x).or o := by
  cases x with
  | ok a => exact second a
  | error e => rfl

end Outcome

namespace Stateful

variable {ε σ α β : Type}

/-- How a computation ends in a state, and the state it leaves. -/
def outcome (x : ExceptT ε (StateM σ) α) (s : σ) : Except ε α × σ := x.run.run s

@[simp] theorem outcome_pure (a : α) (s : σ) :
    outcome (pure a : ExceptT ε (StateM σ) α) s = (.ok a, s) := rfl

theorem outcome_bind (x : ExceptT ε (StateM σ) α) (f : α → ExceptT ε (StateM σ) β) (s : σ) :
    outcome (x >>= f) s = match outcome x s with
      | (.ok a, s') => outcome (f a) s'
      | (.error e, s') => (.error e, s') := by
  show ExceptT.bindCont f (outcome x s).1 (outcome x s).2 = _
  rcases outcome x s with ⟨_ | a, s'⟩ <;> rfl

theorem outcome_bind_ok {x : ExceptT ε (StateM σ) α} {s s' : σ} {a : α}
    (h : outcome x s = (.ok a, s')) (f : α → ExceptT ε (StateM σ) β) :
    outcome (x >>= f) s = outcome (f a) s' := by
  rw [outcome_bind, h]

theorem outcome_bind_error {x : ExceptT ε (StateM σ) α} {s s' : σ} {e : ε}
    (h : outcome x s = (.error e, s')) (f : α → ExceptT ε (StateM σ) β) :
    outcome (x >>= f) s = (.error e, s') := by
  rw [outcome_bind, h]

end Stateful

end RouteSchema
