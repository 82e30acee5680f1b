import SourceOutline.Failure.Basic

/-!
# Sequence — calls that follow each other and may fail

A call that is made of two gives a result exactly if both do, and fails as one of them does.
-/

namespace SourceOutline

variable {ε α β : Type}

theorem Except.ok_bind {a : α} {f : α → Except ε β} : Except.ok a >>= f = f a :=
  rfl

theorem Except.mapError_ok {ε' : Type} {a : α} {f : ε → ε'} :
    (Except.ok a).mapError f = .ok a :=
  rfl

theorem Except.bind_eq_ok_iff {x : Except ε α} {f : α → Except ε β} {b : β} :
    x >>= f = .ok b ↔ ∃ a, x = .ok a ∧ f a = .ok b := by
  cases x with
  | error e =>
      constructor
      · intro h
        cases h
      · rintro ⟨a, h, -⟩
        cases h
  | ok a =>
      constructor
      · intro h
        exact ⟨a, rfl, h⟩
      · rintro ⟨a, ⟨⟩, h⟩
        exact h

theorem Except.map_eq_ok_iff {x : Except ε α} {f : α → β} {b : β} :
    x.map f = .ok b ↔ ∃ a, x = .ok a ∧ f a = b := by
  cases x <;> simp [Except.map]

theorem Except.map_eq_error_iff {x : Except ε α} {f : α → β} {e : ε} :
    x.map f = .error e ↔ x = .error e := by
  cases x <;> simp [Except.map]

theorem Except.map_mapError {ε' : Type} (x : Except ε α) (f : α → β) (g : ε → ε') :
    (x.mapError g).map f = (x.map f).mapError g := by
  cases x <;> rfl

theorem Except.mapError_eq_ok_iff {ε' : Type} {x : Except ε α} {f : ε → ε'} {a : α} :
    x.mapError f = .ok a ↔ x = .ok a := by
  cases x with
  | error e =>
      constructor
      · intro h
        cases h
      · intro h
        cases h
  | ok b =>
      constructor
      · intro h
        cases h
        rfl
      · intro h
        cases h
        rfl

theorem Except.mapError_eq_error_iff {ε' : Type} {x : Except ε α} {f : ε → ε'} {e' : ε'} :
    x.mapError f = .error e' ↔ ∃ e, x = .error e ∧ f e = e' := by
  cases x with
  | error e =>
      constructor
      · intro h
        cases h
        exact ⟨e, rfl, rfl⟩
      · rintro ⟨d, ⟨⟩, rfl⟩
        rfl
  | ok b =>
      constructor
      · intro h
        cases h
      · rintro ⟨e, h, -⟩
        cases h

/-- Whatever keeps the call from its result is of a known form. -/
def FailsOnlyBy (bad : ε → Prop) (x : Except ε α) : Prop :=
  ∀ e, x = .error e → bad e

namespace FailsOnlyBy

variable {bad : ε → Prop} {x : Except ε α}

theorem ok (a : α) : FailsOnlyBy bad (.ok a : Except ε α) := by
  intro e h
  cases h

theorem error {e : ε} (h : bad e) : FailsOnlyBy bad (.error e : Except ε α) := by
  rintro e ⟨⟩
  exact h

theorem bind {f : α → Except ε β} (hx : FailsOnlyBy bad x)
    (hf : ∀ a, x = .ok a → FailsOnlyBy bad (f a)) : FailsOnlyBy bad (x >>= f) := by
  cases x with
  | error e => exact error (hx e rfl)
  | ok a => exact hf a rfl

theorem map {f : α → β} (hx : FailsOnlyBy bad x) : FailsOnlyBy bad (x.map f) := by
  cases x with
  | error e => exact error (hx e rfl)
  | ok a => exact ok (f a)

theorem mono {bad' : ε → Prop} (hx : FailsOnlyBy bad x) (h : ∀ e, bad e → bad' e) :
    FailsOnlyBy bad' x :=
  fun e he => h e (hx e he)

end FailsOnlyBy

end SourceOutline
