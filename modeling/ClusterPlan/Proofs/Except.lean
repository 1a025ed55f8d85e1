/-!
# Steps that may fail

A computation that may fail succeeds exactly when each of its steps does. It fails as the first of
its steps does that fails.
-/

namespace Except

variable {ε ε' α β : Type}

theorem bind_eq_ok_iff {x : Except ε α} {f : α → Except ε β} {b : β} :
    x >>= f = .ok b ↔ ∃ a, x = .ok a ∧ f a = .ok b := by
  cases x with
  | error e =>
    constructor
    · intro h
      exact absurd h (by simp [bind, Except.bind])
    · rintro ⟨a, ha, -⟩
      exact absurd ha (by simp)
  | ok a =>
    constructor
    · intro h
      exact ⟨a, rfl, h⟩
    · rintro ⟨a', ha, h⟩
      obtain rfl := Except.ok.inj ha
      exact h

theorem bind_eq_error_iff {x : Except ε α} {f : α → Except ε β} {e : ε} :
    x >>= f = .error e ↔ x = .error e ∨ ∃ a, x = .ok a ∧ f a = .error e := by
  cases x with
  | error e' => simp [bind, Except.bind]
  | ok a => simp [bind, Except.bind]

theorem map_eq_ok_iff {x : Except ε α} {f : α → β} {b : β} :
    x.map f = .ok b ↔ ∃ a, x = .ok a ∧ f a = b := by
  cases x with
  | error e => simp [Except.map]
  | ok a => simp [Except.map]

theorem exists_map_eq_ok_iff {x : Except ε α} {f : α → β} :
    (∃ b, x.map f = .ok b) ↔ ∃ a, x = .ok a := by
  cases x with
  | error e => simp [Except.map]
  | ok a => simp [Except.map]

theorem mapError_eq_ok_iff {x : Except ε α} {f : ε → ε'} {a : α} :
    x.mapError f = .ok a ↔ x = .ok a := by
  cases x with
  | error e =>
    change (error (f e) : Except ε' α) = .ok a ↔ (error e : Except ε α) = .ok a
    simp
  | ok b =>
    change (ok b : Except ε' α) = .ok a ↔ (ok b : Except ε α) = .ok a
    simp

theorem map_eq_error_iff {x : Except ε α} {f : α → β} {e : ε} :
    x.map f = .error e ↔ x = .error e := by
  cases x with
  | error e' => simp [Except.map]
  | ok a => simp [Except.map]

theorem mapError_eq_error_iff {x : Except ε α} {f : ε → ε'} {e' : ε'} :
    x.mapError f = .error e' ↔ ∃ e, x = .error e ∧ f e = e' := by
  cases x with
  | error e =>
    change (error (f e) : Except ε' α) = .error e' ↔ _
    simp
  | ok a =>
    change (ok a : Except ε' α) = .error e' ↔ _
    simp

section Checks

variable {p : α → Prop} [DecidablePred p] {e : ε} {a b : α}

/-- What passes a check is what it was before, and has the property. -/
theorem ite_ok_eq_ok_iff : (if p a then ok a else error e) = ok b ↔ a = b ∧ p b := by
  split
  next ha => exact ⟨fun h ↦ ok.inj h ▸ ⟨rfl, ha⟩, fun h ↦ congrArg ok h.1⟩
  next ha => exact iff_of_false nofun fun h ↦ ha (h.1 ▸ h.2)

theorem ite_error_eq_ok_iff : (if p a then error e else ok a) = ok b ↔ a = b ∧ ¬p b := by
  rw [← ite_not]
  exact ite_ok_eq_ok_iff (p := (¬p ·))

end Checks

theorem eq_ok_of_toOption {x : Except ε α} {a : α} (h : x.toOption = some a) : x = .ok a := by
  cases x with
  | error e => cases h
  | ok b => exact congrArg ok (Option.some.inj h)

end Except
