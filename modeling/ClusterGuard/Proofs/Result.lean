/-!
# Results of several steps

What a computation came to says what its steps came to: each of them had a result, and every check
on the way was passed.
-/

namespace ClusterGuard

variable {ε ε' α β : Type}

/-- What was made of a result that is no error. -/
theorem exists_of_map_eq_ok {x : Except ε α} {f : α → β} {b : β} (h : x.map f = .ok b) :
    ∃ a, x = .ok a ∧ f a = b := by
  cases x with
  | error e => cases h
  | ok a => exact ⟨a, rfl, Except.ok.inj h⟩

theorem exists_of_mapError_eq_error {x : Except ε α} {f : ε → ε'} {e' : ε'}
    (h : x.mapError f = .error e') : ∃ e, x = .error e ∧ f e = e' := by
  cases x with
  | error e => exact ⟨e, rfl, Except.error.inj h⟩
  | ok a => cases h

/-- What goes on after a step that had a result. -/
theorem exists_of_bind_eq_ok {x : Except ε α} {f : α → Except ε β} {b : β}
    (h : x >>= f = .ok b) : ∃ a, x = .ok a ∧ f a = .ok b := by
  cases x with
  | error e => cases h
  | ok a => exact ⟨a, rfl, h⟩

theorem bind_throw_ne_ok (x : Except ε α) (e : ε) (f : Unit → Except ε β) (b : β) :
    (x >>= fun _ => throw e >>= f) ≠ .ok b := by
  intro h
  obtain ⟨-, -, h⟩ := exists_of_bind_eq_ok h
  cases h

/-- What has a result has passed a check that leaves none. -/
theorem of_checked_eq_ok {c : Prop} [Decidable c] {x y : Except ε β} {b : β}
    (h : (if c then x else y) = .ok b) (hx : x ≠ .ok b) : y = .ok b := by
  by_cases hc : c
  · rw [if_pos hc] at h
    exact absurd h hx
  · rwa [if_neg hc] at h

end ClusterGuard
