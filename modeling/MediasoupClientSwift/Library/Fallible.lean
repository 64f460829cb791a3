/-!
Owns the predicate that a fallible computation returns a value, and its rules
for sequencing, mapping and a fold over a list.
-/

namespace MediasoupClientSwift.Library

variable {ε α β : Type}

def Returns (result : Except ε α) : Prop := ∃ value, result = .ok value

@[simp] theorem returns_ok (value : α) : Returns (.ok value : Except ε α) := ⟨value, rfl⟩

@[simp] theorem returns_pure (value : α) : Returns (pure value : Except ε α) := ⟨value, rfl⟩

@[simp] theorem not_returns_error (error : ε) : ¬ Returns (.error error : Except ε α) := by
  rintro ⟨value, same⟩
  cases same

theorem not_returns_iff {result : Except ε α} :
    ¬ Returns result ↔ ∃ error, result = .error error := by
  cases result <;> simp

theorem returns_bind_iff {first : Except ε α} {next : α → Except ε β} :
    Returns (first >>= next) ↔ ∃ value, first = .ok value ∧ Returns (next value) := by
  cases first with
  | error reason =>
      refine iff_of_false (not_returns_error reason) ?_
      rintro ⟨value, same, -⟩
      cases same
  | ok value =>
      constructor
      · exact fun returned => ⟨value, rfl, returned⟩
      · rintro ⟨_, same, returned⟩
        cases same
        exact returned

/-- A sequence that gives a value is two steps that do. -/
theorem bind_eq_ok_iff {first : Except ε α} {next : α → Except ε β} {result : β} :
    (first >>= next) = .ok result ↔ ∃ value, first = .ok value ∧ next value = .ok result := by
  cases first with
  | error reason => simp [bind, Except.bind]
  | ok value => simp [bind, Except.bind]

/-- Sequencing with a continuation that returns for every value. -/
theorem returns_bind_of_total {first : Except ε α} {next : α → Except ε β}
    (total : ∀ value, Returns (next value)) : Returns (first >>= next) ↔ Returns first := by
  rw [returns_bind_iff]
  exact ⟨fun ⟨value, same, _⟩ => ⟨value, same⟩, fun ⟨value, same⟩ => ⟨value, same, total value⟩⟩

theorem returns_map_iff {result : Except ε α} (change : α → β) :
    Returns (result.map change) ↔ Returns result := by
  cases result with
  | error reason => exact iff_of_false (not_returns_error reason) (not_returns_error reason)
  | ok value => exact iff_of_true (returns_ok (change value)) (returns_ok value)

end MediasoupClientSwift.Library
