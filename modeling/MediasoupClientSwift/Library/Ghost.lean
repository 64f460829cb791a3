import MediasoupClientSwift.Library.Machine

/-!
Owns two ways to say more about the runs of a machine without changing them: a
ghost, a value that the steps update and never read, and a quotient that some
actions are invisible in. It names no particular machine.
-/

namespace MediasoupClientSwift.Library.Machine

variable {State Action Ghost : Type*}

/-- The machine beside a value that its steps update and never read. -/
def withGhost (machine : Machine State Action) (initial : Ghost)
    (update : State → Action → Ghost → Ghost) : Machine (State × Ghost) Action where
  initial := (machine.initial, initial)
  step both action :=
    (machine.step both.1 action).map fun next => (next, update both.1 action both.2)

variable {machine : Machine State Action} {initial : Ghost}
  {update : State → Action → Ghost → Ghost}

theorem step_withGhost_eq_some_iff {both next : State × Ghost} {action : Action} :
    (machine.withGhost initial update).step both action = some next ↔
      machine.step both.1 action = some next.1 ∧ next.2 = update both.1 action both.2 := by
  obtain ⟨reached, ghost⟩ := next
  unfold withGhost
  rw [Option.map_eq_some_iff]
  constructor
  · rintro ⟨found, stepped, same⟩
    cases same
    exact ⟨stepped, rfl⟩
  · rintro ⟨stepped, same⟩
    exact ⟨reached, stepped, by rw [← same]⟩

/-- The ghost neither adds nor removes a run. -/
theorem runFrom_withGhost_iff {state reached : State} {ghost : Ghost} {actions : List Action} :
    (∃ last, (machine.withGhost initial update).runFrom (state, ghost) actions =
        some (reached, last)) ↔
      machine.runFrom state actions = some reached := by
  induction actions generalizing state ghost with
  | nil =>
      constructor
      · rintro ⟨last, same⟩
        cases same
        rfl
      · intro same
        cases same
        exact ⟨ghost, rfl⟩
  | cons action rest inductionHypothesis =>
      simp only [runFrom_cons, Option.bind_eq_some_iff]
      constructor
      · rintro ⟨last, both, stepped, ran⟩
        obtain ⟨taken, -⟩ := step_withGhost_eq_some_iff.mp stepped
        exact ⟨both.1, taken, inductionHypothesis.mp ⟨last, ran⟩⟩
      · rintro ⟨next, stepped, ran⟩
        obtain ⟨last, ranBeside⟩ := inductionHypothesis.mpr ran
        exact ⟨last, _, step_withGhost_eq_some_iff.mpr ⟨stepped, rfl⟩, ranBeside⟩

/-- Actions that a quotient of the states does not see can be left out of a run. -/
theorem runFrom_filter {Visible : Action → Bool} {view : State → State}
    (invisible : ∀ {state next : State} {action : Action}, Visible action = false →
      machine.step state action = some next → view next = view state)
    (visible : ∀ {state next : State} {action : Action}, Visible action = true →
      machine.step state action = some next →
      machine.step (view state) action = some (view next))
    {state reached : State} {actions : List Action}
    (ran : machine.runFrom state actions = some reached) :
    machine.runFrom (view state) (actions.filter Visible) = some (view reached) := by
  induction actions generalizing state with
  | nil =>
      obtain rfl := Option.some.inj ran
      rfl
  | cons action rest inductionHypothesis =>
      rw [runFrom_cons, Option.bind_eq_some_iff] at ran
      obtain ⟨next, stepped, ran⟩ := ran
      have later := inductionHypothesis ran
      cases seen : Visible action with
      | true =>
          rw [List.filter_cons_of_pos seen, machine.runFrom_cons_some _ (visible seen stepped)]
          exact later
      | false =>
          rw [List.filter_cons_of_neg (by simp [seen]), ← invisible seen stepped]
          exact later

end MediasoupClientSwift.Library.Machine
