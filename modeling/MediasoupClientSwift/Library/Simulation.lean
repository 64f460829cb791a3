import MediasoupClientSwift.Library.Machine

/-!
Owns forward simulations between two machines: each step of the concrete machine
is matched by a run, possibly empty, of the abstract one. Runs and properties of
all their steps carry over. It names no particular machine.
-/

namespace MediasoupClientSwift.Library

variable {State Action Shadow Event : Type*}

namespace Machine

variable {machine : Machine State Action}

/-- A property of all steps of a run in two parts. -/
theorem eachStep_append {Property : State → Action → Prop} {state : State}
    {first second : List Action} :
    machine.EachStep Property state (first ++ second) ↔
      machine.EachStep Property state first ∧
        ∀ reached, machine.runFrom state first = some reached →
          machine.EachStep Property reached second := by
  induction first generalizing state with
  | nil =>
      simp [EachStep]
  | cons action rest inductionHypothesis =>
      constructor
      · rintro ⟨here, later⟩
        refine ⟨⟨here, fun next stepped => (inductionHypothesis.mp (later next stepped)).1⟩, ?_⟩
        intro reached ran
        rw [runFrom_cons, Option.bind_eq_some_iff] at ran
        obtain ⟨next, stepped, ran⟩ := ran
        exact (inductionHypothesis.mp (later next stepped)).2 reached ran
      · rintro ⟨⟨here, later⟩, afterwards⟩
        refine ⟨here, fun next stepped => inductionHypothesis.mpr ⟨later next stepped, ?_⟩⟩
        intro reached ran
        exact afterwards reached ((machine.runFrom_cons_some rest stepped).trans ran)

end Machine

/-- `image` is the run of the abstract machine that matches a step of the concrete
one from related states. -/
structure Simulation (concrete : Machine State Action) (abstract : Machine Shadow Event) where
  Related : State → Shadow → Prop
  image : State → Action → State → List Event
  initial : Related concrete.initial abstract.initial
  step : ∀ {state next : State} {shadow : Shadow} {action : Action}, Related state shadow →
    concrete.step state action = some next →
    ∃ shadowNext, abstract.runFrom shadow (image state action next) = some shadowNext ∧
      Related next shadowNext

namespace Simulation

variable {concrete : Machine State Action} {abstract : Machine Shadow Event}
  (simulation : Simulation concrete abstract)

def imageFrom : State → List Action → List Event
  | _, [] => []
  | state, action :: rest =>
      match concrete.step state action with
      | none => []
      | some next => simulation.image state action next ++ imageFrom next rest

theorem imageFrom_cons {state next : State} {action : Action} (rest : List Action)
    (stepped : concrete.step state action = some next) :
    simulation.imageFrom state (action :: rest) =
      simulation.image state action next ++ simulation.imageFrom next rest := by
  rw [imageFrom, stepped]

/-- Every run is matched by the run of its image, and ends in a related state. -/
theorem runFrom {state reached : State} {shadow : Shadow} {actions : List Action}
    (related : simulation.Related state shadow)
    (ran : concrete.runFrom state actions = some reached) :
    ∃ shadowReached,
      abstract.runFrom shadow (simulation.imageFrom state actions) = some shadowReached ∧
        simulation.Related reached shadowReached := by
  induction actions generalizing state shadow with
  | nil =>
      obtain rfl := Option.some.inj ran
      exact ⟨shadow, rfl, related⟩
  | cons action rest inductionHypothesis =>
      rw [Machine.runFrom_cons, Option.bind_eq_some_iff] at ran
      obtain ⟨next, stepped, ran⟩ := ran
      obtain ⟨shadowNext, matched, relatedNext⟩ := simulation.step related stepped
      obtain ⟨shadowReached, matchedRest, relatedReached⟩ := inductionHypothesis relatedNext ran
      refine ⟨shadowReached, ?_, relatedReached⟩
      rw [simulation.imageFrom_cons rest stepped, Machine.runFrom_append, matched,
        Option.bind_some, matchedRest]

/-- Two properties that agree step by step, agree on a run and its image. -/
theorem eachStep_iff {Concrete : State → Action → Prop} {Abstract : Shadow → Event → Prop}
    (agree : ∀ {state next : State} {shadow : Shadow} {action : Action},
      simulation.Related state shadow → concrete.step state action = some next →
      (Concrete state action ↔
        abstract.EachStep Abstract shadow (simulation.image state action next)))
    {state reached : State} {shadow : Shadow} {actions : List Action}
    (related : simulation.Related state shadow)
    (ran : concrete.runFrom state actions = some reached) :
    concrete.EachStep Concrete state actions ↔
      abstract.EachStep Abstract shadow (simulation.imageFrom state actions) := by
  induction actions generalizing state shadow with
  | nil => exact Iff.rfl
  | cons action rest inductionHypothesis =>
      rw [Machine.runFrom_cons, Option.bind_eq_some_iff] at ran
      obtain ⟨next, stepped, ran⟩ := ran
      obtain ⟨shadowNext, matched, relatedNext⟩ := simulation.step related stepped
      rw [simulation.imageFrom_cons rest stepped, Machine.eachStep_append,
        ← agree related stepped]
      have later := inductionHypothesis relatedNext ran
      constructor
      · rintro ⟨here, every⟩
        refine ⟨here, fun shadowReached same => ?_⟩
        obtain rfl : shadowNext = shadowReached := Option.some.inj (matched.symm.trans same)
        exact later.mp (every next stepped)
      · rintro ⟨here, every⟩
        refine ⟨here, fun reachedNext same => ?_⟩
        obtain rfl : next = reachedNext := Option.some.inj (stepped.symm.trans same)
        exact later.mpr (every shadowNext matched)

end Simulation

end MediasoupClientSwift.Library
