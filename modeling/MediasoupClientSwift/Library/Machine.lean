import Mathlib.Data.List.Basic

/-!
Owns deterministic labelled machines: runs over a list of actions, invariants
kept by every step or by every step that meets a condition, relations between a
state and the actions that led to it, and properties of all the steps of a run.
It names no particular program; a user supplies the state, the actions and the
step function.
-/

namespace MediasoupClientSwift.Library

/-- A machine whose step is refused (`none`) where the action is impossible. -/
structure Machine (State Action : Type*) where
  initial : State
  step : State → Action → Option State

namespace Machine

variable {State Action : Type*} (machine : Machine State Action)

/-- The state after a list of actions, if none of them is refused. -/
def runFrom : State → List Action → Option State
  | state, [] => some state
  | state, action :: rest => (machine.step state action).bind fun next => runFrom next rest

def run (actions : List Action) : Option State :=
  machine.runFrom machine.initial actions

@[simp] theorem runFrom_nil (state : State) : machine.runFrom state [] = some state := rfl

theorem runFrom_cons (state : State) (action : Action) (rest : List Action) :
    machine.runFrom state (action :: rest) =
      (machine.step state action).bind fun next => machine.runFrom next rest := rfl

theorem runFrom_cons_some {state next : State} {action : Action} (rest : List Action)
    (stepped : machine.step state action = some next) :
    machine.runFrom state (action :: rest) = machine.runFrom next rest := by
  rw [runFrom_cons, stepped, Option.bind_some]

theorem runFrom_append (state : State) (first second : List Action) :
    machine.runFrom state (first ++ second) =
      (machine.runFrom state first).bind fun next => machine.runFrom next second := by
  induction first generalizing state with
  | nil => rfl
  | cons action rest inductionHypothesis =>
      simp only [List.cons_append, runFrom_cons, Option.bind_assoc, inductionHypothesis]

/-- `Property` holds of every step of the run: of the state it starts in and
its action. -/
def EachStep (Property : State → Action → Prop) : State → List Action → Prop
  | _, [] => True
  | state, action :: rest =>
      Property state action ∧
        ∀ next, machine.step state action = some next → EachStep Property next rest

variable {machine}

theorem eachStep_singleton {Property : State → Action → Prop} {state : State}
    {action : Action} : machine.EachStep Property state [action] ↔ Property state action := by
  simp [EachStep]

/-- The steps of a run, each with the actions that lead to it. -/
theorem eachStep_iff_split {Property : State → Action → Prop} {state : State}
    {actions : List Action} :
    machine.EachStep Property state actions ↔
      ∀ past action rest reached, actions = past ++ action :: rest →
        machine.runFrom state past = some reached → Property reached action := by
  induction actions generalizing state with
  | nil => simp [EachStep]
  | cons head tail inductionHypothesis =>
      constructor
      · rintro ⟨here, later⟩ past action rest reached split ran
        cases past with
        | nil =>
            obtain ⟨rfl, rfl⟩ := List.cons.inj split
            obtain rfl := Option.some.inj ran
            exact here
        | cons first others =>
            obtain ⟨rfl, tailSplit⟩ := List.cons.inj split
            rw [runFrom_cons, Option.bind_eq_some_iff] at ran
            obtain ⟨next, stepped, ran⟩ := ran
            exact inductionHypothesis.mp (later next stepped) others action rest reached
              tailSplit ran
      · intro every
        refine ⟨every [] head tail state rfl rfl, fun next stepped => ?_⟩
        refine inductionHypothesis.mpr fun past action rest reached split ran => ?_
        exact every (head :: past) action rest reached (by rw [split, List.cons_append])
          ((machine.runFrom_cons_some past stepped).trans ran)

/-- A run exists where each of its steps is taken. -/
theorem isSome_runFrom_iff {state : State} {actions : List Action} :
    (machine.runFrom state actions).isSome ↔
      machine.EachStep (fun state action => (machine.step state action).isSome) state actions := by
  induction actions generalizing state with
  | nil => exact iff_of_true rfl trivial
  | cons action rest inductionHypothesis =>
      rw [runFrom_cons, EachStep]
      cases stepped : machine.step state action with
      | none => simp
      | some next => simp [inductionHypothesis]

/-- The invariant rule: what the initial state satisfies and every step that
meets `Condition` keeps, holds after every run whose steps all meet it. -/
theorem invariant_of_eachStep {Invariant : State → Prop} {Condition : State → Action → Prop}
    (kept : ∀ state action next, Invariant state → Condition state action →
      machine.step state action = some next → Invariant next)
    {state reached : State} {actions : List Action} (start : Invariant state)
    (conditions : machine.EachStep Condition state actions)
    (ran : machine.runFrom state actions = some reached) : Invariant reached := by
  induction actions generalizing state with
  | nil =>
      obtain rfl := Option.some.inj ran
      exact start
  | cons action rest inductionHypothesis =>
      rw [runFrom_cons, Option.bind_eq_some_iff] at ran
      obtain ⟨next, stepped, ran⟩ := ran
      exact inductionHypothesis (kept state action next start conditions.1 stepped)
        (conditions.2 next stepped) ran

theorem eachStep_true (state : State) (actions : List Action) :
    machine.EachStep (fun _ _ => True) state actions := by
  induction actions generalizing state with
  | nil => trivial
  | cons action rest inductionHypothesis => exact ⟨trivial, fun next _ => inductionHypothesis next⟩

/-- The unconditional invariant rule. -/
theorem invariant_run {Invariant : State → Prop}
    (kept : ∀ state action next, Invariant state →
      machine.step state action = some next → Invariant next)
    {state reached : State} {actions : List Action} (start : Invariant state)
    (ran : machine.runFrom state actions = some reached) : Invariant reached := by
  refine invariant_of_eachStep ?_ start (eachStep_true state actions) ran
  intro state action next holds _ stepped
  exact kept state action next holds stepped

/-- The invariant rule for a relation between the actions so far and the state. -/
theorem invariant_history {Invariant : List Action → State → Prop}
    (kept : ∀ past state action next, Invariant past state →
      machine.step state action = some next → Invariant (past ++ [action]) next)
    {past actions : List Action} {state reached : State} (start : Invariant past state)
    (ran : machine.runFrom state actions = some reached) : Invariant (past ++ actions) reached := by
  induction actions generalizing past state with
  | nil =>
      obtain rfl := Option.some.inj ran
      rwa [List.append_nil]
  | cons action rest inductionHypothesis =>
      rw [runFrom_cons, Option.bind_eq_some_iff] at ran
      obtain ⟨next, stepped, ran⟩ := ran
      have later := inductionHypothesis (kept past state action next start stepped) ran
      rwa [List.append_assoc, List.singleton_append] at later

/-- The same rule, over runs whose steps meet `Condition`. -/
theorem history_of_eachStep {Invariant : List Action → State → Prop}
    {Condition : State → Action → Prop}
    (kept : ∀ past state action next, Invariant past state → Condition state action →
      machine.step state action = some next → Invariant (past ++ [action]) next)
    {past actions : List Action} {state reached : State} (start : Invariant past state)
    (conditions : machine.EachStep Condition state actions)
    (ran : machine.runFrom state actions = some reached) : Invariant (past ++ actions) reached := by
  induction actions generalizing past state with
  | nil =>
      obtain rfl := Option.some.inj ran
      rwa [List.append_nil]
  | cons action rest inductionHypothesis =>
      rw [runFrom_cons, Option.bind_eq_some_iff] at ran
      obtain ⟨next, stepped, ran⟩ := ran
      have later := inductionHypothesis (kept past state action next start conditions.1 stepped)
        (conditions.2 next stepped) ran
      rwa [List.append_assoc, List.singleton_append] at later

/-- Under an invariant kept by the steps that meet `Condition`, what each such
step gives can be read off the whole run. -/
theorem eachStep_of_invariant {Invariant : State → Prop}
    {Condition Property : State → Action → Prop}
    (kept : ∀ state action next, Invariant state → Condition state action →
      machine.step state action = some next → Invariant next)
    (gives : ∀ state action, Invariant state → Condition state action → Property state action)
    {state : State} {actions : List Action} (start : Invariant state)
    (conditions : machine.EachStep Condition state actions) :
    machine.EachStep Property state actions := by
  induction actions generalizing state with
  | nil => trivial
  | cons action rest inductionHypothesis =>
      exact ⟨gives state action start conditions.1, fun next stepped =>
        inductionHypothesis (kept state action next start conditions.1 stepped)
          (conditions.2 next stepped)⟩

/-- Two step properties that agree under an invariant of the machine agree on
every run. -/
theorem eachStep_congr {Invariant : State → Prop} {Left Right : State → Action → Prop}
    (kept : ∀ state action next, Invariant state →
      machine.step state action = some next → Invariant next)
    (agree : ∀ state action, Invariant state → (Left state action ↔ Right state action))
    {state : State} {actions : List Action} (start : Invariant state) :
    machine.EachStep Left state actions ↔ machine.EachStep Right state actions := by
  constructor
  · exact eachStep_of_invariant (fun _ _ _ holds _ stepped => kept _ _ _ holds stepped)
      (fun state action holds => (agree state action holds).mp) start
  · exact eachStep_of_invariant (fun _ _ _ holds _ stepped => kept _ _ _ holds stepped)
      (fun state action holds => (agree state action holds).mpr) start

end Machine

end MediasoupClientSwift.Library
