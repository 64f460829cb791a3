import MediasoupClientSwift.Library.Machine
import MediasoupClientSwift.Library.Program

/-!
Owns agreement: two computations that end alike when they start in one state, and
two machines that make the same runs as long as their steps agree, or keep up
with one another as long as a condition is met. It names no particular program.
-/

namespace MediasoupClientSwift.Library

namespace Program

variable {Abort State α β : Type}

/-- Sequences agree where their first parts do, and their second parts on what the
first one hands over. -/
theorem bind_agree {first other : Program Abort State α}
    {next otherNext : α → Program Abort State β} {state : State}
    (start : other state = first state)
    (rest : ∀ value reached, first state = (.ok value, reached) →
      otherNext value reached = next value reached) :
    (other >>= otherNext) state = (first >>= next) state := by
  rw [bind_apply, bind_apply, start]
  rcases outcome : first state with ⟨result, reached⟩
  cases result with
  | ok value => exact rest value reached outcome
  | error reason => rfl

theorem tryCatch_agree {body other : Program Abort State α}
    {handler : Abort → Option (Program Abort State α)} {state : State}
    (same : other state = body state) :
    Program.tryCatch other handler state = Program.tryCatch body handler state := by
  rcases outcome : body state with ⟨result, reached⟩
  rw [outcome] at same
  cases result with
  | ok value => rw [tryCatch_of_ok outcome, tryCatch_of_ok same]
  | error reason => rw [tryCatch_of_error outcome, tryCatch_of_error same]

end Program

namespace Machine

variable {State Action : Type*} {machine other : Machine State Action}

/-- Machines that agree on every step of a run make the same run. -/
theorem runFrom_eq_of_eachStep {Condition : State → Action → Prop}
    (agree : ∀ state action, Condition state action →
      other.step state action = machine.step state action)
    {state : State} {actions : List Action} (every : machine.EachStep Condition state actions) :
    other.runFrom state actions = machine.runFrom state actions := by
  induction actions generalizing state with
  | nil => rfl
  | cons action rest inductionHypothesis =>
      rw [runFrom_cons, runFrom_cons, agree state action every.1]
      cases stepped : machine.step state action with
      | none => rfl
      | some next => exact inductionHypothesis (every.2 next stepped)

/-- A second machine over the same actions that keeps up with the first one from
related states exactly while the steps meet a condition. -/
theorem run_lockstep {Shadow : Type*} {machine : Machine State Action}
    {shadowMachine : Machine Shadow Action} {Related : State → Shadow → Prop}
    {Condition : State → Action → Prop}
    (keepsUp : ∀ {state next : State} {shadow : Shadow} {action : Action}, Related state shadow →
      machine.step state action = some next →
      (Condition state action ↔ ∃ shadowNext, shadowMachine.step shadow action = some shadowNext) ∧
        ∀ shadowNext, shadowMachine.step shadow action = some shadowNext →
          Related next shadowNext)
    {state reached : State} {shadow : Shadow} {actions : List Action}
    (related : Related state shadow) (ran : machine.runFrom state actions = some reached) :
    (machine.EachStep Condition state actions ↔
        ∃ shadowReached, shadowMachine.runFrom shadow actions = some shadowReached) ∧
      ∀ shadowReached, shadowMachine.runFrom shadow actions = some shadowReached →
        Related reached shadowReached := by
  induction actions generalizing state shadow with
  | nil =>
      obtain rfl := Option.some.inj ran
      refine ⟨iff_of_true trivial ⟨shadow, rfl⟩, ?_⟩
      intro shadowReached same
      obtain rfl := Option.some.inj same
      exact related
  | cons action rest inductionHypothesis =>
      rw [runFrom_cons, Option.bind_eq_some_iff] at ran
      obtain ⟨next, stepped, ran⟩ := ran
      obtain ⟨conditionIff, keepsRelated⟩ := keepsUp related stepped
      simp only [runFrom_cons, Option.bind_eq_some_iff]
      constructor
      · constructor
        · rintro ⟨here, later⟩
          obtain ⟨shadowNext, matched⟩ := conditionIff.mp here
          obtain ⟨laterIff, -⟩ := inductionHypothesis (keepsRelated shadowNext matched) ran
          obtain ⟨shadowReached, matchedRest⟩ := laterIff.mp (later next stepped)
          exact ⟨shadowReached, shadowNext, matched, matchedRest⟩
        · rintro ⟨shadowReached, shadowNext, matched, matchedRest⟩
          obtain ⟨laterIff, -⟩ := inductionHypothesis (keepsRelated shadowNext matched) ran
          refine ⟨conditionIff.mpr ⟨shadowNext, matched⟩, fun other same => ?_⟩
          obtain rfl : next = other := Option.some.inj (stepped.symm.trans same)
          exact laterIff.mpr ⟨shadowReached, matchedRest⟩
      · rintro shadowReached ⟨shadowNext, matched, matchedRest⟩
        exact (inductionHypothesis (keepsRelated shadowNext matched) ran).2 shadowReached matchedRest

end Machine

end MediasoupClientSwift.Library
