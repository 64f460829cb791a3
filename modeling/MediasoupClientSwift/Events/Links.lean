import MediasoupClientSwift.Events.Delivery
import MediasoupClientSwift.Library.Ghost

/-!
Owns the part of the delivery model that makes and cuts links. The other steps,
which set delegates and deliver events, can stand anywhere between them; each
facade keeps the delegate it was last given. The runs that create, dispose and
release one object are collected here.
-/

namespace MediasoupClientSwift.Delivery

open Library

def Action.isLink : Action → Bool
  | .newDelegate => false
  | .deallocDelegate _ => false
  | .setDelegate _ _ => false
  | .event _ _ => false
  | _ => true

def Facade.bare (facade : Facade) : Facade := { facade with delegate := none }

/-- The objects without their delegates and the calls of these. -/
def State.bare (state : State) : State :=
  { state with facades := state.facades.map Facade.bare, delegates := [], calls := [] }

/-! ### Steps that are no links -/

private theorem bare_modifyFacade (state : State) (name : Nat) {change : Facade → Facade}
    (commutes : ∀ facade, (change facade).bare = change facade.bare) :
    (state.modifyFacade name change).bare = state.bare.modifyFacade name change := by
  simp only [State.bare, State.modifyFacade, Arena.map_modify commutes]

/-- A change of the delegates alone. -/
theorem bare_modifyFacade_of_same (state : State) (name : Nat) {change : Facade → Facade}
    (same : ∀ facade, (change facade).bare = facade.bare) :
    (state.modifyFacade name change).bare = state.bare := by
  simp only [State.bare, State.modifyFacade, Arena.map_modify_of_same same]

private theorem bare_withFacade (state : State) (wrapper adapter : Nat) :
    (state.withFacade wrapper adapter).bare = state.bare.withFacade wrapper adapter := by
  simp [State.bare, State.withFacade, Arena.push, Facade.bare]

private theorem loadFacade_bare (state : State) (reference : Option Nat) :
    state.bare.loadFacade reference = state.loadFacade reference := by
  cases reference with
  | none => rfl
  | some name =>
      simp only [State.loadFacade, State.bare, Option.bind_eq_bind, Option.bind_some,
        List.getElem?_map]
      cases state.facades[name]? <;> rfl

private theorem bare_of_step {state next : State} {action : Action} (noLink : action.isLink = false)
    (stepped : machine.step state action = some next) : next.bare = state.bare := by
  cases stepped_of_step stepped with
  | newDelegate => rfl
  | deallocDelegate delegate => rfl
  | setDelegate found alive => exact bare_modifyFacade_of_same state _ fun _ => rfl
  | event found own => rfl
  | _ => cases noLink

/-- A link is made or cut whatever the delegates are. -/
theorem step_bare {state next : State} {action : Action} (link : action.isLink = true)
    (stepped : machine.step state action = some next) :
    machine.step state.bare action = some next.bare := by
  cases stepped_of_step stepped with
  | newListenerAdapter kind => rfl
  | deleteUnusedAdapter created unused =>
      simp [machine, step, State.bare, created, unused, State.modifyAdapter]
  | initWrapper created found unused =>
      simp [machine, step, State.bare, created, found, unused, State.withWrapper]
  | initFacade found pointsAt unused =>
      rw [bare_withFacade]
      simp [machine, step, State.bare, found, pointsAt, unused]
  | disposeAgain found disposed => simp [machine, step, State.bare, found, disposed]
  | startDispose found pointsAt undisposed =>
      simp [machine, step, State.bare, found, pointsAt, undisposed, State.modifyAdapter,
        State.modifyWrapper]
  | finishDispose found pointsAt disposing =>
      simp [machine, step, State.bare, found, pointsAt, disposing, State.modifyAdapter,
        State.modifyWrapper]
  | deallocFacade facade =>
      have commutes : ∀ object : Facade, Facade.bare { object with alive := false } =
          { object.bare with alive := false } := fun _ => rfl
      exact congrArg some (bare_modifyFacade state facade commutes).symm
  | deallocWrapper found unheld =>
      have stillUnheld := unheld
      rw [← loadFacade_bare] at stillUnheld
      have present : state.bare.wrappers[_]? = some _ := found
      simp only [machine, step, Option.bind_eq_bind, present, Option.bind_some, stillUnheld]
      rfl
  | deleteListenerAdapter found pointsAt dead =>
      simp [machine, step, State.bare, found, pointsAt, dead, State.modifyAdapter]
  | _ => cases link

/-- The links of a run can be made and cut alone. -/
theorem runFrom_bare {state reached : State} {actions : List Action}
    (ran : machine.runFrom state actions = some reached) :
    machine.runFrom state.bare (actions.filter Action.isLink) = some reached.bare :=
  Machine.runFrom_filter bare_of_step step_bare ran

/-! ### The delegate last set -/

def Action.sets (facade : Nat) : Action → Option (Option Nat)
  | .setDelegate other delegate => if other = facade then some delegate else none
  | _ => none

/-- The delegate the actions last set on a facade; nil where they set none. -/
def lastDelegate (facade : Nat) (actions : List Action) : Option Nat :=
  (actions.filterMap (Action.sets facade)).getLast?.join

private theorem lastDelegate_append (facade : Nat) (past : List Action) (action : Action) :
    lastDelegate facade (past ++ [action]) =
      (action.sets facade).getD (lastDelegate facade past) := by
  unfold lastDelegate
  rw [List.filterMap_append]
  cases sets : action.sets facade with
  | none => simp [sets]
  | some delegate => simp [sets]

def State.delegateOf (state : State) (facade : Nat) : Option Nat := do
  let object ← state.facades[facade]?
  object.delegate

private theorem delegateOf_modifyFacade {state : State} {changed : Nat} {change : Facade → Facade}
    (kept : ∀ facade, (change facade).delegate = facade.delegate) (facade : Nat) :
    (state.modifyFacade changed change).delegateOf facade = state.delegateOf facade := by
  unfold State.delegateOf State.modifyFacade
  rw [List.getElem?_modify]
  cases state.facades[facade]? with
  | none => rfl
  | some object =>
      simp only [Option.map_eq_map, Option.map_some, Option.bind_eq_bind, Option.bind_some]
      split
      · exact kept object
      · rfl

private theorem delegateOf_step {state next : State} {action : Action}
    (stepped : machine.step state action = some next) (facade : Nat) :
    next.delegateOf facade = (action.sets facade).getD (state.delegateOf facade) := by
  cases stepped_of_step stepped with
  | @setDelegate changed delegate object found alive =>
      unfold State.delegateOf State.modifyFacade
      by_cases same : changed = facade
      · subst same
        simp [Action.sets, found]
      · simp only [Action.sets, if_neg same, Arena.getElem?_modify_of_ne _ (Ne.symm same)]
        rfl
  | initFacade found pointsAt unused =>
      unfold State.delegateOf State.withFacade
      by_cases isFresh : facade = state.facades.fresh
      · subst isFresh
        simp [Action.sets]
      · rw [Arena.getElem?_push_of_ne isFresh]
        rfl
  | deallocFacade changed =>
      refine delegateOf_modifyFacade ?_ facade
      exact fun _ => rfl
  | _ => rfl

/-- Every facade has the delegate that was last set on it. -/
theorem delegateOf_run {actions : List Action} {state : State}
    (ran : machine.run actions = some state) (facade : Nat) :
    state.delegateOf facade = lastDelegate facade actions := by
  have start : ∀ facade, machine.initial.delegateOf facade = lastDelegate facade [] :=
    fun _ => rfl
  have kept : ∀ past before action next,
      (∀ facade, before.delegateOf facade = lastDelegate facade past) →
      machine.step before action = some next →
      ∀ facade, next.delegateOf facade = lastDelegate facade (past ++ [action]) := by
    intro past before action next holds stepped other
    rw [delegateOf_step stepped, lastDelegate_append, holds other]
  exact Machine.invariant_history kept start ran facade

/-! ### One object -/

def State.withObject (state : State) (kind : ObjectKind) : State :=
  { state with
    adapters := state.adapters.push
      { kind := kind, delegate := some state.wrappers.fresh, alive := true }
    creations := state.creations.push
      { wrapper := some state.wrappers.fresh, facade := some state.facades.fresh }
    wrappers := state.wrappers.push
      { kind := kind, listenerAdapter := some state.adapters.fresh,
        delegate := some state.facades.fresh, alive := true, disposeStarted := false }
    facades := state.facades.push
      { wrapper := state.wrappers.fresh, delegate := none, alive := true } }

theorem runFrom_create {state : State} (linked : Linked state) (kind : ObjectKind) :
    machine.runFrom state [.newListenerAdapter kind, .initWrapper state.adapters.fresh,
        .initFacade state.wrappers.fresh] = some (state.withObject kind) := by
  have sameFresh : state.creations.fresh = state.adapters.fresh := linked.sameLength
  have created :
      (state.creations.push ⟨none, none⟩)[state.adapters.fresh]? = some ⟨none, none⟩ := by
    rw [← sameFresh]
    exact Arena.getElem?_push_fresh _ _
  have changed : ∀ (made : Creation) (change : Creation → Creation),
      (state.creations.push made).modify state.adapters.fresh change =
        state.creations.push (change made) := by
    rw [← sameFresh]
    exact Arena.modify_push_fresh state.creations
  simp [Machine.runFrom_cons, machine, step, created, changed, State.withWrapper,
    State.withFacade, State.withObject, Arena.modify_push_fresh]

/-- The adapter of a factory that raised. -/
theorem runFrom_fail {state : State} (linked : Linked state) (kind : ObjectKind) :
    machine.runFrom state [.newListenerAdapter kind, .deleteUnusedAdapter state.adapters.fresh] =
      some { state with
        adapters := state.adapters.push { kind := kind, delegate := none, alive := false }
        creations := state.creations.push { wrapper := none, facade := none } } := by
  have created := Arena.getElem?_push_fresh state.creations ⟨none, none⟩
  rw [show state.creations.fresh = state.adapters.fresh from linked.sameLength] at created
  simp [Machine.runFrom_cons, machine, step, created, State.modifyAdapter, Arena.modify_push_fresh]

def State.dispose (state : State) (wrapper adapter : Nat) : State :=
  (state.modifyAdapter adapter fun object => { object with delegate := none, alive := false })
    |>.modifyWrapper wrapper fun object =>
      { object with listenerAdapter := none, disposeStarted := true }

/-- The last reference to a facade went, and its wrapper's `dealloc` has begun. -/
def State.release (state : State) (facade wrapper : Nat) : State :=
  (state.modifyFacade facade fun object => { object with alive := false })
    |>.modifyWrapper wrapper fun object => { object with alive := false }

section Object

variable {state : State} {wrapper adapter facade : Nat} {object : Wrapper}
  (found : state.wrappers[wrapper]? = some object)
include found

/-- The first `dispose` of a transport. -/
theorem runFrom_dispose (pointsAt : object.listenerAdapter = some adapter)
    (undisposed : object.kind.isTransport = true ∧ object.disposeStarted = false) :
    machine.runFrom state [.startDispose wrapper, .finishDispose wrapper] =
      some (state.dispose wrapper adapter) := by
  have started : machine.step state (.startDispose wrapper) =
      some ((state.modifyAdapter adapter fun object => { object with delegate := none })
        |>.modifyWrapper wrapper fun object => { object with disposeStarted := true }) := by
    simp [machine, step, found, pointsAt, undisposed]
  have disposing : (state.wrappers.modify wrapper fun object =>
      { object with disposeStarted := true })[wrapper]? =
        some { object with disposeStarted := true } := by
    rw [Arena.getElem?_modify_self, found, Option.map_some]
  rw [machine.runFrom_cons_some _ started]
  simp only [Machine.runFrom_cons, machine, step, State.modifyAdapter, State.modifyWrapper,
    Option.bind_eq_bind, disposing, Option.bind_some, pointsAt, if_true, Machine.runFrom_nil,
    List.modify_modify_eq]
  rfl

theorem runFrom_disposeAgain (disposed : object.listenerAdapter = none) :
    machine.runFrom state [.startDispose wrapper] = some state := by
  apply machine.runFrom_cons_some []
  simp [machine, step, found, disposed]

theorem found_release (facade : Nat) :
    (state.release facade wrapper).wrappers[wrapper]? = some { object with alive := false } := by
  unfold State.release State.modifyWrapper State.modifyFacade
  rw [Arena.getElem?_modify_self, found, Option.map_some]

theorem runFrom_release (delegate : object.delegate = some facade) :
    machine.runFrom state [.deallocFacade facade, .deallocWrapper wrapper] =
      some (state.release facade wrapper) := by
  have gone : (state.modifyFacade facade fun object => { object with alive := false }).loadFacade
      object.delegate = none := by
    simp only [State.loadFacade, State.modifyFacade, delegate, Option.bind_eq_bind,
      Option.bind_some, Arena.getElem?_modify_self]
    cases state.facades[facade]? <;> rfl
  have present : (state.modifyFacade facade fun object => { object with alive := false }).wrappers[
      wrapper]? = some object := found
  have deallocated : machine.step
      (state.modifyFacade facade fun object => { object with alive := false })
      (.deallocWrapper wrapper) = some (state.release facade wrapper) := by
    simp only [machine, step, Option.bind_eq_bind, present, Option.bind_some, gone,
      Option.isNone_none, if_true, State.release]
  rw [machine.runFrom_cons_some _ rfl]
  exact machine.runFrom_cons_some [] deallocated

/-- The end of a child wrapper's `dealloc`. -/
theorem runFrom_deleteListenerAdapter (pointsAt : object.listenerAdapter = some adapter)
    (dead : object.alive = false ∧ object.kind.isTransport = false) :
    machine.runFrom state [.deleteListenerAdapter wrapper] =
      some (state.modifyAdapter adapter fun object => { object with alive := false }) := by
  apply machine.runFrom_cons_some []
  simp [machine, step, found, pointsAt, dead]

end Object

/-! ### Other objects -/

/-- The wrapper or the facade an action is about, where both have one name. -/
def Action.about : Action → Option Nat
  | .initFacade wrapper => some wrapper
  | .startDispose wrapper => some wrapper
  | .finishDispose wrapper => some wrapper
  | .deallocFacade facade => some facade
  | .deallocWrapper wrapper => some wrapper
  | .deleteListenerAdapter wrapper => some wrapper
  | _ => none

/-- A wrapper and its facade, which is in use or is not. -/
def State.Has (state : State) (name : Nat) (wrapper : Wrapper) (inUse : Bool) : Prop :=
  state.wrappers[name]? = some wrapper ∧ (state.facades[name]?).map Facade.alive = some inUse

theorem has_of_bare {state : State} {name : Nat} {wrapper : Wrapper} {inUse : Bool}
    (has : state.bare.Has name wrapper inUse) : state.Has name wrapper inUse := by
  refine ⟨has.1, ?_⟩
  rw [← has.2, State.bare, List.getElem?_map, Option.map_map]
  rfl

section Others

variable {state next : State} {name changed : Nat} {wrapper : Wrapper} {inUse : Bool}

theorem State.Has.modifyWrapper (has : state.Has name wrapper inUse) (other : changed ≠ name)
    (change : Wrapper → Wrapper) : (state.modifyWrapper changed change).Has name wrapper inUse :=
  ⟨(Arena.getElem?_modify_of_ne change (Ne.symm other)).trans has.1, has.2⟩

theorem State.Has.modifyFacade (has : state.Has name wrapper inUse) {change : Facade → Facade}
    (kept : changed ≠ name ∨ ∀ facade, (change facade).alive = facade.alive) :
    (state.modifyFacade changed change).Has name wrapper inUse := by
  refine ⟨has.1, ?_⟩
  unfold State.modifyFacade
  by_cases same : changed = name
  · subst same
    have keepsAlive := kept.resolve_left fun different => different rfl
    rw [Arena.getElem?_modify_self, Option.map_map, ← has.2]
    congr 1
    exact funext keepsAlive
  · rw [Arena.getElem?_modify_of_ne change (Ne.symm same)]
    exact has.2

theorem State.Has.step {action : Action} (has : state.Has name wrapper inUse)
    (other : action.about ≠ some name) (stepped : machine.step state action = some next) :
    next.Has name wrapper inUse := by
  have ne_of_about : ∀ {about : Nat}, action.about = some about → about ≠ name :=
    fun about same => other (about.trans (congrArg some same))
  cases stepped_of_step stepped with
  | initWrapper created found unused =>
      exact ⟨Arena.getElem?_push_of_some has.1, has.2⟩
  | initFacade found pointsAt unused =>
      obtain ⟨facade, present, alive⟩ := Option.map_eq_some_iff.mp has.2
      have unchanged := (has.modifyWrapper (ne_of_about rfl) fun object =>
        { object with delegate := some state.facades.fresh }).1
      refine ⟨unchanged, ?_⟩
      rw [State.withFacade, Arena.getElem?_push_of_some present, Option.map_some, alive]
  | setDelegate found alive => exact has.modifyFacade (Or.inr fun _ => rfl)
  | startDispose found pointsAt undisposed =>
      exact has.modifyWrapper (ne_of_about rfl) _
  | finishDispose found pointsAt disposing =>
      exact has.modifyWrapper (ne_of_about rfl) _
  | deallocFacade facade => exact has.modifyFacade (Or.inl (ne_of_about rfl))
  | deallocWrapper found unheld => exact has.modifyWrapper (ne_of_about rfl) _
  | _ => exact has

/-- Actions on other objects leave a wrapper and its facade as they are. -/
theorem State.Has.runFrom {actions : List Action} (has : state.Has name wrapper inUse)
    (others : ∀ action ∈ actions, action.about ≠ some name)
    (ran : machine.runFrom state actions = some next) : next.Has name wrapper inUse := by
  induction actions generalizing state with
  | nil =>
      obtain rfl := Option.some.inj ran
      exact has
  | cons action rest inductionHypothesis =>
      rw [Machine.runFrom_cons, Option.bind_eq_some_iff] at ran
      obtain ⟨middle, stepped, ran⟩ := ran
      have here := has.step (others action List.mem_cons_self) stepped
      exact inductionHypothesis here
        (fun later member => others later (List.mem_cons_of_mem _ member)) ran

end Others

/-! ### Delivery -/

/-- The call an event makes of the delegate a facade has. -/
def State.callTo (state : State) (facade : Nat) (delegate : Option Nat) (event : NativeEvent) :
    Option DelegateCall := do
  let reported ← event.reported
  let target ← state.loadDelegate delegate
  some { delegate := target, facade := facade, event := reported }

/-- An event on the adapter of a wrapper and a facade that are in use. -/
theorem owedCall_of_inUse {state : State} (linked : Linked state) {name adapter : Nat}
    {object : Wrapper} (has : state.Has name object true)
    (pointsAt : object.listenerAdapter = some adapter) (delegate : object.delegate = some name)
    (inUse : object.alive = true ∧ object.disposeStarted = false) (event : NativeEvent) :
    state.owedCall adapter event = state.callTo name (state.delegateOf name) event := by
  obtain ⟨found, facadeAlive⟩ := has
  obtain ⟨made, created, own⟩ := linked.ownAdapter name object adapter found pointsAt
  obtain ⟨_, other, _, links⟩ := (linked.entries adapter made created).wrapperLinked own
  obtain rfl : object = other := Option.some.inj (found.symm.trans links.found)
  have madeFacade : made.facade = some name := links.delegate.symm.trans delegate
  obtain ⟨held, present, alive⟩ := Option.map_eq_some_iff.mp facadeAlive
  simp only [State.owedCall, created, own, madeFacade, found, present, Option.bind_eq_bind,
    Option.bind_some, State.callTo, State.delegateOf, inUse, alive]
  simp

end MediasoupClientSwift.Delivery
