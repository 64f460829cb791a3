import MediasoupClientSwift.Events.Event
import MediasoupClientSwift.Library.Arena
import MediasoupClientSwift.Library.Machine

/-!
Owns the objects an event passes (listener adapter, wrapper, facade, delegate),
the weak links and identity guards between them, the steps that create, dispose
and release these objects, and the delivery of one event. The main result says
that in every run each event causes exactly the call its own facade owes its
delegate, and nothing else.
-/

namespace MediasoupClientSwift.Delivery

open Library

/-- A C++ listener adapter with its `__weak` delegate, a wrapper. -/
structure Adapter where
  kind : ObjectKind
  delegate : Option Nat
  alive : Bool
deriving DecidableEq, Repr

/-- An Objective-C wrapper with its `weak` delegate, a facade. It is not `alive`
from the start of its `dealloc` on. -/
structure Wrapper where
  kind : ObjectKind
  listenerAdapter : Option Nat
  delegate : Option Nat
  alive : Bool
  disposeStarted : Bool
deriving DecidableEq, Repr

/-- A Swift facade: it holds its wrapper and has a `weak` delegate. -/
structure Facade where
  wrapper : Nat
  delegate : Option Nat
  alive : Bool
deriving DecidableEq, Repr

/-- The wrapper and the facade that were created together with an adapter. -/
structure Creation where
  wrapper : Option Nat
  facade : Option Nat
deriving DecidableEq, Repr

structure DelegateCall where
  delegate : Nat
  facade : Nat
  event : FacadeEvent
deriving DecidableEq, Repr

structure State where
  adapters : Arena Adapter
  wrappers : Arena Wrapper
  facades : Arena Facade
  /-- Application delegates; `true` until they are deallocated. -/
  delegates : Arena Bool
  /-- What was created together, by adapter. -/
  creations : Arena Creation
  /-- The delegate calls so far, in order. -/
  calls : List DelegateCall
deriving DecidableEq, Repr

inductive Action where
  | newListenerAdapter (kind : ObjectKind)
  /-- The factory's native call raised: its adapter is deleted. -/
  | deleteUnusedAdapter (adapter : Nat)
  | initWrapper (adapter : Nat)
  | initFacade (wrapper : Nat)
  | newDelegate
  | deallocDelegate (delegate : Nat)
  | setDelegate (facade : Nat) (delegate : Option Nat)
  | startDispose (wrapper : Nat)
  | finishDispose (wrapper : Nat)
  | deallocFacade (facade : Nat)
  | deallocWrapper (wrapper : Nat)
  /-- The last statement of a child wrapper's `dealloc`. -/
  | deleteListenerAdapter (wrapper : Nat)
  | event (adapter : Nat) (event : NativeEvent)

/-! ### Delivering an event -/

/-- Load a weak reference to a wrapper: nil once its `dealloc` has started. -/
def State.loadWrapper (state : State) (reference : Option Nat) : Option Nat := do
  let name ← reference
  let wrapper ← state.wrappers[name]?
  if wrapper.alive then some name else none

def State.loadFacade (state : State) (reference : Option Nat) : Option Nat := do
  let name ← reference
  let facade ← state.facades[name]?
  if facade.alive then some name else none

def State.loadDelegate (state : State) (reference : Option Nat) : Option Nat := do
  let name ← reference
  let alive ← state.delegates[name]?
  if alive then some name else none

/-- A facade's method: the guard on the wrapper, the conversion, and the call of
its delegate. -/
def State.facadeReceives (state : State) (name wrapper : Nat) (event : WrapperEvent) :
    Option DelegateCall := do
  let facade ← state.facades[name]?
  if wrapper = facade.wrapper then
    let converted ← event.atFacade
    let delegate ← state.loadDelegate facade.delegate
    some { delegate := delegate, facade := name, event := converted }
  else none

/-- A wrapper's method: the guard on the adapter, and the message to its delegate. -/
def State.wrapperReceives (state : State) (name adapter : Nat) (event : WrapperEvent) :
    Option DelegateCall := do
  let wrapper ← state.wrappers[name]?
  if some adapter = wrapper.listenerAdapter then
    let facade ← state.loadFacade wrapper.delegate
    state.facadeReceives facade name event
  else none

/-- An adapter's method: the conversion, and the message to its delegate. -/
def State.adapterReceives (state : State) (name : Nat) (event : NativeEvent) :
    Option DelegateCall := do
  let adapter ← state.adapters[name]?
  let converted ← event.atWrapper
  let wrapper ← state.loadWrapper adapter.delegate
  state.wrapperReceives wrapper name converted

/-! ### Steps -/

def State.modifyAdapter (state : State) (name : Nat) (change : Adapter → Adapter) : State :=
  { state with adapters := state.adapters.modify name change }

def State.modifyWrapper (state : State) (name : Nat) (change : Wrapper → Wrapper) : State :=
  { state with wrappers := state.wrappers.modify name change }

def State.modifyFacade (state : State) (name : Nat) (change : Facade → Facade) : State :=
  { state with facades := state.facades.modify name change }

/-- `init…` of a wrapper: `_listenerAdapter->delegate = self`. -/
def State.withWrapper (state : State) (adapter : Nat) (kind : ObjectKind) : State :=
  let name := state.wrappers.fresh
  { state with
    wrappers := state.wrappers.push
      { kind := kind, listenerAdapter := some adapter, delegate := none, alive := true,
        disposeStarted := false }
    adapters := state.adapters.modify adapter fun object => { object with delegate := some name }
    creations := state.creations.modify adapter fun made => { made with wrapper := some name } }

/-- `init` of a facade: `transport.delegate = self`. -/
def State.withFacade (state : State) (wrapper adapter : Nat) : State :=
  let name := state.facades.fresh
  { state with
    facades := state.facades.push { wrapper := wrapper, delegate := none, alive := true }
    wrappers := state.wrappers.modify wrapper fun object => { object with delegate := some name }
    creations := state.creations.modify adapter fun made => { made with facade := some name } }

def step (state : State) : Action → Option State
  | .newListenerAdapter kind =>
      some { state with
        adapters := state.adapters.push { kind := kind, delegate := none, alive := true }
        creations := state.creations.push { wrapper := none, facade := none } }
  | .deleteUnusedAdapter adapter => do
      let made ← state.creations[adapter]?
      if made.wrapper = none then
        some (state.modifyAdapter adapter fun object => { object with alive := false })
      else none
  | .initWrapper adapter => do
      let made ← state.creations[adapter]?
      let object ← state.adapters[adapter]?
      if made.wrapper = none ∧ object.alive then some (state.withWrapper adapter object.kind)
      else none
  | .initFacade wrapper => do
      let object ← state.wrappers[wrapper]?
      let adapter ← object.listenerAdapter
      if object.delegate = none ∧ object.alive then some (state.withFacade wrapper adapter)
      else none
  | .newDelegate => some { state with delegates := state.delegates.push true }
  | .deallocDelegate delegate =>
      some { state with delegates := state.delegates.modify delegate fun _ => false }
  | .setDelegate facade delegate => do
      let object ← state.facades[facade]?
      if object.alive then
        some (state.modifyFacade facade fun object => { object with delegate := delegate })
      else none
  | .startDispose wrapper => do
      let object ← state.wrappers[wrapper]?
      match object.listenerAdapter with
      | none => some state -- A second `dispose` returns at once: `_transport` is null.
      | some adapter =>
          if object.kind.isTransport ∧ object.disposeStarted = false then
            some ((state.modifyAdapter adapter fun object => { object with delegate := none })
              |>.modifyWrapper wrapper fun object => { object with disposeStarted := true })
          else none
  | .finishDispose wrapper => do
      let object ← state.wrappers[wrapper]?
      let adapter ← object.listenerAdapter
      if object.disposeStarted then
        some ((state.modifyAdapter adapter fun object => { object with alive := false })
          |>.modifyWrapper wrapper fun object => { object with listenerAdapter := none })
      else none
  | .deallocFacade facade =>
      some (state.modifyFacade facade fun object => { object with alive := false })
  | .deallocWrapper wrapper => do
      let object ← state.wrappers[wrapper]?
      -- The facade holds the wrapper strongly.
      if (state.loadFacade object.delegate).isNone then
        some (state.modifyWrapper wrapper fun object => { object with alive := false })
      else none
  | .deleteListenerAdapter wrapper => do
      let object ← state.wrappers[wrapper]?
      let adapter ← object.listenerAdapter
      if object.alive = false ∧ object.kind.isTransport = false then
        some (state.modifyAdapter adapter fun object => { object with alive := false })
      else none
  | .event adapter event => do
      let object ← state.adapters[adapter]?
      if object.alive ∧ event.kind = object.kind then
        some { state with calls := state.calls ++ (state.adapterReceives adapter event).toList }
      else none

def machine : Machine State Action where
  initial :=
    { adapters := [], wrappers := [], facades := [], delegates := [], creations := [], calls := [] }
  step := step

/-- Everything a step can do, with the facts it checked. -/
inductive Stepped (state : State) : Action → State → Prop where
  | newListenerAdapter (kind : ObjectKind) :
      Stepped state (.newListenerAdapter kind) { state with
        adapters := state.adapters.push { kind := kind, delegate := none, alive := true }
        creations := state.creations.push { wrapper := none, facade := none } }
  | deleteUnusedAdapter {adapter : Nat} {made : Creation}
      (created : state.creations[adapter]? = some made) (unused : made.wrapper = none) :
      Stepped state (.deleteUnusedAdapter adapter)
        (state.modifyAdapter adapter fun object => { object with alive := false })
  | initWrapper {adapter : Nat} {made : Creation} {object : Adapter}
      (created : state.creations[adapter]? = some made)
      (found : state.adapters[adapter]? = some object)
      (unused : made.wrapper = none ∧ object.alive) :
      Stepped state (.initWrapper adapter) (state.withWrapper adapter object.kind)
  | initFacade {wrapper adapter : Nat} {object : Wrapper}
      (found : state.wrappers[wrapper]? = some object)
      (pointsAt : object.listenerAdapter = some adapter)
      (unused : object.delegate = none ∧ object.alive) :
      Stepped state (.initFacade wrapper) (state.withFacade wrapper adapter)
  | newDelegate : Stepped state .newDelegate { state with delegates := state.delegates.push true }
  | deallocDelegate (delegate : Nat) :
      Stepped state (.deallocDelegate delegate)
        { state with delegates := state.delegates.modify delegate fun _ => false }
  | setDelegate {facade : Nat} {delegate : Option Nat} {object : Facade}
      (found : state.facades[facade]? = some object) (alive : object.alive) :
      Stepped state (.setDelegate facade delegate)
        (state.modifyFacade facade fun object => { object with delegate := delegate })
  | disposeAgain {wrapper : Nat} {object : Wrapper}
      (found : state.wrappers[wrapper]? = some object) (disposed : object.listenerAdapter = none) :
      Stepped state (.startDispose wrapper) state
  | startDispose {wrapper adapter : Nat} {object : Wrapper}
      (found : state.wrappers[wrapper]? = some object)
      (pointsAt : object.listenerAdapter = some adapter)
      (undisposed : object.kind.isTransport ∧ object.disposeStarted = false) :
      Stepped state (.startDispose wrapper)
        ((state.modifyAdapter adapter fun object => { object with delegate := none })
          |>.modifyWrapper wrapper fun object => { object with disposeStarted := true })
  | finishDispose {wrapper adapter : Nat} {object : Wrapper}
      (found : state.wrappers[wrapper]? = some object)
      (pointsAt : object.listenerAdapter = some adapter) (disposing : object.disposeStarted) :
      Stepped state (.finishDispose wrapper)
        ((state.modifyAdapter adapter fun object => { object with alive := false })
          |>.modifyWrapper wrapper fun object => { object with listenerAdapter := none })
  | deallocFacade (facade : Nat) :
      Stepped state (.deallocFacade facade)
        (state.modifyFacade facade fun object => { object with alive := false })
  | deallocWrapper {wrapper : Nat} {object : Wrapper}
      (found : state.wrappers[wrapper]? = some object)
      (unheld : (state.loadFacade object.delegate).isNone) :
      Stepped state (.deallocWrapper wrapper)
        (state.modifyWrapper wrapper fun object => { object with alive := false })
  | deleteListenerAdapter {wrapper adapter : Nat} {object : Wrapper}
      (found : state.wrappers[wrapper]? = some object)
      (pointsAt : object.listenerAdapter = some adapter)
      (dead : object.alive = false ∧ object.kind.isTransport = false) :
      Stepped state (.deleteListenerAdapter wrapper)
        (state.modifyAdapter adapter fun object => { object with alive := false })
  | event {adapter : Nat} {event : NativeEvent} {object : Adapter}
      (found : state.adapters[adapter]? = some object)
      (own : object.alive ∧ event.kind = object.kind) :
      Stepped state (.event adapter event)
        { state with calls := state.calls ++ (state.adapterReceives adapter event).toList }

theorem stepped_of_step {state next : State} {action : Action}
    (stepped : machine.step state action = some next) : Stepped state action next := by
  cases action with
  | startDispose wrapper =>
      simp only [machine, step, Option.bind_eq_bind, Option.bind_eq_some_iff] at stepped
      obtain ⟨object, found, stepped⟩ := stepped
      cases pointsAt : object.listenerAdapter with
      | none =>
          simp only [pointsAt, Option.some.injEq] at stepped
          exact stepped ▸ .disposeAgain found pointsAt
      | some adapter =>
          simp only [pointsAt, Option.ite_none_right_eq_some, Option.some.injEq] at stepped
          exact stepped.2 ▸ .startDispose found pointsAt stepped.1
  | newListenerAdapter kind => exact Option.some.inj stepped ▸ .newListenerAdapter kind
  | newDelegate => exact Option.some.inj stepped ▸ .newDelegate
  | deallocDelegate delegate => exact Option.some.inj stepped ▸ .deallocDelegate delegate
  | deallocFacade facade => exact Option.some.inj stepped ▸ .deallocFacade facade
  | initWrapper adapter =>
      simp only [machine, step, Option.bind_eq_bind, Option.bind_eq_some_iff,
        Option.ite_none_right_eq_some, Option.some.injEq] at stepped
      obtain ⟨made, created, object, found, unused, rfl⟩ := stepped
      exact .initWrapper created found unused
  | initFacade wrapper =>
      simp only [machine, step, Option.bind_eq_bind, Option.bind_eq_some_iff,
        Option.ite_none_right_eq_some, Option.some.injEq] at stepped
      obtain ⟨object, found, adapter, pointsAt, unused, rfl⟩ := stepped
      exact .initFacade found pointsAt unused
  | finishDispose wrapper =>
      simp only [machine, step, Option.bind_eq_bind, Option.bind_eq_some_iff,
        Option.ite_none_right_eq_some, Option.some.injEq] at stepped
      obtain ⟨object, found, adapter, pointsAt, disposing, rfl⟩ := stepped
      exact .finishDispose found pointsAt disposing
  | deleteListenerAdapter wrapper =>
      simp only [machine, step, Option.bind_eq_bind, Option.bind_eq_some_iff,
        Option.ite_none_right_eq_some, Option.some.injEq] at stepped
      obtain ⟨object, found, adapter, pointsAt, dead, rfl⟩ := stepped
      exact .deleteListenerAdapter found pointsAt dead
  | _ =>
      -- A lookup, one condition, and the next state.
      simp only [machine, step, Option.bind_eq_bind, Option.bind_eq_some_iff,
        Option.ite_none_right_eq_some, Option.some.injEq] at stepped
      obtain ⟨object, found, allowed, rfl⟩ := stepped
      constructor
      · exact found
      · exact allowed

/-! ### What an event owes the application -/

/-- The call an event on an adapter is owed: by the facade created together with
that adapter, to its delegate, with the same arguments, provided wrapper and
facade are alive and not disposed, a delegate is set, and the arguments are
known ones. It looks at no link and at no guard. -/
def State.owedCall (state : State) (adapter : Nat) (event : NativeEvent) :
    Option DelegateCall := do
  let made ← state.creations[adapter]?
  let wrapper ← state.wrappers[← made.wrapper]?
  let name ← made.facade
  let facade ← state.facades[name]?
  if wrapper.alive ∧ wrapper.disposeStarted = false ∧ facade.alive then
    let reported ← event.reported
    let delegate ← state.loadDelegate facade.delegate
    some { delegate := delegate, facade := name, event := reported }
  else none

/-- The calls one step owes: at most one, and only for an event. -/
def State.owedByStep (state : State) : Action → List DelegateCall
  | .event adapter event => (state.owedCall adapter event).toList
  | _ => []

/-- The calls a run owes, in the order of its events. -/
def owedCalls : State → List Action → List DelegateCall
  | _, [] => []
  | state, action :: rest =>
      state.owedByStep action ++
        match machine.step state action with
        | some next => owedCalls next rest
        | none => []

/-- The guard on the adapter accepts the adapter of every wrapper that is not
disposed, and the guard on the wrapper accepts the wrapper of every facade. -/
def GuardsAccept (state : State) : Prop :=
  ∀ (name wrapperName : Nat) (made : Creation) (wrapper : Wrapper),
    state.creations[name]? = some made → made.wrapper = some wrapperName →
    state.wrappers[wrapperName]? = some wrapper → wrapper.disposeStarted = false →
    wrapper.listenerAdapter = some name ∧
      ∀ (facadeName : Nat) (facade : Facade), made.facade = some facadeName →
        state.facades[facadeName]? = some facade → facade.wrapper = wrapperName

/-- No facade was created together with two adapters. -/
def FacadesSeparate (state : State) : Prop :=
  ∀ (name other facade : Nat) (made otherMade : Creation),
    state.creations[name]? = some made → state.creations[other]? = some otherMade →
    made.facade = some facade → otherMade.facade = some facade → name = other

/-! ### The link invariant -/

/-- The links around a wrapper created with an adapter: until `dispose` starts,
adapter and wrapper point at each other; from then on the adapter points at
nothing. The wrapper's delegate is the facade created with it. -/
structure WrapperLinked (state : State) (name : Nat) (adapter : Adapter) (facade : Option Nat)
    (wrapperName : Nat) (wrapper : Wrapper) : Prop where
  found : state.wrappers[wrapperName]? = some wrapper
  delegate : wrapper.delegate = facade
  undisposed : wrapper.disposeStarted = false →
    adapter.delegate = some wrapperName ∧ wrapper.listenerAdapter = some name
  disposed : wrapper.disposeStarted = true → adapter.delegate = none
  facadeHolds : ∀ facadeName, facade = some facadeName →
    ∃ object : Facade, state.facades[facadeName]? = some object ∧ object.wrapper = wrapperName

/-- What holds of an adapter and of what was created together with it. -/
def EntryLinked (state : State) (name : Nat) (made : Creation) : Prop :=
  ∃ adapter : Adapter, state.adapters[name]? = some adapter ∧
    match made.wrapper with
    | none => adapter.delegate = none ∧ made.facade = none
    | some wrapperName =>
        ∃ wrapper, WrapperLinked state name adapter made.facade wrapperName wrapper

theorem EntryLinked.wrapperLinked {state : State} {name wrapperName : Nat} {made : Creation}
    (entryLinked : EntryLinked state name made) (own : made.wrapper = some wrapperName) :
    ∃ adapter wrapper, state.adapters[name]? = some adapter ∧
      WrapperLinked state name adapter made.facade wrapperName wrapper := by
  obtain ⟨adapter, found, links⟩ := entryLinked
  rw [own] at links
  obtain ⟨wrapper, linked⟩ := links
  exact ⟨adapter, wrapper, found, linked⟩

/-- No facade is created before the wrapper. -/
theorem EntryLinked.unfaceted {state : State} {name : Nat} {made : Creation}
    (entryLinked : EntryLinked state name made) (unused : made.wrapper = none) :
    made.facade = none := by
  obtain ⟨adapter, -, links⟩ := entryLinked
  rw [unused] at links
  exact links.2

structure Linked (state : State) : Prop where
  sameLength : state.creations.length = state.adapters.length
  entries : Arena.All (EntryLinked state) state.creations
  ownWrapper : ∀ (name other : Nat) (made otherMade : Creation) wrapper,
    state.creations[name]? = some made →
    state.creations[other]? = some otherMade → made.wrapper = some wrapper →
    otherMade.wrapper = some wrapper → name = other
  ownAdapter : ∀ (wrapper : Nat) (object : Wrapper) adapter, state.wrappers[wrapper]? = some object →
    object.listenerAdapter = some adapter →
    ∃ made : Creation, state.creations[adapter]? = some made ∧ made.wrapper = some wrapper

theorem linked_initial : Linked machine.initial where
  sameLength := rfl
  entries := Arena.All.empty
  ownWrapper := by
    intro name other made otherMade wrapper found
    simp [machine] at found
  ownAdapter := by
    intro wrapper object adapter found
    simp [machine] at found

/-- The adapter made a name for every native event. -/
theorem exists_atWrapper (event : NativeEvent) :
    ∃ converted, event.atWrapper = some converted ∧ converted.atFacade = event.reported := by
  have composed := event.atWrapper_bind_atFacade
  cases event <;> exact ⟨_, rfl, composed⟩

private theorem bind_loadWrapper {α : Type} {state : State} {name : Nat} {wrapper : Wrapper}
    (found : state.wrappers[name]? = some wrapper) (next : Nat → Option α) :
    ((state.loadWrapper (some name)).bind next) =
      if wrapper.alive then next name else none := by
  simp only [State.loadWrapper, Option.bind_eq_bind, Option.bind_some, found]
  split <;> rfl

private theorem bind_loadFacade {α : Type} {state : State} {name : Nat} {facade : Facade}
    (found : state.facades[name]? = some facade) (next : Nat → Option α) :
    ((state.loadFacade (some name)).bind next) =
      if facade.alive then next name else none := by
  simp only [State.loadFacade, Option.bind_eq_bind, Option.bind_some, found]
  split <;> rfl

/-- On linked objects the three hops make exactly the owed call. -/
theorem adapterReceives_eq_owedCall {state : State} (linked : Linked state) (name : Nat)
    (event : NativeEvent) : state.adapterReceives name event = state.owedCall name event := by
  obtain ⟨converted, conversion, reported⟩ := exists_atWrapper event
  cases created : state.creations[name]? with
  | none =>
      have beyond : state.adapters[name]? = none := by
        rw [List.getElem?_eq_none_iff] at created ⊢
        exact linked.sameLength ▸ created
      simp [State.adapterReceives, State.owedCall, beyond, created]
  | some made =>
      obtain ⟨adapter, foundAdapter, links⟩ := linked.entries name made created
      simp only [State.adapterReceives, State.owedCall, foundAdapter, created, conversion,
        Option.bind_eq_bind, Option.bind_some]
      cases wrapperOf : made.wrapper with
      | none =>
          rw [wrapperOf] at links
          simp [links.1, State.loadWrapper]
      | some wrapperName =>
          rw [wrapperOf] at links
          obtain ⟨wrapper, links⟩ := links
          simp only [Option.bind_some, links.found]
          cases disposal : wrapper.disposeStarted with
          | true =>
              rw [links.disposed disposal]
              cases made.facade with
              | none => simp [State.loadWrapper]
              | some facadeName =>
                  cases state.facades[facadeName]? <;> simp [State.loadWrapper]
          | false =>
              obtain ⟨pointsAtWrapper, pointsBack⟩ := links.undisposed disposal
              rw [pointsAtWrapper, bind_loadWrapper links.found]
              simp only [State.wrapperReceives, links.found, pointsBack, if_true, links.delegate,
                Option.bind_eq_bind, Option.bind_some]
              cases facadeOf : made.facade with
              | none => simp [State.loadFacade]
              | some facadeName =>
                  obtain ⟨facade, foundFacade, holds⟩ := links.facadeHolds facadeName facadeOf
                  rw [bind_loadFacade foundFacade]
                  simp only [State.facadeReceives, foundFacade, holds, if_true, reported,
                    Option.bind_eq_bind, Option.bind_some]
                  cases wrapper.alive <;> cases facade.alive <;> simp

/-! ### Keeping the links -/

/-- An entry survives steps that keep its adapter's delegate, its wrapper's links
and the wrapper its facade holds. -/
theorem EntryLinked.keep {state next : State} {name : Nat} {made : Creation}
    (linked : EntryLinked state name made)
    (adapterKept : ∀ adapter : Adapter, state.adapters[name]? = some adapter →
      ∃ kept : Adapter, next.adapters[name]? = some kept ∧ kept.delegate = adapter.delegate)
    (wrapperKept : ∀ (wrapperName : Nat) (wrapper : Wrapper), made.wrapper = some wrapperName →
      state.wrappers[wrapperName]? = some wrapper →
      ∃ kept : Wrapper, next.wrappers[wrapperName]? = some kept ∧ kept.delegate = wrapper.delegate ∧
        kept.disposeStarted = wrapper.disposeStarted ∧
        (wrapper.disposeStarted = false → kept.listenerAdapter = wrapper.listenerAdapter))
    (facadeKept : ∀ (facadeName : Nat) (facade : Facade), state.facades[facadeName]? = some facade →
      ∃ kept : Facade, next.facades[facadeName]? = some kept ∧ kept.wrapper = facade.wrapper) :
    EntryLinked next name made := by
  obtain ⟨adapter, foundAdapter, links⟩ := linked
  obtain ⟨keptAdapter, foundKept, sameDelegate⟩ := adapterKept adapter foundAdapter
  refine ⟨keptAdapter, foundKept, ?_⟩
  cases wrapperOf : made.wrapper with
  | none =>
      rw [wrapperOf] at links
      exact ⟨sameDelegate.trans links.1, links.2⟩
  | some wrapperName =>
      rw [wrapperOf] at links
      obtain ⟨wrapper, links⟩ := links
      obtain ⟨kept, found, delegate, disposal, listenerAdapter⟩ :=
        wrapperKept wrapperName wrapper wrapperOf links.found
      refine ⟨kept, ?_⟩
      exact
        { found := found
          delegate := delegate.trans links.delegate
          undisposed := by
            intro undisposed
            rw [disposal] at undisposed
            rw [sameDelegate, listenerAdapter undisposed]
            exact links.undisposed undisposed
          disposed := by
            intro disposed
            rw [disposal] at disposed
            rw [sameDelegate]
            exact links.disposed disposed
          facadeHolds := by
            intro facadeName same
            obtain ⟨object, foundObject, holds⟩ := links.facadeHolds facadeName same
            obtain ⟨keptObject, foundKeptObject, sameWrapper⟩ :=
              facadeKept facadeName object foundObject
            exact ⟨keptObject, foundKeptObject, sameWrapper.trans holds⟩ }

section Frames

variable {state : State}

/-- Changing an adapter but not its delegate. -/
theorem Linked.modifyAdapter (linked : Linked state) (name : Nat) {change : Adapter → Adapter}
    (kept : ∀ adapter, (change adapter).delegate = adapter.delegate) :
    Linked (state.modifyAdapter name change) where
  sameLength := by
    unfold State.modifyAdapter
    rw [List.length_modify]
    exact linked.sameLength
  entries := linked.entries.mono fun entry made _ entryLinked =>
    entryLinked.keep
      (fun adapter found => Arena.exists_getElem?_modify
        (fun now before : Adapter => now.delegate = before.delegate) name change found rfl
        fun _ => kept adapter)
      (fun _ wrapper _ found => ⟨wrapper, found, rfl, rfl, fun _ => rfl⟩)
      (fun _ facade found => ⟨facade, found, rfl⟩)
  ownWrapper := linked.ownWrapper
  ownAdapter := linked.ownAdapter

/-- Changing a wrapper but neither its delegate nor, before `dispose`, its adapter. -/
theorem Linked.modifyWrapper (linked : Linked state) (name : Nat) {change : Wrapper → Wrapper}
    (delegateKept : ∀ wrapper, (change wrapper).delegate = wrapper.delegate)
    (disposalKept : ∀ wrapper, (change wrapper).disposeStarted = wrapper.disposeStarted)
    (adapterKept : ∀ wrapper, state.wrappers[name]? = some wrapper →
      wrapper.disposeStarted = false → (change wrapper).listenerAdapter = wrapper.listenerAdapter)
    (noNewAdapter : ∀ wrapper adapter, (change wrapper).listenerAdapter = some adapter →
      wrapper.listenerAdapter = some adapter) :
    Linked (state.modifyWrapper name change) where
  sameLength := linked.sameLength
  entries := linked.entries.mono fun entry made _ entryLinked =>
    entryLinked.keep
      (fun adapter found => ⟨adapter, found, rfl⟩)
      (fun wrapperName wrapper _ found => by
        refine Arena.exists_getElem?_modify
          (fun now before : Wrapper => now.delegate = before.delegate ∧
            now.disposeStarted = before.disposeStarted ∧
            (before.disposeStarted = false → now.listenerAdapter = before.listenerAdapter))
          name change found ⟨rfl, rfl, fun _ => rfl⟩ ?_
        intro same
        subst same
        exact ⟨delegateKept wrapper, disposalKept wrapper, adapterKept wrapper found⟩)
      (fun _ facade found => ⟨facade, found, rfl⟩)
  ownWrapper := linked.ownWrapper
  ownAdapter := by
    intro wrapper object adapter found pointsAt
    rcases Arena.getElem?_modify_cases found with ⟨rfl, old, present, rfl⟩ | ⟨-, unchanged⟩
    · exact linked.ownAdapter _ old adapter present (noNewAdapter old adapter pointsAt)
    · exact linked.ownAdapter wrapper object adapter unchanged pointsAt

/-- Changing a facade but not the wrapper it holds. -/
theorem Linked.modifyFacade (linked : Linked state) (name : Nat) {change : Facade → Facade}
    (kept : ∀ facade, (change facade).wrapper = facade.wrapper) :
    Linked (state.modifyFacade name change) where
  sameLength := linked.sameLength
  entries := linked.entries.mono fun _ _ _ entryLinked =>
    entryLinked.keep
      (fun adapter found => ⟨adapter, found, rfl⟩)
      (fun _ wrapper _ found => ⟨wrapper, found, rfl, rfl, fun _ => rfl⟩)
      (fun _ facade found => Arena.exists_getElem?_modify
        (fun now before : Facade => now.wrapper = before.wrapper) name change found rfl
        fun _ => kept facade)
  ownWrapper := linked.ownWrapper
  ownAdapter := linked.ownAdapter

/-- The delegates and the calls are no part of the links. -/
theorem Linked.withDelegates (linked : Linked state) (delegates : Arena Bool)
    (calls : List DelegateCall) :
    Linked { state with delegates := delegates, calls := calls } where
  sameLength := linked.sameLength
  entries := linked.entries.mono fun _ _ _ entryLinked =>
    entryLinked.keep
      (fun adapter found => ⟨adapter, found, rfl⟩)
      (fun _ wrapper _ found => ⟨wrapper, found, rfl, rfl, fun _ => rfl⟩)
      (fun _ facade found => ⟨facade, found, rfl⟩)
  ownWrapper := linked.ownWrapper
  ownAdapter := linked.ownAdapter

end Frames

/-! ### Steps that make or cut links -/

section Links

variable {state : State}

theorem Linked.newListenerAdapter (linked : Linked state) (kind : ObjectKind) :
    Linked { state with
      adapters := state.adapters.push { kind := kind, delegate := none, alive := true }
      creations := state.creations.push { wrapper := none, facade := none } } where
  sameLength := by
    simp only [Arena.push, List.length_append, List.length_singleton]
    exact congrArg (· + 1) linked.sameLength
  entries := by
    refine Arena.All.push ?_ ?_
    · refine linked.entries.mono fun entry made _ entryLinked => ?_
      exact entryLinked.keep
        (fun adapter found => ⟨adapter, Arena.getElem?_push_of_some found, rfl⟩)
        (fun _ wrapper _ found => ⟨wrapper, found, rfl, rfl, fun _ => rfl⟩)
        (fun _ facade found => ⟨facade, found, rfl⟩)
    · refine ⟨{ kind := kind, delegate := none, alive := true }, ?_, rfl, rfl⟩
      unfold Arena.fresh
      rw [linked.sameLength]
      exact Arena.getElem?_push_fresh _ _
  ownWrapper := by
    intro name other made otherMade wrapper found otherFound created otherCreated
    rcases Arena.getElem?_push_cases found with ⟨-, rfl⟩ | old
    · cases created
    · rcases Arena.getElem?_push_cases otherFound with ⟨-, rfl⟩ | otherOld
      · cases otherCreated
      · exact linked.ownWrapper name other made otherMade wrapper old otherOld created otherCreated
  ownAdapter := by
    intro wrapper object adapter found pointsAt
    obtain ⟨made, created, same⟩ := linked.ownAdapter wrapper object adapter found pointsAt
    exact ⟨made, Arena.getElem?_push_of_some created, same⟩

/-- A wrapper named by a creation exists, so its name is not the fresh one. -/
theorem Linked.wrapper_ne_fresh (linked : Linked state) {name wrapper : Nat} {made : Creation}
    (created : state.creations[name]? = some made) (own : made.wrapper = some wrapper) :
    wrapper ≠ state.wrappers.fresh := by
  obtain ⟨_, _, _, links⟩ := (linked.entries name made created).wrapperLinked own
  exact Arena.ne_fresh_of_getElem? links.found

/-- A wrapper belongs to one creation only. -/
theorem Linked.wrapper_ne_of_ne (linked : Linked state) {adapter wrapper : Nat} {made : Creation}
    (created : state.creations[adapter]? = some made) (own : made.wrapper = some wrapper)
    {name other : Nat} {entry : Creation} (present : state.creations[name]? = some entry)
    (different : name ≠ adapter) (ownOther : entry.wrapper = some other) : other ≠ wrapper := by
  rintro rfl
  exact different
    (linked.ownWrapper name adapter entry made other present created ownOther own)

theorem Linked.withWrapper (linked : Linked state) {adapter : Nat} {object : Adapter}
    {made : Creation} (created : state.creations[adapter]? = some made)
    (found : state.adapters[adapter]? = some object) (unused : made.wrapper = none) :
    Linked (state.withWrapper adapter object.kind) where
  sameLength := by
    simp only [State.withWrapper, List.length_modify]
    exact linked.sameLength
  entries := by
    have unfaceted := (linked.entries adapter made created).unfaceted unused
    intro name entry lookup
    rcases Arena.getElem?_modify_cases lookup with ⟨rfl, old, present, rfl⟩ | ⟨other, unchanged⟩
    · obtain rfl : made = old := Option.some.inj (created.symm.trans present)
      refine ⟨{ object with delegate := some state.wrappers.fresh }, ?_, ?_⟩
      · simp only [State.withWrapper, Arena.getElem?_modify_self, found, Option.map_some]
      · refine ⟨_, ⟨Arena.getElem?_push_fresh _ _, unfaceted.symm, fun _ => ⟨rfl, rfl⟩, ?_, ?_⟩⟩
        · intro disposed
          cases disposed
        · intro facadeName same
          rw [unfaceted] at same
          cases same
    · refine (linked.entries name entry unchanged).keep ?_ ?_ ?_
      · intro owner foundOwner
        refine ⟨owner, ?_, rfl⟩
        simp only [State.withWrapper, Arena.getElem?_modify_of_ne _ other, foundOwner]
      · intro wrapperName wrapper _ foundWrapper
        exact ⟨wrapper, Arena.getElem?_push_of_some foundWrapper, rfl, rfl, fun _ => rfl⟩
      · exact fun _ facade foundFacade => ⟨facade, foundFacade, rfl⟩
  ownWrapper := by
    intro name other entry otherEntry wrapper lookup otherLookup own otherOwn
    rcases Arena.getElem?_modify_cases lookup with ⟨rfl, old, present, rfl⟩ | ⟨-, unchanged⟩
    · rcases Arena.getElem?_modify_cases otherLookup with ⟨rfl, -, -, -⟩ | ⟨-, otherUnchanged⟩
      · rfl
      · have isFresh : state.wrappers.fresh = wrapper := Option.some.inj own
        exact absurd isFresh.symm (linked.wrapper_ne_fresh otherUnchanged otherOwn)
    · rcases Arena.getElem?_modify_cases otherLookup with
        ⟨rfl, otherOld, -, rfl⟩ | ⟨-, otherUnchanged⟩
      · have isFresh : state.wrappers.fresh = wrapper := Option.some.inj otherOwn
        exact absurd isFresh.symm (linked.wrapper_ne_fresh unchanged own)
      · exact linked.ownWrapper name other entry otherEntry wrapper unchanged otherUnchanged own
          otherOwn
  ownAdapter := by
    intro wrapper wrapperObject owner lookup pointsAt
    rcases Arena.getElem?_push_cases lookup with ⟨rfl, rfl⟩ | old
    · obtain rfl : adapter = owner := Option.some.inj pointsAt
      refine ⟨{ made with wrapper := some state.wrappers.fresh }, ?_, rfl⟩
      simp only [State.withWrapper, Arena.getElem?_modify_self, created, Option.map_some]
    · obtain ⟨entry, present, own⟩ := linked.ownAdapter wrapper wrapperObject owner old pointsAt
      have other : owner ≠ adapter := by
        rintro rfl
        rw [created] at present
        obtain rfl := Option.some.inj present
        rw [unused] at own
        cases own
      refine ⟨entry, ?_, own⟩
      simp only [State.withWrapper, Arena.getElem?_modify_of_ne _ other, present]

theorem Linked.withFacade (linked : Linked state) {wrapper adapter : Nat} {object : Wrapper}
    (found : state.wrappers[wrapper]? = some object)
    (pointsAt : object.listenerAdapter = some adapter) :
    Linked (state.withFacade wrapper adapter) := by
  obtain ⟨made, created, own⟩ := linked.ownAdapter wrapper object adapter found pointsAt
  constructor
  case sameLength =>
    simp only [State.withFacade, List.length_modify]
    exact linked.sameLength
  case entries =>
    intro name entry lookup
    rcases Arena.getElem?_modify_cases lookup with ⟨rfl, old, present, rfl⟩ | ⟨other, unchanged⟩
    · obtain rfl : made = old := Option.some.inj (created.symm.trans present)
      obtain ⟨owner, wrapperObject, foundOwner, links⟩ :=
        (linked.entries name made created).wrapperLinked own
      obtain rfl : object = wrapperObject := Option.some.inj (found.symm.trans links.found)
      refine ⟨owner, foundOwner, ?_⟩
      simp only [own]
      refine ⟨{ object with delegate := some state.facades.fresh }, ?_⟩
      exact
        { found := by
            simp only [State.withFacade, Arena.getElem?_modify_self, found, Option.map_some]
          delegate := rfl
          undisposed := links.undisposed
          disposed := links.disposed
          facadeHolds := by
            intro facadeName same
            obtain rfl : state.facades.fresh = facadeName := Option.some.inj same
            exact ⟨_, Arena.getElem?_push_fresh _ _, rfl⟩ }
    · refine (linked.entries name entry unchanged).keep ?_ ?_ ?_
      · exact fun owner foundOwner => ⟨owner, foundOwner, rfl⟩
      · intro wrapperName wrapperObject ownOther foundWrapper
        have different := linked.wrapper_ne_of_ne created own unchanged other ownOther
        refine ⟨wrapperObject, ?_, rfl, rfl, fun _ => rfl⟩
        simp only [State.withFacade, Arena.getElem?_modify_of_ne _ different, foundWrapper]
      · exact fun _ facade foundFacade => ⟨facade, Arena.getElem?_push_of_some foundFacade, rfl⟩
  case ownWrapper =>
    intro name other entry otherEntry wrapperName lookup otherLookup ownLeft ownRight
    let SameWrapper : Creation → Creation → Prop := fun old entry => old.wrapper = entry.wrapper
    obtain ⟨old, present, same⟩ :=
      Arena.exists_of_getElem?_modify SameWrapper lookup (fun _ => rfl) fun _ => rfl
    obtain ⟨otherOld, otherPresent, otherSame⟩ :=
      Arena.exists_of_getElem?_modify SameWrapper otherLookup (fun _ => rfl) fun _ => rfl
    exact linked.ownWrapper name other old otherOld wrapperName present otherPresent
      (same.trans ownLeft) (otherSame.trans ownRight)
  case ownAdapter =>
    intro wrapperName wrapperObject owner lookup pointsAtOwner
    obtain ⟨oldObject, present, same⟩ := Arena.exists_of_getElem?_modify
      (fun old object : Wrapper => old.listenerAdapter = object.listenerAdapter) lookup
      (fun _ => rfl) fun _ => rfl
    obtain ⟨entry, foundEntry, ownEntry⟩ :=
      linked.ownAdapter wrapperName oldObject owner present (same.trans pointsAtOwner)
    obtain ⟨kept, foundKept, sameWrapper⟩ := Arena.exists_getElem?_modify
      (fun now before : Creation => now.wrapper = before.wrapper) adapter
      (fun made : Creation => { made with facade := some state.facades.fresh }) foundEntry rfl
      fun _ => rfl
    exact ⟨kept, foundKept, sameWrapper.trans ownEntry⟩

theorem Linked.startDispose (linked : Linked state) {wrapper adapter : Nat} {object : Wrapper}
    (found : state.wrappers[wrapper]? = some object)
    (pointsAt : object.listenerAdapter = some adapter) :
    Linked ((state.modifyAdapter adapter fun object => { object with delegate := none })
      |>.modifyWrapper wrapper fun object => { object with disposeStarted := true }) := by
  obtain ⟨made, created, own⟩ := linked.ownAdapter wrapper object adapter found pointsAt
  constructor
  case sameLength =>
    simp only [State.modifyAdapter, State.modifyWrapper, List.length_modify]
    exact linked.sameLength
  case entries =>
    intro name entry present
    by_cases same : name = adapter
    · subst same
      obtain rfl : made = entry := Option.some.inj (created.symm.trans present)
      obtain ⟨owner, wrapperObject, foundOwner, links⟩ :=
        (linked.entries name made created).wrapperLinked own
      obtain rfl : object = wrapperObject := Option.some.inj (found.symm.trans links.found)
      refine ⟨{ owner with delegate := none }, ?_, ?_⟩
      · simp only [State.modifyAdapter, State.modifyWrapper, Arena.getElem?_modify_self,
          foundOwner, Option.map_some]
      · simp only [own]
        refine ⟨{ object with disposeStarted := true }, ?_⟩
        exact
          { found := by
              simp only [State.modifyAdapter, State.modifyWrapper, Arena.getElem?_modify_self,
                found, Option.map_some]
            delegate := links.delegate
            undisposed := fun undisposed => by cases undisposed
            disposed := fun _ => rfl
            facadeHolds := links.facadeHolds }
    · refine (linked.entries name entry present).keep ?_ ?_ ?_
      · intro owner foundOwner
        refine ⟨owner, ?_, rfl⟩
        simp only [State.modifyAdapter, State.modifyWrapper, Arena.getElem?_modify_of_ne _ same,
          foundOwner]
      · intro wrapperName wrapperObject ownOther foundWrapper
        have different := linked.wrapper_ne_of_ne created own present same ownOther
        refine ⟨wrapperObject, ?_, rfl, rfl, fun _ => rfl⟩
        simp only [State.modifyAdapter, State.modifyWrapper,
          Arena.getElem?_modify_of_ne _ different, foundWrapper]
      · exact fun _ facade foundFacade => ⟨facade, foundFacade, rfl⟩
  case ownWrapper => exact linked.ownWrapper
  case ownAdapter =>
    intro wrapperName wrapperObject owner lookup pointsAtOwner
    obtain ⟨oldObject, present, same⟩ := Arena.exists_of_getElem?_modify
      (fun old object : Wrapper => old.listenerAdapter = object.listenerAdapter) lookup
      (fun _ => rfl) fun _ => rfl
    exact linked.ownAdapter wrapperName oldObject owner present (same.trans pointsAtOwner)

end Links

/-! ### Every run -/

theorem linked_step {state next : State} {action : Action} (linked : Linked state)
    (stepped : machine.step state action = some next) : Linked next := by
  cases stepped_of_step stepped with
  | newListenerAdapter kind => exact linked.newListenerAdapter kind
  | deleteUnusedAdapter created unused => exact linked.modifyAdapter _ fun _ => rfl
  | initWrapper created found unused => exact linked.withWrapper created found unused.1
  | initFacade found pointsAt unused => exact linked.withFacade found pointsAt
  | newDelegate => exact linked.withDelegates _ _
  | deallocDelegate delegate => exact linked.withDelegates _ _
  | setDelegate found alive => exact linked.modifyFacade _ fun _ => rfl
  | disposeAgain found disposed => exact linked
  | startDispose found pointsAt undisposed => exact linked.startDispose found pointsAt
  | @finishDispose wrapper adapter object found pointsAt disposing =>
      have deleted : Linked
          (state.modifyAdapter adapter fun object => { object with alive := false }) :=
        linked.modifyAdapter adapter fun _ => rfl
      refine deleted.modifyWrapper wrapper (fun _ => rfl) (fun _ => rfl) ?_ ?_
      · intro other foundOther undisposed
        obtain rfl : object = other := Option.some.inj (found.symm.trans foundOther)
        rw [disposing] at undisposed
        cases undisposed
      · intro other owner pointsAt
        cases pointsAt
  | deallocFacade facade => exact linked.modifyFacade facade fun _ => rfl
  | deallocWrapper found unheld =>
      exact linked.modifyWrapper _ (fun _ => rfl) (fun _ => rfl) (fun _ _ _ => rfl)
        (fun _ _ pointsAt => pointsAt)
  | deleteListenerAdapter found pointsAt dead => exact linked.modifyAdapter _ fun _ => rfl
  | event found own => exact linked.withDelegates _ _

/-- One step adds the calls it owes. -/
theorem calls_step {state next : State} {action : Action} (linked : Linked state)
    (stepped : machine.step state action = some next) :
    next.calls = state.calls ++ state.owedByStep action := by
  cases stepped_of_step stepped with
  | event found own => simp only [State.owedByStep, adapterReceives_eq_owedCall linked]
  | _ => exact (List.append_nil _).symm

/-- The calls of a run from linked objects are the calls it owes. -/
theorem calls_runFrom {state last : State} {actions : List Action} (linked : Linked state)
    (ran : machine.runFrom state actions = some last) :
    last.calls = state.calls ++ owedCalls state actions := by
  induction actions generalizing state with
  | nil =>
      obtain rfl := Option.some.inj ran
      unfold owedCalls
      rw [List.append_nil]
  | cons action rest inductionHypothesis =>
      rw [Machine.runFrom_cons, Option.bind_eq_some_iff] at ran
      obtain ⟨next, stepped, ran⟩ := ran
      have later := inductionHypothesis (linked_step linked stepped) ran
      rw [later, calls_step linked stepped, owedCalls, stepped, List.append_assoc]

theorem linked_run {actions : List Action} {state : State}
    (ran : machine.run actions = some state) : Linked state := by
  refine Machine.invariant_run ?_ linked_initial ran
  intro before action after linked stepped
  exact linked_step linked stepped

theorem Linked.guardsAccept {state : State} (linked : Linked state) : GuardsAccept state := by
  intro name wrapperName made wrapper created own found undisposed
  obtain ⟨_, object, _, links⟩ := (linked.entries name made created).wrapperLinked own
  obtain rfl : wrapper = object := Option.some.inj (found.symm.trans links.found)
  refine ⟨(links.undisposed undisposed).2, ?_⟩
  intro facadeName facade facadeOf foundFacade
  obtain ⟨held, foundHeld, holds⟩ := links.facadeHolds facadeName facadeOf
  obtain rfl : facade = held := Option.some.inj (foundFacade.symm.trans foundHeld)
  exact holds

/-- A facade holds the wrapper it was created with. -/
theorem Linked.facade_wrapper {state : State} (linked : Linked state) {name facade : Nat}
    {made : Creation} (created : state.creations[name]? = some made)
    (own : made.facade = some facade) :
    ∃ object : Facade, state.facades[facade]? = some object ∧
      made.wrapper = some object.wrapper := by
  have entry := linked.entries name made created
  cases wrapperOf : made.wrapper with
  | none =>
      rw [entry.unfaceted wrapperOf] at own
      cases own
  | some wrapperName =>
      obtain ⟨_, wrapper, _, links⟩ := entry.wrapperLinked wrapperOf
      obtain ⟨object, found, holds⟩ := links.facadeHolds facade own
      exact ⟨object, found, by rw [holds]⟩

theorem Linked.facadesSeparate {state : State} (linked : Linked state) :
    FacadesSeparate state := by
  intro name other facade made otherMade created otherCreated own otherOwn
  obtain ⟨object, found, wrapper⟩ := linked.facade_wrapper created own
  obtain ⟨otherObject, otherFound, otherWrapper⟩ := linked.facade_wrapper otherCreated otherOwn
  obtain rfl : object = otherObject := Option.some.inj (found.symm.trans otherFound)
  exact linked.ownWrapper name other made otherMade object.wrapper created otherCreated wrapper
    otherWrapper

/-- In every run the delegate calls are the owed ones, in the order of the
events; each event adds the call it is owed at that moment, if any; and no
identity guard rejects an event of its own object. -/
theorem events_reach_own_facade (actions : List Action) (state : State)
    (ran : machine.run actions = some state) :
    state.calls = owedCalls machine.initial actions ∧
      (∀ adapter event next, machine.step state (.event adapter event) = some next →
        next.calls = state.calls ++ (state.owedCall adapter event).toList) ∧
      GuardsAccept state ∧ FacadesSeparate state := by
  have linked := linked_run ran
  have calls : state.calls = owedCalls machine.initial actions := by
    have all := calls_runFrom linked_initial ran
    rwa [show machine.initial.calls = [] from rfl, List.nil_append] at all
  have each : ∀ adapter event next, machine.step state (.event adapter event) = some next →
      next.calls = state.calls ++ (state.owedCall adapter event).toList := by
    intro adapter event next stepped
    exact calls_step linked stepped
  exact ⟨calls, each, linked.guardsAccept, linked.facadesSeparate⟩

/-- A send transport and a data consumer with a delegate each: a known connection
state, an unknown one, a video producer and a message. -/
theorem events_reach_own_facade_calls :
    let actions := [Action.newListenerAdapter .sendTransport, .initWrapper 0, .initFacade 0,
      .newListenerAdapter .dataConsumer, .initWrapper 1, .initFacade 1, .newDelegate,
      .setDelegate 0 (some 0), .newDelegate, .setDelegate 1 (some 1),
      .event 0 (.sendTransportOnConnectionStateChange ⟨"connected", by decide⟩),
      .event 0 (.sendTransportOnConnectionStateChange ⟨"gone", by decide⟩),
      .event 0 (.sendTransportOnProduce ⟨"video", by decide⟩ ⟨"codecs", by decide⟩
        ⟨"data", by decide⟩ 3),
      .event 1 (.dataConsumerOnMessage [0, 7])]
    ∃ state, machine.run actions = some state ∧
      state.calls = owedCalls machine.initial actions ∧
      (∀ adapter event next, machine.step state (.event adapter event) = some next →
        next.calls = state.calls ++ (state.owedCall adapter event).toList) ∧
      GuardsAccept state ∧ FacadesSeparate state ∧
      state.calls =
        [{ delegate := 0, facade := 0, event := .sendTransportOnConnectionStateChange .connected },
          { delegate := 0, facade := 0,
            event := .sendTransportOnProduce .video "codecs" "data" 3 },
          { delegate := 1, facade := 1, event := .dataConsumerOnMessage [0, 7] }] := by
  intro actions
  have called : (machine.run actions).map State.calls = some
      [{ delegate := 0, facade := 0, event := .sendTransportOnConnectionStateChange .connected },
        { delegate := 0, facade := 0, event := .sendTransportOnProduce .video "codecs" "data" 3 },
        { delegate := 1, facade := 1, event := .dataConsumerOnMessage [0, 7] }] := by
    decide +kernel
  obtain ⟨state, ran, called⟩ := Option.map_eq_some_iff.mp called
  obtain ⟨calls, events, guards, separate⟩ := events_reach_own_facade actions state ran
  exact ⟨state, ran, calls, events, guards, separate, called⟩

end MediasoupClientSwift.Delivery
