import MediasoupClientSwift.Events.Event
import MediasoupClientSwift.Transport.Transport

/-!
Owns the life cycle of one transport wrapper, which `SendTransportWrapper` and
`ReceiveTransportWrapper` share word for word: `close`, `closed`, `dispose` and
`dealloc` as the effects they have, native events between the calls and inside
the native `Close` and destructor, and the holders of the peer connection
factory. The main result describes the effects of every whole life.
-/

namespace MediasoupClientSwift.Lifecycle

open Library

inductive Effect where
  | disposeStarted
  | nativeClose
  /-- The native transport is deleted while the factory is retained or not. -/
  | deleteTransport (factoryRetained : Bool)
  | deleteAdapter
  /-- The wrapper hands an event on to its facade. -/
  | handedOn (event : WrapperEvent)
  | closedAnswer (answer : Bool)
deriving DecidableEq, Repr

/-- A wrapper, its adapter, its native transport and the factory. -/
structure State where
  transport : Option Handle
  listenerAdapter : Option AdapterPointer
  /-- The strong property `pcFactory`, until the object is destroyed. -/
  holdsFactory : Bool
  /-- `dealloc` has begun: weak references to the wrapper load nil. -/
  deallocating : Bool
  /-- The adapter's weak `delegate` is this wrapper. -/
  adapterDelegate : Bool
  adapterAlive : Bool
  /-- The adapter that the native transport calls. -/
  nativeListener : AdapterPointer
  nativeClosed : Bool
  /-- The Device, the application and other transports that hold the factory. -/
  otherFactoryHolders : Nat
  effects : List Effect
deriving DecidableEq, Repr

def initial (transport : Handle) (listenerAdapter : AdapterPointer) (otherFactoryHolders : Nat) :
    State where
  transport := some transport
  listenerAdapter := some listenerAdapter
  holdsFactory := true
  deallocating := false
  adapterDelegate := true
  adapterAlive := true
  nativeListener := listenerAdapter
  nativeClosed := false
  otherFactoryHolders := otherFactoryHolders
  effects := []

def State.factoryRetained (state : State) : Bool :=
  state.holdsFactory || 0 < state.otherFactoryHolders

def State.log (state : State) (effect : Effect) : State :=
  { state with effects := state.effects ++ [effect] }

def observe (effect : Effect) : ObjCpp State Unit := Program.modify (State.log · effect)

/-! ### Native code -/

/-- What an adapter method and the wrapper method it sends its message to hand on
to the facade: the wrapper is reached by a weak link and guards on the adapter. -/
def State.handsOn (state : State) (event : NativeEvent) : Option WrapperEvent := do
  let converted ← event.atWrapper
  if state.adapterDelegate ∧ ¬ state.deallocating then
    if some state.nativeListener = state.listenerAdapter then some converted else none
  else none

def onEvent (event : NativeEvent) : ObjCpp State Unit := do
  let state ← Program.get
  if state.adapterAlive then
    match state.handsOn event with
    | some converted => observe (.handedOn converted)
    | none => pure ()
  else Program.abort .undefinedBehaviour

/-- The events a native method emits while it runs. -/
def emit : List NativeEvent → ObjCpp State Unit
  | [] => pure ()
  | event :: rest => do
      onEvent event
      emit rest

def nativeClose (emitted : List NativeEvent) : ObjCpp State Unit := do
  observe .nativeClose
  emit emitted
  Program.modify fun state => { state with nativeClosed := true }

def deleteTransport (emitted : List NativeEvent) : ObjCpp State Unit := do
  emit emitted
  let state ← Program.get
  observe (.deleteTransport state.factoryRetained)

def deleteAdapter : ObjCpp State Unit := do
  observe .deleteAdapter
  Program.modify fun state => { state with adapterAlive := false }

/-! ### The wrapper -/

def close (emitted : List NativeEvent) : ObjCpp State Unit := do
  let state ← Program.get
  let _transport ← dereference state.transport
  nativeClose emitted

def closed : ObjCpp State Bool := do
  let state ← Program.get
  match state.transport with
  | none => pure true
  | some _ => pure state.nativeClosed

def dispose (duringClose duringDelete : List NativeEvent) : ObjCpp State Unit := do
  observe .disposeStarted
  let state ← Program.get
  match state.transport with
  | none => pure ()
  | some _ =>
      let _listenerAdapter ← dereference state.listenerAdapter
      Program.modify fun state => { state with adapterDelegate := false }
      nativeClose duringClose
      deleteTransport duringDelete
      Program.modify fun state => { state with transport := none }
      deleteAdapter
      Program.modify fun state => { state with listenerAdapter := none }

/-- `dealloc`, and the release of the properties after it. -/
def dealloc (duringClose duringDelete : List NativeEvent) : ObjCpp State Unit := do
  Program.modify fun state => { state with deallocating := true }
  dispose duringClose duringDelete
  Program.modify fun state => { state with holdsFactory := false }

/-! ### Lives -/

/-- A step of a wrapper's life before `dealloc`; the events are those the native
transport emits during the step. -/
inductive Call where
  | close (emitted : List NativeEvent)
  | closed
  | dispose (duringClose duringDelete : List NativeEvent)
  | event (event : NativeEvent)
  | retainFactory
  | releaseFactory

def Call.run : Call → ObjCpp State Unit
  | .close emitted => Lifecycle.close emitted
  | .closed => do
      let answer ← Lifecycle.closed
      observe (.closedAnswer answer)
  | .dispose duringClose duringDelete => Lifecycle.dispose duringClose duringDelete
  | .event emitted => onEvent emitted
  | .retainFactory =>
      Program.modify fun state =>
        { state with otherFactoryHolders := state.otherFactoryHolders + 1 }
  | .releaseFactory =>
      Program.modify fun state =>
        { state with otherFactoryHolders := state.otherFactoryHolders - 1 }

def runCalls : List Call → ObjCpp State Unit
  | [] => pure ()
  | call :: rest => do
      call.run
      runCalls rest

def runLife (calls : List Call) (duringClose duringDelete : List NativeEvent) :
    ObjCpp State Unit := do
  runCalls calls
  dealloc duringClose duringDelete

def Call.isDispose : Call → Bool
  | .dispose _ _ => true
  | _ => false

/-- The calls the documentation allows after `dispose`, and what other holders
do with the factory. -/
def Call.mayFollowDispose : Call → Bool
  | .close _ => false
  | .event _ => false
  | _ => true

/-- Only `closed` and `dispose` follow the first `dispose`. -/
def Disciplined (calls : List Call) : Prop :=
  ∀ call ∈ (calls.dropWhile fun call => !call.isDispose), call.mayFollowDispose = true

instance (calls : List Call) : Decidable (Disciplined calls) :=
  inferInstanceAs (Decidable (∀ call ∈ (calls.dropWhile fun call => !call.isDispose),
    call.mayFollowDispose = true))

/-! ### What a life is to look like -/

def Effect.isNative : Effect → Bool
  | .nativeClose => true
  | .deleteTransport _ => true
  | .deleteAdapter => true
  | _ => false

/-- An effect that may follow the start of a `dispose`: no event goes on, and
`closed` is true. -/
def Effect.isQuiet : Effect → Bool
  | .handedOn _ => false
  | .closedAnswer answer => answer
  | _ => true

def QuietAfterDispose (effects : List Effect) : Prop :=
  ∀ effect ∈ (effects.dropWhile fun effect => effect ≠ .disposeStarted), effect.isQuiet = true

/-- At every point of the calls after a `dispose`, `closed` answers true. -/
def ClosedFromDispose (calls : List Call) (start : State) : Prop :=
  ∀ past rest, calls = past ++ rest → (∃ call ∈ past, call.isDispose = true) →
    ∃ reached, runCalls past start = (.ok (), reached) ∧ closed reached = (.ok true, reached)

/-- Some closes, then one deletion of the transport while the factory is
retained, then one deletion of the adapter. -/
def ReleasedInOrder (effects : List Effect) : Prop :=
  ∃ earlierCloses, effects.filter Effect.isNative =
    List.replicate earlierCloses .nativeClose ++
      [.nativeClose, .deleteTransport true, .deleteAdapter]

/-! ### Events -/

section Events

variable {state : State}

/-- An event adds at most its own hand-over, and none once the link is cut. -/
theorem onEvent_apply (adapterAlive : state.adapterAlive = true) (event : NativeEvent) :
    ∃ handed : List WrapperEvent,
      onEvent event state =
        (.ok (), { state with effects := state.effects ++ handed.map .handedOn }) ∧
      (state.adapterDelegate = false → handed = []) := by
  refine ⟨(state.handsOn event).toList, ?_, ?_⟩
  · unfold onEvent
    rw [Program.bind_of_ok (Program.get_apply state), if_pos adapterAlive]
    cases state.handsOn event with
    | none =>
        rw [Option.toList_none, List.map_nil, List.append_nil]
        rfl
    | some converted => rfl
  · intro cut
    have unlinked : state.handsOn event = none := by
      unfold State.handsOn
      rw [cut]
      cases event.atWrapper <;> rfl
    rw [unlinked, Option.toList_none]

private theorem emit_apply (adapterAlive : state.adapterAlive = true) (events : List NativeEvent) :
    ∃ handed : List WrapperEvent,
      emit events state =
        (.ok (), { state with effects := state.effects ++ handed.map .handedOn }) ∧
      (state.adapterDelegate = false → handed = []) := by
  induction events generalizing state with
  | nil =>
      refine ⟨[], ?_, fun _ => rfl⟩
      rw [List.map_nil, List.append_nil]
      rfl
  | cons event rest inductionHypothesis =>
      obtain ⟨first, ran, firstSilent⟩ := onEvent_apply adapterAlive event
      have aliveAfter : ({ state with
          effects := state.effects ++ first.map .handedOn } : State).adapterAlive = true :=
        adapterAlive
      obtain ⟨later, ranLater, laterSilent⟩ := inductionHypothesis aliveAfter
      refine ⟨first ++ later, ?_, ?_⟩
      · unfold emit
        rw [Program.bind_of_ok ran, ranLater, List.map_append, List.append_assoc]
      · intro cut
        rw [firstSilent cut, laterSilent cut, List.append_nil]

/-- With the link cut, native code changes nothing by its events. -/
theorem emit_of_cut (adapterAlive : state.adapterAlive = true)
    (cut : state.adapterDelegate = false) (events : List NativeEvent) :
    emit events state = (.ok (), state) := by
  obtain ⟨handed, ran, silent⟩ := emit_apply adapterAlive events
  rw [ran, silent cut, List.map_nil, List.append_nil]

end Events

/-! ### The two phases of a life -/

/-- Before the first `dispose`. -/
structure Open (state : State) : Prop where
  transport : ∃ transport, state.transport = some transport
  listenerAdapter : ∃ adapter, state.listenerAdapter = some adapter
  holdsFactory : state.holdsFactory = true
  adapterAlive : state.adapterAlive = true
  undisposed : Effect.disposeStarted ∉ state.effects
  closes : ∃ earlierCloses, state.effects.filter Effect.isNative =
    List.replicate earlierCloses .nativeClose

/-- After it. -/
structure Disposed (state : State) : Prop where
  transport : state.transport = none
  disposed : Effect.disposeStarted ∈ state.effects
  released : ReleasedInOrder state.effects
  quiet : QuietAfterDispose state.effects

private theorem open_initial (transport : Handle) (listenerAdapter : AdapterPointer)
    (otherFactoryHolders : Nat) : Open (initial transport listenerAdapter otherFactoryHolders) where
  transport := ⟨transport, rfl⟩
  listenerAdapter := ⟨listenerAdapter, rfl⟩
  holdsFactory := rfl
  adapterAlive := rfl
  undisposed := by simp [initial]
  closes := ⟨0, rfl⟩

section Phases

variable {state : State}

/-- Effects without a start of `dispose`, whose native ones are closes, keep the
phase. -/
theorem Open.append (isOpen : Open state) {effects : List Effect} {closes : Nat}
    (undisposed : Effect.disposeStarted ∉ effects)
    (native : effects.filter Effect.isNative = List.replicate closes .nativeClose) :
    Open { state with effects := state.effects ++ effects } := by
  constructor
  case transport => exact isOpen.transport
  case listenerAdapter => exact isOpen.listenerAdapter
  case holdsFactory => exact isOpen.holdsFactory
  case adapterAlive => exact isOpen.adapterAlive
  case undisposed =>
    intro member
    rcases List.mem_append.mp member with old | new
    · exact isOpen.undisposed old
    · exact undisposed new
  case closes =>
    obtain ⟨earlierCloses, earlier⟩ := isOpen.closes
    refine ⟨earlierCloses + closes, ?_⟩
    rw [List.filter_append, earlier, native, List.replicate_append_replicate]

/-- Effects that are neither native nor a start of `dispose` keep the phase. -/
theorem Open.observe (isOpen : Open state) {effects : List Effect}
    (others : ∀ effect ∈ effects, effect ≠ .disposeStarted ∧ effect.isNative = false) :
    Open { state with effects := state.effects ++ effects } := by
  have undisposed : Effect.disposeStarted ∉ effects := fun member => (others _ member).1 rfl
  have notNative : effects.filter Effect.isNative = List.replicate 0 .nativeClose := by
    apply List.filter_eq_nil_iff.mpr
    intro effect member
    rw [(others effect member).2]
    exact Bool.false_ne_true
  exact isOpen.append undisposed notNative

theorem Open.handedOn (isOpen : Open state) (handed : List WrapperEvent) :
    Open { state with effects := state.effects ++ handed.map .handedOn } := by
  apply isOpen.observe
  intro effect member
  obtain ⟨event, -, rfl⟩ := List.mem_map.mp member
  exact ⟨by simp, rfl⟩

/-- One more native close. -/
theorem Open.closedOnce (isOpen : Open state) : Open (state.log .nativeClose) := by
  have oneClose : [Effect.nativeClose].filter Effect.isNative = List.replicate 1 .nativeClose := rfl
  exact isOpen.append (by simp) oneClose

/-- Once `dispose` has started, effects that are quiet keep the log quiet. -/
theorem QuietAfterDispose.append {effects more : List Effect}
    (quiet : QuietAfterDispose effects) (started : Effect.disposeStarted ∈ effects)
    (quietToo : ∀ effect ∈ more, effect.isQuiet = true) : QuietAfterDispose (effects ++ more) := by
  intro effect member
  have notAll : ¬ ∀ effect ∈ effects, decide (effect ≠ Effect.disposeStarted) = true := by
    intro all
    have absent := all _ started
    simp at absent
  rw [List.dropWhile_append, if_neg] at member
  · rcases List.mem_append.mp member with old | new
    · exact quiet effect old
    · exact quietToo effect new
  · rw [List.isEmpty_iff, List.dropWhile_eq_nil_iff]
    exact notAll

theorem Disposed.observe (disposed : Disposed state) {effect : Effect}
    (quiet : effect.isQuiet = true) (notNative : effect.isNative = false) :
    Disposed (state.log effect) where
  transport := disposed.transport
  disposed := List.mem_append_left _ disposed.disposed
  released := by
    obtain ⟨earlierCloses, released⟩ := disposed.released
    refine ⟨earlierCloses, ?_⟩
    simp only [State.log, List.filter_append, released, List.filter_cons, notNative,
      List.filter_nil, List.append_nil, Bool.false_eq_true, if_false]
  quiet := by
    apply disposed.quiet.append disposed.disposed
    intro other member
    obtain rfl := List.mem_singleton.mp member
    exact quiet

/-! ### The calls -/

private theorem close_apply (isOpen : Open state) (emitted : List NativeEvent) :
    ∃ next, close emitted state = (.ok (), next) ∧ Open next := by
  obtain ⟨transport, present⟩ := isOpen.transport
  have adapterAlive : (state.log .nativeClose).adapterAlive = true := isOpen.adapterAlive
  obtain ⟨handed, ran, -⟩ := emit_apply adapterAlive emitted
  have after := isOpen.closedOnce.handedOn handed
  have dereferenced : dereference state.transport state = (.ok transport, state) := by
    rw [present]
    rfl
  have observed : observe .nativeClose state = (.ok (), state.log .nativeClose) := rfl
  refine ⟨{ (state.log .nativeClose) with
    effects := (state.log .nativeClose).effects ++ handed.map .handedOn, nativeClosed := true },
    ?_, after.transport, after.listenerAdapter, after.holdsFactory, after.adapterAlive,
    after.undisposed, after.closes⟩
  rw [close, Program.bind_of_ok (Program.get_apply state), Program.bind_of_ok dereferenced,
    nativeClose, Program.bind_of_ok observed, Program.bind_of_ok ran]
  rfl

/-- What `dispose` does where the native transport exists: nothing but its own
effects, whatever the native `Close` and destructor emit. -/
theorem dispose_apply (isOpen : Open state) (duringClose duringDelete : List NativeEvent) :
    dispose duringClose duringDelete state =
      (.ok (),
        { state with
          transport := none
          listenerAdapter := none
          adapterDelegate := false
          adapterAlive := false
          nativeClosed := true
          effects := state.effects ++
            [.disposeStarted, .nativeClose, .deleteTransport true, .deleteAdapter] }) := by
  obtain ⟨transport, present⟩ := isOpen.transport
  obtain ⟨adapter, adapterPresent⟩ := isOpen.listenerAdapter
  have emitted := fun (reached : State) (adapterAlive : reached.adapterAlive = true)
      (cut : reached.adapterDelegate = false) => emit_of_cut adapterAlive cut
  simp [dispose, observe, nativeClose, deleteTransport, deleteAdapter, Program.bind_apply,
    State.log, present, adapterPresent, dereference, emitted, isOpen.adapterAlive,
    State.factoryRetained, isOpen.holdsFactory]

theorem Open.disposed (isOpen : Open state) (duringClose duringDelete : List NativeEvent) :
    ∃ next, dispose duringClose duringDelete state = (.ok (), next) ∧ Disposed next := by
  let disposal : List Effect :=
    [.disposeStarted, .nativeClose, .deleteTransport true, .deleteAdapter]
  have released : ReleasedInOrder (state.effects ++ disposal) := by
    obtain ⟨earlierCloses, closes⟩ := isOpen.closes
    refine ⟨earlierCloses, ?_⟩
    rw [List.filter_append, closes]
    rfl
  have quiet : QuietAfterDispose (state.effects ++ disposal) := by
    have before : state.effects.dropWhile (fun effect => effect ≠ .disposeStarted) = [] := by
      rw [List.dropWhile_eq_nil_iff]
      intro effect member
      have different : effect ≠ .disposeStarted := by
        rintro rfl
        exact isOpen.undisposed member
      simpa using different
    intro effect member
    rw [List.dropWhile_append, before] at member
    simp [disposal] at member
    rcases member with rfl | rfl | rfl | rfl <;> rfl
  have started : Effect.disposeStarted ∈ state.effects ++ disposal := by simp [disposal]
  exact ⟨_, dispose_apply isOpen duringClose duringDelete, rfl, started, released, quiet⟩

theorem Disposed.closed_apply (disposed : Disposed state) : closed state = (.ok true, state) := by
  rw [closed, Program.bind_of_ok (Program.get_apply state), disposed.transport]
  rfl

theorem Disposed.dispose_apply (disposed : Disposed state)
    (duringClose duringDelete : List NativeEvent) :
    ∃ next, dispose duringClose duringDelete state = (.ok (), next) ∧ Disposed next := by
  refine ⟨state.log .disposeStarted, ?_, disposed.observe rfl rfl⟩
  simp [dispose, Lifecycle.observe, Program.bind_apply, State.log, disposed.transport]

/-- A call other than `dispose` keeps the phase before it. -/
theorem Open.call (isOpen : Open state) {call : Call} (notDispose : call.isDispose = false) :
    ∃ next, call.run state = (.ok (), next) ∧ Open next := by
  cases call with
  | close emitted => exact close_apply isOpen emitted
  | closed =>
      obtain ⟨transport, present⟩ := isOpen.transport
      refine ⟨state.log (.closedAnswer state.nativeClosed), ?_, isOpen.observe ?_⟩
      · simp [Call.run, closed, Lifecycle.observe, Program.bind_apply, State.log, present]
      · intro effect member
        obtain rfl := List.mem_singleton.mp member
        exact ⟨by simp, rfl⟩
  | dispose duringClose duringDelete => cases notDispose
  | event emitted =>
      obtain ⟨handed, ran, -⟩ := onEvent_apply isOpen.adapterAlive emitted
      exact ⟨_, ran, isOpen.handedOn handed⟩
  | retainFactory =>
      exact ⟨_, rfl, isOpen.transport, isOpen.listenerAdapter, isOpen.holdsFactory,
        isOpen.adapterAlive, isOpen.undisposed, isOpen.closes⟩
  | releaseFactory =>
      exact ⟨_, rfl, isOpen.transport, isOpen.listenerAdapter, isOpen.holdsFactory,
        isOpen.adapterAlive, isOpen.undisposed, isOpen.closes⟩

/-- The calls that may follow `dispose` keep the phase after it. -/
theorem Disposed.call (disposed : Disposed state) {call : Call}
    (may : call.mayFollowDispose = true) :
    ∃ next, call.run state = (.ok (), next) ∧ Disposed next := by
  cases call with
  | close emitted => cases may
  | closed =>
      refine ⟨state.log (.closedAnswer true), ?_, disposed.observe rfl rfl⟩
      rw [Call.run, Program.bind_of_ok disposed.closed_apply]
      rfl
  | dispose duringClose duringDelete => exact disposed.dispose_apply duringClose duringDelete
  | event emitted => cases may
  | retainFactory =>
      exact ⟨_, rfl, disposed.transport, disposed.disposed, disposed.released, disposed.quiet⟩
  | releaseFactory =>
      exact ⟨_, rfl, disposed.transport, disposed.disposed, disposed.released, disposed.quiet⟩

theorem Disposed.runCalls (disposed : Disposed state) {calls : List Call}
    (may : ∀ call ∈ calls, call.mayFollowDispose = true) :
    ∃ next, runCalls calls state = (.ok (), next) ∧ Disposed next := by
  induction calls generalizing state with
  | nil => exact ⟨state, rfl, disposed⟩
  | cons call rest inductionHypothesis =>
      obtain ⟨next, ran, after⟩ := disposed.call (may call List.mem_cons_self)
      obtain ⟨last, ranRest, final⟩ :=
        inductionHypothesis after fun other member => may other (List.mem_cons_of_mem _ member)
      refine ⟨last, ?_, final⟩
      unfold Lifecycle.runCalls
      rw [Program.bind_of_ok ran, ranRest]

/-- The phase that disciplined calls lead to is decided by whether one of them is
a `dispose`. -/
theorem Open.runCalls (isOpen : Open state) {calls : List Call} (disciplined : Disciplined calls) :
    ∃ next, runCalls calls state = (.ok (), next) ∧
      ((Open next ∧ ∀ call ∈ calls, call.isDispose = false) ∨ Disposed next) := by
  induction calls generalizing state with
  | nil => exact ⟨state, rfl, Or.inl ⟨isOpen, by simp⟩⟩
  | cons call rest inductionHypothesis =>
      cases isDispose : call.isDispose with
      | false =>
          have later : Disciplined rest := by
            intro other member
            apply disciplined other
            rw [List.dropWhile_cons, isDispose]
            exact member
          obtain ⟨next, ran, after⟩ := isOpen.call isDispose
          obtain ⟨last, ranRest, final⟩ := inductionHypothesis after later
          refine ⟨last, ?_, ?_⟩
          · unfold Lifecycle.runCalls
            rw [Program.bind_of_ok ran, ranRest]
          · rcases final with ⟨stillOpen, noDispose⟩ | disposed
            · exact Or.inl ⟨stillOpen, List.forall_mem_cons.mpr ⟨isDispose, noDispose⟩⟩
            · exact Or.inr disposed
      | true =>
          have later : ∀ other ∈ rest, other.mayFollowDispose = true := by
            intro other member
            apply disciplined other
            rw [List.dropWhile_cons, isDispose]
            exact List.mem_cons_of_mem _ member
          cases call with
          | dispose duringClose duringDelete =>
              obtain ⟨next, ran, disposed⟩ := isOpen.disposed duringClose duringDelete
              obtain ⟨last, ranRest, final⟩ := disposed.runCalls later
              refine ⟨last, ?_, Or.inr final⟩
              unfold Lifecycle.runCalls
              exact (Program.bind_of_ok ran).trans ranRest
          | _ => cases isDispose

/-- The first calls of disciplined calls are disciplined. -/
theorem Disciplined.before {past rest : List Call} (disciplined : Disciplined (past ++ rest)) :
    Disciplined past := by
  intro call member
  apply disciplined call
  rw [List.dropWhile_append]
  split
  case isTrue empty =>
    rw [List.isEmpty_iff.mp empty] at member
    cases member
  case isFalse => exact List.mem_append_left _ member

theorem Open.closedFromDispose (isOpen : Open state) {calls : List Call}
    (disciplined : Disciplined calls) : ClosedFromDispose calls state := by
  rintro past rest rfl ⟨call, member, isDispose⟩
  obtain ⟨reached, ran, phase⟩ := isOpen.runCalls disciplined.before
  rcases phase with ⟨-, noDispose⟩ | disposed
  · rw [noDispose call member] at isDispose
    cases isDispose
  · exact ⟨reached, ran, disposed.closed_apply⟩

/-- `dealloc` leads from either phase to the end of the life. -/
theorem dealloc_apply (phase : Open state ∨ Disposed state)
    (duringClose duringDelete : List NativeEvent) :
    ∃ last, dealloc duringClose duringDelete state = (.ok (), last) ∧
      ReleasedInOrder last.effects ∧ QuietAfterDispose last.effects := by
  have disposes : ∃ next,
      dispose duringClose duringDelete { state with deallocating := true } = (.ok (), next) ∧
        Disposed next := by
    rcases phase with isOpen | disposed
    · have deallocating : Open { state with deallocating := true } :=
        ⟨isOpen.transport, isOpen.listenerAdapter, isOpen.holdsFactory, isOpen.adapterAlive,
          isOpen.undisposed, isOpen.closes⟩
      exact deallocating.disposed duringClose duringDelete
    · have deallocating : Disposed { state with deallocating := true } :=
        ⟨disposed.transport, disposed.disposed, disposed.released, disposed.quiet⟩
      exact deallocating.dispose_apply duringClose duringDelete
  obtain ⟨next, ran, disposed⟩ := disposes
  have began : (Program.modify fun state : State => { state with deallocating := true } :
      ObjCpp State Unit) state = (.ok (), { state with deallocating := true }) := rfl
  refine ⟨{ next with holdsFactory := false }, ?_, disposed.released, disposed.quiet⟩
  unfold dealloc
  rw [Program.bind_of_ok began, Program.bind_of_ok ran]
  rfl

end Phases

/-- Every disciplined life runs to its end without a null dereference or a call
of a deleted adapter; it closes, deletes the transport once while the factory is
retained, and then deletes the adapter once; from the first start of `dispose` on
no event is handed on; and from the first `dispose` on `closed` answers true. -/
theorem life_of_disciplined (transport : Handle) (listenerAdapter : AdapterPointer)
    (otherFactoryHolders : Nat) (calls : List Call) (duringClose duringDelete : List NativeEvent)
    (disciplined : Disciplined calls) :
    ∃ last, runLife calls duringClose duringDelete
        (initial transport listenerAdapter otherFactoryHolders) = (.ok (), last) ∧
      ReleasedInOrder last.effects ∧ QuietAfterDispose last.effects ∧
      ClosedFromDispose calls (initial transport listenerAdapter otherFactoryHolders) := by
  have isOpen := open_initial transport listenerAdapter otherFactoryHolders
  obtain ⟨reached, ran, phase⟩ := isOpen.runCalls disciplined
  obtain ⟨last, deallocated, released, quiet⟩ :=
    dealloc_apply (phase.imp_left And.left) duringClose duringDelete
  refine ⟨last, ?_, released, quiet, isOpen.closedFromDispose disciplined⟩
  unfold runLife
  rw [Program.bind_of_ok ran, deallocated]

/-- A close, two disposals and a late `closed`, with an event in each native call
and no other holder of the factory: the effects of the life, and the answer
between the disposals. -/
theorem life_of_disciplined_sample :
    let emitted : NativeEvent := .sendTransportOnConnectionStateChange ⟨"closed", by decide⟩
    let calls : List Call := [.event emitted, .closed, .close [emitted],
      .dispose [emitted] [emitted], .closed, .dispose [] []]
    (∃ last, runLife calls [] [] (initial 1 0 0) = (.ok (), last) ∧
        last.effects = [.handedOn (.sendTransportOnConnectionStateChange "closed"),
          .closedAnswer false, .nativeClose,
          .handedOn (.sendTransportOnConnectionStateChange "closed"), .disposeStarted,
          .nativeClose, .deleteTransport true, .deleteAdapter, .closedAnswer true,
          .disposeStarted, .disposeStarted] ∧
        ReleasedInOrder last.effects ∧ QuietAfterDispose last.effects) ∧
      ∃ reached, runCalls (calls.take 4) (initial 1 0 0) = (.ok (), reached) ∧
        closed reached = (.ok true, reached) := by
  intro emitted calls
  obtain ⟨last, ran, released, quiet, closedFrom⟩ :=
    life_of_disciplined 1 0 0 calls [] [] (by decide)
  refine ⟨⟨last, ran, ?_, released, quiet⟩, closedFrom (calls.take 4) (calls.drop 4) rfl ?_⟩
  · cases ran
    decide
  · exact ⟨.dispose [emitted] [emitted], by simp [calls], rfl⟩

/-! ### The same `dispose` on a process -/

section Process

variable {World : Type} (library : NativeLibrary World)

/-- What an effect does to the process of the API calls. -/
def Effect.perform (transport : Handle) (listenerAdapter : AdapterPointer) :
    Effect → ObjCpp (Process World) Unit
  | .nativeClose => runNative (library.close transport)
  | .deleteTransport _ => runNative (library.delete transport)
  | .deleteAdapter => deleteListenerAdapter listenerAdapter
  | _ => pure ()

def performAll (transport : Handle) (listenerAdapter : AdapterPointer) :
    List Effect → ObjCpp (Process World) Unit
  | [] => pure ()
  | effect :: rest => do
      effect.perform library transport listenerAdapter
      performAll transport listenerAdapter rest

/-- `TransportWrapper.dispose` performs exactly the effects of this `dispose` and
leaves the same pointers. -/
theorem transportWrapper_dispose_eq {state : State} (isOpen : Open state) {self : Address}
    {process : Process World} {transport : Handle} {listenerAdapter : AdapterPointer}
    (sameTransport : (process.transportIvars self).transport = some transport)
    (sameAdapter : (process.transportIvars self).listenerAdapter = some listenerAdapter)
    (duringClose duringDelete : List NativeEvent) :
    ∃ last effects performed,
      dispose duringClose duringDelete state = (.ok (), last) ∧
      last.effects = state.effects ++ effects ∧
      performAll library transport listenerAdapter effects process = (.ok (), performed) ∧
      TransportWrapper.dispose library self process =
        (.ok (), { performed with
          transportIvars := Function.update performed.transportIvars self
            { process.transportIvars self with
              transport := last.transport
              listenerAdapter := last.listenerAdapter } }) := by
  refine ⟨_, _, _, dispose_apply isOpen duringClose duringDelete, rfl, rfl, ?_⟩
  simp [TransportWrapper.dispose, Program.bind_apply, sameTransport, sameAdapter, dereference,
    runNative, deleteListenerAdapter]

end Process

end MediasoupClientSwift.Lifecycle
