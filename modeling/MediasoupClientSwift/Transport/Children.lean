import MediasoupClientSwift.Library.Arena
import MediasoupClientSwift.Library.Machine

/-!
Owns the lifetimes of transports and their children: the native registrations
and RTP senders next to the facades the application holds, under creating,
closing, disposing and releasing them in any order, also while updates of sender
parameters run their updaters. The main result says which runs keep every
registered child alive and use no sender of a deleted transport.
-/

namespace MediasoupClientSwift.Children

open Library

inductive TransportKind where
  | send
  | receive
deriving DecidableEq, Repr

inductive ChildKind where
  | producer
  | dataProducer
  | consumer
  | dataConsumer
deriving DecidableEq, Repr

/-- The kind of transport that creates such a child. -/
def ChildKind.transportKind : ChildKind → TransportKind
  | .producer => .send
  | .dataProducer => .send
  | .consumer => .receive
  | .dataConsumer => .receive

structure Transport where
  kind : TransportKind
  /-- The application holds the facade. -/
  held : Bool
  /-- The wrapper's `_transport` is not null. -/
  hasPointer : Bool
  nativeAlive : Bool
  /-- The children whose raw pointer and listener the native transport keeps. -/
  registered : List Nat
deriving DecidableEq, Repr

structure Child where
  kind : ChildKind
  /-- The native transport that created it. -/
  transport : Nat
  /-- The native sender that a producer exposes. -/
  sender : Option Nat
  held : Bool
  closeCalled : Bool
  nativeAlive : Bool
  adapterAlive : Bool
deriving DecidableEq, Repr

structure Sender where
  transport : Nat
  alive : Bool
deriving DecidableEq, Repr

/-- A call of `updateSenderParameters` whose updater is running. It retains its
producer and keeps the sender it read. -/
structure Update where
  producer : Nat
  sender : Option Nat
deriving DecidableEq, Repr

structure State where
  transports : Arena Transport
  children : Arena Child
  senders : Arena Sender
  /-- The running updates, the last begun first. -/
  updates : List Update
deriving DecidableEq, Repr

inductive Action where
  | createTransport (kind : TransportKind)
  | createChild (kind : ChildKind) (transport : Nat)
  | closeChild (child : Nat)
  /-- `updateSenderParameters` up to the call of its updater. -/
  | beginUpdate (producer : Nat)
  /-- An updater of the producer returns, and its update goes on. -/
  | finishUpdate (producer : Nat)
  /-- Any other call on a child facade. -/
  | callChild (child : Nat)
  | releaseChild (child : Nat)
  | closeTransport (transport : Nat)
  | disposeTransport (transport : Nat)
  | releaseTransport (transport : Nat)
deriving DecidableEq, Repr

/-! ### Steps -/

/-- `Produce`, `ProduceData`, `Consume` or `ConsumeData`, and the wrapper and
facade around the result. Only a producer exposes its sender. -/
def State.createChild (state : State) (kind : ChildKind) (transport : Nat) : State :=
  let name := state.children.fresh
  let exposesSender := kind = .producer
  { state with
    transports := state.transports.modify transport fun owner =>
      { owner with registered := owner.registered ++ [name] }
    children := state.children.push
      { kind := kind
        transport := transport
        sender := if exposesSender then some state.senders.fresh else none
        held := true
        closeCalled := false
        nativeAlive := true
        adapterAlive := true }
    senders :=
      if exposesSender then state.senders.push { transport := transport, alive := true }
      else state.senders }

/-- The child's own `Close`: its transport, where it still exists, forgets it. -/
def State.closeChild (state : State) (name : Nat) (child : Child) : State :=
  { state with
    transports := state.transports.modify child.transport fun owner =>
      if owner.nativeAlive then { owner with registered := owner.registered.filter (· ≠ name) }
      else owner
    children := state.children.modify name fun child => { child with closeCalled := true } }

/-- `dealloc` of a child wrapper: it deletes the native child and the listener
adapter and does not close. -/
def State.deallocChild (state : State) (name : Nat) : State :=
  { state with
    children := state.children.modify name fun child =>
      { child with held := false, nativeAlive := false, adapterAlive := false } }

/-- `dispose` of a transport wrapper: `Close`, which calls the registered
children, and the deletion, with which the senders die. -/
def State.disposeTransport (state : State) (name : Nat) : State :=
  { state with
    transports := state.transports.modify name fun transport =>
      { transport with hasPointer := false, nativeAlive := false }
    senders := state.senders.map fun sender =>
      if sender.transport = name then { sender with alive := false } else sender }

def State.releaseFacade (state : State) (name : Nat) : State :=
  { state with
    transports := state.transports.modify name fun transport => { transport with held := false } }

/-- An update of the producer is running. -/
def State.Updating (state : State) (name : Nat) : Prop :=
  ∃ update ∈ state.updates, update.producer = name

instance (state : State) (name : Nat) : Decidable (state.Updating name) :=
  inferInstanceAs (Decidable (∃ update ∈ state.updates, update.producer = name))

/-- The call reads the producer's sender. -/
def State.beginUpdate (state : State) (name : Nat) (child : Child) : State :=
  { state with updates := { producer := name, sender := child.sender } :: state.updates }

def State.finishUpdate (state : State) (name : Nat) : State :=
  { state with updates := state.updates.eraseP fun update => update.producer = name }

/-- A step on a facade the application does not hold is refused. -/
def step (state : State) : Action → Option State
  | .createTransport kind =>
      some { state with
        transports := state.transports.push
          { kind := kind, held := true, hasPointer := true, nativeAlive := true, registered := [] } }
  | .createChild kind transport => do
      let owner ← state.transports[transport]?
      if owner.held ∧ owner.hasPointer ∧ owner.kind = kind.transportKind then
        some (state.createChild kind transport)
      else none
  | .closeChild name => do
      let child ← state.children[name]?
      if child.held then some (state.closeChild name child) else none
  | .beginUpdate name => do
      let child ← state.children[name]?
      if child.held ∧ child.kind = .producer then some (state.beginUpdate name child) else none
  | .finishUpdate name => if state.Updating name then some (state.finishUpdate name) else none
  | .callChild name => do
      let child ← state.children[name]?
      if child.held then some state else none
  | .releaseChild name => do
      let child ← state.children[name]?
      -- A running update holds its producer.
      if child.held ∧ ¬ state.Updating name then some (state.deallocChild name) else none
  | .closeTransport name => do
      let transport ← state.transports[name]?
      if transport.held ∧ transport.hasPointer then some state else none
  | .disposeTransport name => do
      let transport ← state.transports[name]?
      if transport.held then
        if transport.hasPointer then some (state.disposeTransport name) else some state
      else none
  | .releaseTransport name => do
      let transport ← state.transports[name]?
      if transport.held then
        if transport.hasPointer then some ((state.disposeTransport name).releaseFacade name)
        else some (state.releaseFacade name)
      else none

def machine : Machine State Action where
  initial := { transports := [], children := [], senders := [], updates := [] }
  step := step

/-- Everything a step can do, with the facts it checked. -/
inductive Stepped (state : State) : Action → State → Prop where
  | createTransport (kind : TransportKind) :
      Stepped state (.createTransport kind) { state with
        transports := state.transports.push
          { kind := kind, held := true, hasPointer := true, nativeAlive := true, registered := [] } }
  | createChild {kind : ChildKind} {transport : Nat} {owner : Transport}
      (found : state.transports[transport]? = some owner)
      (allowed : owner.held ∧ owner.hasPointer ∧ owner.kind = kind.transportKind) :
      Stepped state (.createChild kind transport) (state.createChild kind transport)
  | closeChild {name : Nat} {child : Child} (found : state.children[name]? = some child)
      (held : child.held) : Stepped state (.closeChild name) (state.closeChild name child)
  | beginUpdate {name : Nat} {child : Child} (found : state.children[name]? = some child)
      (allowed : child.held ∧ child.kind = .producer) :
      Stepped state (.beginUpdate name) (state.beginUpdate name child)
  | finishUpdate {name : Nat} (running : state.Updating name) :
      Stepped state (.finishUpdate name) (state.finishUpdate name)
  | callChild {name : Nat} {child : Child} (found : state.children[name]? = some child)
      (held : child.held) : Stepped state (.callChild name) state
  | releaseChild {name : Nat} {child : Child} (found : state.children[name]? = some child)
      (allowed : child.held ∧ ¬ state.Updating name) :
      Stepped state (.releaseChild name) (state.deallocChild name)
  | closeTransport {name : Nat} {transport : Transport}
      (found : state.transports[name]? = some transport)
      (allowed : transport.held ∧ transport.hasPointer) :
      Stepped state (.closeTransport name) state
  | disposeTransport {name : Nat} {transport : Transport}
      (found : state.transports[name]? = some transport) (held : transport.held)
      (pointer : transport.hasPointer) :
      Stepped state (.disposeTransport name) (state.disposeTransport name)
  | disposeAgain {name : Nat} {transport : Transport}
      (found : state.transports[name]? = some transport) (held : transport.held)
      (noPointer : ¬ transport.hasPointer) : Stepped state (.disposeTransport name) state
  | releaseTransport {name : Nat} {transport : Transport}
      (found : state.transports[name]? = some transport) (held : transport.held)
      (pointer : transport.hasPointer) :
      Stepped state (.releaseTransport name) ((state.disposeTransport name).releaseFacade name)
  | releaseDisposed {name : Nat} {transport : Transport}
      (found : state.transports[name]? = some transport) (held : transport.held)
      (noPointer : ¬ transport.hasPointer) :
      Stepped state (.releaseTransport name) (state.releaseFacade name)

theorem stepped_of_step {state next : State} {action : Action}
    (stepped : machine.step state action = some next) : Stepped state action next := by
  cases action with
  | createTransport kind =>
      obtain rfl := Option.some.inj stepped
      exact .createTransport kind
  | finishUpdate name =>
      simp only [machine, step, Option.ite_none_right_eq_some, Option.some.injEq] at stepped
      obtain ⟨running, rfl⟩ := stepped
      exact .finishUpdate running
  | disposeTransport name =>
      simp only [machine, step, Option.bind_eq_bind, Option.bind_eq_some_iff,
        Option.ite_none_right_eq_some] at stepped
      obtain ⟨transport, found, held, stepped⟩ := stepped
      by_cases pointer : transport.hasPointer = true
      · rw [if_pos pointer] at stepped
        exact Option.some.inj stepped ▸ .disposeTransport found held pointer
      · rw [if_neg pointer] at stepped
        exact Option.some.inj stepped ▸ .disposeAgain found held pointer
  | releaseTransport name =>
      simp only [machine, step, Option.bind_eq_bind, Option.bind_eq_some_iff,
        Option.ite_none_right_eq_some] at stepped
      obtain ⟨transport, found, held, stepped⟩ := stepped
      by_cases pointer : transport.hasPointer = true
      · rw [if_pos pointer] at stepped
        exact Option.some.inj stepped ▸ .releaseTransport found held pointer
      · rw [if_neg pointer] at stepped
        exact Option.some.inj stepped ▸ .releaseDisposed found held pointer
  | _ =>
      -- A lookup, one condition, and the next state.
      simp only [machine, step, Option.bind_eq_bind, Option.bind_eq_some_iff,
        Option.ite_none_right_eq_some, Option.some.injEq] at stepped
      obtain ⟨object, found, allowed, rfl⟩ := stepped
      constructor
      · exact found
      · exact allowed

theorem step_of_stepped {state next : State} {action : Action}
    (stepped : Stepped state action next) : machine.step state action = some next := by
  cases stepped with
  | createTransport kind => rfl
  | disposeTransport found held pointer => simp [machine, step, found, held, pointer]
  | disposeAgain found held noPointer => simp [machine, step, found, held, noPointer]
  | releaseTransport found held pointer => simp [machine, step, found, held, pointer]
  | releaseDisposed found held noPointer => simp [machine, step, found, held, noPointer]
  | createChild found allowed => simp [machine, step, found, allowed]
  | closeChild found held => simp [machine, step, found, held]
  | beginUpdate found allowed => simp [machine, step, found, allowed]
  | finishUpdate running => simp [machine, step, running]
  | callChild found held => simp [machine, step, found, held]
  | releaseChild found allowed => simp [machine, step, found, allowed]
  | closeTransport found allowed => simp [machine, step, found, allowed]

/-! ### What is to hold -/

/-- The native child and its listener adapter have not been deleted. -/
def State.ChildAlive (state : State) (name : Nat) : Prop :=
  ∃ child : Child, state.children[name]? = some child ∧ child.nativeAlive = true ∧
    child.adapterAlive = true

/-- Every child registered in a live native transport is alive. -/
def State.RegisteredAlive (state : State) : Prop :=
  ∀ (name : Nat) (transport : Transport), state.transports[name]? = some transport →
    transport.nativeAlive = true → ∀ child ∈ transport.registered, state.ChildAlive child

/-- The native `Close` of the transport calls no dead child. -/
def State.NotifiesAlive (state : State) (name : Nat) : Prop :=
  ∀ transport : Transport, state.transports[name]? = some transport →
    transport.nativeAlive = true → ∀ child ∈ transport.registered, state.ChildAlive child

/-- The sender that the held producer exposes belongs to a transport that exists. -/
def State.SenderAlive (state : State) (name : Nat) : Prop :=
  ∀ child : Child, state.children[name]? = some child → child.held = true →
    ∀ sender, child.sender = some sender →
      ∃ object : Sender, state.senders[sender]? = some object ∧ object.alive = true

/-- The sender that the finishing update of the producer keeps belongs to a transport
that exists. -/
def State.UpdateSenderAlive (state : State) (name : Nat) : Prop :=
  ∀ update ∈ state.updates.find? (fun update => update.producer = name),
    ∀ sender, update.sender = some sender →
      ∃ object : Sender, state.senders[sender]? = some object ∧ object.alive = true

def State.NativeAlive (state : State) (name : Nat) : Prop :=
  ∀ child : Child, state.children[name]? = some child → child.held = true →
    child.nativeAlive = true

/-- The objects a step uses are alive as it uses them: an update uses its producer
and the sender as it begins, and the sender once more as it ends. -/
def UsesAlive (state : State) : Action → Prop
  | .closeChild name => state.NativeAlive name
  | .beginUpdate name => state.NativeAlive name ∧ state.SenderAlive name
  | .finishUpdate name => state.UpdateSenderAlive name
  | .callChild name => state.NativeAlive name
  | .closeTransport name => state.NotifiesAlive name
  | .disposeTransport name => state.NotifiesAlive name
  | .releaseTransport name => state.NotifiesAlive name
  | _ => True

/-- The step uses live objects and leaves every registered child alive. -/
def Safe (state : State) (action : Action) : Prop :=
  UsesAlive state action ∧
    ∀ next, machine.step state action = some next → next.RegisteredAlive

/-- The transport's wrapper has been disposed or released. -/
def State.TransportGone (state : State) (name : Nat) : Prop :=
  ∃ transport : Transport, state.transports[name]? = some transport ∧
    transport.hasPointer = false

/-- The transport of the held producer was neither disposed nor released. -/
def State.ProducerHasTransport (state : State) (name : Nat) : Prop :=
  ∀ child : Child, state.children[name]? = some child → child.held = true →
    child.kind = .producer → ¬ state.TransportGone child.transport

/-- A child is closed before it is released, unless its transport is gone, and an
update of a producer's sender parameters begins and ends before its transport is
gone. -/
def Disciplined (state : State) : Action → Prop
  | .releaseChild name =>
      ¬ state.Updating name →
        ∀ child : Child, state.children[name]? = some child → child.held = true →
          child.closeCalled = true ∨ state.TransportGone child.transport
  | .beginUpdate name => state.ProducerHasTransport name
  | .finishUpdate name => state.Updating name → state.ProducerHasTransport name
  | _ => True

/-! ### The invariant -/

/-- The wrapper has its pointer as long as the native transport exists, and that
transport keeps exactly the children created on it that were not closed. -/
def TransportLinked (state : State) (name : Nat) (transport : Transport) : Prop :=
  transport.nativeAlive = transport.hasPointer ∧
    (transport.nativeAlive = true → ∀ child, child ∈ transport.registered ↔
      ∃ object : Child, state.children[child]? = some object ∧ object.transport = name ∧
        object.closeCalled = false)

/-- Native child and adapter live as long as the facade is held; exactly the
producers expose a sender, one of their transport's. -/
def ChildLinked (state : State) (_name : Nat) (child : Child) : Prop :=
  child.nativeAlive = child.held ∧ child.adapterAlive = child.held ∧
    (∃ owner : Transport, state.transports[child.transport]? = some owner) ∧
    (child.kind = .producer ↔ child.sender.isSome = true) ∧
    ∀ sender, child.sender = some sender →
      ∃ object : Sender, state.senders[sender]? = some object ∧ object.transport = child.transport

/-- A sender lives as long as its transport. -/
def SenderLinked (state : State) (_name : Nat) (sender : Sender) : Prop :=
  ∃ owner : Transport, state.transports[sender.transport]? = some owner ∧
    sender.alive = owner.nativeAlive

/-- A running update holds its producer and keeps that producer's sender. -/
def UpdateLinked (state : State) (update : Update) : Prop :=
  ∃ child : Child, state.children[update.producer]? = some child ∧ child.held = true ∧
    child.kind = .producer ∧ update.sender = child.sender

structure Consistent (state : State) : Prop where
  transports : Arena.All (TransportLinked state) state.transports
  children : Arena.All (ChildLinked state) state.children
  senders : Arena.All (SenderLinked state) state.senders
  updates : ∀ update ∈ state.updates, UpdateLinked state update

theorem consistent_initial : Consistent machine.initial where
  transports := Arena.All.empty
  children := Arena.All.empty
  senders := Arena.All.empty
  updates := by simp [machine]

/-- The child was created on the transport and has not been closed. -/
def State.OpenOn (state : State) (transport child : Nat) : Prop :=
  ∃ object : Child, state.children[child]? = some object ∧ object.transport = transport ∧
    object.closeCalled = false

/-! ### Keeping it -/

/-- The transports still stand under their names, as alive as they were. -/
def TransportsKept (state next : State) : Prop :=
  ∀ (name : Nat) (owner : Transport), state.transports[name]? = some owner →
    ∃ kept : Transport, next.transports[name]? = some kept ∧ kept.nativeAlive = owner.nativeAlive

theorem ChildLinked.keep {state next : State} {name : Nat} {child : Child}
    (linked : ChildLinked state name child)
    (transports : ∀ (name : Nat) (owner : Transport), state.transports[name]? = some owner →
      ∃ kept : Transport, next.transports[name]? = some kept)
    (senders : ∀ (name : Nat) (sender : Sender), state.senders[name]? = some sender →
      ∃ kept : Sender, next.senders[name]? = some kept ∧ kept.transport = sender.transport) :
    ChildLinked next name child := by
  obtain ⟨native, adapter, ⟨owner, foundOwner⟩, producer, ownSender⟩ := linked
  refine ⟨native, adapter, transports _ owner foundOwner, producer, ?_⟩
  intro sender same
  obtain ⟨object, foundObject, ofTransport⟩ := ownSender sender same
  obtain ⟨kept, foundKept, sameTransport⟩ := senders sender object foundObject
  exact ⟨kept, foundKept, sameTransport.trans ofTransport⟩

theorem SenderLinked.keep {state next : State} {name : Nat} {sender : Sender}
    (linked : SenderLinked state name sender) (transports : TransportsKept state next) :
    SenderLinked next name sender := by
  obtain ⟨owner, foundOwner, alive⟩ := linked
  obtain ⟨kept, foundKept, sameAlive⟩ := transports _ owner foundOwner
  exact ⟨kept, foundKept, alive.trans sameAlive.symm⟩

theorem UpdateLinked.keep {state next : State} {update : Update}
    (linked : UpdateLinked state update)
    (children : ∀ child : Child, state.children[update.producer]? = some child →
      ∃ kept : Child, next.children[update.producer]? = some kept ∧ kept.held = child.held ∧
        kept.kind = child.kind ∧ kept.sender = child.sender) :
    UpdateLinked next update := by
  obtain ⟨child, found, held, producer, sender⟩ := linked
  obtain ⟨kept, foundKept, sameHeld, sameKind, sameSender⟩ := children child found
  exact ⟨kept, foundKept, sameHeld.trans held, sameKind.trans producer,
    sender.trans sameSender.symm⟩

theorem TransportLinked.keep {state next : State} {name : Nat} {transport : Transport}
    (linked : TransportLinked state name transport)
    (children : ∀ child, next.OpenOn name child ↔ state.OpenOn name child) :
    TransportLinked next name transport :=
  ⟨linked.1, fun alive child => (linked.2 alive child).trans (children child).symm⟩

section Steps

variable {state : State}

private theorem transportsKept_modify {changed : Nat} {change : Transport → Transport}
    {next : State} (modified : next.transports = state.transports.modify changed change)
    (aliveKept : ∀ transport, (change transport).nativeAlive = transport.nativeAlive) :
    TransportsKept state next := by
  intro name owner found
  rw [modified]
  exact Arena.exists_getElem?_modify
    (fun now before : Transport => now.nativeAlive = before.nativeAlive) changed change found rfl
    fun _ => aliveKept owner

private theorem transportsExist {next : State} (kept : TransportsKept state next) (name : Nat)
    (owner : Transport) (found : state.transports[name]? = some owner) :
    ∃ kept : Transport, next.transports[name]? = some kept := by
  obtain ⟨same, foundSame, -⟩ := kept name owner found
  exact ⟨same, foundSame⟩

private theorem openOn_createChild_iff {kind : ChildKind} {transport name child : Nat} :
    (state.createChild kind transport).OpenOn name child ↔
      state.OpenOn name child ∨ (name = transport ∧ child = state.children.fresh) := by
  constructor
  · rintro ⟨object, found, own, isOpen⟩
    rcases Arena.getElem?_push_cases found with ⟨isFresh, rfl⟩ | old
    · exact Or.inr ⟨own.symm, isFresh⟩
    · exact Or.inl ⟨object, old, own, isOpen⟩
  · rintro (⟨object, found, own, isOpen⟩ | ⟨rfl, rfl⟩)
    · exact ⟨object, Arena.getElem?_push_of_some found, own, isOpen⟩
    · exact ⟨_, Arena.getElem?_push_fresh _ _, rfl, rfl⟩

private theorem openOn_closeChild_iff {name transport other : Nat} {child : Child} :
    (state.closeChild name child).OpenOn transport other ↔
      state.OpenOn transport other ∧ other ≠ name := by
  by_cases same : other = name
  · subst same
    apply iff_of_false
    · rintro ⟨object, found, -, isOpen⟩
      rcases Arena.getElem?_modify_cases found with ⟨-, old, -, rfl⟩ | ⟨different, -⟩
      · cases isOpen
      · exact different rfl
    · exact fun both => both.2 rfl
  · unfold State.OpenOn
    simp only [State.closeChild, Arena.getElem?_modify_of_ne _ same]
    exact (and_iff_left same).symm

private theorem openOn_deallocChild_iff {name transport other : Nat} :
    (state.deallocChild name).OpenOn transport other ↔ state.OpenOn transport other := by
  constructor
  · rintro ⟨object, found, own, isOpen⟩
    obtain ⟨old, present, sameOwn, sameOpen⟩ := Arena.exists_of_getElem?_modify
      (fun old object : Child =>
        old.transport = object.transport ∧ old.closeCalled = object.closeCalled)
      found (fun _ => ⟨rfl, rfl⟩) fun _ => ⟨rfl, rfl⟩
    exact ⟨old, present, sameOwn.trans own, sameOpen.trans isOpen⟩
  · rintro ⟨object, found, own, isOpen⟩
    obtain ⟨kept, foundKept, sameOwn, sameOpen⟩ := Arena.exists_getElem?_modify
      (fun now before : Child =>
        now.transport = before.transport ∧ now.closeCalled = before.closeCalled) name
      (fun child : Child =>
        { child with held := false, nativeAlive := false, adapterAlive := false })
      found ⟨rfl, rfl⟩ fun _ => ⟨rfl, rfl⟩
    exact ⟨kept, foundKept, sameOwn.trans own, sameOpen.trans isOpen⟩

theorem Consistent.createTransport (consistent : Consistent state) (kind : TransportKind) :
    Consistent { state with
      transports := state.transports.push
        { kind := kind, held := true, hasPointer := true, nativeAlive := true,
          registered := [] } } := by
  have kept : TransportsKept state { state with
      transports := state.transports.push
        { kind := kind, held := true, hasPointer := true, nativeAlive := true,
          registered := [] } } :=
    fun name owner found => ⟨owner, Arena.getElem?_push_of_some found, rfl⟩
  constructor
  case transports =>
    refine Arena.All.push consistent.transports ⟨rfl, fun _ child => ?_⟩
    apply iff_of_false List.not_mem_nil
    rintro ⟨object, found, ofFresh, -⟩
    obtain ⟨-, -, ⟨owner, foundOwner⟩, -⟩ := consistent.children child object found
    exact Arena.ne_fresh_of_getElem? foundOwner ofFresh
  case children =>
    exact consistent.children.mono fun name child _ linked =>
      linked.keep (transportsExist kept) fun _ sender found => ⟨sender, found, rfl⟩
  case senders =>
    exact consistent.senders.mono fun name sender _ linked => linked.keep kept
  case updates => exact consistent.updates

theorem Consistent.createChild (consistent : Consistent state) {kind : ChildKind}
    {transport : Nat} {owner : Transport} (found : state.transports[transport]? = some owner)
    (pointer : owner.hasPointer = true) : Consistent (state.createChild kind transport) := by
  have kept : TransportsKept state (state.createChild kind transport) :=
    transportsKept_modify rfl fun _ => rfl
  have senderKept : ∀ (name : Nat) (sender : Sender), state.senders[name]? = some sender →
      (state.createChild kind transport).senders[name]? = some sender := by
    intro name sender foundSender
    simp only [State.createChild]
    split
    · exact Arena.getElem?_push_of_some foundSender
    · exact foundSender
  constructor
  case transports =>
    intro name object lookup
    rcases Arena.getElem?_modify_cases lookup with ⟨rfl, old, present, rfl⟩ | ⟨other, present⟩
    · obtain ⟨samePointer, registered⟩ := consistent.transports name old present
      refine ⟨samePointer, fun alive child => ?_⟩
      have before : child ∈ old.registered ↔ state.OpenOn name child := registered alive child
      rw [List.mem_append, List.mem_singleton, before]
      exact (openOn_createChild_iff.trans (or_congr_right (and_iff_right rfl))).symm
    · apply (consistent.transports name object present).keep
      intro child
      exact openOn_createChild_iff.trans (or_iff_left fun both => other both.1)
  case children =>
    apply Arena.All.push
    · exact consistent.children.mono fun name child _ linked =>
        linked.keep (transportsExist kept) fun sender object foundSender =>
          ⟨object, senderKept sender object foundSender, rfl⟩
    · refine ⟨rfl, rfl, transportsExist kept transport owner found, ?_, ?_⟩
      · by_cases producer : kind = .producer <;> simp [producer]
      · intro sender same
        by_cases producer : kind = .producer
        · simp only [producer, if_true, Option.some.injEq] at same
          subst same
          refine ⟨{ transport := transport, alive := true }, ?_, rfl⟩
          simp only [State.createChild, producer, if_true]
          exact Arena.getElem?_push_fresh _ _
        · simp [producer] at same
  case senders =>
    intro name sender lookup
    have cases : sender = { transport := transport, alive := true } ∨
        state.senders[name]? = some sender := by
      simp only [State.createChild] at lookup
      split at lookup
      · rcases Arena.getElem?_push_cases lookup with ⟨-, new⟩ | old
        · exact Or.inl new
        · exact Or.inr old
      · exact Or.inr lookup
    rcases cases with rfl | old
    · obtain ⟨same, foundSame, alive⟩ := kept transport owner found
      refine ⟨same, foundSame, ?_⟩
      rw [alive, (consistent.transports transport owner found).1, pointer]
    · exact (consistent.senders name sender old).keep kept
  case updates =>
    intro update running
    apply (consistent.updates update running).keep
    exact fun child foundChild => ⟨child, Arena.getElem?_push_of_some foundChild, rfl, rfl, rfl⟩

theorem Consistent.closeChild (consistent : Consistent state) {name : Nat} {child : Child}
    (found : state.children[name]? = some child) : Consistent (state.closeChild name child) := by
  have kept : TransportsKept state (state.closeChild name child) := by
    apply transportsKept_modify rfl
    intro transport
    split <;> rfl
  constructor
  case transports =>
    intro transport object lookup
    rcases Arena.getElem?_modify_cases lookup with ⟨rfl, old, present, rfl⟩ | ⟨other, present⟩
    · obtain ⟨samePointer, registered⟩ := consistent.transports _ old present
      by_cases alive : old.nativeAlive = true
      · rw [if_pos alive]
        refine ⟨samePointer, fun _ otherChild => ?_⟩
        have before : otherChild ∈ old.registered ↔ state.OpenOn child.transport otherChild :=
          registered alive otherChild
        rw [List.mem_filter, decide_eq_true_eq, before]
        exact openOn_closeChild_iff.symm
      · rw [if_neg alive]
        exact ⟨samePointer, fun isAlive => absurd isAlive alive⟩
    · apply (consistent.transports transport object present).keep
      intro otherChild
      apply openOn_closeChild_iff.trans
      apply and_iff_left_of_imp
      rintro ⟨own, foundOwn, ofTransport, -⟩ rfl
      obtain rfl : child = own := Option.some.inj (found.symm.trans foundOwn)
      exact other ofTransport.symm
  case children =>
    apply Arena.All.modify
    · exact consistent.children.mono fun _ _ _ linked =>
        linked.keep (transportsExist kept) fun _ sender foundSender => ⟨sender, foundSender, rfl⟩
    · exact fun _ _ linked => linked
  case senders => exact consistent.senders.mono fun _ _ _ linked => linked.keep kept
  case updates =>
    intro update running
    apply (consistent.updates update running).keep
    intro old foundOld
    exact Arena.exists_getElem?_modify
      (fun now before : Child =>
        now.held = before.held ∧ now.kind = before.kind ∧ now.sender = before.sender)
      name _ foundOld ⟨rfl, rfl, rfl⟩ fun _ => ⟨rfl, rfl, rfl⟩

/-- Deallocating a child changes no registration: it is not closed. -/
theorem Consistent.deallocChild (consistent : Consistent state) {name : Nat}
    (unused : ¬ state.Updating name) : Consistent (state.deallocChild name) := by
  constructor
  case transports =>
    exact consistent.transports.mono fun _ _ _ linked =>
      linked.keep fun _ => openOn_deallocChild_iff
  case children =>
    apply Arena.All.modify consistent.children
    intro child _ linked
    obtain ⟨-, -, linked⟩ := linked
    exact ⟨rfl, rfl, linked⟩
  case senders => exact consistent.senders
  case updates =>
    intro update running
    apply (consistent.updates update running).keep
    intro child found
    have other : update.producer ≠ name := fun same => unused ⟨update, running, same⟩
    exact ⟨child, (Arena.getElem?_modify_of_ne _ other).trans found, rfl, rfl, rfl⟩

theorem Consistent.disposeTransport (consistent : Consistent state) (name : Nat) :
    Consistent (state.disposeTransport name) := by
  have transports : ∀ (other : Nat) (owner : Transport), state.transports[other]? = some owner →
      (state.disposeTransport name).transports[other]? =
        some (if other = name then { owner with hasPointer := false, nativeAlive := false }
          else owner) := by
    intro other owner found
    by_cases same : other = name
    · subst same
      simp only [State.disposeTransport, Arena.getElem?_modify_self, found, Option.map_some,
        if_true]
    · simp only [State.disposeTransport, Arena.getElem?_modify_of_ne _ same, found, same, if_false]
  constructor
  case transports =>
    apply Arena.All.modify consistent.transports
    intro transport _ linked
    exact ⟨rfl, fun alive => by cases alive⟩
  case children =>
    refine consistent.children.mono fun _ child _ linked => linked.keep ?_ ?_
    · exact fun other owner found => ⟨_, transports other owner found⟩
    · intro other sender found
      refine ⟨if sender.transport = name then { sender with alive := false } else sender, ?_, ?_⟩
      · simp only [State.disposeTransport, List.getElem?_map, found, Option.map_some]
      · split <;> rfl
  case senders =>
    intro other sender lookup
    simp only [State.disposeTransport, List.getElem?_map, Option.map_eq_some_iff] at lookup
    obtain ⟨old, present, rfl⟩ := lookup
    obtain ⟨owner, foundOwner, alive⟩ := consistent.senders other old present
    by_cases same : old.transport = name
    · rw [if_pos same]
      refine ⟨_, transports old.transport owner foundOwner, ?_⟩
      rw [if_pos same]
    · rw [if_neg same]
      refine ⟨_, transports old.transport owner foundOwner, ?_⟩
      rw [if_neg same]
      exact alive
  case updates => exact consistent.updates

theorem Consistent.releaseFacade (consistent : Consistent state) (name : Nat) :
    Consistent (state.releaseFacade name) := by
  have kept : TransportsKept state (state.releaseFacade name) :=
    transportsKept_modify rfl fun _ => rfl
  constructor
  case transports => exact Arena.All.modify consistent.transports fun _ _ linked => linked
  case children =>
    exact consistent.children.mono fun _ _ _ linked =>
      linked.keep (transportsExist kept) fun _ sender found => ⟨sender, found, rfl⟩
  case senders => exact consistent.senders.mono fun _ _ _ linked => linked.keep kept
  case updates => exact consistent.updates

theorem Consistent.beginUpdate (consistent : Consistent state) {name : Nat} {child : Child}
    (found : state.children[name]? = some child)
    (allowed : child.held = true ∧ child.kind = .producer) :
    Consistent (state.beginUpdate name child) where
  transports := consistent.transports
  children := consistent.children
  senders := consistent.senders
  updates := List.forall_mem_cons.mpr
    ⟨⟨child, found, allowed.1, allowed.2, rfl⟩, consistent.updates⟩

theorem Consistent.finishUpdate (consistent : Consistent state) (name : Nat) :
    Consistent (state.finishUpdate name) where
  transports := consistent.transports
  children := consistent.children
  senders := consistent.senders
  updates := fun update running => consistent.updates update (List.mem_of_mem_eraseP running)

end Steps

theorem consistent_step {state next : State} {action : Action} (consistent : Consistent state)
    (stepped : machine.step state action = some next) : Consistent next := by
  cases stepped_of_step stepped with
  | createTransport kind => exact consistent.createTransport kind
  | createChild found allowed => exact consistent.createChild found allowed.2.1
  | closeChild found held => exact consistent.closeChild found
  | beginUpdate found allowed => exact consistent.beginUpdate found allowed
  | finishUpdate running => exact consistent.finishUpdate _
  | callChild found held => exact consistent
  | releaseChild found allowed => exact consistent.deallocChild allowed.2
  | closeTransport found allowed => exact consistent
  | disposeTransport found held pointer => exact consistent.disposeTransport _
  | disposeAgain found held noPointer => exact consistent
  | releaseTransport found held pointer => exact (consistent.disposeTransport _).releaseFacade _
  | releaseDisposed found held noPointer => exact consistent.releaseFacade _

/-! ### Released children -/

/-- Every released child was closed, or its transport is gone. -/
def ReleasedClosed (state : State) : Prop :=
  ∀ (name : Nat) (child : Child), state.children[name]? = some child → child.held = false →
    child.closeCalled = true ∨ state.TransportGone child.transport

/-- In facade terms: no registered child is dead exactly when every released one
was closed or its transport is gone. -/
theorem registeredAlive_iff {state : State} (consistent : Consistent state) :
    state.RegisteredAlive ↔ ReleasedClosed state := by
  constructor
  · intro registeredAlive name child found released
    obtain ⟨native, -, ⟨owner, foundOwner⟩, -⟩ := consistent.children name child found
    obtain ⟨pointer, registered⟩ := consistent.transports child.transport owner foundOwner
    by_cases closed : child.closeCalled = true
    · exact Or.inl closed
    · refine Or.inr ⟨owner, foundOwner, ?_⟩
      rw [← pointer]
      by_contra alive
      have isAlive : owner.nativeAlive = true := by simpa using alive
      have member := (registered isAlive name).mpr ⟨child, found, rfl, by simpa using closed⟩
      obtain ⟨same, foundSame, nativeAlive, -⟩ :=
        registeredAlive child.transport owner foundOwner isAlive name member
      obtain rfl : child = same := Option.some.inj (found.symm.trans foundSame)
      rw [native, released] at nativeAlive
      cases nativeAlive
  · intro releasedClosed name transport found alive child member
    obtain ⟨pointer, registered⟩ := consistent.transports name transport found
    obtain ⟨object, foundObject, rfl, isOpen⟩ := (registered alive child).mp member
    obtain ⟨native, adapter, -⟩ := consistent.children child object foundObject
    have held : object.held = true := by
      by_contra notHeld
      rcases releasedClosed child object foundObject (by simpa using notHeld) with closed | gone
      · rw [isOpen] at closed
        cases closed
      · obtain ⟨owner, foundOwner, noPointer⟩ := gone
        obtain rfl : transport = owner := Option.some.inj (found.symm.trans foundOwner)
        rw [pointer, noPointer] at alive
        cases alive
    exact ⟨object, foundObject, native.trans held, adapter.trans held⟩

/-- A transport that is gone stays gone, and a close is not undone. -/
theorem ReleasedClosed.keep {state next : State} (releasedClosed : ReleasedClosed state)
    (gone : ∀ name, state.TransportGone name → next.TransportGone name)
    (children : ∀ (name : Nat) (child : Child), next.children[name]? = some child →
      child.held = false →
      (child.closeCalled = true ∨ next.TransportGone child.transport) ∨
        ∃ old : Child, state.children[name]? = some old ∧ old.held = false ∧
          old.transport = child.transport ∧
          (old.closeCalled = true → child.closeCalled = true)) :
    ReleasedClosed next := by
  intro name child found released
  rcases children name child found released with done | ⟨old, present, oldReleased, same, closed⟩
  · exact done
  · rcases releasedClosed name old present oldReleased with oldClosed | oldGone
    · exact Or.inl (closed oldClosed)
    · exact Or.inr (same ▸ gone _ oldGone)

private theorem transportGone_modify {state next : State} {changed : Nat}
    {change : Transport → Transport}
    (modified : next.transports = state.transports.modify changed change)
    (pointerKept : ∀ transport, transport.hasPointer = false →
      (change transport).hasPointer = false)
    (name : Nat) (gone : state.TransportGone name) : next.TransportGone name := by
  obtain ⟨transport, found, noPointer⟩ := gone
  unfold State.TransportGone
  rw [modified]
  exact Arena.exists_getElem?_modify
    (fun now _ : Transport => now.hasPointer = false) changed change found noPointer
    fun _ => pointerKept transport noPointer

/-- Steps that leave the children as they were. -/
theorem ReleasedClosed.keepChildren {state next : State} (releasedClosed : ReleasedClosed state)
    (gone : ∀ name, state.TransportGone name → next.TransportGone name)
    (same : next.children = state.children) : ReleasedClosed next := by
  apply releasedClosed.keep gone
  intro name child found released
  rw [same] at found
  exact Or.inr ⟨child, found, released, rfl, fun closed => closed⟩

theorem ReleasedClosed.releaseFacade {state : State} (releasedClosed : ReleasedClosed state)
    (name : Nat) : ReleasedClosed (state.releaseFacade name) :=
  releasedClosed.keepChildren (transportGone_modify rfl fun _ noPointer => noPointer) rfl

theorem ReleasedClosed.disposeTransport {state : State} (releasedClosed : ReleasedClosed state)
    (name : Nat) : ReleasedClosed (state.disposeTransport name) :=
  releasedClosed.keepChildren (transportGone_modify rfl fun _ _ => rfl) rfl

theorem releasedClosed_step {state next : State} {action : Action}
    (releasedClosed : ReleasedClosed state) (disciplined : Disciplined state action)
    (stepped : machine.step state action = some next) : ReleasedClosed next := by
  cases stepped_of_step stepped with
  | createTransport kind =>
      refine releasedClosed.keepChildren ?_ rfl
      intro name gone
      obtain ⟨transport, found, noPointer⟩ := gone
      exact ⟨transport, Arena.getElem?_push_of_some found, noPointer⟩
  | createChild found allowed =>
      refine releasedClosed.keep (transportGone_modify rfl fun _ noPointer => noPointer) ?_
      intro name child foundChild released
      rcases Arena.getElem?_push_cases foundChild with ⟨-, rfl⟩ | old
      · cases released
      · exact Or.inr ⟨child, old, released, rfl, fun closed => closed⟩
  | closeChild found held =>
      refine releasedClosed.keep (transportGone_modify rfl ?_) ?_
      · intro transport noPointer
        split <;> exact noPointer
      intro other otherChild foundChild released
      rcases Arena.getElem?_modify_cases foundChild with ⟨rfl, old, present, rfl⟩ | ⟨-, old⟩
      · exact Or.inl (Or.inl rfl)
      · exact Or.inr ⟨otherChild, old, released, rfl, fun closed => closed⟩
  | beginUpdate found allowed => exact releasedClosed.keepChildren (fun _ gone => gone) rfl
  | finishUpdate running => exact releasedClosed.keepChildren (fun _ gone => gone) rfl
  | callChild found held => exact releasedClosed
  | releaseChild found allowed =>
      refine releasedClosed.keep (fun _ gone => gone) ?_
      intro other otherChild foundChild released
      rcases Arena.getElem?_modify_cases foundChild with ⟨rfl, old, present, rfl⟩ | ⟨-, old⟩
      · have oldHeld : old.held = true := by
          rw [found, Option.some.injEq] at present
          exact present ▸ allowed.1
        exact Or.inl (disciplined allowed.2 old present oldHeld)
      · exact Or.inr ⟨otherChild, old, released, rfl, fun closed => closed⟩
  | closeTransport found allowed => exact releasedClosed
  | disposeTransport found held pointer => exact releasedClosed.disposeTransport _
  | disposeAgain found held noPointer => exact releasedClosed
  | releaseTransport found held pointer =>
      exact (releasedClosed.disposeTransport _).releaseFacade _
  | releaseDisposed found held noPointer => exact releasedClosed.releaseFacade _

/-! ### The steps -/

theorem Consistent.nativeAlive {state : State} (consistent : Consistent state) (name : Nat) :
    state.NativeAlive name := by
  intro child found held
  exact (consistent.children name child found).1.trans held

/-- The sender of a held producer is alive exactly while its transport is not gone. -/
theorem Consistent.senderAlive_iff {state : State} (consistent : Consistent state) (name : Nat) :
    state.SenderAlive name ↔ state.ProducerHasTransport name := by
  constructor
  · rintro senderAlive child found held producer ⟨owner, foundOwner, noPointer⟩
    obtain ⟨-, -, -, exposes, ownSender⟩ := consistent.children name child found
    obtain ⟨sender, same⟩ := Option.isSome_iff_exists.mp (exposes.mp producer)
    obtain ⟨object, foundObject, alive⟩ := senderAlive child found held sender same
    obtain ⟨linked, foundLinked, ofTransport⟩ := ownSender sender same
    obtain rfl : object = linked := Option.some.inj (foundObject.symm.trans foundLinked)
    obtain ⟨ownerOfSender, foundOwnerOfSender, sameAlive⟩ :=
      consistent.senders sender object foundObject
    rw [ofTransport] at foundOwnerOfSender
    obtain rfl : owner = ownerOfSender :=
      Option.some.inj (foundOwner.symm.trans foundOwnerOfSender)
    rw [sameAlive, (consistent.transports _ owner foundOwner).1, noPointer] at alive
    cases alive
  · intro disciplined child found held sender same
    obtain ⟨-, -, -, exposes, ownSender⟩ := consistent.children name child found
    have producer : child.kind = .producer := exposes.mpr (by rw [same]; rfl)
    obtain ⟨object, foundObject, ofTransport⟩ := ownSender sender same
    refine ⟨object, foundObject, ?_⟩
    obtain ⟨owner, foundOwner, sameAlive⟩ := consistent.senders sender object foundObject
    rw [ofTransport] at foundOwner
    rw [sameAlive, (consistent.transports _ owner foundOwner).1]
    by_contra noPointer
    exact disciplined child found held producer ⟨owner, foundOwner, by simpa using noPointer⟩

/-- The finishing update keeps the sender its producer exposes. -/
theorem Consistent.updateSenderAlive_iff {state : State} (consistent : Consistent state)
    {name : Nat} (running : state.Updating name) :
    state.UpdateSenderAlive name ↔ state.ProducerHasTransport name := by
  rw [← consistent.senderAlive_iff]
  have isSome : (state.updates.find? fun update => update.producer = name).isSome = true := by
    obtain ⟨update, member, own⟩ := running
    exact List.find?_isSome.mpr ⟨update, member, decide_eq_true own⟩
  obtain ⟨update, finishing⟩ := Option.isSome_iff_exists.mp isSome
  have own : update.producer = name := by simpa using List.find?_some finishing
  obtain ⟨child, found, held, -, sameSender⟩ :=
    consistent.updates update (List.mem_of_find?_eq_some finishing)
  rw [own] at found
  constructor
  · intro alive other foundOther _ sender exposes
    obtain rfl : child = other := Option.some.inj (found.symm.trans foundOther)
    exact alive update finishing sender (sameSender.trans exposes)
  · intro alive other isFinishing sender keeps
    obtain rfl : update = other := Option.some.inj (finishing.symm.trans isFinishing)
    exact alive child found held sender (sameSender.symm.trans keeps)

/-- A disciplined step from a state without dead registrations is safe. -/
theorem safe_of_disciplined {state : State} {action : Action}
    (invariant : Consistent state ∧ ReleasedClosed state)
    (disciplined : Disciplined state action) : Safe state action := by
  obtain ⟨consistent, releasedClosed⟩ := invariant
  have registeredAlive := (registeredAlive_iff consistent).mpr releasedClosed
  refine ⟨?_, fun next stepped => ?_⟩
  · cases action with
    | closeChild name => exact consistent.nativeAlive name
    | beginUpdate name =>
        exact ⟨consistent.nativeAlive name, (consistent.senderAlive_iff name).mpr disciplined⟩
    | finishUpdate name =>
        intro update finishing
        have own : update.producer = name := by simpa using List.find?_some finishing
        have running : state.Updating name :=
          ⟨update, List.mem_of_find?_eq_some finishing, own⟩
        exact (consistent.updateSenderAlive_iff running).mpr (disciplined running) update finishing
    | callChild name => exact consistent.nativeAlive name
    | closeTransport name => exact registeredAlive name
    | disposeTransport name => exact registeredAlive name
    | releaseTransport name => exact registeredAlive name
    | createTransport kind => trivial
    | createChild kind transport => trivial
    | releaseChild name => trivial
  · exact (registeredAlive_iff (consistent_step consistent stepped)).mpr
      (releasedClosed_step releasedClosed disciplined stepped)

/-- A safe step is disciplined. -/
theorem disciplined_of_safe {state : State} {action : Action} (consistent : Consistent state)
    (safe : Safe state action) : Disciplined state action := by
  obtain ⟨uses, leaves⟩ := safe
  cases action with
  | beginUpdate name => exact (consistent.senderAlive_iff name).mp uses.2
  | finishUpdate name => exact fun running => (consistent.updateSenderAlive_iff running).mp uses
  | releaseChild name =>
      intro unused child found held
      have stepped : machine.step state (.releaseChild name) = some (state.deallocChild name) :=
        step_of_stepped (.releaseChild found ⟨held, unused⟩)
      have releasedClosed :=
        (registeredAlive_iff (consistent_step consistent stepped)).mp (leaves _ stepped)
      have released : (state.deallocChild name).children[name]? =
          some { child with held := false, nativeAlive := false, adapterAlive := false } := by
        simp only [State.deallocChild, Arena.getElem?_modify_self, found, Option.map_some]
      have outcome := releasedClosed name _ released rfl
      exact outcome
  | _ => trivial

/-- In every run, all steps are safe exactly when every released child was closed
first or its transport is gone, and every update of sender parameters begins and
ends before that. -/
theorem children_safe_iff (actions : List Action) :
    machine.EachStep Safe machine.initial actions ↔
      machine.EachStep Disciplined machine.initial actions := by
  constructor
  · intro safe
    have kept : ∀ state action next, Consistent state → Safe state action →
        machine.step state action = some next → Consistent next :=
      fun _ _ _ consistent _ stepped => consistent_step consistent stepped
    exact Machine.eachStep_of_invariant kept
      (fun _ _ consistent safeStep => disciplined_of_safe consistent safeStep)
      consistent_initial safe
  · intro disciplined
    have kept : ∀ state action next, Consistent state ∧ ReleasedClosed state →
        Disciplined state action → machine.step state action = some next →
        Consistent next ∧ ReleasedClosed next :=
      fun _ _ _ invariant disciplinedStep stepped =>
        ⟨consistent_step invariant.1 stepped,
          releasedClosed_step invariant.2 disciplinedStep stepped⟩
    refine Machine.eachStep_of_invariant kept
      (fun _ _ invariant disciplinedStep => safe_of_disciplined invariant disciplinedStep)
      ⟨consistent_initial, ?_⟩ disciplined
    intro name child found
    simp [machine] at found

/-- A producer released while its transport lives, a producer updated after its
transport was disposed, and a producer whose updater disposes the transport. -/
theorem unsafe_lifetimes_counterexample :
    ¬ machine.EachStep Safe machine.initial
        [.createTransport .send, .createChild .producer 0, .releaseChild 0, .closeTransport 0] ∧
      ¬ machine.EachStep Safe machine.initial
        [.createTransport .send, .createChild .producer 0, .disposeTransport 0,
          .beginUpdate 0] ∧
      ¬ machine.EachStep Safe machine.initial
        [.createTransport .send, .createChild .producer 0, .beginUpdate 0, .disposeTransport 0,
          .finishUpdate 0] := by
  refine ⟨?_, ?_, ?_⟩
  · intro safe
    have closes := Machine.eachStep_iff_split.mp safe
      [.createTransport .send, .createChild .producer 0, .releaseChild 0] (.closeTransport 0) []
      _ rfl rfl
    obtain ⟨child, found, alive, -⟩ := closes.1 _ rfl rfl 0 (by decide)
    obtain rfl := Option.some.inj found
    cases alive
  · intro safe
    have updates := Machine.eachStep_iff_split.mp safe
      [.createTransport .send, .createChild .producer 0, .disposeTransport 0]
      (.beginUpdate 0) [] _ rfl rfl
    obtain ⟨sender, found, alive⟩ := updates.1.2 _ rfl rfl 0 rfl
    obtain rfl := Option.some.inj found
    cases alive
  · intro safe
    have finishes := Machine.eachStep_iff_split.mp safe
      [.createTransport .send, .createChild .producer 0, .beginUpdate 0, .disposeTransport 0]
      (.finishUpdate 0) [] _ rfl rfl
    obtain ⟨sender, found, alive⟩ := finishes.1 _ rfl 0 rfl
    obtain rfl := Option.some.inj found
    cases alive

end MediasoupClientSwift.Children
