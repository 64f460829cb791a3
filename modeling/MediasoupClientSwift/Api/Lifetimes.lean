import MediasoupClientSwift.Api.Accounting
import MediasoupClientSwift.Library.Simulation

/-!
Owns the simulation of sessions by the lifetime model of transports and children.
Every session run is matched, step by step, by a run of that model on the same
facades, and a session is free of dead objects exactly where its application
keeps the closing discipline.
-/

namespace MediasoupClientSwift.Session

open Library
open Children (TransportKind ChildKind)

variable {World : Type}

/-- The lifetime steps that an effect amounts to. -/
def Effect.lifetimes : Effect → List Children.Action
  | .nothing => []
  | .madeTransport kind => [.createTransport kind]
  | .madeProducer transport _ => [.createChild .producer transport]
  | .madeChild kind transport => [.createChild kind transport]
  | .closedTransport name => [.closeTransport name]
  | .disposed name => [.disposeTransport name]
  | .calledChild name => [.callChild name]
  | .closedChild name => [.closeChild name]
  | .replacedTrack name _ => [.callChild name]
  | .beganUpdate name => [.beginUpdate name]
  | .finishedUpdate name => [.finishUpdate name]
  | .releasedTransport name => [.releaseTransport name]
  | .releasedChild name => [.releaseChild name]

/-- A facade with the pointer of its wrapper, on both levels. -/
def SameTransport (process : Process World) (_name : Nat) (transport : HeldTransport)
    (shadow : Children.Transport) : Prop :=
  shadow.kind = transport.kind ∧ shadow.held = transport.held ∧
    shadow.hasPointer = (process.transportIvars transport.facade.transport).transport.isSome

def SameChild (_name : Nat) (child : HeldChild) (shadow : Children.Child) : Prop :=
  shadow.kind = child.facade.kind ∧ shadow.transport = child.transport ∧
    shadow.held = child.held ∧ shadow.closeCalled = child.closeCalled

structure Matches (session : State World) (shadow : Children.State) : Prop where
  transports : Arena.Matched (SameTransport session.process) session.transports shadow.transports
  children : Arena.Matched SameChild session.children shadow.children
  updates : shadow.updates.map (·.producer) = session.updates.map (·.producer)

/-! ### One effect -/

section Effects

variable {library : NativeLibrary World} {Book : Type} {books : ObjectBook library Book}
  {session next : State World} {shadow : Children.State} {process : Process World}

theorem Matches.keep (matched : Matches session shadow) (devices : Arena HeldDevice)
    (ivars : process.transportIvars = session.process.transportIvars) :
    Matches { session with process := process, devices := devices } shadow where
  transports := matched.transports.mono fun _ same => by
    unfold SameTransport
    rw [ivars]
    exact same
  children := matched.children
  updates := matched.updates

theorem Matches.exists_transport (matched : Matches session shadow) {kind : TransportKind}
    {name : Nat} {facade : TransportFacade} (found : session.transport kind name = some facade) :
    ∃ transport, shadow.transports[name]? = some transport ∧ transport.held = true ∧
      transport.kind = kind ∧
      transport.hasPointer = (session.process.transportIvars facade.transport).transport.isSome := by
  obtain ⟨held, lookup, isHeld, isKind, rfl⟩ := transport_eq_some found
  obtain ⟨transport, present, sameKind, sameHeld, samePointer⟩ :=
    matched.transports.exists_shadow lookup
  exact ⟨transport, present, sameHeld.trans isHeld, sameKind.trans isKind, samePointer⟩

theorem Matches.exists_child (matched : Matches session shadow) {name : Nat}
    {facade : ChildFacade} (found : session.child name = some facade) :
    ∃ child, shadow.children[name]? = some child ∧ child.held = true ∧
      child.kind = facade.kind := by
  obtain ⟨held, lookup, isHeld, rfl⟩ := child_eq_some_iff.mp found
  obtain ⟨child, present, sameKind, -, sameHeld, -⟩ := matched.children.exists_shadow lookup
  exact ⟨child, present, sameHeld.trans isHeld, sameKind⟩

private theorem runFrom_of_stepped {shadowNext : Children.State} {action : Children.Action}
    (stepped : Children.Stepped shadow action shadowNext) :
    Children.machine.runFrom shadow [action] = some shadowNext :=
  Children.machine.runFrom_cons_some [] (Children.step_of_stepped stepped)

theorem Matches.called (matched : Matches session shadow) {name : Nat} {facade : ChildFacade}
    (held : session.child name = some facade) :
    Children.machine.runFrom shadow [.callChild name] = some shadow := by
  obtain ⟨child, found, isHeld, -⟩ := matched.exists_child held
  exact runFrom_of_stepped (.callChild found isHeld)

theorem Matches.idle (matched : Matches session shadow) {effect : Effect}
    (idle : Idle session effect) :
    Children.machine.runFrom shadow effect.lifetimes = some shadow := by
  cases idle with
  | nothing => rfl
  | calledChild held => exact matched.called held
  | closedTransport owner pointer =>
      obtain ⟨transport, found, isHeld, -, samePointer⟩ := matched.exists_transport owner
      exact runFrom_of_stepped (.closeTransport found ⟨isHeld, samePointer.trans pointer⟩)
  | disposed owner noPointer =>
      obtain ⟨transport, found, isHeld, -, samePointer⟩ := matched.exists_transport owner
      have gone : ¬ transport.hasPointer = true := by
        rw [samePointer, noPointer]
        exact Bool.false_ne_true
      exact runFrom_of_stepped (.disposeAgain found isHeld gone)

theorem Matches.createTransport (consistent : Consistent session)
    (matched : Matches session shadow) {kind : TransportKind} {object : Handle} {pcFactory : PCFactory}
    (seen : process.seen books.book =
      ((session.process.seen books.book).withTransport object pcFactory).noting (books.made object)) :
    Matches
      { session with
        process := process
        transports := session.transports.push
          { kind := kind, facade := ⟨session.process.nextAddress⟩, held := true } }
      { shadow with
        transports := shadow.transports.push
          { kind := kind, held := true, hasPointer := true, nativeAlive := true,
            registered := [] } } where
  transports := by
    have old : Arena.Matched (SameTransport process) session.transports shadow.transports := by
      apply matched.transports.mono
      intro name transport shadowTransport found same
      unfold SameTransport
      rw [consistent.ivars_of_old seen found]
      exact same
    apply old.push
    refine ⟨rfl, rfl, ?_⟩
    rw [ivars_of_new seen]
    rfl
  children := matched.children
  updates := matched.updates

theorem Matches.createChild (matched : Matches session shadow) {made : ChildFacade}
    {transport : Nat}
    (ivars : process.transportIvars = session.process.transportIvars) :
    Matches
      { session with
        process := process
        children := session.children.push
          { facade := made, transport := transport, held := true, closeCalled := false } }
      (shadow.createChild made.kind transport) where
  transports := by
    have kept := (matched.keep session.devices ivars).transports
    exact kept.modifyShadow (fun _ same => same) fun _ _ same => same
  children := matched.children.push ⟨rfl, rfl, rfl, rfl⟩
  updates := matched.updates

theorem Matches.closeChild (matched : Matches session shadow) (name : Nat)
    (child : Children.Child) :
    Matches
      { session with
        children := session.children.modify name fun child => { child with closeCalled := true } }
      (shadow.closeChild name child) where
  transports := by
    apply matched.transports.modifyShadow
    · intro transport shadowTransport found same
      split <;> exact same
    · exact fun _ _ same => same
  children := matched.children.modify fun _ same => ⟨same.1, same.2.1, same.2.2.1, rfl⟩
  updates := matched.updates

theorem Matches.releaseChild (matched : Matches session shadow) (name : Nat) :
    Matches
      { session with
        children := session.children.modify name fun child => { child with held := false } }
      (shadow.deallocChild name) where
  transports := matched.transports
  children := matched.children.modify fun _ same => ⟨same.1, same.2.1, rfl, same.2.2.2⟩
  updates := matched.updates

theorem Matches.beginUpdate (matched : Matches session shadow) {name : Nat}
    {call : ProducerWrapper.OpenUpdate} (child : Children.Child) :
    Matches { session with updates := { producer := name, call := call } :: session.updates }
      (shadow.beginUpdate name child) where
  transports := matched.transports
  children := matched.children
  updates := congrArg (name :: ·) matched.updates

/-- The innermost update is the shadow's too. -/
theorem Matches.exists_innermost (matched : Matches session shadow) {update : PendingUpdate}
    {outer : List PendingUpdate} (innermost : session.updates = update :: outer) :
    ∃ shadowUpdate shadowOuter, shadow.updates = shadowUpdate :: shadowOuter ∧
      shadowUpdate.producer = update.producer ∧
      shadowOuter.map (·.producer) = outer.map (·.producer) := by
  have same := matched.updates
  rw [innermost, List.map_cons] at same
  exact List.map_eq_cons_iff.mp same

theorem Matches.updating (matched : Matches session shadow) {update : PendingUpdate}
    {outer : List PendingUpdate} (innermost : session.updates = update :: outer) :
    shadow.Updating update.producer := by
  obtain ⟨shadowUpdate, shadowOuter, shadowUpdates, same, -⟩ := matched.exists_innermost innermost
  exact ⟨shadowUpdate, shadowUpdates ▸ List.mem_cons_self, same⟩

theorem Matches.not_updating (matched : Matches session shadow) {name : Nat}
    (unused : ∀ update ∈ session.updates, update.producer ≠ name) : ¬ shadow.Updating name := by
  rintro ⟨shadowUpdate, member, own⟩
  have named : name ∈ session.updates.map (·.producer) := by
    rw [← matched.updates]
    exact List.mem_map.mpr ⟨shadowUpdate, member, own⟩
  obtain ⟨update, member, same⟩ := List.mem_map.mp named
  exact unused update member same

theorem Matches.finishUpdate (matched : Matches session shadow) {update : PendingUpdate}
    {outer : List PendingUpdate} (innermost : session.updates = update :: outer) :
    Matches { session with updates := outer } (shadow.finishUpdate update.producer) where
  transports := matched.transports
  children := matched.children
  updates := by
    obtain ⟨shadowUpdate, shadowOuter, shadowUpdates, same, sameOuter⟩ :=
      matched.exists_innermost innermost
    simpa [Children.State.finishUpdate, shadowUpdates, same] using sameOuter

theorem Matches.disposeTransport (consistent : Consistent session)
    (matched : Matches session shadow) {name : Nat} {transport : HeldTransport}
    {adapter : AdapterPointer} (found : session.transports[name]? = some transport)
    (seen : process.seen books.book =
      ((session.process.seen books.book).withoutTransport transport.facade.transport
        adapter).noting (books.deleted object)) :
    Matches { session with process := process } (shadow.disposeTransport name) where
  transports := by
    apply matched.transports.modifyShadow
    · intro kept shadowTransport lookup same
      obtain rfl : kept = transport := Option.some.inj (lookup.symm.trans found)
      refine ⟨same.1, same.2.1, ?_⟩
      rw [ivars_of_disposed seen]
      rfl
    · intro other kept shadowTransport different lookup same
      unfold SameTransport
      rw [consistent.ivars_of_other found seen lookup different]
      exact same
  children := matched.children
  updates := matched.updates

theorem Matches.releaseFacade (matched : Matches session shadow) (name : Nat) :
    Matches
      { session with
        transports := session.transports.modify name fun transport =>
          { transport with held := false } }
      (shadow.releaseFacade name) where
  transports := matched.transports.modify fun _ same => ⟨same.1, rfl, same.2.2⟩
  children := matched.children
  updates := matched.updates

theorem Matches.exists_owner (matched : Matches session shadow) {kind : ChildKind} {name : Nat}
    {facade : TransportFacade} (owner : session.transport kind.transportKind name = some facade)
    (pointer : (session.process.transportIvars facade.transport).transport.isSome = true) :
    Children.machine.runFrom shadow [.createChild kind name] =
      some (shadow.createChild kind name) := by
  obtain ⟨transport, found, isHeld, isKind, samePointer⟩ := matched.exists_transport owner
  exact runFrom_of_stepped (.createChild found ⟨isHeld, samePointer.trans pointer, isKind⟩)

/-- A transport of the session that has its pointer, or lost it, in the shadow. -/
theorem Matches.pointer (matched : Matches session shadow) {name : Nat}
    {transport : HeldTransport} (found : session.transports[name]? = some transport)
    (held : transport.held = true) :
    ∃ shadowTransport, shadow.transports[name]? = some shadowTransport ∧
      shadowTransport.held = true ∧
      shadowTransport.hasPointer = (session.ivars transport).transport.isSome := by
  obtain ⟨shadowTransport, present, -, sameHeld, samePointer⟩ :=
    matched.transports.exists_shadow found
  exact ⟨shadowTransport, present, sameHeld.trans held, samePointer⟩

/-- Every change is matched by the lifetime steps of its effect. -/
theorem Matches.changed (consistent : Consistent session) (matched : Matches session shadow)
    {effect : Effect} (changed : Changed books session effect next) :
    ∃ shadowNext, Children.machine.runFrom shadow effect.lifetimes = some shadowNext ∧
      Matches next shadowNext := by
  cases changed with
  | kept idle wrappers =>
      have ivars := Process.wrappers_transportIvars wrappers
      exact ⟨shadow, matched.idle idle, matched.keep _ ivars⟩
  | beganUpdate held wrappers =>
      obtain ⟨child, found, isHeld, isKind⟩ := matched.exists_child held
      have ivars := Process.wrappers_transportIvars wrappers
      exact ⟨_, runFrom_of_stepped (.beginUpdate found ⟨isHeld, isKind⟩),
        (matched.keep session.devices ivars).beginUpdate child⟩
  | finishedUpdate innermost wrappers =>
      have ivars := Process.wrappers_transportIvars wrappers
      exact ⟨_, runFrom_of_stepped (.finishUpdate (matched.updating innermost)),
        (matched.keep session.devices ivars).finishUpdate innermost⟩
  | failed seen =>
      exact ⟨shadow, rfl, matched.keep session.devices (Process.transportIvars_of_seen seen :)⟩
  | closedChild held wrappers =>
      obtain ⟨child, found, isHeld, -⟩ := matched.exists_child held
      refine ⟨_, runFrom_of_stepped (.closeChild found isHeld), ?_⟩
      have ivars := Process.wrappers_transportIvars wrappers
      exact (matched.keep session.devices ivars).closeChild _ child
  | replacedTrack held seen =>
      exact ⟨shadow, matched.called held,
        matched.keep session.devices (Process.transportIvars_of_seen seen :)⟩
  | madeTransport seen =>
      refine ⟨_, runFrom_of_stepped (.createTransport _), ?_⟩
      exact matched.createTransport consistent seen
  | madeProducer owner pointer address adapter seen =>
      have producer : ChildKind.producer.transportKind = .send := rfl
      rw [← producer] at owner
      exact ⟨_, matched.exists_owner owner pointer,
        matched.createChild (Process.transportIvars_of_seen seen :)⟩
  | madeChild owner pointer isKind other adapter seen =>
      subst isKind
      exact ⟨_, matched.exists_owner owner pointer,
        matched.createChild (Process.transportIvars_of_seen seen :)⟩
  | disposed found held present pointer seen =>
      obtain ⟨transport, lookup, isHeld, samePointer⟩ := matched.pointer found held
      rw [present] at samePointer
      exact ⟨_, runFrom_of_stepped (.disposeTransport lookup isHeld samePointer),
        matched.disposeTransport consistent found seen⟩
  | releasedDisposed found held disposed =>
      obtain ⟨transport, lookup, isHeld, samePointer⟩ := matched.pointer found held
      have gone : ¬ transport.hasPointer = true := by
        rw [samePointer, disposed]
        exact Bool.false_ne_true
      exact ⟨_, runFrom_of_stepped (.releaseDisposed lookup isHeld gone), matched.releaseFacade _⟩
  | releasedTransport found held present pointer seen =>
      obtain ⟨transport, lookup, isHeld, samePointer⟩ := matched.pointer found held
      rw [present] at samePointer
      exact ⟨_, runFrom_of_stepped (.releaseTransport lookup isHeld samePointer),
        (matched.disposeTransport consistent found seen).releaseFacade _⟩
  | releasedChild found held unused seen =>
      obtain ⟨child, lookup, isHeld, -⟩ :=
        matched.exists_child (child_eq_some_iff.mpr ⟨_, found, held, rfl⟩)
      have ivars := (Process.transportIvars_of_seen seen :)
      exact ⟨_, runFrom_of_stepped (.releaseChild lookup ⟨isHeld, matched.not_updating unused⟩),
        (matched.keep session.devices ivars).releaseChild _⟩

end Effects

/-! ### The closing discipline -/

def State.TransportGone (session : State World) (name : Nat) : Prop :=
  ∃ transport : HeldTransport, session.transports[name]? = some transport ∧
    (session.ivars transport).transport = none

def State.HasTransport (session : State World) (name : Nat) : Prop :=
  ∀ child : HeldChild, session.children[name]? = some child →
    ¬ session.TransportGone child.transport

def State.MayRelease (session : State World) (name : Nat) : Prop :=
  ∀ child : HeldChild, session.children[name]? = some child →
    child.closeCalled = true ∨ session.TransportGone child.transport

/-- A child is closed before it is released, unless its transport is gone, and an
update of a producer's sender parameters begins and ends before its transport is. -/
def State.Disciplined (session : State World) : Action World → Prop
  | .releaseChild name => session.MayRelease name
  | .beginUpdate name => session.HasTransport name
  | .finishUpdate _ => ∀ update ∈ session.updates.head?, session.HasTransport update.producer
  | _ => True

def State.DisciplinedEffect (session : State World) : Effect → Prop
  | .releasedChild name => session.MayRelease name
  | .beganUpdate name => session.HasTransport name
  | .finishedUpdate name => session.HasTransport name
  | _ => True

section Discipline

variable {library : NativeLibrary World} {Book : Type} {books : ObjectBook library Book}
  {native : World} {session next : State World}
  {shadow : Children.State}

private theorem disciplined_unlessThrows {Value : Type} (program : SwiftCall (Process World) Value)
    {made otherwise : Effect} (plain : session.DisciplinedEffect made)
    (plainToo : session.DisciplinedEffect otherwise) :
    session.DisciplinedEffect (session.unlessThrows program made otherwise) := by
  unfold State.unlessThrows
  split
  · exact plain
  · exact plainToo

private theorem disciplined_effect {action : Action World}
    (stepped : (machine library native).step session action = some next) :
    session.DisciplinedEffect (session.effect library action) ↔ session.Disciplined action := by
  cases action with
  | releaseChild name => exact Iff.rfl
  | beginUpdate name => exact Iff.rfl
  | finishUpdate updatedValue =>
      simp only [State.effect, State.Disciplined]
      split
      · next update outer innermost =>
          rw [innermost]
          simp [State.DisciplinedEffect]
      · next none =>
          rw [none]
          simp [State.DisciplinedEffect]
  | device name operation =>
      refine iff_of_true ?_ trivial
      obtain ⟨self, held, -⟩ := Option.bind_eq_some_iff.mp stepped
      simp only [State.effect, held]
      cases operation with
      | createSendTransport texts iceServers policy =>
          exact disciplined_unlessThrows _ trivial trivial
      | createReceiveTransport texts iceServers policy =>
          exact disciplined_unlessThrows _ trivial trivial
      | _ => trivial
  | sendTransport name operation =>
      refine iff_of_true ?_ trivial
      obtain ⟨self, owner, -⟩ := Option.bind_eq_some_iff.mp stepped
      simp only [State.effect, owner]
      cases operation with
      | transport operation => cases operation <;> trivial
      | _ => exact disciplined_unlessThrows _ trivial trivial
  | receiveTransport name operation =>
      refine iff_of_true ?_ trivial
      obtain ⟨self, owner, -⟩ := Option.bind_eq_some_iff.mp stepped
      simp only [State.effect, owner]
      cases operation with
      | transport operation => cases operation <;> trivial
      | _ => exact disciplined_unlessThrows _ trivial trivial
  | producer name operation =>
      refine iff_of_true ?_ trivial
      simp only [State.effect]
      split
      · cases operation with
        | replaceTrack track => exact disciplined_unlessThrows _ trivial trivial
        | _ => trivial
      · trivial
  | consumer name operation => cases operation <;> exact Iff.rfl
  | dataProducer name operation => cases operation <;> exact Iff.rfl
  | dataConsumer name operation => cases operation <;> exact Iff.rfl
  | _ => exact Iff.rfl

theorem Matches.gone_iff (matched : Matches session shadow) (name : Nat) :
    shadow.TransportGone name ↔ session.TransportGone name := by
  constructor
  · rintro ⟨shadowTransport, present, noPointer⟩
    obtain ⟨transport, found, -, -, same⟩ := matched.transports.exists_object present
    refine ⟨transport, found, ?_⟩
    rw [noPointer] at same
    exact Option.isNone_iff_eq_none.mp (Option.isSome_eq_false_iff.mp same.symm)
  · rintro ⟨transport, found, noPointer⟩
    obtain ⟨shadowTransport, present, -, -, same⟩ := matched.transports.exists_shadow found
    refine ⟨shadowTransport, present, ?_⟩
    rw [same]
    exact congrArg Option.isSome noPointer

theorem Matches.mayRelease_iff (matched : Matches session shadow) {name : Nat}
    {child : HeldChild} (found : session.children[name]? = some child)
    (held : child.held = true) (unused : ∀ update ∈ session.updates, update.producer ≠ name) :
    Children.Disciplined shadow (.releaseChild name) ↔ session.MayRelease name := by
  obtain ⟨shadowChild, present, -, sameTransport, sameHeld, sameClosed⟩ :=
    matched.children.exists_shadow found
  constructor
  · intro disciplined other lookup
    obtain rfl : child = other := Option.some.inj (found.symm.trans lookup)
    rw [← matched.gone_iff, ← sameTransport, ← sameClosed]
    exact disciplined (matched.not_updating unused) shadowChild present (sameHeld.trans held)
  · intro mayRelease _ other lookup _
    obtain rfl : shadowChild = other := Option.some.inj (present.symm.trans lookup)
    rw [matched.gone_iff, sameTransport, sameClosed]
    exact mayRelease child found

theorem Matches.hasTransport_iff (matched : Matches session shadow) {name : Nat}
    {shadowChild : Children.Child} (present : shadow.children[name]? = some shadowChild)
    (held : shadowChild.held = true) (producer : shadowChild.kind = .producer) :
    shadow.ProducerHasTransport name ↔ session.HasTransport name := by
  obtain ⟨child, found, -, sameTransport, -⟩ := matched.children.exists_object present
  constructor
  · intro disciplined other lookup
    obtain rfl : child = other := Option.some.inj (found.symm.trans lookup)
    rw [← matched.gone_iff, ← sameTransport]
    exact disciplined shadowChild present held producer
  · intro hasTransport other lookup _ _
    obtain rfl : shadowChild = other := Option.some.inj (present.symm.trans lookup)
    rw [matched.gone_iff, sameTransport]
    exact hasTransport child found

/-- The discipline of a step is that of its lifetime steps. -/
theorem Matches.disciplined_iff (linked : Children.Consistent shadow)
    (matched : Matches session shadow) {effect : Effect}
    (changed : Changed books session effect next) :
    Children.machine.EachStep Children.Disciplined shadow effect.lifetimes ↔
      session.DisciplinedEffect effect := by
  cases changed with
  | kept idle wrappers =>
      cases idle with
      | nothing => exact Iff.rfl
      | _ => exact Machine.eachStep_singleton
  | beganUpdate held wrappers =>
      obtain ⟨child, found, isHeld, isKind⟩ := matched.exists_child held
      exact Machine.eachStep_singleton.trans (matched.hasTransport_iff found isHeld isKind)
  | finishedUpdate innermost wrappers =>
      have running := matched.updating innermost
      have ⟨shadowUpdate, member, own⟩ := running
      obtain ⟨child, found, isHeld, isKind, -⟩ := linked.updates shadowUpdate member
      rw [own] at found
      exact Machine.eachStep_singleton.trans
        ((forall_prop_of_true running).trans (matched.hasTransport_iff found isHeld isKind))
  | releasedChild found held unused seen =>
      exact Machine.eachStep_singleton.trans (matched.mayRelease_iff found held unused)
  | failed seen => exact Iff.rfl
  | _ => exact Machine.eachStep_singleton

end Discipline

/-! ### Runs -/

section Runs

variable (library : NativeLibrary World) (native : World)

/-- Sessions, simulated by the lifetimes of their facades. -/
def simulation : Simulation (machine library native) Children.machine where
  Related session shadow :=
    (Consistent session ∧ Children.Consistent shadow) ∧ Matches session shadow
  image session action _ := (session.effect library action).lifetimes
  initial := ⟨⟨consistent_initial, Children.consistent_initial⟩,
    ⟨Arena.Matched.empty, Arena.Matched.empty, rfl⟩⟩
  step := by
    rintro session next shadow action ⟨⟨consistent, linked⟩, matched⟩ stepped
    have changed := changed_of_step (.blank library) stepped
    obtain ⟨shadowNext, ran, matchedNext⟩ := matched.changed consistent changed
    have linkedNext : Children.Consistent shadowNext :=
      Machine.invariant_run (fun _ _ _ linked stepped => Children.consistent_step linked stepped)
        linked ran
    exact ⟨shadowNext, ran, ⟨consistent_of_changed consistent changed, linkedNext⟩, matchedNext⟩

def lifetimes (actions : List (Action World)) : List Children.Action :=
  (simulation library native).imageFrom (machine library native).initial actions

/-- A safe lifetime run is a disciplined one. -/
theorem eachStep_safe_iff {shadow : Children.State}
    (invariant : Children.Consistent shadow ∧ Children.ReleasedClosed shadow)
    (events : List Children.Action) :
    Children.machine.EachStep Children.Safe shadow events ↔
      Children.machine.EachStep Children.Disciplined shadow events := by
  constructor
  · apply Machine.eachStep_of_invariant _ _ invariant.1
    · exact fun _ _ _ consistent _ stepped => Children.consistent_step consistent stepped
    · exact fun _ _ consistent safe => Children.disciplined_of_safe consistent safe
  · have kept : ∀ state event next,
        Children.Consistent state ∧ Children.ReleasedClosed state →
        Children.Disciplined state event → Children.machine.step state event = some next →
        Children.Consistent next ∧ Children.ReleasedClosed next :=
      fun _ _ _ holds disciplined stepped =>
        ⟨Children.consistent_step holds.1 stepped,
          Children.releasedClosed_step holds.2 disciplined stepped⟩
    exact Machine.eachStep_of_invariant kept
      (fun _ _ holds disciplined => Children.safe_of_disciplined holds disciplined) invariant

/-- Whatever the native library does and whichever calls fail, a session runs
through the lifetimes of its facades: the lifetime model takes every step, and
ends with the same transports and children, held, closed and disposed alike, and
the same updates running. -/
theorem session_matched (actions : List (Action World)) {session : State World}
    (ran : (machine library native).run actions = some session) :
    ∃ shadow, Children.machine.run (lifetimes library native actions) = some shadow ∧
      Matches session shadow := by
  have related := (simulation library native).initial
  obtain ⟨shadow, matchedRun, -, matched⟩ := (simulation library native).runFrom related ran
  exact ⟨shadow, matchedRun, matched⟩

/-- A session uses no deleted child, leaves no deleted child registered and updates
no deleted sender exactly where it keeps the closing discipline. -/
theorem session_safe_iff (actions : List (Action World)) {session : State World}
    (ran : (machine library native).run actions = some session) :
    Children.machine.EachStep Children.Safe Children.machine.initial
        (lifetimes library native actions) ↔
      (machine library native).EachStep State.Disciplined (machine library native).initial
        actions := by
  have noChild : Children.ReleasedClosed Children.machine.initial := by
    intro name child found
    simp [Children.machine] at found
  rw [eachStep_safe_iff ⟨Children.consistent_initial, noChild⟩]
  symm
  apply (simulation library native).eachStep_iff _ (simulation library native).initial ran
  rintro state next shadow action ⟨⟨-, linked⟩, matched⟩ stepped
  have changed := changed_of_step (.blank library) stepped
  exact (disciplined_effect stepped).symm.trans (matched.disciplined_iff linked changed).symm

end Runs

/-- The run of a transport, a producer and a failed factory is matched. -/
theorem session_matched_sample :
    ∃ session, (machine sampleLibrary (sampleProcess true false).native).run sampleActions =
        some session ∧
      ∃ shadow, Children.machine.run
          (lifetimes sampleLibrary (sampleProcess true false).native sampleActions) =
            some shadow ∧
        Matches session shadow :=
  ⟨_, rfl, session_matched sampleLibrary (sampleProcess true false).native sampleActions rfl⟩

/-- The producer of that run is released open, on a transport that exists. -/
theorem session_safe_iff_sample :
    ∃ session, (machine sampleLibrary (sampleProcess true false).native).run
        (sampleActions ++ [.releaseChild 0]) = some session ∧
      (Children.machine.EachStep Children.Safe Children.machine.initial
          (lifetimes sampleLibrary (sampleProcess true false).native
            (sampleActions ++ [.releaseChild 0])) ↔
        (machine sampleLibrary (sampleProcess true false).native).EachStep State.Disciplined
          (machine sampleLibrary (sampleProcess true false).native).initial
          (sampleActions ++ [.releaseChild 0])) :=
  ⟨_, rfl, session_safe_iff sampleLibrary (sampleProcess true false).native
    (sampleActions ++ [.releaseChild 0]) rfl⟩

end MediasoupClientSwift.Session
