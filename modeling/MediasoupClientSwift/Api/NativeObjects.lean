import MediasoupClientSwift.Api.Accounting
import MediasoupClientSwift.Api.Ledger
import MediasoupClientSwift.Library.Inventory

/-!
Owns the native objects of sessions. Over a library with a ledger, the ledger says
in every session that each transport and child was deleted once, or is still owned
by one wrapper.
-/

namespace MediasoupClientSwift

open Library

namespace Session

variable {World : Type}

def HeldChild.heldObject (child : HeldChild) : Option Handle :=
  if child.held then some child.facade.object else none

/-- The native objects of the transports that were not disposed and of the held
children. -/
def State.owned (session : State World) : Multiset Handle :=
  Arena.inventory (fun transport => (session.ivars transport).transport) session.transports +
    Arena.inventory HeldChild.heldObject session.children

def State.ledger (session : State (World × Ledger)) : Ledger := session.process.native.2

/-- Every object that was made was deleted or is owned, each as often. -/
def State.Balanced (session : State (World × Ledger)) : Prop :=
  session.ledger.made = session.ledger.deleted + session.owned

/-! ### One step -/

section Steps

variable {library : NativeLibrary World} {session next : State (World × Ledger)}
  {process : Process (World × Ledger)}

private theorem owned_of_sameIvars (devices : Arena HeldDevice) (updates : List PendingUpdate)
    (ivars : process.transportIvars = session.process.transportIvars) :
    ({ session with process := process, devices := devices, updates := updates } :
      State (World × Ledger)).owned = session.owned := by
  unfold State.owned State.ivars
  rw [ivars]

theorem Consistent.owned_of_made (consistent : Consistent session)
    {kind : Children.TransportKind} {object : Handle} {pcFactory : PCFactory}
    (seen : process.seen library.ledger.book =
      ((session.process.seen library.ledger.book).withTransport object pcFactory).noting
        (library.ledger.made object)) :
    ({ session with
        process := process
        transports := session.transports.push
          { kind := kind, facade := ⟨session.process.nextAddress⟩, held := true } } :
      State (World × Ledger)).owned = session.owned + {object} := by
  have old : Arena.inventory
      (fun transport : HeldTransport => (process.transportIvars transport.facade.transport).transport)
      session.transports =
        Arena.inventory (fun transport => (session.ivars transport).transport) session.transports :=
    Arena.inventory_congr fun found =>
      congrArg TransportIvars.transport (consistent.ivars_of_old seen found)
  unfold State.owned State.ivars
  rw [Arena.inventory_push, old, ivars_of_new seen, Option.toList_some, Multiset.coe_singleton,
    add_right_comm]
  rfl

theorem Consistent.owned_of_disposed (consistent : Consistent session) {name : Nat}
    {transport : HeldTransport} {object : Handle} {adapter : AdapterPointer}
    (found : session.transports[name]? = some transport)
    (present : (session.ivars transport).transport = some object)
    (seen : process.seen library.ledger.book =
      ((session.process.seen library.ledger.book).withoutTransport transport.facade.transport
        adapter).noting (library.ledger.deleted object)) :
    session.owned = ({ session with process := process } : State (World × Ledger)).owned + {object} := by
  have removed : Arena.inventory (fun transport => (session.ivars transport).transport)
      session.transports =
        Arena.inventory
          (fun transport : HeldTransport =>
            (process.transportIvars transport.facade.transport).transport)
          session.transports + {object} := by
    apply Arena.inventory_remove found present
    · rw [ivars_of_disposed seen]
    · intro other kept different lookup
      rw [consistent.ivars_of_other found seen lookup different]
  unfold State.owned
  rw [removed, add_right_comm]
  rfl

private theorem owned_of_createdChild {made : HeldChild} (held : made.held = true)
    (ivars : process.transportIvars = session.process.transportIvars) :
    ({ session with process := process, children := session.children.push made } :
      State (World × Ledger)).owned = session.owned + {made.facade.object} := by
  have heldObject : made.heldObject = some made.facade.object := if_pos held
  unfold State.owned State.ivars
  rw [ivars, Arena.inventory_push, heldObject, Option.toList_some, Multiset.coe_singleton,
    ← add_assoc]

private theorem owned_of_releasedChild {name : Nat} {child : HeldChild}
    (found : session.children[name]? = some child) (held : child.held = true)
    (ivars : process.transportIvars = session.process.transportIvars) :
    session.owned =
      ({ session with
          process := process
          children := session.children.modify name fun child => { child with held := false } } :
        State (World × Ledger)).owned + {child.facade.object} := by
  have heldObject : child.heldObject = some child.facade.object := if_pos held
  have removed : Arena.inventory HeldChild.heldObject session.children =
      Arena.inventory HeldChild.heldObject
        (session.children.modify name fun child => { child with held := false }) +
          {child.facade.object} :=
    Arena.inventory_modify_remove found heldObject rfl
  unfold State.owned State.ivars
  rw [ivars, removed, ← add_assoc]

private theorem owned_of_closedChild (name : Nat)
    (ivars : process.transportIvars = session.process.transportIvars) :
    ({ session with
        process := process
        children := session.children.modify name fun child => { child with closeCalled := true } } :
      State (World × Ledger)).owned = session.owned := by
  have kept : Arena.inventory HeldChild.heldObject
      (session.children.modify name fun child => { child with closeCalled := true }) =
        Arena.inventory HeldChild.heldObject session.children :=
    Arena.inventory_modify fun _ => rfl
  unfold State.owned State.ivars
  rw [ivars, kept]

private theorem owned_of_releasedFacade (session : State (World × Ledger)) (name : Nat) :
    ({ session with
        transports := session.transports.modify name fun transport =>
          { transport with held := false } } : State (World × Ledger)).owned = session.owned := by
  have modified : Arena.inventory (fun transport => (session.ivars transport).transport)
      (session.transports.modify name fun transport => { transport with held := false }) =
        Arena.inventory (fun transport => (session.ivars transport).transport)
          session.transports :=
    Arena.inventory_modify fun _ => rfl
  unfold State.owned
  exact congrArg (· + Arena.inventory HeldChild.heldObject session.children) modified

end Steps

/-! ### Runs -/

section Runs

variable {library : NativeLibrary World} {native : World}
  {session next : State (World × Ledger)}

theorem State.Balanced.keep (balanced : session.Balanced)
    (ledger : next.ledger = session.ledger) (owned : next.owned = session.owned) :
    next.Balanced := by
  unfold State.Balanced
  rw [ledger, owned]
  exact balanced

/-- An object is made, and a wrapper owns it. -/
theorem State.Balanced.make (balanced : session.Balanced) {object : Handle}
    (ledger : next.ledger = session.ledger.noteMade object)
    (owned : next.owned = session.owned + {object}) : next.Balanced := by
  unfold State.Balanced
  rw [ledger, owned, ← add_assoc]
  exact congrArg (· + {object}) balanced

/-- An object is deleted, and no wrapper owns it any more. -/
theorem State.Balanced.delete (balanced : session.Balanced) {object : Handle}
    (ledger : next.ledger = session.ledger.noteDeleted object)
    (owned : session.owned = next.owned + {object}) : next.Balanced := by
  unfold State.Balanced
  rw [ledger]
  calc session.ledger.made
      = session.ledger.deleted + session.owned := balanced
    _ = session.ledger.deleted + (next.owned + {object}) := by rw [owned]
    _ = session.ledger.deleted + {object} + next.owned := by rw [add_comm next.owned, add_assoc]

private theorem balanced_of_changed (consistent : Consistent session) (balanced : session.Balanced)
    {effect : Effect} (changed : Changed library.ledger session effect next) : next.Balanced := by
  cases changed with
  | kept idle wrappers =>
      refine balanced.keep ?_ ?_
      · exact Process.wrappers_book wrappers
      · exact owned_of_sameIvars _ _ (Process.wrappers_transportIvars wrappers)
  | beganUpdate held wrappers =>
      refine balanced.keep ?_ ?_
      · exact Process.wrappers_book wrappers
      · exact owned_of_sameIvars _ _ (Process.wrappers_transportIvars wrappers)
  | finishedUpdate innermost wrappers =>
      refine balanced.keep ?_ ?_
      · exact Process.wrappers_book wrappers
      · exact owned_of_sameIvars _ _ (Process.wrappers_transportIvars wrappers)
  | failed seen =>
      refine balanced.keep ?_ ?_
      · exact (Process.book_of_seen seen :)
      · exact owned_of_sameIvars _ _ (Process.transportIvars_of_seen seen :)
  | closedChild held wrappers =>
      refine balanced.keep ?_ ?_
      · exact Process.wrappers_book wrappers
      · exact owned_of_closedChild _ (Process.wrappers_transportIvars wrappers)
  | replacedTrack held seen =>
      refine balanced.keep ?_ ?_
      · exact (Process.book_of_seen seen :)
      · exact owned_of_sameIvars _ _ (Process.transportIvars_of_seen seen :)
  | madeTransport seen =>
      refine balanced.make ?_ (consistent.owned_of_made seen)
      exact (Process.book_of_seen seen :)
  | madeProducer owner pointer address adapter seen =>
      refine balanced.make ?_ (owned_of_createdChild rfl (Process.transportIvars_of_seen seen :))
      exact (Process.book_of_seen seen :)
  | madeChild owner pointer isKind other adapter seen =>
      refine balanced.make ?_ (owned_of_createdChild rfl (Process.transportIvars_of_seen seen :))
      exact (Process.book_of_seen seen :)
  | disposed found held present pointer seen =>
      refine balanced.delete ?_ (consistent.owned_of_disposed found present seen)
      exact (Process.book_of_seen seen :)
  | releasedDisposed found held disposed =>
      exact balanced.keep rfl (owned_of_releasedFacade session _)
  | @releasedTransport process name transport object adapter found held present pointer seen =>
      have disposed : ({ session with process := process } : State (World × Ledger)).Balanced := by
        refine balanced.delete ?_ (consistent.owned_of_disposed found present seen)
        exact (Process.book_of_seen seen :)
      exact disposed.keep rfl (owned_of_releasedFacade { session with process := process } name)
  | releasedChild found held unused seen =>
      refine balanced.delete ?_
        (owned_of_releasedChild found held (Process.transportIvars_of_seen seen :))
      exact (Process.book_of_seen seen :)

/-- What every step keeps, so that the ledger stays balanced. -/
structure Audited (session : State (World × Ledger)) : Prop where
  consistent : Consistent session
  balanced : session.Balanced

theorem audited_initial (native : World) :
    Audited (machine library.withLedger (native, Ledger.empty)).initial where
  consistent := consistent_initial
  balanced := rfl

theorem audited_of_step (session : State (World × Ledger)) (action : Action (World × Ledger))
    (next : State (World × Ledger)) (audited : Audited session)
    (stepped : (machine library.withLedger (native, Ledger.empty)).step session action = some next) :
    Audited next := by
  have changed := changed_of_step library.ledger stepped
  exact
    { consistent := consistent_of_changed audited.consistent changed
      balanced := balanced_of_changed audited.consistent audited.balanced changed }

/-- In any session over any library, each transport and child that the library
made was deleted once or is owned by one wrapper: by a transport's wrapper until it
is disposed or released, by a child's until it is released. Where all are gone, all
that was made was deleted. -/
theorem native_objects_accounted (library : NativeLibrary World) (native : World)
    (actions : List (Action (World × Ledger))) {session : State (World × Ledger)}
    (ran : (machine library.withLedger (native, Ledger.empty)).run actions = some session) :
    session.ledger.made = session.ledger.deleted + session.owned ∧
      ((∀ (name : Nat) (transport : HeldTransport), session.transports[name]? = some transport →
          (session.ivars transport).transport = none) →
        (∀ (name : Nat) (child : HeldChild), session.children[name]? = some child →
          child.held = false) →
        session.ledger.made = session.ledger.deleted) := by
  have balanced : session.Balanced :=
    (Machine.invariant_run audited_of_step (audited_initial native) ran).balanced
  refine ⟨balanced, fun disposed released => ?_⟩
  have noTransport : Arena.inventory (fun transport => (session.ivars transport).transport)
      session.transports = 0 :=
    Arena.inventory_eq_zero fun found => disposed _ _ found
  have noChild : Arena.inventory HeldChild.heldObject session.children = 0 :=
    Arena.inventory_eq_zero fun found => by
      unfold HeldChild.heldObject
      rw [released _ _ found]
      rfl
  have accounts := balanced
  unfold State.Balanced State.owned at accounts
  rwa [noTransport, noChild, add_zero, add_zero] at accounts

end Runs

/-- A transport and its producer are made, and both are released. -/
theorem native_objects_accounted_sample :
    ∃ session, (machine sampleLibrary.withLedger
        ((sampleProcess true false).native, Ledger.empty)).run
          [.initCaptureAudioSession false, .device 0 (.createSendTransport sampleTexts none .all),
            .sendTransport 0 (.createProducer ⟨7, "audio"⟩ none none none none),
            .releaseTransport 0, .releaseChild 0] = some session ∧
      session.ledger.made = session.ledger.deleted + session.owned ∧
      ((∀ (name : Nat) (transport : HeldTransport), session.transports[name]? = some transport →
          (session.ivars transport).transport = none) →
        (∀ (name : Nat) (child : HeldChild), session.children[name]? = some child →
          child.held = false) →
        session.ledger.made = session.ledger.deleted) :=
  ⟨_, rfl, native_objects_accounted sampleLibrary (sampleProcess true false).native
    [.initCaptureAudioSession false, .device 0 (.createSendTransport sampleTexts none .all),
      .sendTransport 0 (.createProducer ⟨7, "audio"⟩ none none none none),
      .releaseTransport 0, .releaseChild 0] rfl⟩

end Session

end MediasoupClientSwift
