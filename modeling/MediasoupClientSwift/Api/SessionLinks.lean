import MediasoupClientSwift.Api.Accounting
import MediasoupClientSwift.Events.Links
import MediasoupClientSwift.Library.Simulation
import Mathlib.Data.List.Nodup

/-!
Owns the links of sessions: the steps of the delivery model that each step of a
session takes when it creates, disposes or releases a transport or a child, the
relation between the two levels, and its preservation. Wrappers and facades are
named in the order of their creation, which a session records as a ghost.
-/

namespace MediasoupClientSwift

open Library

def Children.TransportKind.objectKind : Children.TransportKind → ObjectKind
  | .send => .sendTransport
  | .receive => .receiveTransport

def Children.ChildKind.objectKind : Children.ChildKind → ObjectKind
  | .producer => .producer
  | .dataProducer => .dataProducer
  | .consumer => .consumer
  | .dataConsumer => .dataConsumer

namespace Session

open Children (TransportKind ChildKind)

variable {World : Type}

/-! ### Names -/

def State.made (session : State World) : Effect → Option Owner
  | .madeTransport _ => some (.transport session.transports.fresh)
  | .madeProducer _ _ => some (.child session.children.fresh)
  | .madeChild _ _ => some (.child session.children.fresh)
  | _ => none

/-- Sessions beside their objects in the order of creation. -/
def orderedMachine (library : NativeLibrary World) (native : World) :
    Machine (State World × Arena Owner) (Action World) :=
  (machine library native).withGhost [] fun session action owners =>
    owners ++ (session.made (session.effect library action)).toList

/-! ### Links of a step -/

/-- The kind of the adapter a call allocates before it fails. -/
def adapterKind : Action World → ObjectKind
  | .device _ (.createSendTransport _ _ _) => .sendTransport
  | .device _ (.createReceiveTransport _ _ _) => .receiveTransport
  | .sendTransport _ (.produceData _) => .dataProducer
  | .receiveTransport _ (.consume _) => .consumer
  | .receiveTransport _ (.consumeData _) => .dataConsumer
  | _ => .producer

def State.newLinks (session : State World) (owners : Arena Owner) (kind : ObjectKind) :
    List Delivery.Action :=
  [.newListenerAdapter kind, .initWrapper session.process.listenerAdapters.fresh,
    .initFacade owners.fresh]

/-- A `dispose`, the first or another one. -/
def State.disposeLinks (session : State World) (wrapper name : Nat) : List Delivery.Action :=
  match session.pointedAdapter name with
  | some _ => [.startDispose wrapper, .finishDispose wrapper]
  | none => [.startDispose wrapper]

/-- The links a step makes and cuts, in the order of the statements that do so.
A transport's `dealloc` disposes it, a child's ends with its adapter. -/
def State.links (session : State World) (owners : Arena Owner) (failedKind : ObjectKind)
    (next : State World) : Effect → List Delivery.Action
  | .nothing =>
      -- A factory that threw leaves a deleted adapter behind.
      if next.process.listenerAdapters.length = session.process.listenerAdapters.length then []
      else
        [.newListenerAdapter failedKind,
          .deleteUnusedAdapter session.process.listenerAdapters.fresh]
  | .madeTransport kind => session.newLinks owners kind.objectKind
  | .madeProducer _ _ => session.newLinks owners .producer
  | .madeChild kind _ => session.newLinks owners kind.objectKind
  | .disposed name => session.disposeLinks (owners.idxOf (.transport name)) name
  | .releasedTransport name =>
      let wrapper := owners.idxOf (.transport name)
      [.deallocFacade wrapper, .deallocWrapper wrapper] ++ session.disposeLinks wrapper name
  | .releasedChild name =>
      let wrapper := owners.idxOf (.child name)
      [.deallocFacade wrapper, .deallocWrapper wrapper, .deleteListenerAdapter wrapper]
  | _ => []

/-! ### The two levels -/

/-- The wrapper of an object, as the delivery model sees it; its facade has the
same name. -/
def State.wrapperOf (session : State World) (name : Nat) : Owner → Option Delivery.Wrapper
  | .transport transport => (session.transports[transport]?).map fun found =>
      { kind := found.kind.objectKind
        listenerAdapter := (session.ivars found).listenerAdapter
        delegate := some name
        alive := found.held
        disposeStarted := (session.ivars found).listenerAdapter.isNone }
  | .child child => (session.children[child]?).map fun found =>
      { kind := found.facade.kind.objectKind
        listenerAdapter := some found.facade.listenerAdapter
        delegate := some name
        alive := found.held
        disposeStarted := false }

structure Wired (session : State World) (owners : Arena Owner) (objects : Delivery.State) :
    Prop where
  adapters : Arena.Matched (fun _ deletions (adapter : Delivery.Adapter) =>
      adapter.alive = true ↔ deletions = 0)
    session.process.listenerAdapters objects.adapters
  wrappers : Arena.Matched (fun name owner wrapper => session.wrapperOf name owner = some wrapper)
    owners objects.wrappers
  facades : Arena.Matched
    (fun name owner facade =>
      (session.wrapperOf name owner).map Delivery.Wrapper.alive = some facade.alive)
    owners objects.facades
  distinct : owners.Nodup
  transports : ∀ name, Owner.transport name ∈ owners ↔ name < session.transports.length
  children : ∀ name, Owner.child name ∈ owners ↔ name < session.children.length

/-- A step that changes the wrapper of one object. -/
structure Rewires (session next : State World) (owner : Owner)
    (change : Delivery.Wrapper → Delivery.Wrapper) : Prop where
  here : ∀ name, next.wrapperOf name owner = (session.wrapperOf name owner).map change
  elsewhere : ∀ name {other : Owner}, other ≠ owner →
    next.wrapperOf name other = session.wrapperOf name other

section Relation

variable {session next : State World} {owners : Arena Owner} {objects : Delivery.State}

theorem Wired.exists_wrapper (wired : Wired session owners objects) {owner : Owner}
    (known : owner ∈ owners) :
    ∃ wrapper, objects.wrappers[owners.idxOf owner]? = some wrapper ∧
      session.wrapperOf (owners.idxOf owner) owner = some wrapper :=
  wired.wrappers.exists_shadow (List.getElem?_idxOf known)

/-- Another name belongs to another object. -/
theorem Wired.ne_of_ne (wired : Wired session owners objects) {owner other : Owner}
    {name : Nat} (different : name ≠ owners.idxOf owner) (found : owners[name]? = some other) :
    other ≠ owner := by
  rintro rfl
  obtain ⟨below, same⟩ := List.getElem?_eq_some_iff.mp found
  have position := wired.distinct.idxOf_getElem name below
  rw [same] at position
  exact different position.symm

/-- Nothing that the relation speaks of changes. -/
theorem Wired.keep (wired : Wired session owners objects)
    (adapters : next.process.listenerAdapters = session.process.listenerAdapters)
    (wrappers : ∀ name owner, next.wrapperOf name owner = session.wrapperOf name owner)
    (transports : next.transports.length = session.transports.length)
    (children : next.children.length = session.children.length) : Wired next owners objects where
  adapters := by
    rw [adapters]
    exact wired.adapters
  wrappers := wired.wrappers.mono fun _ same => (wrappers _ _).trans same
  facades := wired.facades.mono fun _ same => by
    rw [wrappers]
    exact same
  distinct := wired.distinct
  transports := by
    rw [transports]
    exact wired.transports
  children := by
    rw [children]
    exact wired.children

end Relation

/-! ### Changes of one object -/

section Changes

variable {library : NativeLibrary World} {Book : Type} {books : ObjectBook library Book}
  {session next : State World} {process : Process World} {owners : Arena Owner}
  {objects : Delivery.State} {owner : Owner} {change : Delivery.Wrapper → Delivery.Wrapper}

theorem Rewires.wrappers (rewires : Rewires session next owner change)
    (wired : Wired session owners objects) (known : owner ∈ owners) :
    Arena.Matched (fun name owner wrapper => next.wrapperOf name owner = some wrapper) owners
      (objects.wrappers.modify (owners.idxOf owner) change) := by
  apply wired.wrappers.modifyShadow
  · intro other wrapper found same
    obtain rfl := Option.some.inj (found.symm.trans (List.getElem?_idxOf known))
    rw [rewires.here, same, Option.map_some]
  · intro name other wrapper different found same
    exact (rewires.elsewhere name (wired.ne_of_ne different found)).trans same

theorem Rewires.facades (rewires : Rewires session next owner change)
    (wired : Wired session owners objects) (known : owner ∈ owners)
    {changeFacade : Delivery.Facade → Delivery.Facade}
    (sameAlive : ∀ (wrapper : Delivery.Wrapper) (facade : Delivery.Facade),
      wrapper.alive = facade.alive → (change wrapper).alive = (changeFacade facade).alive) :
    Arena.Matched
      (fun name owner facade =>
        (next.wrapperOf name owner).map Delivery.Wrapper.alive = some facade.alive)
      owners (objects.facades.modify (owners.idxOf owner) changeFacade) := by
  apply wired.facades.modifyShadow
  · intro other facade found same
    obtain rfl := Option.some.inj (found.symm.trans (List.getElem?_idxOf known))
    obtain ⟨wrapper, isWrapper, alive⟩ := Option.map_eq_some_iff.mp same
    rw [rewires.here, isWrapper, Option.map_some, Option.map_some, sameAlive wrapper facade alive]
  · intro name other facade different found same
    rw [rewires.elsewhere name (wired.ne_of_ne different found)]
    exact same

theorem Rewires.sameFacades (rewires : Rewires session next owner change)
    (wired : Wired session owners objects) (known : owner ∈ owners)
    (sameAlive : ∀ wrapper, (change wrapper).alive = wrapper.alive) :
    Arena.Matched
      (fun name owner facade =>
        (next.wrapperOf name owner).map Delivery.Wrapper.alive = some facade.alive)
      owners objects.facades := by
  have unchanged : ∀ (wrapper : Delivery.Wrapper) (facade : Delivery.Facade),
      wrapper.alive = facade.alive → (change wrapper).alive = (id facade).alive :=
    fun wrapper _ alive => (sameAlive wrapper).trans alive
  have facades := rewires.facades wired known unchanged
  rwa [List.modify_id] at facades

/-- The last reference to a transport's facade goes. -/
theorem rewires_unheld (name : Nat) :
    Rewires session
      { session with
        transports := session.transports.modify name fun transport =>
          { transport with held := false } }
      (.transport name) (fun wrapper => { wrapper with alive := false }) where
  here wrapper := by
    simp only [State.wrapperOf, Arena.getElem?_modify_self, Option.map_map]
    rfl
  elsewhere wrapper other different := by
    cases other with
    | child child => rfl
    | transport transport =>
        have otherName : transport ≠ name := fun same => different (by rw [same])
        simp only [State.wrapperOf, Arena.getElem?_modify_of_ne _ otherName]
        rfl

private theorem rewires_disposed (consistent : Consistent session) {name : Nat}
    {transport : HeldTransport} {adapter : AdapterPointer}
    (found : session.transports[name]? = some transport)
    (seen : process.seen books.book =
      ((session.process.seen books.book).withoutTransport transport.facade.transport
        adapter).noting (books.deleted object)) :
    Rewires session { session with process := process } (.transport name)
      (fun wrapper => { wrapper with listenerAdapter := none, disposeStarted := true }) where
  here wrapper := by
    simp only [State.wrapperOf, found, Option.map_some, State.ivars, ivars_of_disposed seen]
    rfl
  elsewhere wrapper other different := by
    cases other with
    | child child => rfl
    | transport other =>
        have otherName : other ≠ name := fun same => different (by rw [same])
        simp only [State.wrapperOf]
        cases lookup : session.transports[other]? with
        | none => rfl
        | some kept =>
            have same := consistent.ivars_of_other found seen lookup otherName
            simp only [Option.map_some, State.ivars, same]

theorem Rewires.trans {middle : State World} {second : Delivery.Wrapper → Delivery.Wrapper}
    (first : Rewires session middle owner change) (later : Rewires middle next owner second) :
    Rewires session next owner (second ∘ change) where
  here name := by rw [later.here, first.here, Option.map_map]
  elsewhere name _ different :=
    (later.elsewhere name different).trans (first.elsewhere name different)

private theorem rewires_releasedChild (name : Nat)
    (ivars : process.transportIvars = session.process.transportIvars) :
    Rewires session
      { session with
        process := process
        children := session.children.modify name fun child => { child with held := false } }
      (.child name) (fun wrapper => { wrapper with alive := false }) where
  here wrapper := by
    simp only [State.wrapperOf, Arena.getElem?_modify_self, Option.map_map]
    rfl
  elsewhere wrapper other different := by
    cases other with
    | transport transport => simp only [State.wrapperOf, State.ivars, ivars]
    | child child =>
        have otherName : child ≠ name := fun same => different (by rw [same])
        simp only [State.wrapperOf, Arena.getElem?_modify_of_ne _ otherName]

end Changes

/-! ### New objects -/

section New

variable {library : NativeLibrary World} {Book : Type} {books : ObjectBook library Book}
  {session next : State World} {process : Process World} {owners : Arena Owner}
  {objects : Delivery.State} {owner : Owner} {kind : ObjectKind}

/-- A factory that returned made the links of its object. -/
theorem Wired.make (wired : Wired session owners objects) (linked : Delivery.Linked objects)
    (adapters : next.process.listenerAdapters = session.process.listenerAdapters.push 0)
    (new : next.wrapperOf owners.fresh owner =
      some { kind := kind, listenerAdapter := some session.process.listenerAdapters.fresh,
             delegate := some owners.fresh, alive := true, disposeStarted := false })
    (old : ∀ name other, other ∈ owners → next.wrapperOf name other = session.wrapperOf name other)
    (unknown : owner ∉ owners)
    (transports : ∀ name, Owner.transport name ∈ owners.push owner ↔ name < next.transports.length)
    (children : ∀ name, Owner.child name ∈ owners.push owner ↔ name < next.children.length) :
    ∃ objectsNext,
      Delivery.machine.runFrom objects (session.newLinks owners kind) = some objectsNext ∧
        Wired next (owners.push owner) objectsNext := by
  have adapterName : session.process.listenerAdapters.fresh = objects.adapters.fresh :=
    wired.adapters.length
  have wrapperName : owners.fresh = objects.wrappers.fresh := wired.wrappers.length
  have facadeName : owners.fresh = objects.facades.fresh := wired.facades.length
  refine ⟨objects.withObject kind, ?_, ?_⟩
  · unfold State.newLinks
    rw [adapterName, wrapperName]
    exact Delivery.runFrom_create linked kind
  · constructor
    case adapters =>
      rw [adapters]
      exact wired.adapters.push (by simp)
    case wrappers =>
      have kept : Arena.Matched
          (fun name owner wrapper => next.wrapperOf name owner = some wrapper) owners
          objects.wrappers :=
        wired.wrappers.mono fun found same =>
          (old _ _ (List.mem_of_getElem? found)).trans same
      apply kept.push
      rw [new, adapterName, ← facadeName]
    case facades =>
      have kept : Arena.Matched
          (fun name owner (facade : Delivery.Facade) =>
            (next.wrapperOf name owner).map Delivery.Wrapper.alive = some facade.alive) owners
          objects.facades :=
        wired.facades.mono fun found same => by
          rw [old _ _ (List.mem_of_getElem? found)]
          exact same
      apply kept.push
      rw [new, Option.map_some]
    case distinct =>
      unfold Arena.push
      rw [← List.concat_eq_append]
      exact List.Nodup.concat unknown wired.distinct
    case transports => exact transports
    case children => exact children

theorem Wired.makeTransport (consistent : Consistent session)
    (wired : Wired session owners objects) (linked : Delivery.Linked objects)
    {kind : TransportKind} {object : Handle} {pcFactory : PCFactory}
    (seen : process.seen books.book =
      ((session.process.seen books.book).withTransport object pcFactory).noting
        (books.made object)) :
    ∃ objectsNext,
      Delivery.machine.runFrom objects (session.newLinks owners kind.objectKind) =
          some objectsNext ∧
        Wired
          { session with
            process := process
            transports := session.transports.push
              { kind := kind, facade := ⟨session.process.nextAddress⟩, held := true } }
          (owners.push (.transport session.transports.fresh)) objectsNext := by
  apply wired.make linked
  · exact (Process.listenerAdapters_of_seen seen :)
  · simp only [State.wrapperOf, Arena.getElem?_push_fresh, Option.map_some, State.ivars,
      ivars_of_new seen]
    rfl
  · intro name other known
    cases other with
    | child child => rfl
    | transport transport =>
        have below := (wired.transports transport).mp known
        simp only [State.wrapperOf, Arena.getElem?_push_of_ne (Nat.ne_of_lt below)]
        cases lookup : session.transports[transport]? with
        | none => rfl
        | some held =>
            have same := consistent.ivars_of_old seen lookup
            simp only [Option.map_some, State.ivars, same]
  · intro known
    exact Nat.lt_irrefl _ ((wired.transports _).mp known)
  · intro name
    simp only [Arena.push, List.mem_append, List.mem_singleton, wired.transports,
      List.length_append, List.length_singleton, Owner.transport.injEq, Arena.fresh]
    omega
  · intro name
    simp [Arena.push, wired.children]

theorem Wired.makeChild (wired : Wired session owners objects) (linked : Delivery.Linked objects)
    {made : ChildFacade} {transport : Nat}
    (adapter : made.listenerAdapter = session.process.listenerAdapters.fresh)
    (adapters : process.listenerAdapters = session.process.listenerAdapters.push 0)
    (ivars : process.transportIvars = session.process.transportIvars) :
    ∃ objectsNext,
      Delivery.machine.runFrom objects (session.newLinks owners made.kind.objectKind) =
          some objectsNext ∧
        Wired
          { session with
            process := process
            children := session.children.push
              { facade := made, transport := transport, held := true, closeCalled := false } }
          (owners.push (.child session.children.fresh)) objectsNext := by
  apply wired.make linked adapters
  · simp only [State.wrapperOf, Arena.getElem?_push_fresh, Option.map_some, adapter]
  · intro name other known
    cases other with
    | transport transport => simp only [State.wrapperOf, State.ivars, ivars]
    | child child =>
        have below := (wired.children child).mp known
        simp only [State.wrapperOf, Arena.getElem?_push_of_ne (Nat.ne_of_lt below)]
  · intro known
    exact Nat.lt_irrefl _ ((wired.children _).mp known)
  · intro name
    simp [Arena.push, wired.transports]
  · intro name
    simp only [Arena.push, List.mem_append, List.mem_singleton, wired.children,
      List.length_append, List.length_singleton, Owner.child.injEq, Arena.fresh]
    omega

/-- A factory that threw leaves an adapter that nothing points at. -/
theorem Wired.fail (wired : Wired session owners objects) (linked : Delivery.Linked objects)
    (kind : ObjectKind)
    (adapters : process.listenerAdapters = session.process.listenerAdapters.push 1)
    (ivars : process.transportIvars = session.process.transportIvars) :
    ∃ objectsNext,
      Delivery.machine.runFrom objects
          [.newListenerAdapter kind,
            .deleteUnusedAdapter session.process.listenerAdapters.fresh] = some objectsNext ∧
        Wired { session with process := process } owners objectsNext := by
  have adapterName : session.process.listenerAdapters.fresh = objects.adapters.fresh :=
    wired.adapters.length
  have wrappers : ∀ name owner, ({ session with process := process } : State World).wrapperOf name
      owner = session.wrapperOf name owner := by
    intro name owner
    cases owner with
    | transport transport => simp only [State.wrapperOf, State.ivars, ivars]
    | child child => rfl
  rw [adapterName]
  refine ⟨_, Delivery.runFrom_fail linked kind, ?_⟩
  exact
    { adapters := by
        rw [adapters]
        exact wired.adapters.push (by simp)
      wrappers := wired.wrappers.mono fun _ same => (wrappers _ _).trans same
      facades := wired.facades.mono fun _ same => by
        rw [wrappers]
        exact same
      distinct := wired.distinct
      transports := wired.transports
      children := wired.children }

end New

/-! ### Objects that are disposed or released -/

section Gone

variable {library : NativeLibrary World} {Book : Type} {books : ObjectBook library Book}
  {session next : State World} {process : Process World} {owners : Arena Owner}
  {objects : Delivery.State} {name : Nat}

theorem TransportKind.isTransport_objectKind (kind : TransportKind) :
    kind.objectKind.isTransport = true := by
  cases kind <;> rfl

theorem ChildKind.isTransport_objectKind (kind : ChildKind) :
    kind.objectKind.isTransport = false := by
  cases kind <;> rfl

/-- Facade and wrapper go together. -/
theorem sameDeath (wrapper : Delivery.Wrapper) (facade : Delivery.Facade)
    (_ : wrapper.alive = facade.alive) :
    ({ wrapper with alive := false } : Delivery.Wrapper).alive =
      ({ facade with alive := false } : Delivery.Facade).alive := rfl

section Transport

variable {transport : HeldTransport} (found : session.transports[name]? = some transport)
include found

theorem Wired.transport_mem (wired : Wired session owners objects) :
    Owner.transport name ∈ owners :=
  (wired.transports name).mpr (List.getElem?_eq_some_iff.mp found).1

/-- The wrapper of a transport in the delivery model. -/
theorem Wired.found_transport (wired : Wired session owners objects) :
    objects.wrappers[owners.idxOf (.transport name)]? =
      some { kind := transport.kind.objectKind
             listenerAdapter := (session.ivars transport).listenerAdapter
             delegate := some (owners.idxOf (.transport name))
             alive := transport.held
             disposeStarted := (session.ivars transport).listenerAdapter.isNone } := by
  obtain ⟨wrapper, present, same⟩ := wired.exists_wrapper (wired.transport_mem found)
  rw [present, ← same, State.wrapperOf, found]
  rfl

theorem Wired.dispose (consistent : Consistent session) (wired : Wired session owners objects)
    {object : Handle} {adapter : AdapterPointer}
    (present : (session.ivars transport).transport = some object)
    (pointer : (session.ivars transport).listenerAdapter = some adapter)
    (seen : process.seen books.book =
      ((session.process.seen books.book).withoutTransport transport.facade.transport
        adapter).noting (books.deleted object)) :
    ∃ objectsNext,
      Delivery.machine.runFrom objects
          (session.disposeLinks (owners.idxOf (.transport name)) name) = some objectsNext ∧
        Wired { session with process := process } owners objectsNext := by
  have known := wired.transport_mem found
  have wrapper := wired.found_transport found
  have pointed := (pointedAdapter_of_present found present).trans pointer
  have rewires := rewires_disposed consistent found seen
  have isTransport := TransportKind.isTransport_objectKind transport.kind
  rw [pointer] at wrapper
  have links : session.disposeLinks (owners.idxOf (.transport name)) name =
      [.startDispose (owners.idxOf (.transport name)),
        .finishDispose (owners.idxOf (.transport name))] := by
    rw [State.disposeLinks, pointed]
  have ran := Delivery.runFrom_dispose wrapper rfl ⟨isTransport, rfl⟩
  have wrappers := rewires.wrappers wired known
  have facades := rewires.sameFacades wired known fun _ => rfl
  refine ⟨_, (congrArg (Delivery.machine.runFrom objects) links).trans ran, ?_⟩
  exact
    { adapters := by
        rw [(Process.listenerAdapters_of_seen seen :)]
        exact wired.adapters.modify fun _ _ => by simp
      wrappers := wrappers
      facades := facades
      distinct := wired.distinct
      transports := wired.transports
      children := wired.children }

theorem Wired.ran_release (wired : Wired session owners objects) :
    Delivery.machine.runFrom objects
        [.deallocFacade (owners.idxOf (.transport name)),
          .deallocWrapper (owners.idxOf (.transport name))] =
      some (objects.release (owners.idxOf (.transport name))
        (owners.idxOf (.transport name))) :=
  Delivery.runFrom_release (wired.found_transport found) rfl

/-- The last reference to a disposed transport goes. -/
theorem Wired.releaseDisposed (wired : Wired session owners objects)
    (disposed : (session.ivars transport).transport = none)
    (noPointer : (session.ivars transport).listenerAdapter = none) :
    ∃ objectsNext,
      Delivery.machine.runFrom objects
          ([.deallocFacade (owners.idxOf (.transport name)),
            .deallocWrapper (owners.idxOf (.transport name))] ++
            session.disposeLinks (owners.idxOf (.transport name)) name) = some objectsNext ∧
        Wired
          { session with
            transports := session.transports.modify name fun transport =>
              { transport with held := false } } owners objectsNext := by
  have known := wired.transport_mem found
  have wrapper := wired.found_transport found
  have wrappers := (rewires_unheld name).wrappers wired known
  have facades := (rewires_unheld name).facades wired known sameDeath
  have links : session.disposeLinks (owners.idxOf (.transport name)) name =
      [.startDispose (owners.idxOf (.transport name))] := by
    rw [State.disposeLinks, pointedAdapter_of_disposed found disposed]
  have released := Delivery.found_release wrapper (owners.idxOf (.transport name))
  refine ⟨objects.release (owners.idxOf (.transport name)) (owners.idxOf (.transport name)),
    ?_, ?_⟩
  · rw [Machine.runFrom_append, wired.ran_release found, Option.bind_some, links]
    exact Delivery.runFrom_disposeAgain released noPointer
  · exact
      { adapters := wired.adapters
        wrappers := wrappers
        facades := facades
        distinct := wired.distinct
        transports := fun other => by
          rw [List.length_modify]
          exact wired.transports other
        children := wired.children }

/-- The last reference to a transport that was not disposed goes. -/
theorem Wired.release (consistent : Consistent session) (wired : Wired session owners objects)
    {object : Handle} {adapter : AdapterPointer}
    (present : (session.ivars transport).transport = some object)
    (pointer : (session.ivars transport).listenerAdapter = some adapter)
    (seen : process.seen books.book =
      ((session.process.seen books.book).withoutTransport transport.facade.transport
        adapter).noting (books.deleted object)) :
    ∃ objectsNext,
      Delivery.machine.runFrom objects
          ([.deallocFacade (owners.idxOf (.transport name)),
            .deallocWrapper (owners.idxOf (.transport name))] ++
            session.disposeLinks (owners.idxOf (.transport name)) name) = some objectsNext ∧
        Wired
          { session with
            process := process
            transports := session.transports.modify name fun transport =>
              { transport with held := false } } owners objectsNext := by
  let wrapperName := owners.idxOf (.transport name)
  have known := wired.transport_mem found
  have wrapper := wired.found_transport found
  have pointed := (pointedAdapter_of_present found present).trans pointer
  have rewires := (rewires_disposed consistent found seen).trans
    (rewires_unheld name)
  have isTransport := TransportKind.isTransport_objectKind transport.kind
  rw [pointer] at wrapper
  have links : session.disposeLinks (owners.idxOf (.transport name)) name =
      [.startDispose (owners.idxOf (.transport name)),
        .finishDispose (owners.idxOf (.transport name))] := by
    rw [State.disposeLinks, pointed]
  have released := Delivery.found_release wrapper (owners.idxOf (.transport name))
  have wrappers := rewires.wrappers wired known
  have facades := rewires.facades wired known sameDeath
  -- The wrapper is changed twice, in the other order.
  have twice := List.modify_modify_eq
    (fun wrapper : Delivery.Wrapper => { wrapper with alive := false })
    (fun wrapper : Delivery.Wrapper =>
      { wrapper with listenerAdapter := none, disposeStarted := true })
    wrapperName objects.wrappers
  refine ⟨(objects.release wrapperName wrapperName).dispose wrapperName adapter, ?_, ?_⟩
  · rw [Machine.runFrom_append, wired.ran_release found, Option.bind_some, links]
    exact Delivery.runFrom_dispose released rfl ⟨isTransport, rfl⟩
  · exact
      { adapters := by
          rw [(Process.listenerAdapters_of_seen seen :)]
          exact wired.adapters.modify fun _ _ => by simp
        wrappers := (congrArg (Arena.Matched _ owners) twice).mpr wrappers
        facades := facades
        distinct := wired.distinct
        transports := fun other => by
          rw [List.length_modify]
          exact wired.transports other
        children := wired.children }

end Transport

/-- The last reference to a child goes. -/
theorem Wired.releaseChild (wired : Wired session owners objects) {child : HeldChild}
    (found : session.children[name]? = some child)
    (adapters : process.listenerAdapters =
      session.process.listenerAdapters.modify child.facade.listenerAdapter (· + 1))
    (ivars : process.transportIvars = session.process.transportIvars) :
    ∃ objectsNext,
      Delivery.machine.runFrom objects
          [.deallocFacade (owners.idxOf (.child name)),
            .deallocWrapper (owners.idxOf (.child name)),
            .deleteListenerAdapter (owners.idxOf (.child name))] = some objectsNext ∧
        Wired
          { session with
            process := process
            children := session.children.modify name fun child => { child with held := false } }
          owners objectsNext := by
  let wrapperName := owners.idxOf (.child name)
  have known : Owner.child name ∈ owners :=
    (wired.children name).mpr (List.getElem?_eq_some_iff.mp found).1
  obtain ⟨wrapper, present, same⟩ := wired.exists_wrapper known
  rw [State.wrapperOf, found] at same
  obtain rfl := Option.some.inj same
  have rewires := rewires_releasedChild name ivars
  have wrappers := rewires.wrappers wired known
  have facades := rewires.facades wired known sameDeath
  have released := Delivery.found_release present wrapperName
  have isChild := ChildKind.isTransport_objectKind child.facade.kind
  refine ⟨(objects.release wrapperName wrapperName).modifyAdapter child.facade.listenerAdapter
    fun object => { object with alive := false }, ?_, ?_⟩
  · show Delivery.machine.runFrom objects
      ([.deallocFacade wrapperName, .deallocWrapper wrapperName] ++
        [.deleteListenerAdapter wrapperName]) = _
    rw [Machine.runFrom_append, Delivery.runFrom_release present rfl, Option.bind_some]
    exact Delivery.runFrom_deleteListenerAdapter released rfl ⟨rfl, isChild⟩
  · exact
      { adapters := by
          rw [adapters]
          exact wired.adapters.modify fun _ _ => by simp
        wrappers := wrappers
        facades := facades
        distinct := wired.distinct
        transports := wired.transports
        children := fun other => by
          rw [List.length_modify]
          exact wired.children other }

end Gone

/-! ### Every step -/

section Steps

variable {library : NativeLibrary World} {native : World} {Book : Type}
  {books : ObjectBook library Book} {session next : State World} {process : Process World}
  {owners : Arena Owner} {objects : Delivery.State} {effect : Effect}

/-- Neither the wrappers nor the facades change. -/
theorem Wired.keepProcess (wired : Wired session owners objects) (devices : Arena HeldDevice)
    (updates : List PendingUpdate)
    (adapters : process.listenerAdapters = session.process.listenerAdapters)
    (ivars : process.transportIvars = session.process.transportIvars) :
    Wired { session with process := process, devices := devices, updates := updates } owners
      objects := by
  refine wired.keep adapters ?_ rfl rfl
  intro name owner
  cases owner with
  | transport transport => simp only [State.wrapperOf, State.ivars, ivars]
  | child child => rfl

theorem Wired.sameWrappers (wired : Wired session owners objects) (devices : Arena HeldDevice)
    (updates : List PendingUpdate)
    (wrappers : process.wrappers books.book = session.process.wrappers books.book) :
    Wired { session with process := process, devices := devices, updates := updates } owners
      objects :=
  wired.keepProcess devices updates (Process.wrappers_listenerAdapters wrappers)
    (Process.wrappers_transportIvars wrappers)

theorem Wired.closeChild (wired : Wired session owners objects) (name : Nat) :
    Wired
      { session with
        children := session.children.modify name fun child => { child with closeCalled := true } }
      owners objects := by
  refine wired.keep rfl ?_ rfl (List.length_modify ..)
  intro wrapper owner
  cases owner with
  | transport transport => rfl
  | child child =>
      simp only [State.wrapperOf, List.getElem?_modify, Option.map_eq_map, Option.map_map]
      congr 1
      funext held
      simp only [Function.comp_apply]
      split <;> rfl

theorem Wired.sameOwners (wired : Wired next owners objects)
    (noObject : session.made effect = none) :
    Wired next (owners ++ (session.made effect).toList) objects := by
  rw [noObject, Option.toList_none, List.append_nil]
  exact wired

/-- A step that leaves the links as they are. -/
theorem Wired.idle (consistent : Consistent session) (wired : Wired session owners objects)
    (idle : Idle session effect) (failedKind : ObjectKind) (next : State World)
    (adapters : next.process.listenerAdapters = session.process.listenerAdapters) :
    Delivery.machine.runFrom objects (session.links owners failedKind next effect) =
        some objects ∧
      session.made effect = none := by
  cases idle with
  | nothing =>
      refine ⟨?_, rfl⟩
      simp only [State.links, adapters, if_true]
      rfl
  | calledChild held => exact ⟨rfl, rfl⟩
  | closedTransport owner pointer => exact ⟨rfl, rfl⟩
  | @disposed kind name facade owner noPointer =>
      obtain ⟨transport, found, -, -, rfl⟩ := transport_eq_some owner
      have noAdapter := (consistent.pointers name transport found).mp noPointer
      have links : session.links owners failedKind next (.disposed name) =
          [.startDispose (owners.idxOf (.transport name))] := by
        simp only [State.links, State.disposeLinks, pointedAdapter_of_disposed found noPointer]
      refine ⟨(congrArg (Delivery.machine.runFrom objects) links).trans ?_, rfl⟩
      exact Delivery.runFrom_disposeAgain (wired.found_transport found) noAdapter

/-- The delivery model takes the links of every step. -/
theorem Wired.changed (consistent : Consistent session) (wired : Wired session owners objects)
    (linked : Delivery.Linked objects) (failedKind : ObjectKind)
    (changed : Changed books session effect next) :
    ∃ objectsNext,
      Delivery.machine.runFrom objects (session.links owners failedKind next effect) =
          some objectsNext ∧
        Wired next (owners ++ (session.made effect).toList) objectsNext := by
  cases changed with
  | @kept process devices effect idle wrappers =>
      obtain ⟨ran, noObject⟩ := wired.idle consistent idle failedKind
        { session with process := process, devices := devices }
        (Process.wrappers_listenerAdapters wrappers)
      have kept := wired.sameWrappers devices session.updates wrappers
      exact ⟨objects, ran, kept.sameOwners noObject⟩
  | beganUpdate held wrappers =>
      exact ⟨objects, rfl, (wired.sameWrappers session.devices _ wrappers).sameOwners rfl⟩
  | finishedUpdate innermost wrappers =>
      exact ⟨objects, rfl, (wired.sameWrappers session.devices _ wrappers).sameOwners rfl⟩
  | @failed process seen =>
      have adapters : process.listenerAdapters = session.process.listenerAdapters.push 1 :=
        (Process.listenerAdapters_of_seen seen :)
      obtain ⟨objectsNext, ran, wiredNext⟩ := wired.fail linked failedKind adapters
        (Process.transportIvars_of_seen seen :)
      have grown : ¬ (session.process.listenerAdapters.push 1).length =
          session.process.listenerAdapters.length := by simp [Arena.push]
      refine ⟨objectsNext, ?_, wiredNext.sameOwners rfl⟩
      rw [State.links, adapters, if_neg grown]
      exact ran
  | closedChild held wrappers =>
      have kept := wired.sameWrappers session.devices session.updates wrappers
      exact ⟨objects, rfl, (kept.closeChild _).sameOwners rfl⟩
  | replacedTrack held seen =>
      have kept := wired.keepProcess session.devices session.updates
        (Process.listenerAdapters_of_seen seen :) (Process.transportIvars_of_seen seen :)
      exact ⟨objects, rfl, kept.sameOwners rfl⟩
  | madeTransport seen => exact wired.makeTransport consistent linked seen
  | @madeProducer process transport facade made track owner pointer address adapter seen =>
      have facadeAdapter : (ChildFacade.producer made).listenerAdapter =
          session.process.listenerAdapters.fresh := adapter
      exact wired.makeChild linked facadeAdapter (Process.listenerAdapters_of_seen seen :)
        (Process.transportIvars_of_seen seen :)
  | madeChild owner pointer isKind other adapter seen =>
      subst isKind
      exact wired.makeChild linked adapter (Process.listenerAdapters_of_seen seen :)
        (Process.transportIvars_of_seen seen :)
  | disposed found held present pointer seen =>
      obtain ⟨objectsNext, ran, wiredNext⟩ := wired.dispose found consistent present pointer seen
      exact ⟨objectsNext, ran, wiredNext.sameOwners rfl⟩
  | @releasedDisposed name transport found held disposed =>
      have noAdapter := (consistent.pointers name transport found).mp disposed
      obtain ⟨objectsNext, ran, wiredNext⟩ := wired.releaseDisposed found disposed noAdapter
      exact ⟨objectsNext, ran, wiredNext.sameOwners rfl⟩
  | releasedTransport found held present pointer seen =>
      obtain ⟨objectsNext, ran, wiredNext⟩ := wired.release found consistent present pointer seen
      exact ⟨objectsNext, ran, wiredNext.sameOwners rfl⟩
  | releasedChild found held unused seen =>
      obtain ⟨objectsNext, ran, wiredNext⟩ :=
        wired.releaseChild found (Process.listenerAdapters_of_seen seen :)
          (Process.transportIvars_of_seen seen :)
      exact ⟨objectsNext, ran, wiredNext.sameOwners rfl⟩

end Steps

end Session

end MediasoupClientSwift
