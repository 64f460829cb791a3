import MediasoupClientSwift.Api.SessionEffects
import MediasoupClientSwift.Library.Accounting

/-!
Owns the accounting of listener adapters over sessions. The main result says
that after any run of public calls and releases, failed calls included, the live
adapters are exactly those of the transports that were not disposed and of the
children that are held, and no two of these share one.
-/

namespace MediasoupClientSwift.Session

open Library

variable {World : Type}

/-- An object that deletes a listener adapter. -/
inductive Owner where
  | transport (name : Nat)
  | child (name : Nat)
deriving DecidableEq, Repr

/-- The adapter was allocated and not deleted. -/
def AdapterLive (process : Process World) (adapter : AdapterPointer) : Prop :=
  process.listenerAdapters[adapter]? = some 0

/-- No adapter was deleted a second time. -/
def DeletedAtMostOnce (process : Process World) : Prop :=
  Arena.All (fun _ deletions => deletions ≤ 1) process.listenerAdapters

/-- The object's wrapper points at the adapter and will delete it. -/
def State.Owns (session : State World) : Owner → AdapterPointer → Prop
  | .transport name, adapter => ∃ transport : HeldTransport,
      session.transports[name]? = some transport ∧
        (session.process.transportIvars transport.facade.transport).listenerAdapter = some adapter
  | .child name, adapter => ∃ child : HeldChild, session.children[name]? = some child ∧
      child.held = true ∧ child.facade.listenerAdapter = adapter

/-- `_listenerAdapter` of a transport's wrapper that was not disposed. -/
def State.pointedAdapter (session : State World) (name : Nat) : Option AdapterPointer := do
  let transport ← session.transports[name]?
  if (session.ivars transport).transport.isSome then (session.ivars transport).listenerAdapter
  else none

/-- The adapter of the object that a step disposes or releases. -/
def State.deletes (session : State World) : Action World → Option AdapterPointer
  | .sendTransport name (.transport .dispose) => session.pointedAdapter name
  | .receiveTransport name (.transport .dispose) => session.pointedAdapter name
  | .releaseTransport name => session.pointedAdapter name
  | .releaseChild name => (session.child name).map ChildFacade.listenerAdapter
  | _ => none

def State.deletedBy (session : State World) : Effect → Option AdapterPointer
  | .disposed name => session.pointedAdapter name
  | .releasedTransport name => session.pointedAdapter name
  | .releasedChild name => (session.child name).map ChildFacade.listenerAdapter
  | _ => none

/-- The books are in order, and every transport has a wrapper of its own, whose
pointers are null together and null once it is released. -/
structure Consistent (session : State World) : Prop where
  accounted : Accounted (AdapterLive session.process) session.Owns
  addresses : Arena.All (fun _ transport => transport.facade.transport < session.process.nextAddress)
    session.transports
  distinct : ∀ {first second : Nat} {one other : HeldTransport},
    session.transports[first]? = some one → session.transports[second]? = some other →
    one.facade.transport = other.facade.transport → first = second
  pointers : Arena.All (fun _ transport => (session.ivars transport).transport = none ↔
    (session.ivars transport).listenerAdapter = none) session.transports
  released : Arena.All (fun _ transport => transport.held = false →
    (session.ivars transport).transport = none) session.transports

/-! ### Allocating and deleting adapters -/

section Adapters

variable {process reached : Process World}

private theorem adapterLive_congr (same : reached.listenerAdapters = process.listenerAdapters)
    (adapter : AdapterPointer) : AdapterLive reached adapter ↔ AdapterLive process adapter := by
  unfold AdapterLive
  rw [same]

private theorem not_adapterLive_fresh : ¬ AdapterLive process process.listenerAdapters.fresh :=
  fun isLive => Arena.ne_fresh_of_getElem? isLive rfl

private theorem adapterLive_push (same : reached.listenerAdapters = process.listenerAdapters.push 0)
    (adapter : AdapterPointer) :
    AdapterLive reached adapter ↔
      AdapterLive process adapter ∨ adapter = process.listenerAdapters.fresh := by
  unfold AdapterLive
  rw [same]
  by_cases isFresh : adapter = process.listenerAdapters.fresh
  · subst isFresh
    rw [Arena.getElem?_push_fresh]
    simp
  · rw [Arena.getElem?_push_of_ne isFresh]
    simp [isFresh]

private theorem adapterLive_pushDeleted
    (same : reached.listenerAdapters = process.listenerAdapters.push 1)
    (adapter : AdapterPointer) : AdapterLive reached adapter ↔ AdapterLive process adapter := by
  by_cases isFresh : adapter = process.listenerAdapters.fresh
  · subst isFresh
    apply iff_of_false _ not_adapterLive_fresh
    unfold AdapterLive
    rw [same, Arena.getElem?_push_fresh]
    simp
  · unfold AdapterLive
    rw [same, Arena.getElem?_push_of_ne isFresh]

private theorem adapterLive_delete {deleted : AdapterPointer}
    (same : reached.listenerAdapters = process.listenerAdapters.modify deleted (· + 1))
    (adapter : AdapterPointer) :
    AdapterLive reached adapter ↔ AdapterLive process adapter ∧ adapter ≠ deleted := by
  unfold AdapterLive
  rw [same]
  by_cases isDeleted : adapter = deleted
  · subst isDeleted
    rw [Arena.getElem?_modify_self]
    cases process.listenerAdapters[adapter]? <;> simp
  · rw [Arena.getElem?_modify_of_ne _ isDeleted]
    simp [isDeleted]

end Adapters

/-! ### Pointers -/

section Pointers

variable {library : NativeLibrary World} {Book : Type} {books : ObjectBook library Book}
  {session : State World} {process : Process World}

theorem ivars_of_new {object : Handle} {pcFactory : PCFactory}
    (seen : process.seen books.book =
      ((session.process.seen books.book).withTransport object pcFactory).noting (books.made object)) :
    process.transportIvars session.process.nextAddress =
      { transport := some object
        listenerAdapter := some session.process.listenerAdapters.fresh
        pcFactory := pcFactory } := by
  rw [Process.transportIvars_of_seen seen]
  exact Function.update_self ..

theorem Consistent.ivars_of_old (consistent : Consistent session) {object : Handle}
    {pcFactory : PCFactory} (seen : process.seen books.book =
      ((session.process.seen books.book).withTransport object pcFactory).noting (books.made object))
    {name : Nat} {transport : HeldTransport} (found : session.transports[name]? = some transport) :
    process.transportIvars transport.facade.transport = session.ivars transport := by
  rw [Process.transportIvars_of_seen seen]
  exact Function.update_of_ne (Nat.ne_of_lt (consistent.addresses name transport found)) ..

theorem ivars_of_disposed {transport : HeldTransport} {adapter : AdapterPointer}
    (seen : process.seen books.book =
      ((session.process.seen books.book).withoutTransport transport.facade.transport
        adapter).noting (books.deleted object)) :
    process.transportIvars transport.facade.transport =
      { session.ivars transport with transport := none, listenerAdapter := none } := by
  rw [Process.transportIvars_of_seen seen]
  exact Function.update_self ..

/-- No other transport has the disposed one's wrapper. -/
theorem Consistent.ivars_of_other (consistent : Consistent session) {name other : Nat}
    {transport kept : HeldTransport} {adapter : AdapterPointer}
    (found : session.transports[name]? = some transport)
    (seen : process.seen books.book =
      ((session.process.seen books.book).withoutTransport transport.facade.transport
        adapter).noting (books.deleted object))
    (lookup : session.transports[other]? = some kept) (different : other ≠ name) :
    process.transportIvars kept.facade.transport = session.ivars kept := by
  rw [Process.transportIvars_of_seen seen]
  apply Function.update_of_ne
  exact fun same => different (consistent.distinct lookup found same)

end Pointers

/-! ### One step -/

section Steps

variable {library : NativeLibrary World} {Book : Type} {books : ObjectBook library Book}
  {session : State World}

/-- A step that moves no pointer and makes or releases no facade. -/
theorem Consistent.keep (consistent : Consistent session) {process : Process World}
    (devices : Arena HeldDevice) (updates : List PendingUpdate)
    (lives : ∀ adapter, AdapterLive process adapter ↔ AdapterLive session.process adapter)
    (ivars : process.transportIvars = session.process.transportIvars)
    (address : process.nextAddress = session.process.nextAddress) :
    Consistent { session with process := process, devices := devices, updates := updates } := by
  constructor
  case accounted =>
    apply consistent.accounted.congr lives
    intro owner adapter
    cases owner with
    | transport name =>
        unfold State.Owns
        rw [ivars]
    | child name => exact Iff.rfl
  case addresses =>
    show Arena.All (fun _ _ => _ < process.nextAddress) _
    rw [address]
    exact consistent.addresses
  case distinct => exact consistent.distinct
  case pointers =>
    unfold State.ivars
    rw [ivars]
    exact consistent.pointers
  case released =>
    unfold State.ivars
    rw [ivars]
    exact consistent.released

theorem Consistent.sameWrappers (consistent : Consistent session) {process : Process World}
    (devices : Arena HeldDevice) (updates : List PendingUpdate)
    (wrappers : process.wrappers books.book = session.process.wrappers books.book) :
    Consistent { session with process := process, devices := devices, updates := updates } :=
  consistent.keep devices updates
    (adapterLive_congr (Process.wrappers_listenerAdapters wrappers))
    (Process.wrappers_transportIvars wrappers) (Process.wrappers_nextAddress wrappers)

/-- A step that writes only whether a child was closed. -/
theorem Consistent.closed (consistent : Consistent session) (name : Nat) :
    Consistent { session with
      children := session.children.modify name fun child => { child with closeCalled := true } } := by
  refine ⟨?accounted, consistent.addresses, consistent.distinct, consistent.pointers,
    consistent.released⟩
  apply consistent.accounted.congr fun _ => Iff.rfl
  intro owner adapter
  cases owner with
  | transport other => exact Iff.rfl
  | child other =>
      constructor
      · rintro ⟨kept, lookup, held, points⟩
        obtain ⟨old, present, sameHeld, sameFacade⟩ := Arena.exists_of_getElem?_modify
          (fun old kept : HeldChild => old.held = kept.held ∧ old.facade = kept.facade) lookup
          (fun _ => ⟨rfl, rfl⟩) fun _ => ⟨rfl, rfl⟩
        exact ⟨old, present, sameHeld.trans held, by rw [sameFacade]; exact points⟩
      · rintro ⟨old, present, held, points⟩
        obtain ⟨kept, lookup, sameHeld, sameFacade⟩ := Arena.exists_getElem?_modify
          (fun kept old : HeldChild => kept.held = old.held ∧ kept.facade = old.facade) name
          (fun child : HeldChild => { child with closeCalled := true }) present ⟨rfl, rfl⟩
          fun _ => ⟨rfl, rfl⟩
        exact ⟨kept, lookup, sameHeld.trans held, by rw [sameFacade]; exact points⟩

theorem Consistent.transport (consistent : Consistent session) {process : Process World}
    {kind : Children.TransportKind} {object : Handle} {pcFactory : PCFactory}
    (seen : process.seen books.book =
      ((session.process.seen books.book).withTransport object pcFactory).noting (books.made object)) :
    Consistent { session with
      process := process
      transports := session.transports.push
        { kind := kind, facade := ⟨session.process.nextAddress⟩, held := true } } := by
  have address : process.nextAddress = session.process.nextAddress + 1 :=
    (Process.nextAddress_of_seen seen :)
  have newIvars := ivars_of_new seen
  have oldIvars : ∀ (name : Nat) (transport : HeldTransport),
      session.transports[name]? = some transport →
      process.transportIvars transport.facade.transport = session.ivars transport :=
    fun name transport found => consistent.ivars_of_old seen found
  constructor
  case accounted =>
    apply consistent.accounted.acquire (.transport session.transports.fresh)
      not_adapterLive_fresh (adapterLive_push (Process.listenerAdapters_of_seen seen :))
    intro owner adapter
    cases owner with
    | child name => simp [State.Owns]
    | transport name =>
        constructor
        · rintro ⟨transport, lookup, points⟩
          rcases Arena.getElem?_push_cases lookup with ⟨rfl, rfl⟩ | found
          · rw [newIvars] at points
            exact Or.inr ⟨rfl, (Option.some.inj points).symm⟩
          · rw [oldIvars name transport found] at points
            exact Or.inl ⟨transport, found, points⟩
        · rintro (⟨transport, found, points⟩ | ⟨same, rfl⟩)
          · refine ⟨transport, Arena.getElem?_push_of_some found, ?_⟩
            rw [oldIvars name transport found]
            exact points
          · obtain rfl := Owner.transport.inj same
            refine ⟨_, Arena.getElem?_push_fresh _ _, ?_⟩
            rw [newIvars]
  case addresses =>
    show Arena.All
      (fun _ (transport : HeldTransport) => transport.facade.transport < process.nextAddress) _
    rw [address]
    apply Arena.All.push
    · exact consistent.addresses.mono fun _ _ _ below => Nat.lt_succ_of_lt below
    · exact Nat.lt_succ_self _
  case distinct =>
    intro first second one other firstFound secondFound same
    rcases Arena.getElem?_push_cases firstFound with ⟨rfl, rfl⟩ | firstOld <;>
      rcases Arena.getElem?_push_cases secondFound with ⟨rfl, rfl⟩ | secondOld
    · rfl
    · exact absurd same.symm (Nat.ne_of_lt (consistent.addresses _ _ secondOld))
    · exact absurd same (Nat.ne_of_lt (consistent.addresses _ _ firstOld))
    · exact consistent.distinct firstOld secondOld same
  case pointers =>
    intro name transport lookup
    unfold State.ivars
    rcases Arena.getElem?_push_cases lookup with ⟨rfl, rfl⟩ | found
    · rw [newIvars]
      simp
    · rw [oldIvars name transport found]
      exact consistent.pointers name transport found
  case released =>
    intro name transport lookup notHeld
    unfold State.ivars
    rcases Arena.getElem?_push_cases lookup with ⟨rfl, rfl⟩ | found
    · cases notHeld
    · rw [oldIvars name transport found]
      exact consistent.released name transport found notHeld

/-- A child that is created on an adapter of its own. -/
theorem Consistent.child (consistent : Consistent session) {process : Process World}
    {made : HeldChild} (held : made.held = true)
    (adapter : made.facade.listenerAdapter = session.process.listenerAdapters.fresh)
    (adapters : process.listenerAdapters = session.process.listenerAdapters.push 0)
    (ivars : process.transportIvars = session.process.transportIvars)
    (address : session.process.nextAddress ≤ process.nextAddress) :
    Consistent { session with process := process, children := session.children.push made } := by
  constructor
  case accounted =>
    apply consistent.accounted.acquire (.child session.children.fresh)
      not_adapterLive_fresh (adapterLive_push adapters)
    intro owner pointer
    cases owner with
    | transport name => simp [State.Owns, ivars]
    | child name =>
        constructor
        · rintro ⟨child, lookup, isHeld, points⟩
          rcases Arena.getElem?_push_cases lookup with ⟨rfl, rfl⟩ | found
          · exact Or.inr ⟨rfl, points.symm.trans adapter⟩
          · exact Or.inl ⟨child, found, isHeld, points⟩
        · rintro (⟨child, found, isHeld, points⟩ | ⟨same, rfl⟩)
          · exact ⟨child, Arena.getElem?_push_of_some found, isHeld, points⟩
          · obtain rfl := Owner.child.inj same
            exact ⟨made, Arena.getElem?_push_fresh _ _, held, adapter⟩
  case addresses => exact consistent.addresses.mono fun _ _ _ below => Nat.lt_of_lt_of_le below address
  case distinct => exact consistent.distinct
  case pointers =>
    unfold State.ivars
    rw [ivars]
    exact consistent.pointers
  case released =>
    unfold State.ivars
    rw [ivars]
    exact consistent.released

theorem Consistent.disposed (consistent : Consistent session) {process : Process World} {name : Nat}
    {transport : HeldTransport} {adapter : AdapterPointer}
    (found : session.transports[name]? = some transport)
    (pointer : (session.ivars transport).listenerAdapter = some adapter)
    (seen : process.seen books.book =
      ((session.process.seen books.book).withoutTransport transport.facade.transport
        adapter).noting (books.deleted object)) :
    Consistent { session with process := process } ∧
      (process.transportIvars transport.facade.transport).transport = none := by
  have address : process.nextAddress = session.process.nextAddress := (Process.nextAddress_of_seen seen :)
  have cleared := ivars_of_disposed seen
  have others : ∀ {other : Nat} {kept : HeldTransport}, session.transports[other]? = some kept →
      other ≠ name → process.transportIvars kept.facade.transport = session.ivars kept :=
    fun lookup different => consistent.ivars_of_other found seen lookup different
  have owns : session.Owns (.transport name) adapter := ⟨transport, found, pointer⟩
  refine ⟨⟨?accounted, ?addresses, consistent.distinct, ?pointers, ?released⟩, by rw [cleared]⟩
  case accounted =>
    apply consistent.accounted.release owns
      (adapterLive_delete (Process.listenerAdapters_of_seen seen :))
    intro owner released
    cases owner with
    | child other => simp [State.Owns]
    | transport other =>
        by_cases same : other = name
        · subst same
          constructor
          · rintro ⟨kept, lookup, points⟩
            obtain rfl := Option.some.inj (lookup.symm.trans found)
            rw [cleared] at points
            cases points
          · rintro ⟨⟨kept, lookup, points⟩, notOwn⟩
            obtain rfl := Option.some.inj (lookup.symm.trans found)
            exact absurd ⟨rfl, Option.some.inj (points.symm.trans pointer)⟩ notOwn
        · constructor
          · rintro ⟨kept, lookup, points⟩
            rw [others lookup same] at points
            exact ⟨⟨kept, lookup, points⟩, fun both => same (Owner.transport.inj both.1)⟩
          · rintro ⟨⟨kept, lookup, points⟩, -⟩
            refine ⟨kept, lookup, ?_⟩
            rw [others lookup same]
            exact points
  case addresses =>
    show Arena.All (fun _ (kept : HeldTransport) => kept.facade.transport < process.nextAddress) _
    rw [address]
    exact consistent.addresses
  case pointers =>
    intro other kept lookup
    show (process.transportIvars kept.facade.transport).transport = none ↔
      (process.transportIvars kept.facade.transport).listenerAdapter = none
    by_cases same : other = name
    · subst same
      obtain rfl := Option.some.inj (lookup.symm.trans found)
      rw [cleared]
    · rw [others lookup same]
      exact consistent.pointers other kept lookup
  case released =>
    intro other kept lookup notHeld
    show (process.transportIvars kept.facade.transport).transport = none
    by_cases same : other = name
    · subst same
      obtain rfl := Option.some.inj (lookup.symm.trans found)
      rw [cleared]
    · rw [others lookup same]
      exact consistent.released other kept lookup notHeld

/-- The facade of a disposed transport goes. -/
theorem Consistent.unheld (consistent : Consistent session) {name : Nat}
    {transport : HeldTransport} (found : session.transports[name]? = some transport)
    (disposed : (session.ivars transport).transport = none) :
    Consistent { session with
      transports := session.transports.modify name fun transport =>
        { transport with held := false } } := by
  -- A lookup finds a transport with the facade it had.
  have before : ∀ {other : Nat} {kept : HeldTransport},
      (session.transports.modify name fun transport => { transport with held := false })[other]? =
        some kept →
      ∃ old, session.transports[other]? = some old ∧ old.facade = kept.facade :=
    fun lookup => Arena.exists_of_getElem?_modify (fun old kept => old.facade = kept.facade) lookup
      (fun _ => rfl) fun _ => rfl
  have after : ∀ {other : Nat} {old : HeldTransport}, session.transports[other]? = some old →
      ∃ kept, (session.transports.modify name fun transport =>
        { transport with held := false })[other]? = some kept ∧ kept.facade = old.facade :=
    fun lookup => Arena.exists_getElem?_modify (fun kept old => kept.facade = old.facade) name _
      lookup rfl fun _ => rfl
  constructor
  case accounted =>
    apply consistent.accounted.congr fun _ => Iff.rfl
    intro owner adapter
    cases owner with
    | child other => exact Iff.rfl
    | transport other =>
        constructor
        · rintro ⟨kept, lookup, points⟩
          obtain ⟨old, present, same⟩ := before lookup
          exact ⟨old, present, by rw [same]; exact points⟩
        · rintro ⟨old, present, points⟩
          obtain ⟨kept, lookup, same⟩ := after present
          exact ⟨kept, lookup, by rw [same]; exact points⟩
  case addresses => exact consistent.addresses.modify fun _ _ below => below
  case distinct =>
    intro first second one other firstFound secondFound same
    obtain ⟨oldOne, firstOld, sameOne⟩ := before firstFound
    obtain ⟨oldOther, secondOld, sameOther⟩ := before secondFound
    exact consistent.distinct firstOld secondOld (by rw [sameOne, sameOther]; exact same)
  case pointers => exact consistent.pointers.modify fun _ _ paired => paired
  case released =>
    apply consistent.released.modify
    intro object present _ _
    obtain rfl := Option.some.inj (present.symm.trans found)
    exact disposed

theorem Consistent.releasedChild (consistent : Consistent session) {process : Process World}
    {name : Nat} {child : HeldChild} (found : session.children[name]? = some child)
    (held : child.held = true)
    (seen : process.seen books.book =
      ((session.process.seen books.book).withoutAdapter child.facade.listenerAdapter).noting
        (books.deleted child.facade.object)) :
    Consistent { session with
      process := process
      children := session.children.modify name fun child => { child with held := false } } := by
  have ivars : process.transportIvars = session.process.transportIvars :=
    (Process.transportIvars_of_seen seen :)
  have owns : session.Owns (.child name) child.facade.listenerAdapter := ⟨child, found, held, rfl⟩
  constructor
  case accounted =>
    apply consistent.accounted.release owns
      (adapterLive_delete (Process.listenerAdapters_of_seen seen :))
    intro owner adapter
    cases owner with
    | transport other => simp [State.Owns, ivars]
    | child other =>
        constructor
        · rintro ⟨kept, lookup, isHeld, points⟩
          rcases Arena.getElem?_modify_cases lookup with ⟨-, old, -, rfl⟩ | ⟨different, present⟩
          · cases isHeld
          · exact ⟨⟨kept, present, isHeld, points⟩, fun both => different (Owner.child.inj both.1)⟩
        · rintro ⟨⟨kept, present, isHeld, points⟩, notOwn⟩
          by_cases same : other = name
          · subst same
            obtain rfl := Option.some.inj (present.symm.trans found)
            exact absurd ⟨rfl, points.symm⟩ notOwn
          · exact ⟨kept, (Arena.getElem?_modify_of_ne _ same).trans present, isHeld, points⟩
  case addresses =>
    show Arena.All (fun _ (kept : HeldTransport) => kept.facade.transport < process.nextAddress) _
    rw [Process.nextAddress_of_seen seen]
    exact consistent.addresses
  case distinct => exact consistent.distinct
  case pointers =>
    unfold State.ivars
    rw [ivars]
    exact consistent.pointers
  case released =>
    unfold State.ivars
    rw [ivars]
    exact consistent.released

end Steps

/-! ### Runs -/

section Runs

variable {library : NativeLibrary World} {Book : Type} {books : ObjectBook library Book}
  {native : World} {session next : State World}
  {effect : Effect}

theorem consistent_of_changed (consistent : Consistent session)
    (changed : Changed books session effect next) : Consistent next := by
  cases changed with
  | kept idle wrappers => exact consistent.sameWrappers _ _ wrappers
  | beganUpdate held wrappers => exact consistent.sameWrappers _ _ wrappers
  | finishedUpdate innermost wrappers => exact consistent.sameWrappers _ _ wrappers
  | closedChild held wrappers =>
      exact (consistent.sameWrappers session.devices session.updates wrappers).closed _
  | failed seen =>
      apply consistent.keep _ _
      · exact adapterLive_pushDeleted (Process.listenerAdapters_of_seen seen :)
      · exact (Process.transportIvars_of_seen seen :)
      · exact (Process.nextAddress_of_seen seen :)
  | replacedTrack held seen =>
      apply consistent.keep _ _
      · exact adapterLive_congr (Process.listenerAdapters_of_seen seen :)
      · exact (Process.transportIvars_of_seen seen :)
      · exact (Process.nextAddress_of_seen seen :)
  | madeTransport seen => exact consistent.transport seen
  | @madeProducer process transport facade made track owner pointer same adapter seen =>
      have address := (Process.nextAddress_of_seen seen :)
      have facadeAdapter : (ChildFacade.producer made).listenerAdapter =
          session.process.listenerAdapters.fresh := adapter
      apply consistent.child rfl facadeAdapter (Process.listenerAdapters_of_seen seen :)
        (Process.transportIvars_of_seen seen :)
      rw [address]
      exact Nat.le_succ _
  | madeChild owner pointer isKind other adapter seen =>
      have address := (Process.nextAddress_of_seen seen :)
      apply consistent.child rfl adapter (Process.listenerAdapters_of_seen seen :)
        (Process.transportIvars_of_seen seen :)
      rw [address]
      exact Nat.le_refl _
  | disposed found held present pointer seen => exact (consistent.disposed found pointer seen).1
  | releasedDisposed found held disposed => exact consistent.unheld found disposed
  | releasedTransport found held present pointer seen =>
      obtain ⟨disposed, cleared⟩ := consistent.disposed found pointer seen
      exact disposed.unheld found cleared
  | releasedChild found held unused seen => exact consistent.releasedChild found held seen

theorem consistent_initial : Consistent (machine library native).initial := by
  have unowned : ∀ owner adapter, ¬ (machine library native).initial.Owns owner adapter := by
    intro owner adapter
    cases owner <;> simp [machine, State.Owns]
  constructor
  case accounted =>
    constructor
    case live_iff =>
      intro adapter
      apply iff_of_false
      · simp [machine, newProcess, AdapterLive]
      · exact fun owned => owned.elim fun owner owns => unowned owner adapter owns
    case unshared => exact fun owns => absurd owns (unowned _ _)
  case addresses => exact Arena.All.empty
  case distinct =>
    intro first second one other found
    simp [machine] at found
  case pointers => exact Arena.All.empty
  case released => exact Arena.All.empty

theorem consistent_of_step {action : Action World} (consistent : Consistent session)
    (stepped : (machine library native).step session action = some next) : Consistent next :=
  consistent_of_changed consistent (changed_of_step (.blank library) stepped)

theorem consistent_of_run {actions : List (Action World)}
    (ran : (machine library native).run actions = some session) : Consistent session :=
  Machine.invariant_run (fun _ _ _ consistent stepped => consistent_of_step consistent stepped)
    consistent_initial ran

theorem pointedAdapter_of_present {name : Nat} {transport : HeldTransport} {object : Handle}
    (found : session.transports[name]? = some transport)
    (present : (session.ivars transport).transport = some object) :
    session.pointedAdapter name = (session.ivars transport).listenerAdapter := by
  simp [State.pointedAdapter, found, present]

theorem pointedAdapter_of_disposed {name : Nat} {transport : HeldTransport}
    (found : session.transports[name]? = some transport)
    (disposed : (session.ivars transport).transport = none) :
    session.pointedAdapter name = none := by
  simp [State.pointedAdapter, found, disposed]

theorem Idle.deletedBy (idle : Idle session effect) : session.deletedBy effect = none := by
  cases idle with
  | disposed owner noPointer =>
      obtain ⟨transport, found, -, -, rfl⟩ := transport_eq_some owner
      exact pointedAdapter_of_disposed found noPointer
  | _ => rfl

/-- The adapter that goes with the effect is live before the step. -/
theorem adapterLive_of_deletedBy (consistent : Consistent session)
    (changed : Changed books session effect next) {adapter : AdapterPointer}
    (deleted : session.deletedBy effect = some adapter) : AdapterLive session.process adapter := by
  cases changed with
  | kept idle wrappers =>
      rw [idle.deletedBy] at deleted
      cases deleted
  | disposed found held present pointer seen =>
      obtain rfl := Option.some.inj
        (pointer.symm.trans ((pointedAdapter_of_present found present).symm.trans deleted))
      exact consistent.accounted.live (show session.Owns (.transport _) _ from ⟨_, found, pointer⟩)
  | releasedDisposed found held disposed =>
      cases (pointedAdapter_of_disposed found disposed).symm.trans deleted
  | releasedTransport found held present pointer seen =>
      obtain rfl := Option.some.inj
        (pointer.symm.trans ((pointedAdapter_of_present found present).symm.trans deleted))
      exact consistent.accounted.live (show session.Owns (.transport _) _ from ⟨_, found, pointer⟩)
  | releasedChild found held unused seen =>
      have isChild := child_eq_some_iff.mpr ⟨_, found, held, rfl⟩
      simp only [State.deletedBy, isChild, Option.map_some, Option.some.injEq] at deleted
      exact consistent.accounted.live
        (show session.Owns (.child _) _ from ⟨_, found, held, deleted⟩)
  | _ => cases deleted

/-- An effect deletes its adapter once and touches no other; without one it keeps
all adapters and perhaps allocates one more. -/
theorem listenerAdapters_of_changed (changed : Changed books session effect next) :
    match session.deletedBy effect with
    | some adapter => next.process.listenerAdapters =
        session.process.listenerAdapters.modify adapter (· + 1)
    | none => next.process.listenerAdapters = session.process.listenerAdapters ∨
        ∃ deletions ≤ 1,
          next.process.listenerAdapters = session.process.listenerAdapters.push deletions := by
  cases changed with
  | kept idle wrappers =>
      rw [idle.deletedBy]
      exact Or.inl (Process.wrappers_listenerAdapters wrappers)
  | beganUpdate held wrappers => exact Or.inl (Process.wrappers_listenerAdapters wrappers)
  | finishedUpdate innermost wrappers => exact Or.inl (Process.wrappers_listenerAdapters wrappers)
  | closedChild held wrappers => exact Or.inl (Process.wrappers_listenerAdapters wrappers)
  | failed seen => exact Or.inr ⟨1, Nat.le_refl 1, (Process.listenerAdapters_of_seen seen :)⟩
  | replacedTrack held seen => exact Or.inl (Process.listenerAdapters_of_seen seen :)
  | madeTransport seen =>
      exact Or.inr ⟨0, Nat.zero_le 1, (Process.listenerAdapters_of_seen seen :)⟩
  | madeProducer owner pointer address made seen =>
      exact Or.inr ⟨0, Nat.zero_le 1, (Process.listenerAdapters_of_seen seen :)⟩
  | madeChild owner pointer isKind other made seen =>
      exact Or.inr ⟨0, Nat.zero_le 1, (Process.listenerAdapters_of_seen seen :)⟩
  | disposed found held present pointer seen =>
      simp only [State.deletedBy, pointedAdapter_of_present found present, pointer]
      exact (Process.listenerAdapters_of_seen seen :)
  | releasedDisposed found held disposed =>
      rw [State.deletedBy, pointedAdapter_of_disposed found disposed]
      exact Or.inl rfl
  | releasedTransport found held present pointer seen =>
      simp only [State.deletedBy, pointedAdapter_of_present found present, pointer]
      exact (Process.listenerAdapters_of_seen seen :)
  | releasedChild found held unused seen =>
      have isChild := child_eq_some_iff.mpr ⟨_, found, held, rfl⟩
      simp only [State.deletedBy, isChild, Option.map_some]
      exact (Process.listenerAdapters_of_seen seen :)

/-- A live adapter stays live but for the one that goes with the effect. -/
theorem adapterLive_of_changed (changed : Changed books session effect next) {adapter : AdapterPointer}
    (isLive : AdapterLive session.process adapter) :
    AdapterLive next.process adapter ↔ session.deletedBy effect ≠ some adapter := by
  have adapters := listenerAdapters_of_changed changed
  cases deleted : session.deletedBy effect with
  | some other =>
      simp only [deleted] at adapters
      rw [adapterLive_delete adapters]
      simp [isLive, eq_comm]
  | none =>
      simp only [deleted] at adapters
      rcases adapters with same | ⟨deletions, -, pushed⟩
      · simp [adapterLive_congr same, isLive]
      · have old : next.process.listenerAdapters[adapter]? = some 0 := by
          rw [pushed, Arena.getElem?_push_of_ne (Arena.ne_fresh_of_getElem? isLive), isLive]
        exact iff_of_true old (by simp)

/-- A step deletes only what is live, so nothing is deleted a second time. -/
theorem deletedAtMostOnce_of_changed (consistent : Consistent session)
    (changed : Changed books session effect next) (once : DeletedAtMostOnce session.process) :
    DeletedAtMostOnce next.process := by
  have adapters := listenerAdapters_of_changed changed
  unfold DeletedAtMostOnce at once ⊢
  cases deleted : session.deletedBy effect with
  | some adapter =>
      simp only [deleted] at adapters
      rw [adapters]
      apply once.modify
      intro deletions found _
      have isLive := adapterLive_of_deletedBy consistent changed deleted
      obtain rfl := Option.some.inj (found.symm.trans isLive)
      exact Nat.le_refl 1
  | none =>
      simp only [deleted] at adapters
      rcases adapters with same | ⟨deletions, atMost, pushed⟩
      · rw [same]
        exact once
      · rw [pushed]
        exact once.push atMost

private theorem deletedAtMostOnce_of_run {actions : List (Action World)}
    (ran : (machine library native).run actions = some session) :
    DeletedAtMostOnce session.process := by
  have initially : DeletedAtMostOnce (machine library native).initial.process := Arena.All.empty
  have invariant : Consistent session ∧ DeletedAtMostOnce session.process := by
    apply Machine.invariant_run _ ⟨consistent_initial, initially⟩ ran
    rintro state action reached ⟨consistent, once⟩ stepped
    have changed := changed_of_step (.blank library) stepped
    exact ⟨consistent_of_changed consistent changed,
      deletedAtMostOnce_of_changed consistent changed once⟩
  exact invariant.2

private theorem deletedBy_unlessThrows {Value : Type} (program : SwiftCall (Process World) Value)
    {made otherwise : Effect} (keeps : session.deletedBy made = none)
    (keepsToo : session.deletedBy otherwise = none) :
    session.deletedBy (session.unlessThrows program made otherwise) = none := by
  unfold State.unlessThrows
  split
  · exact keeps
  · exact keepsToo

/-- Only `dispose` and the two releases delete an adapter. -/
theorem deletedBy_effect {action : Action World}
    (stepped : (machine library native).step session action = some next) :
    session.deletedBy (session.effect library action) = session.deletes action := by
  cases action with
  | device name operation =>
      obtain ⟨self, held, -⟩ := Option.bind_eq_some_iff.mp stepped
      simp only [State.effect, held]
      cases operation with
      | createSendTransport texts iceServers policy => exact deletedBy_unlessThrows _ rfl rfl
      | createReceiveTransport texts iceServers policy => exact deletedBy_unlessThrows _ rfl rfl
      | _ => rfl
  | sendTransport name operation =>
      obtain ⟨self, owner, -⟩ := Option.bind_eq_some_iff.mp stepped
      simp only [State.effect, owner]
      cases operation with
      | transport operation => cases operation <;> rfl
      | _ => exact deletedBy_unlessThrows _ rfl rfl
  | receiveTransport name operation =>
      obtain ⟨self, owner, -⟩ := Option.bind_eq_some_iff.mp stepped
      simp only [State.effect, owner]
      cases operation with
      | transport operation => cases operation <;> rfl
      | _ => exact deletedBy_unlessThrows _ rfl rfl
  | producer name operation =>
      simp only [State.effect]
      split
      · cases operation with
        | replaceTrack track => exact deletedBy_unlessThrows _ rfl rfl
        | _ => rfl
      · rfl
  | consumer name operation => cases operation <;> rfl
  | dataProducer name operation => cases operation <;> rfl
  | dataConsumer name operation => cases operation <;> rfl
  | finishUpdate updatedValue =>
      simp only [State.effect]
      split <;> rfl
  | _ => rfl

/-- After any run the live adapters are exactly those of the transports that were
not disposed and of the held children, no two of which share one; where nothing
is left of these, no adapter is. -/
theorem adapters_accounted (library : NativeLibrary World) (native : World)
    (actions : List (Action World)) {session : State World}
    (ran : (machine library native).run actions = some session) :
    Accounted (AdapterLive session.process) session.Owns ∧
      (∀ (name : Nat) (transport : HeldTransport), session.transports[name]? = some transport →
        ((∃ adapter, session.Owns (.transport name) adapter) ↔
          (session.ivars transport).transport.isSome = true)) ∧
      ((∀ (name : Nat) (transport : HeldTransport), session.transports[name]? = some transport →
          (session.ivars transport).transport = none) →
        (∀ (name : Nat) (child : HeldChild), session.children[name]? = some child →
          child.held = false) →
        ∀ adapter, ¬ AdapterLive session.process adapter) := by
  have consistent := consistent_of_run ran
  have paired : ∀ (name : Nat) (transport : HeldTransport),
      session.transports[name]? = some transport →
      ((∃ adapter, session.Owns (.transport name) adapter) ↔
        (session.ivars transport).transport.isSome = true) := by
    intro name transport found
    have pointers : (session.ivars transport).transport = none ↔
        (session.ivars transport).listenerAdapter = none :=
      consistent.pointers name transport found
    rw [Option.isSome_iff_ne_none, ne_eq, pointers, ← ne_eq, Option.ne_none_iff_exists']
    constructor
    · rintro ⟨adapter, owner, present, points⟩
      obtain rfl := Option.some.inj (present.symm.trans found)
      exact ⟨adapter, points⟩
    · rintro ⟨adapter, points⟩
      exact ⟨adapter, transport, found, points⟩
  refine ⟨consistent.accounted, paired, fun disposed released => ?_⟩
  apply consistent.accounted.not_live
  intro owner adapter owns
  cases owner with
  | transport name =>
      obtain ⟨transport, found, points⟩ := owns
      have present := (paired name transport found).mp ⟨adapter, transport, found, points⟩
      rw [disposed name transport found] at present
      cases present
  | child name =>
      obtain ⟨child, found, held, -⟩ := owns
      rw [released name child found] at held
      cases held

/-- An adapter is deleted in a step exactly where the step disposes or releases the
object it belongs to; what is deleted was live, and no adapter is deleted twice. -/
theorem adapter_deleted_iff (library : NativeLibrary World) (native : World)
    (actions : List (Action World)) {session next : State World} {action : Action World}
    (ran : (machine library native).run actions = some session)
    (stepped : (machine library native).step session action = some next)
    (adapter : AdapterPointer) :
    (AdapterLive session.process adapter ∧ ¬ AdapterLive next.process adapter ↔
        session.deletes action = some adapter) ∧
      DeletedAtMostOnce session.process ∧ DeletedAtMostOnce next.process := by
  have consistent := consistent_of_run ran
  have changed := changed_of_step (.blank library) stepped
  have once := deletedAtMostOnce_of_run ran
  refine ⟨?_, once, deletedAtMostOnce_of_changed consistent changed once⟩
  rw [← deletedBy_effect stepped]
  constructor
  · rintro ⟨before, after⟩
    rw [adapterLive_of_changed changed before] at after
    exact not_not.mp after
  · intro deleted
    have before := adapterLive_of_deletedBy consistent changed deleted
    refine ⟨before, ?_⟩
    rw [adapterLive_of_changed changed before]
    exact not_not.mpr deleted

end Runs

/-- Two adapters are live after a run in which a third was allocated and deleted. -/
theorem adapters_accounted_sample :
    ∃ session, (machine sampleLibrary (sampleProcess true false).native).run sampleActions =
        some session ∧
      Accounted (AdapterLive session.process) session.Owns ∧
      (∀ (name : Nat) (transport : HeldTransport), session.transports[name]? = some transport →
        ((∃ adapter, session.Owns (.transport name) adapter) ↔
          (session.ivars transport).transport.isSome = true)) ∧
      ((∀ (name : Nat) (transport : HeldTransport), session.transports[name]? = some transport →
          (session.ivars transport).transport = none) →
        (∀ (name : Nat) (child : HeldChild), session.children[name]? = some child →
          child.held = false) →
        ∀ adapter, ¬ AdapterLive session.process adapter) :=
  ⟨_, rfl, adapters_accounted sampleLibrary (sampleProcess true false).native sampleActions rfl⟩

/-- The producer of that run is released: its adapter, the second, is deleted, as the
third was by the factory that threw. -/
theorem adapter_deleted_iff_sample :
    ∃ session next, (machine sampleLibrary (sampleProcess true false).native).run sampleActions =
        some session ∧
      (machine sampleLibrary (sampleProcess true false).native).step session (.releaseChild 0) =
        some next ∧
      ((AdapterLive session.process 1 ∧ ¬ AdapterLive next.process 1 ↔
          session.deletes (.releaseChild 0) = some 1) ∧
        DeletedAtMostOnce session.process ∧ DeletedAtMostOnce next.process) ∧
      session.process.listenerAdapters = [0, 0, 1] ∧ next.process.listenerAdapters = [0, 1, 1] :=
  ⟨_, _, rfl, rfl, adapter_deleted_iff sampleLibrary (sampleProcess true false).native
    sampleActions rfl rfl 1, rfl, rfl⟩

end MediasoupClientSwift.Session
