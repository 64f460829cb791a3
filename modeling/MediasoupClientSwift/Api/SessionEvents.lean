import MediasoupClientSwift.Api.SessionLinks

/-!
Owns native events over sessions. The calls of a session are the links of the
delivery model, which takes them all, whatever delegates are set and whatever
events are delivered between them. The main result says where an event goes: to
the delegate that was last set on the object its adapter belongs to.
-/

namespace MediasoupClientSwift.Session

open Library

variable {World : Type}

section Runs

variable (library : NativeLibrary World) (native : World)

/-- Sessions, simulated by the links of their objects. -/
def linkSimulation : Simulation (orderedMachine library native) Delivery.machine where
  Related both objects := Consistent both.1 ∧ Delivery.Linked objects ∧
    Wired both.1 both.2 objects
  image both action next :=
    both.1.links both.2 (adapterKind action) next.1 (both.1.effect library action)
  initial :=
    ⟨(consistent_initial : Consistent (machine library native).initial),
      Delivery.linked_initial,
      { adapters := Arena.Matched.empty
        wrappers := Arena.Matched.empty
        facades := Arena.Matched.empty
        distinct := List.nodup_nil
        transports := by simp [orderedMachine, Machine.withGhost, machine]
        children := by simp [orderedMachine, Machine.withGhost, machine] }⟩
  step := by
    rintro ⟨session, owners⟩ ⟨next, ownersNext⟩ objects action
      ⟨consistent, linked, wired⟩ stepped
    obtain ⟨taken, rfl⟩ := Machine.step_withGhost_eq_some_iff.mp stepped
    have changed := changed_of_step (.blank library) taken
    obtain ⟨objectsNext, ran, wiredNext⟩ :=
      wired.changed consistent linked (adapterKind action) changed
    have linkedNext : Delivery.Linked objectsNext :=
      Machine.invariant_run (fun _ _ _ holds stepped => Delivery.linked_step holds stepped)
        linked ran
    exact ⟨objectsNext, ran, consistent_of_changed consistent changed, linkedNext, wiredNext⟩

def links (actions : List (Action World)) : List Delivery.Action :=
  (linkSimulation library native).imageFrom (orderedMachine library native).initial actions

end Runs

section Results

variable {library : NativeLibrary World} {native : World} {actions : List (Action World)}
  {session : State World} {owners : Arena Owner} {objects : Delivery.State}

/-- Whatever the native library does and whichever calls fail, the delivery model
takes the links of a session, and ends with its adapters, wrappers and facades. -/
theorem session_wired (ran : (orderedMachine library native).run actions = some (session, owners)) :
    ∃ objects, Delivery.machine.run (links library native actions) = some objects ∧
      Wired session owners objects := by
  have related := (linkSimulation library native).initial
  obtain ⟨objects, matchedRun, -, -, wired⟩ := (linkSimulation library native).runFrom related ran
  exact ⟨objects, matchedRun, wired⟩

/-- An object that owns its adapter is in use. -/
theorem Consistent.wrapperOf_of_owns (consistent : Consistent session) {owner : Owner}
    {adapter : AdapterPointer} (owns : session.Owns owner adapter) (name : Nat) :
    ∃ kind, session.wrapperOf name owner =
      some { kind := kind, listenerAdapter := some adapter, delegate := some name, alive := true,
             disposeStarted := false } := by
  cases owner with
  | transport transport =>
      obtain ⟨found, lookup, pointer⟩ := owns
      have held : found.held = true := by
        by_contra notHeld
        have gone := consistent.released transport found lookup (by simpa using notHeld)
        have noAdapter := (consistent.pointers transport found lookup).mp gone
        exact Option.some_ne_none adapter (pointer.symm.trans noAdapter)
      refine ⟨found.kind.objectKind, ?_⟩
      have same : (session.ivars found).listenerAdapter = some adapter := pointer
      simp only [State.wrapperOf, lookup, Option.map_some, same, held, Option.isNone_some]
  | child child =>
      obtain ⟨found, lookup, held, same⟩ := owns
      refine ⟨found.facade.kind.objectKind, ?_⟩
      simp only [State.wrapperOf, lookup, Option.map_some, same, held]

theorem Wired.mem_of_owns (wired : Wired session owners objects) {owner : Owner}
    {adapter : AdapterPointer} (owns : session.Owns owner adapter) : owner ∈ owners := by
  cases owner with
  | transport transport =>
      obtain ⟨found, lookup, -⟩ := owns
      exact wired.transport_mem lookup
  | child child =>
      obtain ⟨found, lookup, -⟩ := owns
      exact (wired.children child).mpr (List.getElem?_eq_some_iff.mp lookup).1

/-- The wrapper and the facade of an object that owns its adapter. -/
theorem Wired.has_of_owns (consistent : Consistent session) (wired : Wired session owners objects)
    {owner : Owner} {adapter : AdapterPointer} (owns : session.Owns owner adapter) :
    ∃ kind, objects.Has (owners.idxOf owner)
      { kind := kind, listenerAdapter := some adapter, delegate := some (owners.idxOf owner),
        alive := true, disposeStarted := false } true := by
  have known := wired.mem_of_owns owns
  obtain ⟨wrapper, found, same⟩ := wired.exists_wrapper known
  obtain ⟨facade, present, alive⟩ := wired.facades.exists_shadow (List.getElem?_idxOf known)
  obtain ⟨kind, isWrapper⟩ := consistent.wrapperOf_of_owns owns (owners.idxOf owner)
  obtain rfl := Option.some.inj (same.symm.trans isWrapper)
  rw [isWrapper, Option.map_some] at alive
  exact ⟨kind, found, by rw [present, Option.map_some, ← alive]⟩

/-! ### Calls that are running -/

/-- The object that an effect disposes or releases. -/
def Effect.subject : Effect → Option Owner
  | .disposed name => some (.transport name)
  | .releasedTransport name => some (.transport name)
  | .releasedChild name => some (.child name)
  | _ => none

/-- The links that were made and cut since the last call returned, and the object
the running call disposes or releases. -/
inductive Begun (library : NativeLibrary World) (session : State World) (owners : Arena Owner) :
    Option Owner → List Delivery.Action → Prop where
  | betweenCalls : Begun library session owners none []
  | duringCall (action : Action World) (next : State World) (begun : List Delivery.Action)
      (stepped : step library session action = some next)
      (part : begun <+: session.links owners (adapterKind action) next
        (session.effect library action)) :
      Begun library session owners (session.effect library action).subject begun

private theorem about_of_mem_disposeLinks {wrapper name : Nat} {link : Delivery.Action}
    (member : link ∈ session.disposeLinks wrapper name) : link.about = some wrapper := by
  unfold State.disposeLinks at member
  split at member
  · rcases List.mem_pair.mp member with rfl | rfl <;> rfl
  · obtain rfl := List.mem_singleton.mp member
    rfl

/-- The links of a step are about the object it makes, disposes or releases. -/
theorem about_of_mem_links {failedKind : ObjectKind} {next : State World} {effect : Effect}
    {link : Delivery.Action} (member : link ∈ session.links owners failedKind next effect) :
    link.about = none ∨ link.about = some owners.fresh ∨
      ∃ subject, effect.subject = some subject ∧ link.about = some (owners.idxOf subject) := by
  have ofNew : ∀ {kind : ObjectKind}, link ∈ session.newLinks owners kind →
      link.about = none ∨ link.about = some owners.fresh := by
    intro kind new
    simp only [State.newLinks, List.mem_cons, List.not_mem_nil, or_false] at new
    rcases new with rfl | rfl | rfl
    · exact Or.inl rfl
    · exact Or.inl rfl
    · exact Or.inr rfl
  cases effect with
  | nothing =>
      left
      simp only [State.links] at member
      split at member
      · cases member
      · rcases List.mem_pair.mp member with rfl | rfl <;> rfl
  | madeTransport kind => exact (ofNew member).imp_right Or.inl
  | madeProducer transport track => exact (ofNew member).imp_right Or.inl
  | madeChild kind transport => exact (ofNew member).imp_right Or.inl
  | disposed name =>
      exact Or.inr (Or.inr ⟨.transport name, rfl, about_of_mem_disposeLinks member⟩)
  | releasedTransport name =>
      refine Or.inr (Or.inr ⟨.transport name, rfl, ?_⟩)
      rcases List.mem_append.mp member with first | last
      · rcases List.mem_pair.mp first with rfl | rfl <;> rfl
      · exact about_of_mem_disposeLinks last
  | releasedChild name =>
      refine Or.inr (Or.inr ⟨.child name, rfl, ?_⟩)
      simp only [State.links, List.mem_cons, List.not_mem_nil, or_false] at member
      rcases member with rfl | rfl | rfl <;> rfl
  | _ => cases member

/-- A running call leaves the wrappers of other objects alone. -/
theorem Begun.about_ne {begun : List Delivery.Action} {subject : Option Owner}
    (running : Begun library session owners subject begun) {owner : Owner}
    (known : owner ∈ owners) (other : subject ≠ some owner) {link : Delivery.Action}
    (member : link ∈ begun) : link.about ≠ some (owners.idxOf owner) := by
  cases running with
  | betweenCalls => cases member
  | duringCall action next begun stepped part =>
      intro same
      rcases about_of_mem_links (part.subset member) with none | new | ⟨subject, isSubject, old⟩
      · cases none.symm.trans same
      · have position := Option.some.inj (same.symm.trans new)
        exact Nat.ne_of_lt (List.idxOf_lt_length_of_mem known) position
      · have position := Option.some.inj (same.symm.trans old)
        have sameOwner := (List.idxOf_inj known).mp position
        exact other (isSubject.trans (congrArg some sameOwner.symm))

/-! ### Events -/

/-- The objects of a session, after the links its running call has begun. -/
theorem exists_wired {begun schedule : List Delivery.Action}
    (ran : (orderedMachine library native).run actions = some (session, owners))
    (interleaved : schedule.filter Delivery.Action.isLink = links library native actions ++ begun)
    (delivered : Delivery.machine.run schedule = some objects) :
    ∃ called, Wired session owners called ∧
      Delivery.machine.runFrom called begun = some objects.bare := by
  obtain ⟨called, matchedRun, wired⟩ := session_wired ran
  have linksAlone := Delivery.runFrom_bare delivered
  rw [interleaved, Machine.runFrom_append] at linksAlone
  have calls : Delivery.machine.runFrom Delivery.machine.initial.bare
      (links library native actions) = some called := matchedRun
  rw [calls, Option.bind_some] at linksAlone
  exact ⟨called, wired, linksAlone⟩

/-- Between two calls of a session, and while a call runs that disposes or releases
another object, an event on an adapter is a call of the delegate that was last set
on the object the adapter belongs to, if that delegate is alive and the arguments
are known ones, and of no other. Between two calls every adapter that can report
an event belongs to an object in use. -/
theorem events_reach_owner {begun schedule : List Delivery.Action} {subject : Option Owner}
    (ran : (orderedMachine library native).run actions = some (session, owners))
    (running : Begun library session owners subject begun)
    (interleaved : schedule.filter Delivery.Action.isLink = links library native actions ++ begun)
    (delivered : Delivery.machine.run schedule = some objects) :
    (∀ owner adapter event next, session.Owns owner adapter → subject ≠ some owner →
      Delivery.machine.step objects (.event adapter event) = some next →
      next.calls = objects.calls ++
        (objects.callTo (owners.idxOf owner)
          (Delivery.lastDelegate (owners.idxOf owner) schedule) event).toList) ∧
      (begun = [] → ∀ adapter event next,
        Delivery.machine.step objects (.event adapter event) = some next →
        ∃ owner, session.Owns owner adapter) := by
  obtain ⟨called, wired, begunRan⟩ := exists_wired ran interleaved delivered
  have sessionRan := Machine.runFrom_withGhost_iff.mp ⟨owners, ran⟩
  have consistent := consistent_of_run sessionRan
  constructor
  · intro owner adapter event next owns other stepped
    have linked := Delivery.linked_run delivered
    have known := wired.mem_of_owns owns
    obtain ⟨kind, has⟩ := wired.has_of_owns consistent owns
    have stillHas := Delivery.has_of_bare
      (has.runFrom (fun link member => running.about_ne known other member) begunRan)
    have owed := Delivery.owedCall_of_inUse linked stillHas rfl rfl ⟨rfl, rfl⟩ event
    rw [Delivery.calls_step linked stepped, Delivery.State.owedByStep, owed,
      Delivery.delegateOf_run delivered]
  · intro noneBegun adapter event next stepped
    subst noneBegun
    obtain rfl := Option.some.inj begunRan
    cases Delivery.stepped_of_step stepped with
    | event found own =>
        obtain ⟨deletions, present, same⟩ := wired.adapters.exists_object found
        have live : AdapterLive session.process adapter := by
          rw [AdapterLive, present, same.mp own.1]
        exact (consistent.accounted.live_iff adapter).mp live

end Results

/-- A transport, a producer, and a factory that threw. -/
theorem session_wired_sample :
    let native := (sampleProcess true false).native
    ∃ session owners objects,
      (orderedMachine sampleLibrary native).run sampleActions = some (session, owners) ∧
        Delivery.machine.run (links sampleLibrary native sampleActions) = some objects ∧
        Wired session owners objects := by
  intro native
  have ran : (orderedMachine sampleLibrary native).run sampleActions = some (_, _) := rfl
  obtain ⟨objects, matchedRun, wired⟩ := session_wired ran
  exact ⟨_, _, objects, ran, matchedRun, wired⟩

/-- The producer's delegate is told of the transport's closing while the transport
is disposed. -/
theorem events_reach_owner_sample :
    let native := (sampleProcess true false).native
    let schedule := links sampleLibrary native sampleActions ++
      [.newDelegate, .setDelegate 1 (some 0), .startDispose 0]
    ∃ session owners objects next,
      (orderedMachine sampleLibrary native).run sampleActions = some (session, owners) ∧
        Delivery.machine.run schedule = some objects ∧
        Delivery.machine.step objects (.event 1 .producerOnTransportClose) = some next ∧
        next.calls = objects.calls ++
          (objects.callTo (owners.idxOf (.child 0))
            (Delivery.lastDelegate (owners.idxOf (.child 0)) schedule)
            .producerOnTransportClose).toList ∧
        next.calls = [{ delegate := 0, facade := 1, event := .producerOnTransportClose }] := by
  intro native schedule
  have ran : (orderedMachine sampleLibrary native).run sampleActions = some (_, _) := rfl
  have delivered : Delivery.machine.run schedule = some _ := rfl
  obtain ⟨reaches, -⟩ := events_reach_owner ran
    (.duringCall (.sendTransport 0 (.transport .dispose)) _ [.startDispose 0] rfl
      ⟨[.finishDispose 0], rfl⟩) rfl delivered
  have calls := reaches (.child 0) 1 .producerOnTransportClose _ ⟨_, rfl, rfl, rfl⟩ nofun rfl
  exact ⟨_, _, _, _, ran, delivered, rfl, calls, rfl⟩

end MediasoupClientSwift.Session
