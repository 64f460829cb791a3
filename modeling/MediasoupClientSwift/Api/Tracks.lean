import MediasoupClientSwift.Api.SessionEffects
import MediasoupClientSwift.Library.Simulation

/-!
Owns the `track` of producers over sessions: it is a register of its own for each
producer, written by the producer's creation and by each `replaceTrack` that does
not throw, and by nothing else.
-/

namespace MediasoupClientSwift.Session

open Library

variable {World : Type}

/-- The track each child was last given, for a child that is a producer. -/
abbrev Registers := Arena (Option MediaStreamTrack)

def Effect.write : Effect → Registers → Registers
  | .madeProducer _ track, registers => registers.push (some track)
  | .madeChild _ _, registers => registers.push none
  | .replacedTrack name track, registers => registers.modify name fun _ => some track
  | _, registers => registers

def registerMachine : Machine Registers Effect where
  initial := []
  step registers effect := some (effect.write registers)

/-- Where the wrapper of a producer keeps its `track`. -/
def trackAddress : ChildFacade → Option Address
  | .producer self => some self.producer.address
  | _ => none

private theorem trackAddress_eq_none {facade : ChildFacade} {kind : Children.ChildKind}
    (isKind : facade.kind = kind) (other : kind ≠ .producer) : trackAddress facade = none := by
  subst isKind
  cases facade with
  | producer self => exact absurd rfl other
  | dataProducer self => rfl
  | consumer self => rfl
  | dataConsumer self => rfl

def SameTrack (process : Process World) (_name : Nat) (child : HeldChild)
    (register : Option MediaStreamTrack) : Prop :=
  register = (trackAddress child.facade).map process.producerTrack

/-- No two producers keep their tracks at one address, and no producer keeps its
track at an address that is not yet given out. -/
structure OwnTracks (session : State World) : Prop where
  addresses : ∀ {name : Nat} {child : HeldChild} {address : Address},
    session.children[name]? = some child → trackAddress child.facade = some address →
    address < session.process.nextAddress
  distinct : ∀ {first second : Nat} {one other : HeldChild} {address : Address},
    session.children[first]? = some one → session.children[second]? = some other →
    trackAddress one.facade = some address → trackAddress other.facade = some address →
    first = second

/-! ### Addresses -/

section Addresses

variable {library : NativeLibrary World} {Book : Type} {books : ObjectBook library Book}
  {session next : State World} {effect : Effect}

private theorem nextAddress_le_of_changed (changed : Changed books session effect next) :
    session.process.nextAddress ≤ next.process.nextAddress := by
  cases changed with
  | kept idle wrappers => exact Nat.le_of_eq (Process.wrappers_nextAddress wrappers).symm
  | beganUpdate held wrappers => exact Nat.le_of_eq (Process.wrappers_nextAddress wrappers).symm
  | finishedUpdate innermost wrappers =>
      exact Nat.le_of_eq (Process.wrappers_nextAddress wrappers).symm
  | closedChild held wrappers => exact Nat.le_of_eq (Process.wrappers_nextAddress wrappers).symm
  | failed seen => exact Nat.le_of_eq (Process.nextAddress_of_seen seen :).symm
  | replacedTrack held seen => exact Nat.le_of_eq (Process.nextAddress_of_seen seen :).symm
  | madeTransport seen =>
      exact (Nat.le_succ _).trans (Nat.le_of_eq (Process.nextAddress_of_seen seen :).symm)
  | madeProducer owner pointer address adapter seen =>
      exact (Nat.le_succ _).trans (Nat.le_of_eq (Process.nextAddress_of_seen seen :).symm)
  | madeChild owner pointer isKind other adapter seen =>
      exact Nat.le_of_eq (Process.nextAddress_of_seen seen :).symm
  | disposed found held present pointer seen =>
      exact Nat.le_of_eq (Process.nextAddress_of_seen seen :).symm
  | releasedDisposed found held disposed => exact Nat.le_refl _
  | releasedTransport found held present pointer seen =>
      exact Nat.le_of_eq (Process.nextAddress_of_seen seen :).symm
  | releasedChild found held unused seen =>
      exact Nat.le_of_eq (Process.nextAddress_of_seen seen :).symm

/-- A child of the next state is an old one, or a new one whose track, if any, is
kept at a new address. -/
theorem child_cases_of_changed (changed : Changed books session effect next) {name : Nat}
    {child : HeldChild} (found : next.children[name]? = some child) :
    (∃ old : HeldChild, session.children[name]? = some old ∧ old.facade = child.facade) ∨
      (name = session.children.fresh ∧ ∀ address, trackAddress child.facade = some address →
        address = session.process.nextAddress ∧ address < next.process.nextAddress) := by
  cases changed with
  | closedChild held wrappers =>
      exact Or.inl (Arena.exists_of_getElem?_modify
        (fun old kept : HeldChild => old.facade = kept.facade) found (fun _ => rfl) fun _ => rfl)
  | releasedChild present held unused seen =>
      exact Or.inl (Arena.exists_of_getElem?_modify
        (fun old kept : HeldChild => old.facade = kept.facade) found (fun _ => rfl) fun _ => rfl)
  | madeProducer owner pointer same adapter seen =>
      rcases Arena.getElem?_push_cases found with ⟨isFresh, rfl⟩ | present
      · refine Or.inr ⟨isFresh, fun address at_address => ?_⟩
        obtain rfl := Option.some.inj at_address
        have grown := (Process.nextAddress_of_seen seen :)
        refine ⟨same, ?_⟩
        rw [same, grown]
        exact Nat.lt_succ_self _
      · exact Or.inl ⟨child, present, rfl⟩
  | madeChild owner pointer isKind other adapter seen =>
      rcases Arena.getElem?_push_cases found with ⟨isFresh, rfl⟩ | present
      · refine Or.inr ⟨isFresh, fun address at_address => ?_⟩
        cases (trackAddress_eq_none isKind other).symm.trans at_address
      · exact Or.inl ⟨child, present, rfl⟩
  | _ => exact Or.inl ⟨child, found, rfl⟩

theorem OwnTracks.changed (ownTracks : OwnTracks session)
    (changed : Changed books session effect next) : OwnTracks next := by
  have grows := nextAddress_le_of_changed changed
  constructor
  case addresses =>
    intro name child address found at_address
    rcases child_cases_of_changed changed found with ⟨old, present, same⟩ | ⟨-, new⟩
    · exact Nat.lt_of_lt_of_le (ownTracks.addresses present (same ▸ at_address)) grows
    · exact (new address at_address).2
  case distinct =>
    intro first second one other address firstFound secondFound atFirst atSecond
    rcases child_cases_of_changed changed firstFound with
        ⟨oldOne, oneFound, sameOne⟩ | ⟨firstFresh, newOne⟩ <;>
      rcases child_cases_of_changed changed secondFound with
        ⟨oldOther, otherFound, sameOther⟩ | ⟨secondFresh, newOther⟩
    · exact ownTracks.distinct oneFound otherFound (sameOne ▸ atFirst) (sameOther ▸ atSecond)
    · have below := ownTracks.addresses oneFound (sameOne ▸ atFirst)
      exact absurd (newOther address atSecond).1 (Nat.ne_of_lt below)
    · have below := ownTracks.addresses otherFound (sameOther ▸ atSecond)
      exact absurd (newOne address atFirst).1 (Nat.ne_of_lt below)
    · exact firstFresh.trans secondFresh.symm

end Addresses

/-! ### One effect -/

section Writes

variable {library : NativeLibrary World} {Book : Type} {books : ObjectBook library Book}
  {session next : State World} {effect : Effect} {registers : Registers}

/-- The tracks stand where they stood. -/
theorem matched_of_sameTracks {process : Process World}
    (matched : Arena.Matched (SameTrack session.process) session.children registers)
    (tracks : process.producerTrack = session.process.producerTrack) :
    Arena.Matched (SameTrack process) session.children registers := by
  apply matched.mono
  intro name child register found same
  unfold SameTrack
  rw [tracks]
  exact same

private theorem matched_of_changed (ownTracks : OwnTracks session)
    (matched : Arena.Matched (SameTrack session.process) session.children registers)
    (changed : Changed books session effect next) :
    Arena.Matched (SameTrack next.process) next.children (effect.write registers) := by
  cases changed with
  | kept idle wrappers =>
      have kept := matched_of_sameTracks matched (Process.wrappers_producerTrack wrappers)
      cases idle <;> exact kept
  | beganUpdate held wrappers =>
      have kept := matched_of_sameTracks matched (Process.wrappers_producerTrack wrappers)
      exact kept
  | finishedUpdate innermost wrappers =>
      have kept := matched_of_sameTracks matched (Process.wrappers_producerTrack wrappers)
      exact kept
  | failed seen =>
      have kept := matched_of_sameTracks matched (Process.producerTrack_of_seen seen :)
      exact kept
  | closedChild held wrappers =>
      have kept := matched_of_sameTracks matched (Process.wrappers_producerTrack wrappers)
      exact kept.modifyObject fun _ same => same
  | @replacedTrack process name self track held seen =>
      obtain ⟨child, found, -, isProducer⟩ := child_eq_some_iff.mp held
      have atChild : trackAddress child.facade = some self.producer.address := by
        rw [isProducer]
        rfl
      have written : process.producerTrack =
          Function.update session.process.producerTrack self.producer.address track :=
        (Process.producerTrack_of_seen seen :)
      apply matched.modifyShadow
      · intro other register lookup same
        obtain rfl : child = other := Option.some.inj (found.symm.trans lookup)
        unfold SameTrack
        rw [written, atChild, Option.map_some, Function.update_self]
      · intro otherName other register different lookup same
        unfold SameTrack
        rw [same, written]
        apply Option.map_congr
        intro address atOther
        refine (Function.update_of_ne ?_ ..).symm
        rintro rfl
        exact different (ownTracks.distinct lookup found atOther atChild)
  | madeTransport seen =>
      have kept := matched_of_sameTracks matched (Process.producerTrack_of_seen seen :)
      exact kept
  | @madeProducer process transport facade made track owner pointer address adapter seen =>
      have written : process.producerTrack =
          Function.update session.process.producerTrack session.process.nextAddress track :=
        (Process.producerTrack_of_seen seen :)
      have old : Arena.Matched (SameTrack process) session.children registers := by
        apply matched.mono
        intro name child register found same
        unfold SameTrack
        rw [same, written]
        apply Option.map_congr
        intro address atChild
        exact (Function.update_of_ne (Nat.ne_of_lt (ownTracks.addresses found atChild)) ..).symm
      apply old.push
      show some track = some (process.producerTrack made.producer.address)
      rw [written, address, Function.update_self]
  | @madeChild process transport facade made kind owner pointer isKind other adapter seen =>
      have kept := matched_of_sameTracks matched (Process.producerTrack_of_seen seen :)
      apply kept.push
      show none = (trackAddress made).map process.producerTrack
      rw [trackAddress_eq_none isKind other]
      rfl
  | disposed found held present pointer seen =>
      have kept := matched_of_sameTracks matched (Process.producerTrack_of_seen seen :)
      exact kept
  | releasedDisposed found held disposed => exact matched
  | releasedTransport found held present pointer seen =>
      have kept := matched_of_sameTracks matched (Process.producerTrack_of_seen seen :)
      exact kept
  | releasedChild found held unused seen =>
      have kept := matched_of_sameTracks matched (Process.producerTrack_of_seen seen :)
      exact kept.modifyObject fun _ same => same

end Writes

/-! ### Runs -/

section Runs

variable (library : NativeLibrary World) (native : World)

/-- Sessions, seen as writes of the producers' registers. -/
def trackSimulation : Simulation (machine library native) registerMachine where
  Related session registers := OwnTracks session ∧
    Arena.Matched (SameTrack session.process) session.children registers
  image session action _ := [session.effect library action]
  initial := by
    refine ⟨⟨?_, ?_⟩, Arena.Matched.empty⟩
    · intro name child address found
      simp [machine] at found
    · intro first second one other address found
      simp [machine] at found
  step := by
    rintro session next registers action ⟨ownTracks, matched⟩ stepped
    have changed := changed_of_step (.blank library) stepped
    exact ⟨_, rfl, ownTracks.changed changed, matched_of_changed ownTracks matched changed⟩

def effects (actions : List (Action World)) : List Effect :=
  (trackSimulation library native).imageFrom (machine library native).initial actions

/-- In any session, `track` of a held producer is the track of its last
`replaceTrack` that did not throw, or else the one it was created with. -/
theorem track_is_last_written (actions : List (Action World)) {session : State World}
    (ran : (machine library native).run actions = some session) :
    ∃ registers, registerMachine.run (effects library native actions) = some registers ∧
      ∀ (name : Nat) (self : Producer), session.child name = some (.producer self) →
        ∃ track, registers[name]? = some (some track) ∧
          self.track session.process = (.ok track, session.process) := by
  have related := (trackSimulation library native).initial
  obtain ⟨registers, matchedRun, -, matched⟩ := (trackSimulation library native).runFrom related ran
  refine ⟨registers, matchedRun, fun name self held => ?_⟩
  obtain ⟨child, found, -, isProducer⟩ := child_eq_some_iff.mp held
  obtain ⟨register, present, same⟩ := matched.exists_shadow found
  refine ⟨session.process.producerTrack self.producer.address, ?_, rfl⟩
  rw [present, same, isProducer]
  rfl

end Runs

/-- A producer is made with one track and given another. -/
theorem track_is_last_written_sample :
    ∃ session, (machine sampleLibrary (sampleProcess true false).native).run
        (sampleActions ++ [.producer 0 (.replaceTrack ⟨9, "audio"⟩)]) = some session ∧
      ∃ registers, registerMachine.run (effects sampleLibrary (sampleProcess true false).native
          (sampleActions ++ [.producer 0 (.replaceTrack ⟨9, "audio"⟩)])) = some registers ∧
        ∀ (name : Nat) (self : Producer), session.child name = some (.producer self) →
          ∃ track, registers[name]? = some (some track) ∧
            self.track session.process = (.ok track, session.process) :=
  ⟨_, rfl, track_is_last_written sampleLibrary (sampleProcess true false).native
    (sampleActions ++ [.producer 0 (.replaceTrack ⟨9, "audio"⟩)]) rfl⟩

end MediasoupClientSwift.Session
