import MediasoupClientSwift.Library.Simulation
import MediasoupClientSwift.Media.SenderParameters
import MediasoupClientSwift.Media.SenderUpdates
import MediasoupClientSwift.Rtp.ReadBack

/-!
Owns what a sender has after any number of updates of its producer. Where every
update takes effect, the next updater gets what the last one returned, as long as
the native parameters could take it; and the last update alone decides what the
sender has, as long as none before it returned more encodings.
-/

namespace MediasoupClientSwift

open Library

/-- What is read after an update is what its updater returned, exactly when the
native parameters could take all of it. -/
theorem update_readBack_iff {World : Type} {library : NativeLibrary World} (self : Producer)
    (updater : ProducerWrapper.Updater World RTPParameters) (process : Process World)
    {written : Webrtc.RtpParameters} (sets : self.Sets library updater process written) :
    RTPParameters.ofNative written = self.returnedParameters library updater process ↔
      (self.returnedParameters library updater process).ReadsBack
        (self.oldParameters library process) :=
  parameters_readBack_iff (Producer.sets_iff.mp sets)

/-- One encoding that stays on and is given a mode, a bitrate and a resolution. -/
theorem update_readBack_iff_sample :
    let process := senderProcess [{}] none
    let updater := returningEncodings [returnedEncoding true (some ⟨640, 360⟩)]
    let written : Webrtc.RtpParameters :=
      { sampleProducer.oldParameters sampleLibrary process with
        encodings :=
          [{ maxBitrateBps := some 500000
             scaleResolutionDownTo := some ⟨640, 360⟩
             scalabilityMode := some (utf8Bytes "L1T3") }] }
    RTPParameters.ofNative written =
        sampleProducer.returnedParameters sampleLibrary updater process ↔
      (sampleProducer.returnedParameters sampleLibrary updater process).ReadsBack
        (sampleProducer.oldParameters sampleLibrary process) := by
  apply update_readBack_iff
  exact Producer.sets_iff.mpr (by decide)

namespace SenderUpdates

open ProducerWrapper (OpenUpdate beginUpdate finishUpdate)

variable {World : Type} {library : NativeLibrary World} {producer : ProducerWrapper}
  (contract : SenderContract library producer)

def State.parameters (state : State World) : Webrtc.RtpParameters :=
  (contract.sender state.process.native).parameters

/-- The call that began last, while it is open, has what the sender has, under an
id of its own. -/
def LastCallCurrent (state : State World) : Prop :=
  ∀ (name : Nat) (call : OpenUpdate), state.calls[name]? = some (some call) →
    name + 1 = state.calls.length →
    call.parameters =
      { state.parameters contract with transactionId := call.parameters.transactionId }

/-- The parameters could take all of what the update returned. -/
def Carried (state : State World) : Action → Prop
  | .begin => True
  | .finish _ updatedValue => updatedValue.ReadsBack (state.parameters contract)

def Action.returned : Action → Option RTPParameters
  | .begin => none
  | .finish _ updatedValue => some updatedValue

/-! ### One step -/

section Steps

variable {state next : State World}

private theorem lastCallCurrent_initial (process : Process World) :
    LastCallCurrent contract (machine library producer process).initial := by
  intro name call found
  simp [machine] at found

/-- A begin leaves the sender's parameters, and its call has them. -/
theorem parameters_begin (stepped : step library producer state .begin = some next) :
    next.parameters contract = state.parameters contract ∧ LastCallCurrent contract next := by
  obtain ⟨native, began, reached⟩ := step_begin contract state
  obtain rfl := Option.some.inj (began.symm.trans stepped)
  have same : State.parameters contract
      { process := { state.process with native := native }
        calls := state.calls.push (some
          { sender := contract.handle
            parameters := (contract.sender state.process.native).getParameters.1 }) } =
        state.parameters contract := by
    unfold State.parameters
    rw [reached]
    rfl
  refine ⟨same, ?_⟩
  intro name call found last
  rcases Arena.getElem?_push_cases found with ⟨rfl, isNew⟩ | old
  · obtain rfl := Option.some.inj isNew
    rw [same]
    rfl
  · have below := (List.getElem?_eq_some_iff.mp old).1
    simp only [Arena.push, List.length_append, List.length_singleton] at last
    omega

/-- A finish that takes effect writes to what the sender has. -/
theorem parameters_finish (consistent : Consistent contract state)
    (current : LastCallCurrent contract state) {name : Nat} {updatedValue : RTPParameters}
    (undisturbed : Undisturbed contract state (.finish name updatedValue))
    (stepped : step library producer state (.finish name updatedValue) = some next) :
    ∃ written transactionId,
      updatedNativeParameters (state.parameters contract) updatedValue.wrappedValue =
        some written ∧
      next.parameters contract = { written with transactionId := transactionId } := by
  obtain ⟨call, new, write, -, effect⟩ :=
    (effective_iff contract consistent _).mpr undisturbed next stepped
  obtain ⟨found, -⟩ := accepted_iff contract consistent write
  have isLast := (undisturbed call new write).1
  simp only [State.write, found, Option.bind_eq_bind, Option.bind_some, Option.bind_eq_some_iff,
    Option.some.injEq, Prod.mk.injEq] at write
  obtain ⟨_, defined, -, rfl⟩ := write
  rw [current name call found isLast, updatedNativeParameters_withTransactionId,
    Option.map_eq_some_iff] at defined
  obtain ⟨written, defined, same⟩ := defined
  exact ⟨written, call.parameters.transactionId, defined, effect.trans same.symm⟩

private theorem lastCallCurrent_finish {name : Nat} {updatedValue : RTPParameters}
    (undisturbed : Undisturbed contract state (.finish name updatedValue))
    (stepped : step library producer state (.finish name updatedValue) = some next) :
    LastCallCurrent contract next := by
  obtain ⟨call, new, write, rfl⟩ := (step_finish_iff state next name updatedValue).mp stepped
  have isLast := (undisturbed call new write).1
  intro other otherCall found last
  rw [List.length_modify] at last
  obtain rfl : other = name := by omega
  rcases Arena.getElem?_modify_cases found with ⟨-, _, -, closed⟩ | ⟨different, -⟩
  · cases closed
  · exact absurd rfl different

end Steps

/-! ### Runs -/

/-- What every step that takes effect keeps. -/
structure Current (state : State World) : Prop where
  consistent : Consistent contract state
  lastCall : LastCallCurrent contract state

private theorem current_initial (process : Process World) :
    Current contract (machine library producer process).initial where
  consistent := consistent_initial contract process
  lastCall := lastCallCurrent_initial contract process

private theorem current_step {process : Process World} {state next : State World} {action : Action}
    (current : Current contract state) (undisturbed : Undisturbed contract state action)
    (stepped : (machine library producer process).step state action = some next) :
    Current contract next where
  consistent := consistent_step contract process state action next current.consistent stepped
  lastCall := by
    cases action with
    | begin => exact (parameters_begin contract stepped).2
    | finish name updatedValue => exact lastCallCurrent_finish contract undisturbed stepped

def lastReturned (process : Process World) (past : List Action) : RTPParameters :=
  (past.filterMap Action.returned).getLastD
    (RTPParameters.ofNative (contract.sender process.native).parameters)

/-- The sender has what the last update returned, as far as it is read. -/
def ReadsLast (process : Process World) (past : List Action) (state : State World) : Prop :=
  Current contract state ∧
    RTPParameters.ofNative (state.parameters contract) = lastReturned contract process past

private theorem readsLast_step {process : Process World} {past : List Action}
    {state next : State World} {action : Action} (readsLast : ReadsLast contract process past state)
    (undisturbed : Undisturbed contract state action) (carried : Carried contract state action)
    (stepped : (machine library producer process).step state action = some next) :
    ReadsLast contract process (past ++ [action]) next := by
  obtain ⟨current, same⟩ := readsLast
  refine ⟨current_step contract current undisturbed stepped, ?_⟩
  unfold lastReturned
  rw [List.filterMap_append]
  cases action with
  | begin =>
      rw [(parameters_begin contract stepped).1]
      exact same.trans (congrArg (fun list => List.getLastD list _) (List.append_nil _).symm)
  | finish name updatedValue =>
      obtain ⟨written, transactionId, defined, effect⟩ :=
        parameters_finish contract current.consistent current.lastCall undisturbed stepped
      have readBack := (parameters_readBack_iff defined).mpr carried
      rw [effect]
      exact readBack.trans List.getLastD_concat.symm

/-- In every run whose updates take effect and are carried, the next updater gets
what the last one returned, or what the sender had at first. -/
theorem next_update_reads_last (process : Process World) (schedule : List Action)
    {state : State World}
    (every : (machine library producer process).EachStep
      (fun state action => Undisturbed contract state action ∧ Carried contract state action)
      (machine library producer process).initial schedule)
    (ran : (machine library producer process).run schedule = some state) :
    ∃ call wrappedOldParameters reached,
      beginUpdate library producer state.process = (.ok (call, wrappedOldParameters), reached) ∧
      RTPParameters.initFrom wrappedOldParameters = lastReturned contract process schedule := by
  have kept : ∀ past before action after, ReadsLast contract process past before →
      (Undisturbed contract before action ∧ Carried contract before action) →
      (machine library producer process).step before action = some after →
      ReadsLast contract process (past ++ [action]) after := by
    intro past before action after readsLast takesEffect stepped
    exact readsLast_step contract readsLast takesEffect.1 takesEffect.2 stepped
  have start : ReadsLast contract process [] (machine library producer process).initial :=
    ⟨current_initial contract process, rfl⟩
  have readsLast := Machine.history_of_eachStep kept start every ran
  obtain ⟨native, began, -⟩ := beginUpdate_apply contract state.process
  exact ⟨_, _, _, began, readsLast.2⟩

/-- An update that switches nothing on or off. -/
def sampleUpdate : RTPParameters where
  degradationPreference := some .balanced
  encodings := some [returnedEncoding true (some ⟨640, 360⟩)]

private theorem readsBack_sampleUpdate {parameters : Webrtc.RtpParameters}
    {encoding : Webrtc.RtpEncodingParameters} (one : parameters.encodings = [encoding])
    (active : encoding.active = true) : sampleUpdate.ReadsBack parameters where
  notNil := rfl
  count := by
    rw [one]
    rfl
  degradationPreference := fun _ present => (Option.some.inj present).symm
  encodings := by
    rintro (_ | k) updated native updatedFound nativeFound
    · rw [one] at nativeFound
      obtain rfl := Option.some.inj updatedFound
      obtain rfl := Option.some.inj nativeFound
      exact
        { isActive := active
          numbers := numbersKept_of_admissible (admissible_returnedEncoding true)
          scalabilityMode := by decide }
    · cases updatedFound

private theorem undisturbed_sampleUpdate {state : State SampleWorld} {name : Nat}
    (last : name + 1 = state.calls.length) (updatedValue : RTPParameters) :
    Undisturbed sampleContract state (.finish name updatedValue) :=
  fun _ _ _ => ⟨last, rfl⟩

/-- One update after the other that gives a mode, a bitrate and a resolution. -/
theorem next_update_reads_last_sample :
    ∃ state call wrappedOldParameters reached,
      (machine sampleLibrary ⟨0, 3, 0⟩ (senderProcess [{}] none)).run
        [.begin, .finish 0 sampleUpdate] = some state ∧
      beginUpdate sampleLibrary ⟨0, 3, 0⟩ state.process =
        (.ok (call, wrappedOldParameters), reached) ∧
      RTPParameters.initFrom wrappedOldParameters = lastReturned sampleContract
        (senderProcess [{}] none) [.begin, .finish 0 sampleUpdate] := by
  have every : (machine sampleLibrary ⟨0, 3, 0⟩ (senderProcess [{}] none)).EachStep
      (fun state action =>
        Undisturbed sampleContract state action ∧ Carried sampleContract state action)
      (machine sampleLibrary ⟨0, 3, 0⟩ (senderProcess [{}] none)).initial
      [.begin, .finish 0 sampleUpdate] := by
    refine ⟨⟨trivial, trivial⟩, ?_⟩
    intro next stepped
    cases stepped
    refine ⟨⟨?_, ?_⟩, fun _ _ => trivial⟩
    · exact undisturbed_sampleUpdate rfl sampleUpdate
    · exact readsBack_sampleUpdate rfl rfl
  obtain ⟨call, wrappedOldParameters, reached, began, same⟩ :=
    next_update_reads_last sampleContract (senderProcess [{}] none) _ every rfl
  exact ⟨_, call, wrappedOldParameters, reached, rfl, began, same⟩

/-- What an update would write is what it would have written at first, if it
returns at least as many encodings as each before it. -/
def OverwritesPast (process : Process World) (past : List Action) (state : State World) : Prop :=
  Current contract state ∧ ∀ later : RTPParameters,
    (∀ earlier ∈ past.filterMap Action.returned,
      earlier.returnedEncodings.length ≤ later.returnedEncodings.length) →
    ∃ transactionId, updatedNativeParameters (state.parameters contract) later.wrappedValue =
      (updatedNativeParameters (contract.sender process.native).parameters later.wrappedValue).map
        fun written => { written with transactionId := transactionId }

private theorem overwritesPast_step {process : Process World} {past : List Action}
    {state next : State World} {action : Action}
    (overwrites : OverwritesPast contract process past state)
    (undisturbed : Undisturbed contract state action)
    (stepped : (machine library producer process).step state action = some next) :
    OverwritesPast contract process (past ++ [action]) next := by
  obtain ⟨current, same⟩ := overwrites
  refine ⟨current_step contract current undisturbed stepped, ?_⟩
  intro later reaches
  rw [List.filterMap_append] at reaches
  obtain ⟨transactionId, samePast⟩ :=
    same later fun earlier member => reaches earlier (List.mem_append_left _ member)
  cases action with
  | begin =>
      rw [(parameters_begin contract stepped).1]
      exact ⟨transactionId, samePast⟩
  | finish name updatedValue =>
      obtain ⟨written, writtenId, defined, effect⟩ :=
        parameters_finish contract current.consistent current.lastCall undisturbed stepped
      have reachesThis : updatedValue.returnedEncodings.length ≤ later.returnedEncodings.length :=
        reaches updatedValue (List.mem_append_right _ (List.mem_singleton.mpr rfl))
      refine ⟨writtenId, ?_⟩
      rw [effect, updatedNativeParameters_withTransactionId,
        later_update_overwrites defined reachesThis, samePast, Option.map_map]
      rfl

/-- In every run whose updates take effect, the last update writes what it would
have written at first, without the others, if none of them returned more encodings. -/
theorem last_update_decides (process : Process World) (past : List Action) (name : Nat)
    (last : RTPParameters) {state : State World}
    (every : (machine library producer process).EachStep (Undisturbed contract)
      (machine library producer process).initial (past ++ [.finish name last]))
    (reaches : ∀ earlier ∈ past.filterMap Action.returned,
      earlier.returnedEncodings.length ≤ last.returnedEncodings.length)
    (ran : (machine library producer process).run (past ++ [.finish name last]) = some state) :
    ∃ written transactionId,
      updatedNativeParameters (contract.sender process.native).parameters last.wrappedValue =
        some written ∧
      (contract.sender state.process.native).parameters =
        { written with transactionId := transactionId } := by
  obtain ⟨everyPast, everyLast⟩ := Machine.eachStep_append.mp every
  unfold Machine.run at ran
  rw [Machine.runFrom_append, Option.bind_eq_some_iff] at ran
  obtain ⟨middle, ranPast, ranLast⟩ := ran
  have undisturbed := Machine.eachStep_singleton.mp (everyLast middle ranPast)
  have stepped : step library producer middle (.finish name last) = some state := by
    rw [Machine.runFrom_cons, Option.bind_eq_some_iff] at ranLast
    obtain ⟨next, stepped, finished⟩ := ranLast
    rwa [← Option.some.inj finished]
  have kept : ∀ before state action next, OverwritesPast contract process before state →
      Undisturbed contract state action →
      (machine library producer process).step state action = some next →
      OverwritesPast contract process (before ++ [action]) next := by
    intro before state action next overwrites undisturbed stepped
    exact overwritesPast_step contract overwrites undisturbed stepped
  have start : OverwritesPast contract process []
      (machine library producer process).initial := by
    refine ⟨current_initial contract process, fun later _ => ?_⟩
    exact ⟨_, updatedNativeParameters_withTransactionId _ _ later⟩
  obtain ⟨current, overwrites⟩ := Machine.history_of_eachStep kept start everyPast ranPast
  obtain ⟨written, transactionId, defined, effect⟩ :=
    parameters_finish contract current.consistent current.lastCall undisturbed stepped
  obtain ⟨firstId, same⟩ := overwrites last reaches
  rw [same, Option.map_eq_some_iff] at defined
  obtain ⟨first, defined, rfl⟩ := defined
  exact ⟨first, transactionId, defined, effect⟩

/-- Another update, which gives another resolution and no preference. -/
def sampleLastUpdate : RTPParameters where
  degradationPreference := none
  encodings := some [returnedEncoding false (some ⟨320, 180⟩)]

/-- Of two different updates of one encoding, the resolution of the second stays. -/
theorem last_update_decides_sample :
    ∃ state written transactionId,
      (machine sampleLibrary ⟨0, 3, 0⟩ (senderProcess [{}] none)).run
        ([.begin, .finish 0 sampleUpdate, .begin] ++ [.finish 1 sampleLastUpdate]) = some state ∧
      updatedNativeParameters (senderProcess [{}] none).native.sender.parameters
        sampleLastUpdate.wrappedValue = some written ∧
      state.process.native.sender.parameters =
        { written with transactionId := transactionId } ∧
      written.encodings.map (·.scaleResolutionDownTo) = [some ⟨320, 180⟩] ∧
      written.degradationPreference = none := by
  have every : (machine sampleLibrary ⟨0, 3, 0⟩ (senderProcess [{}] none)).EachStep
      (Undisturbed sampleContract)
      (machine sampleLibrary ⟨0, 3, 0⟩ (senderProcess [{}] none)).initial
      ([.begin, .finish 0 sampleUpdate, .begin] ++ [.finish 1 sampleLastUpdate]) := by
    refine ⟨trivial, ?_⟩
    intro first stepped
    cases stepped
    refine ⟨undisturbed_sampleUpdate rfl sampleUpdate, ?_⟩
    intro second stepped
    cases stepped
    refine ⟨trivial, ?_⟩
    intro third stepped
    cases stepped
    exact ⟨undisturbed_sampleUpdate rfl sampleLastUpdate, fun _ _ => trivial⟩
  have reaches : ∀ earlier ∈ [Action.begin, .finish 0 sampleUpdate, .begin].filterMap
      Action.returned,
      earlier.returnedEncodings.length ≤ sampleLastUpdate.returnedEncodings.length := by
    intro earlier member
    obtain rfl := List.mem_singleton.mp member
    exact le_rfl
  obtain ⟨written, transactionId, defined, effect⟩ :=
    last_update_decides sampleContract (senderProcess [{}] none) _ 1 sampleLastUpdate every
      reaches rfl
  refine ⟨_, written, transactionId, rfl, defined, effect, ?_, ?_⟩
  · cases defined
    decide
  · cases defined
    rfl

end SenderUpdates

end MediasoupClientSwift
