import MediasoupClientSwift.Library.Machine
import MediasoupClientSwift.Media.Producer
import MediasoupClientSwift.Rtp.Sender

/-!
Owns the interleavings of `updateSenderParameters` calls on one producer: each
call reads, runs the updater, and writes, and calls may overlap or nest in any
way. The main result says in which of these runs every write takes effect.
-/

namespace MediasoupClientSwift.SenderUpdates

open Library
open ProducerWrapper (OpenUpdate beginUpdate finishUpdate)

variable {World : Type}

/-- The native sender of a producer as the library presents it: what
`GetParameters` and `SetParameters` are documented to do. -/
structure SenderContract (library : NativeLibrary World) (producer : ProducerWrapper) where
  handle : Handle
  sender : World → Webrtc.RtpSender
  /-- The native check of new parameters against the current ones. -/
  valid : Webrtc.RtpParameters → Webrtc.RtpParameters → Bool
  getRtpSender : ∀ world, library.getRtpSender producer.producer world = handle
  getParameters : ∀ world,
    (library.getParameters handle world).1 = (sender world).getParameters.1 ∧
      sender (library.getParameters handle world).2 = (sender world).getParameters.2
  setParameters : ∀ new world,
    (library.setParameters handle new world).1 = ((sender world).setParameters valid new).1 ∧
      sender (library.setParameters handle new world).2 =
        ((sender world).setParameters valid new).2

structure State (World : Type) where
  process : Process World
  /-- The calls that have begun, in order; `none` once a call has returned. -/
  calls : Arena (Option OpenUpdate)

inductive Action where
  | begin
  | finish (call : Nat) (updatedValue : RTPParameters)
deriving DecidableEq, Repr

section Steps

variable (library : NativeLibrary World) (producer : ProducerWrapper)

/-- A step is refused where the call does not exist or does not return. -/
def step (state : State World) : Action → Option (State World)
  | .begin =>
      match beginUpdate library producer state.process with
      | (.ok (call, _), process) =>
          some { process := process, calls := state.calls.push (some call) }
      | (.error _, _) => none
  | .finish name updatedValue => do
      let call ← (← state.calls[name]?)
      match finishUpdate library call updatedValue.wrappedValue state.process with
      | (.ok (), process) =>
          some { process := process, calls := state.calls.modify name fun _ => none }
      | (.error _, _) => none

def machine (process : Process World) : Machine (State World) Action where
  initial := { process := process, calls := [] }
  step := step library producer

end Steps

/-! ### When an update takes effect -/

/-- The open call of a finish and the parameters it hands to `SetParameters`. -/
def State.write (state : State World) (name : Nat) (updatedValue : RTPParameters) :
    Option (OpenUpdate × Webrtc.RtpParameters) := do
  let call ← (← state.calls[name]?)
  let written ← updatedNativeParameters call.parameters updatedValue.wrappedValue
  some (call, written)

section Contract

variable {library : NativeLibrary World} {producer : ProducerWrapper}
  (contract : SenderContract library producer)

/-- A call that returns had its `SetParameters` accepted, and what it wrote is in
effect. A rejection could not be told: the call returns nothing. -/
def Effective (state : State World) : Action → Prop
  | .begin => True
  | .finish name updatedValue =>
      ∀ next, step library producer state (.finish name updatedValue) = some next →
        ∃ call written, state.write name updatedValue = some (call, written) ∧
          (library.setParameters call.sender written state.process.native).1 = true ∧
          (contract.sender next.process.native).parameters = written

/-- No call began after this one, and the native check takes its values. -/
def Undisturbed (state : State World) : Action → Prop
  | .begin => True
  | .finish name updatedValue =>
      ∀ call written, state.write name updatedValue = some (call, written) →
        name + 1 = state.calls.length ∧
          contract.valid (contract.sender state.process.native).parameters written = true

/-- The transaction ids of the open calls: only the last begun one can have the
latest id. -/
def Consistent (state : State World) : Prop :=
  ∀ (name : Nat) (call : OpenUpdate), state.calls[name]? = some (some call) →
    call.sender = contract.handle ∧
    call.parameters.transactionId < (contract.sender state.process.native).issued ∧
    ((contract.sender state.process.native).latest = some call.parameters.transactionId ↔
      name + 1 = state.calls.length)

/-! ### The two steps -/

theorem beginUpdate_apply (process : Process World) :
    ∃ native, beginUpdate library producer process =
        (.ok ({ sender := contract.handle
                parameters := (contract.sender process.native).getParameters.1 },
            WrappedRTPParameters.initWithEncodings
              (contract.sender process.native).getParameters.1.encodings
              (contract.sender process.native).getParameters.1.degradationPreference),
          { process with native := native }) ∧
      contract.sender native = (contract.sender process.native).getParameters.2 := by
  obtain ⟨got, reached⟩ := contract.getParameters process.native
  refine ⟨(library.getParameters contract.handle process.native).2, ?_, reached⟩
  rw [← got, ← contract.getRtpSender process.native]
  rfl

theorem step_begin (state : State World) :
    ∃ native, step library producer state .begin =
        some
          { process := { state.process with native := native }
            calls := state.calls.push (some
              { sender := contract.handle
                parameters := (contract.sender state.process.native).getParameters.1 }) } ∧
      contract.sender native = (contract.sender state.process.native).getParameters.2 := by
  obtain ⟨native, begun, reached⟩ := beginUpdate_apply contract state.process
  refine ⟨native, ?_, reached⟩
  simp only [step, begun]

omit contract in
/-- A finish returns exactly when it has something to write, and then it leaves
the world as `SetParameters` left it. -/
theorem step_finish_iff (state next : State World) (name : Nat) (updatedValue : RTPParameters) :
    step library producer state (.finish name updatedValue) = some next ↔
      ∃ call written, state.write name updatedValue = some (call, written) ∧
        next =
          { process :=
              { state.process with
                native := (library.setParameters call.sender written state.process.native).2 }
            calls := state.calls.modify name fun _ => none } := by
  simp only [step, State.write, Option.bind_eq_bind]
  cases state.calls[name]? with
  | none => simp
  | some entry =>
      cases entry with
      | none => simp
      | some call =>
          simp only [Option.bind_some, finishUpdate]
          cases updatedNativeParameters call.parameters updatedValue.wrappedValue with
          | none => simp
          | some written => simp [runNative, eq_comm]

theorem consistent_initial (process : Process World) :
    Consistent contract (machine library producer process).initial := by
  intro name call found
  simp [machine] at found

private theorem consistent_begin {state next : State World} (consistent : Consistent contract state)
    (stepped : step library producer state .begin = some next) : Consistent contract next := by
  obtain ⟨native, began, reached⟩ := step_begin contract state
  obtain rfl := Option.some.inj (began.symm.trans stepped)
  intro name call found
  simp only [reached, Webrtc.RtpSender.getParameters]
  rcases Arena.getElem?_push_cases found with ⟨rfl, same⟩ | old
  · obtain rfl := Option.some.inj same
    refine ⟨rfl, Nat.lt_succ_self _, iff_of_true rfl ?_⟩
    simp [Arena.push]
  · obtain ⟨own, issued, -⟩ := consistent name call old
    have below := (List.getElem?_eq_some_iff.mp old).1
    refine ⟨own, Nat.lt_succ_of_lt issued, iff_of_false ?_ ?_⟩
    · intro same
      have sameId := Option.some.inj same
      omega
    · simp only [Arena.push, List.length_append, List.length_singleton]
      omega

/-- The answer of `SetParameters` to an open call. -/
theorem accepted_iff {state : State World} (consistent : Consistent contract state)
    {name : Nat} {updatedValue : RTPParameters} {call : OpenUpdate}
    {written : Webrtc.RtpParameters}
    (write : state.write name updatedValue = some (call, written)) :
    state.calls[name]? = some (some call) ∧
      (library.setParameters call.sender written state.process.native).1 =
        ((contract.sender state.process.native).setParameters contract.valid written).1 ∧
      contract.sender (library.setParameters call.sender written state.process.native).2 =
        ((contract.sender state.process.native).setParameters contract.valid written).2 ∧
      ((contract.sender state.process.native).latest = some written.transactionId ↔
        name + 1 = state.calls.length) := by
  simp only [State.write, Option.bind_eq_bind, Option.bind_eq_some_iff, Option.some.injEq,
    Prod.mk.injEq] at write
  obtain ⟨_, found, _, rfl, _, updated, rfl, rfl⟩ := write
  obtain ⟨own, -, latest⟩ := consistent name _ found
  rw [own, transactionId_of_updatedNativeParameters updated]
  exact ⟨found, (contract.setParameters _ _).1, (contract.setParameters _ _).2, latest⟩

private theorem consistent_finish {state next : State World} {name : Nat}
    {updatedValue : RTPParameters} (consistent : Consistent contract state)
    (stepped : step library producer state (.finish name updatedValue) = some next) :
    Consistent contract next := by
  obtain ⟨call, written, write, rfl⟩ := (step_finish_iff state next name updatedValue).mp stepped
  obtain ⟨-, -, reached, latest⟩ := accepted_iff contract consistent write
  intro other otherCall found
  rcases Arena.getElem?_modify_cases found with ⟨-, entry, -, absent⟩ | ⟨different, old⟩
  · cases absent
  · obtain ⟨own, issued, otherLatest⟩ := consistent other otherCall old
    simp only [reached, List.length_modify, Webrtc.RtpSender.setParameters]
    split
    next accepts =>
      refine ⟨own, issued, iff_of_false (by simp) ?_⟩
      have isLast := latest.mp accepts.1
      omega
    next => exact ⟨own, issued, otherLatest⟩

theorem consistent_step (process : Process World) (state : State World) (action : Action)
    (next : State World) (consistent : Consistent contract state)
    (stepped : (machine library producer process).step state action = some next) :
    Consistent contract next := by
  cases action with
  | begin => exact consistent_begin contract consistent stepped
  | finish name updatedValue => exact consistent_finish contract consistent stepped

theorem effective_iff {state : State World} (consistent : Consistent contract state)
    (action : Action) : Effective contract state action ↔ Undisturbed contract state action := by
  cases action with
  | begin => exact Iff.rfl
  | finish name updatedValue =>
      constructor
      · intro effective call written write
        obtain ⟨-, answer, -, latest⟩ := accepted_iff contract consistent write
        obtain ⟨other, otherWritten, otherWrite, accepted, -⟩ := effective _
          ((step_finish_iff state _ name updatedValue).mpr ⟨call, written, write, rfl⟩)
        rw [write] at otherWrite
        obtain ⟨rfl, rfl⟩ := Prod.mk.inj (Option.some.inj otherWrite)
        rw [answer, Webrtc.RtpSender.setParameters] at accepted
        split at accepted
        next accepts => exact ⟨latest.mp accepts.1, accepts.2⟩
        next => cases accepted
      · intro undisturbed next stepped
        obtain ⟨call, written, write, rfl⟩ :=
          (step_finish_iff state next name updatedValue).mp stepped
        obtain ⟨-, answer, reached, latest⟩ := accepted_iff contract consistent write
        obtain ⟨isLast, valid⟩ := undisturbed call written write
        have accepts : (contract.sender state.process.native).setParameters contract.valid written =
            (true, { contract.sender state.process.native with
                       parameters := written, latest := none }) :=
          if_pos ⟨latest.mpr isLast, valid⟩
        rw [accepts] at answer reached
        refine ⟨call, written, write, answer, ?_⟩
        rw [reached]

/-- In every interleaving or nesting of update calls, every call that returns
had its write accepted exactly when each call is the last begun one as it
finishes and the native check takes its values. -/
theorem updates_effective_iff (process : Process World) (schedule : List Action) :
    (machine library producer process).EachStep (Effective contract)
        (machine library producer process).initial schedule ↔
      (machine library producer process).EachStep (Undisturbed contract)
        (machine library producer process).initial schedule := by
  refine Machine.eachStep_congr ?_ ?_ (consistent_initial contract process)
  · intro state action next consistent stepped
    exact consistent_step contract process state action next consistent stepped
  · intro state action consistent
    exact effective_iff contract consistent action

end Contract

def sampleContract : SenderContract sampleLibrary ⟨0, 3, 0⟩ where
  handle := 7
  sender world := world.sender
  valid _ _ := true
  getRtpSender _ := rfl
  getParameters _ := ⟨rfl, rfl⟩
  setParameters _ _ := ⟨rfl, rfl⟩

/-- One call after the other: each write takes effect. -/
theorem updates_effective_iff_sample :
    let updated : RTPParameters := { degradationPreference := some .balanced, encodings := none }
    let schedule := [Action.begin, .finish 0 updated, .begin, .finish 1 updated]
    (machine sampleLibrary ⟨0, 3, 0⟩ (sampleProcess true false)).EachStep (Effective sampleContract)
        (machine sampleLibrary ⟨0, 3, 0⟩ (sampleProcess true false)).initial schedule ↔
      (machine sampleLibrary ⟨0, 3, 0⟩ (sampleProcess true false)).EachStep
        (Undisturbed sampleContract)
        (machine sampleLibrary ⟨0, 3, 0⟩ (sampleProcess true false)).initial schedule :=
  updates_effective_iff sampleContract (sampleProcess true false) _

/-- An update made inside another's updater: the outer write is rejected, and the
outer call returns. -/
theorem nested_update_lost_counterexample :
    ¬ ∀ schedule : List Action,
      (machine sampleLibrary ⟨0, 3, 0⟩ (sampleProcess true false)).EachStep
        (Effective sampleContract)
        (machine sampleLibrary ⟨0, 3, 0⟩ (sampleProcess true false)).initial schedule := by
  intro effective
  let updated : RTPParameters := { degradationPreference := some .balanced, encodings := none }
  have outer := Machine.eachStep_iff_split.mp
    (effective [.begin, .begin, .finish 1 updated, .finish 0 updated])
    [.begin, .begin, .finish 1 updated] (.finish 0 updated) [] _ rfl rfl
  obtain ⟨call, written, write, accepted, -⟩ := outer _ rfl
  obtain ⟨rfl, rfl⟩ := Prod.mk.inj (Option.some.inj write)
  cases accepted

/-! ### One call as two steps -/

section Calls

variable {library : NativeLibrary World} {producer : Producer}

/-- The call is open with these data, or it has returned. -/
def CallKept (name : Nat) (call : OpenUpdate) (state : State World) : Prop :=
  state.calls[name]? = some (some call) ∨ state.calls[name]? = some none

private theorem call_kept {process : Process World} {state reached : State World}
    {actions : List Action}
    {name : Nat} {call : OpenUpdate} (found : state.calls[name]? = some (some call))
    (ran : (machine library producer.producer process).runFrom state actions = some reached) :
    CallKept name call reached := by
  have keeps : ∀ before action after, CallKept name call before →
      step library producer.producer before action = some after → CallKept name call after := by
    intro before action after kept stepped
    cases action with
    | begin =>
        simp only [step] at stepped
        split at stepped
        next =>
          obtain rfl := Option.some.inj stepped
          exact kept.imp Arena.getElem?_push_of_some Arena.getElem?_push_of_some
        next => cases stepped
    | finish other updatedValue =>
        obtain ⟨_, _, -, rfl⟩ := (step_finish_iff before after other updatedValue).mp stepped
        by_cases same : name = other
        · subst same
          apply Or.inr
          rcases kept with isOpen | closed
          · rw [Arena.getElem?_modify_self, isOpen, Option.map_some]
          · rw [Arena.getElem?_modify_self, closed, Option.map_some]
        · unfold CallKept
          rw [Arena.getElem?_modify_of_ne _ same]
          exact kept
  exact Machine.invariant_run keeps (Or.inl found) ran

/-- A whole call, whose updater makes the calls of a run before it returns, ends
where the machine does after the begin, that run and the finish. -/
theorem updateSenderParameters_of_run {updater : ProducerWrapper.Updater World RTPParameters}
    {start : Process World} {state inner last : State World} {actions : List Action}
    {call : OpenUpdate} {wrappedOldParameters : WrappedRTPParameters} {opened : Process World}
    {updatedValue : RTPParameters}
    (began : beginUpdate library producer.producer state.process =
      (.ok (call, wrappedOldParameters), opened))
    (made : (machine library producer.producer start).runFrom
      { process := opened, calls := state.calls.push (some call) } actions = some inner)
    (updated : updater (RTPParameters.initFrom wrappedOldParameters) opened =
      (updatedValue, inner.process))
    (finished : step library producer.producer inner (.finish state.calls.fresh updatedValue) =
      some last) :
    producer.updateSenderParameters library updater state.process = (.ok (), last.process) := by
  obtain ⟨finishing, written, write, rfl⟩ := (step_finish_iff inner last _ updatedValue).mp finished
  have isOpen : finishing = call ∧
      updatedNativeParameters call.parameters updatedValue.wrappedValue = some written := by
    rcases call_kept (Arena.getElem?_push_fresh state.calls (some call)) made with kept | closed
    · simp only [State.write, kept, Option.bind_eq_bind, Option.bind_some,
        Option.bind_eq_some_iff, Option.some.injEq, Prod.mk.injEq] at write
      obtain ⟨_, updated, rfl, rfl⟩ := write
      exact ⟨rfl, updated⟩
    · simp [State.write, closed] at write
  obtain ⟨rfl, defined⟩ := isOpen
  have ran : ProducerWrapper.runUpdater updater (RTPParameters.initFrom wrappedOldParameters)
      opened = (.ok updatedValue, inner.process) := by
    simp only [ProducerWrapper.runUpdater, updated]
  rw [Producer.updateSenderParameters_eq, Program.bind_of_ok began, Program.bind_of_ok ran,
    finishUpdate, defined]
  rfl

end Calls

end MediasoupClientSwift.SenderUpdates
