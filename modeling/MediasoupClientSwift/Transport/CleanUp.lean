import MediasoupClientSwift.Error.Translation
import MediasoupClientSwift.Transport.Factories

/-!
Owns the clean-up of the four factories: the listener adapter a call allocates is
deleted once where the call fails and stays where it succeeds. The main result
says for which native exceptions the helpers and the factories keep this.
-/

namespace MediasoupClientSwift

open Library

variable {World α β : Type}

/-! ### What a block leaves alone -/

/-- The program neither allocates nor deletes a listener adapter. -/
def KeepsAdapters (program : ObjCpp (Process World) α) : Prop :=
  ∀ process, (program process).2.listenerAdapters = process.listenerAdapters

namespace KeepsAdapters

theorem pure (value : α) : KeepsAdapters (Pure.pure value : ObjCpp (Process World) α) :=
  fun _ => rfl

theorem bind {first : ObjCpp (Process World) α} {next : α → ObjCpp (Process World) β}
    (firstKeeps : KeepsAdapters first) (nextKeeps : ∀ value, KeepsAdapters (next value)) :
    KeepsAdapters (first >>= next) := by
  intro process
  have before := firstKeeps process
  rw [Program.bind_apply]
  rcases outcome : first process with ⟨result, reached⟩
  rw [outcome] at before
  cases result with
  | ok value => exact (nextKeeps value reached).trans before
  | error reason => exact before

theorem throwing (result : Except CppException α) :
    KeepsAdapters (MediasoupClientSwift.throwing result : ObjCpp (Process World) α) := by
  intro process
  cases result <;> rfl

theorem callNative (call : NativeCall World α) :
    KeepsAdapters (MediasoupClientSwift.callNative call) := by
  intro process
  unfold MediasoupClientSwift.callNative
  split <;> rfl

theorem readNative (read : World → α) : KeepsAdapters (MediasoupClientSwift.readNative read) :=
  fun _ => rfl

theorem transport (self : Address) :
    KeepsAdapters (TransportWrapper.transport self : ObjCpp (Process World) Handle) := by
  apply bind fun _ => rfl
  intro found process
  unfold dereference
  cases (found.transportIvars self).transport <;> rfl

theorem initWithProducer (producer : Handle) (track : MediaStreamTrack)
    (listenerAdapter : AdapterPointer) :
    KeepsAdapters
      (ProducerWrapper.initWithProducer producer track listenerAdapter :
        ObjCpp (Process World) ProducerWrapper) :=
  fun _ => rfl

end KeepsAdapters

/-! ### The shape of the factories -/

/-- The factory allocates one adapter, which its block leaves alone, and translates
what the block ends with; when it is left the adapter was deleted exactly once where
the block raised, and not at all where it returned. -/
structure FreesAdapterOnce {Wrapper : Type}
    (factory : ObjCpp (Process World) (Option Wrapper × Option NSError))
    (block : AdapterPointer → ObjCpp (Process World) (Option Wrapper)) (process : Process World) :
    Prop where
  kept : ((newListenerAdapter >>= block) process).2.listenerAdapters =
    process.listenerAdapters.push 0
  translates : Translates factory (newListenerAdapter >>= block) none
    (Process.withoutAdapter · process.listenerAdapters.fresh) process
  notDeleted : ∀ value reached, (newListenerAdapter >>= block) process = (.ok value, reached) →
    (factory process).2.listenerAdapters = process.listenerAdapters.push 0
  deletedOnce : ∀ reason reached, (newListenerAdapter >>= block) process = (.error reason, reached) →
    reason ≠ .undefinedBehaviour →
    (factory process).2.listenerAdapters = process.listenerAdapters.push 1

/-- The numbers of deletions follow from the clean-up. -/
theorem freesAdapterOnce_of_translates {Wrapper : Type}
    {factory : ObjCpp (Process World) (Option Wrapper × Option NSError)}
    {block : AdapterPointer → ObjCpp (Process World) (Option Wrapper)} {process : Process World}
    (kept : ((newListenerAdapter >>= block) process).2.listenerAdapters =
      process.listenerAdapters.push 0)
    (translates : Translates factory (newListenerAdapter >>= block) none
      (Process.withoutAdapter · process.listenerAdapters.fresh) process) :
    FreesAdapterOnce factory block process := by
  have deletes (reached : Process World)
      (same : reached.listenerAdapters = process.listenerAdapters.push 0) :
      (reached.withoutAdapter process.listenerAdapters.fresh).listenerAdapters =
        process.listenerAdapters.push 1 := by
    unfold Process.withoutAdapter
    rw [same]
    exact Arena.modify_push_fresh process.listenerAdapters 0 _
  constructor
  case kept => exact kept
  case translates => exact translates
  case notDeleted =>
    intro value reached returned
    rw [translates.returned value reached returned]
    rwa [returned] at kept
  case deletedOnce =>
    intro reason reached aborted caught
    rw [aborted] at kept
    cases reason with
    | exception raised =>
        obtain ⟨error, reported⟩ := translates.exception raised reached aborted
        rw [reported]
        exact deletes reached kept
    | objcException =>
        obtain ⟨error, reported⟩ := translates.objcException reached aborted
        rw [reported]
        exact deletes reached kept
    | undefinedBehaviour => exact absurd rfl caught

section Shape

variable {Arguments Wrapper : Type}
  (create : Handle → AdapterPointer → Arguments → NativeCall World Handle)
  (wrap : Handle → AdapterPointer → ObjCpp (Process World) Wrapper)
  (arguments : Except CppException Arguments) (self : Address) (process : Process World)

private theorem keepsAdapters_createChildBlock
    (wrapKeeps : ∀ object listenerAdapter, KeepsAdapters (wrap object listenerAdapter))
    (listenerAdapter : AdapterPointer) :
    KeepsAdapters (createChildBlock create wrap arguments self listenerAdapter) := by
  apply (KeepsAdapters.throwing arguments).bind
  intro converted
  apply (KeepsAdapters.transport self).bind
  intro transport
  apply (KeepsAdapters.callNative _).bind
  intro object
  apply (wrapKeeps object listenerAdapter).bind
  exact fun wrapper => KeepsAdapters.pure (some wrapper)

private theorem freesAdapterOnce_createChild_iff
    (wrapKeeps : ∀ object listenerAdapter, KeepsAdapters (wrap object listenerAdapter)) :
    FreesAdapterOnce (createChild create wrap arguments self)
        (createChildBlock create wrap arguments self) process ↔
      RaisesReadable (newListenerAdapter >>= createChildBlock create wrap arguments self)
        process := by
  -- After the allocation the factory is the helper over its block.
  let opened : Process World := process.withAdapter 0
  let block := createChildBlock create wrap arguments self process.listenerAdapters.fresh
  have sameFactory : createChild create wrap arguments self process =
      mediasoupTryWithResult block
        (some (Program.modify (Process.withoutAdapter · process.listenerAdapters.fresh))) opened :=
    Program.bind_of_ok rfl
  have sameBlock : (newListenerAdapter >>= createChildBlock create wrap arguments self) process =
      block opened :=
    Program.bind_of_ok rfl
  have translated := translates_mediasoupTryWithResult_iff block
    (some (Process.withoutAdapter · process.listenerAdapters.fresh)) opened
  have readable : RaisesReadable block opened ↔
      RaisesReadable (newListenerAdapter >>= createChildBlock create wrap arguments self)
        process := by
    unfold RaisesReadable
    rw [sameBlock]
  rw [← readable, ← translated]
  constructor
  · intro frees
    exact frees.translates.congr sameFactory.symm sameBlock.symm
  · intro translates
    apply freesAdapterOnce_of_translates
    · rw [sameBlock]
      exact keepsAdapters_createChildBlock create wrap arguments self wrapKeeps _ opened
    · exact translates.congr sameFactory sameBlock

end Shape

/-! ### The four factories -/

section Factories

variable (library : NativeLibrary World) (self : Address)

namespace SendTransportWrapper

/-- The block of `createProducerForTrack:`. -/
def producerBlock (mediaTrack : MediaStreamTrack) (texts : ProducerTexts) :
    AdapterPointer → ObjCpp (Process World) (Option ProducerWrapper) :=
  createChildBlock library.produce
    (fun producer listenerAdapter =>
      ProducerWrapper.initWithProducer producer mediaTrack listenerAdapter)
    (texts.arguments library.parse mediaTrack) self

/-- The block of `createDataProducerWithLabel:`. -/
def dataProducerBlock (texts : DataProducerTexts) :
    AdapterPointer → ObjCpp (Process World) (Option DataProducer) :=
  createChildBlock library.produceData
    (fun producer listenerAdapter =>
      pure { producer := producer, listenerAdapter := listenerAdapter })
    (texts.arguments library.parse) self

end SendTransportWrapper

namespace ReceiveTransportWrapper

/-- The block of `createConsumerWithId:`. -/
def consumerBlock (texts : ConsumerTexts) :
    AdapterPointer → ObjCpp (Process World) (Option ConsumerWrapper) :=
  createChildBlock library.consume
    (fun consumer listenerAdapter => do
      let track ← readNative (library.getTrack consumer)
      pure { consumer := consumer, track := track, listenerAdapter := listenerAdapter })
    (texts.arguments library.parse) self

/-- The block of `createDataConsumerWithId:`. -/
def dataConsumerBlock (texts : DataConsumerTexts) :
    AdapterPointer → ObjCpp (Process World) (Option DataConsumer) :=
  createChildBlock library.consumeData
    (fun consumer listenerAdapter =>
      pure { consumer := consumer, listenerAdapter := listenerAdapter })
    (texts.arguments library.parse) self

end ReceiveTransportWrapper

end Factories

/-- The helpers return normally with an error set and their clean-up run once, and
the factories free their adapter once, exactly where the exception raised in the
block, if any, has a message that is UTF-8 up to its first NUL. -/
theorem translators_total_iff {State Result : Type} (throwingBlock : ObjCpp State Unit)
    (throwingBoolBlock : ObjCpp State Bool) (throwingResultBlock : ObjCpp State (Option Result))
    (catchBlock : Option (State → State)) (state : State) (library : NativeLibrary World)
    (self : Address) (mediaTrack : MediaStreamTrack) (producerTexts : ProducerTexts)
    (dataProducerTexts : DataProducerTexts) (consumerTexts : ConsumerTexts)
    (dataConsumerTexts : DataConsumerTexts) (process : Process World) :
    (Translates (mediasoupTry throwingBlock) throwingBlock () (fun reached => reached) state ↔
      RaisesReadable throwingBlock state) ∧
    (Translates (mediasoupTryWithBool throwingBoolBlock) throwingBoolBlock false
        (fun reached => reached) state ↔
      RaisesReadable throwingBoolBlock state) ∧
    (Translates (mediasoupTryWithResult throwingResultBlock (catchBlock.map Program.modify))
        throwingResultBlock none (catchBlock.getD fun reached => reached) state ↔
      RaisesReadable throwingResultBlock state) ∧
    (FreesAdapterOnce
        (SendTransportWrapper.createProducerForTrack library self mediaTrack producerTexts)
        (SendTransportWrapper.producerBlock library self mediaTrack producerTexts) process ↔
      RaisesReadable (newListenerAdapter >>=
        SendTransportWrapper.producerBlock library self mediaTrack producerTexts) process) ∧
    (FreesAdapterOnce
        (SendTransportWrapper.createDataProducerWithLabel library self dataProducerTexts)
        (SendTransportWrapper.dataProducerBlock library self dataProducerTexts) process ↔
      RaisesReadable (newListenerAdapter >>=
        SendTransportWrapper.dataProducerBlock library self dataProducerTexts) process) ∧
    (FreesAdapterOnce (ReceiveTransportWrapper.createConsumerWithId library self consumerTexts)
        (ReceiveTransportWrapper.consumerBlock library self consumerTexts) process ↔
      RaisesReadable (newListenerAdapter >>=
        ReceiveTransportWrapper.consumerBlock library self consumerTexts) process) ∧
    (FreesAdapterOnce
        (ReceiveTransportWrapper.createDataConsumerWithId library self dataConsumerTexts)
        (ReceiveTransportWrapper.dataConsumerBlock library self dataConsumerTexts) process ↔
      RaisesReadable (newListenerAdapter >>=
        ReceiveTransportWrapper.dataConsumerBlock library self dataConsumerTexts) process) := by
  refine ⟨translates_mediasoupTry_iff throwingBlock state,
    translates_mediasoupTryWithBool_iff throwingBoolBlock state,
    translates_mediasoupTryWithResult_iff throwingResultBlock catchBlock state, ?_, ?_, ?_, ?_⟩
  · apply freesAdapterOnce_createChild_iff
    exact fun producer listenerAdapter =>
      KeepsAdapters.initWithProducer producer mediaTrack listenerAdapter
  · apply freesAdapterOnce_createChild_iff
    exact fun _ _ => KeepsAdapters.pure _
  · apply freesAdapterOnce_createChild_iff
    intro consumer listenerAdapter
    apply (KeepsAdapters.readNative (library.getTrack consumer)).bind
    exact fun _ => KeepsAdapters.pure _
  · apply freesAdapterOnce_createChild_iff
    exact fun _ _ => KeepsAdapters.pure _

/-- The sample library with a parser whose message quotes the first byte of the
text, as `parse_error` quotes what it read. -/
def quotingLibrary : NativeLibrary SampleWorld :=
  { sampleLibrary with
    parse := fun bytes =>
      .error { exceptionClass := .stdException,
               what := utf8Bytes "parse_error.101: last read: " ++ bytes.take 1 } }

/-- A producer whose `appData` is no JSON and starts with a two-byte character. -/
def unquotableTexts : ProducerTexts where
  encodings := none
  scalabilityMode := none
  codecOptions := none
  codec := none
  appData := some "é"

/-- What parsing it raises: the message ends inside the character. -/
def quotedException : CppException where
  exceptionClass := .stdException
  what := utf8Bytes "parse_error.101: last read: " ++ [0xC3]

def openedProcess : Process SampleWorld :=
  { sampleProcess true false with listenerAdapters := [0, 0] }

/-- The handler raises in its catch clause: the call leaves with an Objective-C
exception and its adapter is not freed. -/
theorem unreadable_message_counterexample :
    ¬ FreesAdapterOnce
        (SendTransportWrapper.createProducerForTrack quotingLibrary 0 ⟨0, "audio"⟩ unquotableTexts)
        (SendTransportWrapper.producerBlock quotingLibrary 0 ⟨0, "audio"⟩ unquotableTexts)
        (sampleProcess true false) ∧
      SendTransportWrapper.createProducerForTrack quotingLibrary 0 ⟨0, "audio"⟩ unquotableTexts
          (sampleProcess true false) = (.error .objcException, openedProcess) := by
  have unreadable : ¬ quotedException.Readable := by decide
  have aborted : SendTransportWrapper.producerBlock quotingLibrary 0 ⟨0, "audio"⟩ unquotableTexts 1
      openedProcess = (.error (.exception quotedException), openedProcess) := rfl
  have opens : newListenerAdapter (sampleProcess true false) = (.ok 1, openedProcess) := rfl
  have raises : SendTransportWrapper.createProducerForTrack quotingLibrary 0 ⟨0, "audio"⟩
      unquotableTexts (sampleProcess true false) = (.error .objcException, openedProcess) := by
    apply (Program.bind_of_ok opens).trans
    exact guarded_of_unreadable aborted (clauseCode_mediasoupClauses _) unreadable
      (Program.pure_apply () openedProcess)
  refine ⟨?_, raises⟩
  intro frees
  obtain ⟨error, returned⟩ :=
    frees.translates.exception _ _ ((Program.bind_of_ok opens).trans aborted)
  rw [raises] at returned
  cases returned

end MediasoupClientSwift
