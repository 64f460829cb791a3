import MediasoupClientSwift.Api.Ledger

/-!
Owns the state after a call that throws. The main result covers every public
operation: such a call leaves the program's own state as it was and no native
object behind, and an adapter that it allocated is deleted again.
-/

namespace MediasoupClientSwift

open Library

variable {World α β : Type}

/-! ### Values handed to Swift -/

section Values

variable {State : Type}

/-- Going on with a value changes no state. -/
theorem mapResult_returned {change : α → β} {call : SwiftCall State α} {state last : State}
    {outcome : Except SwiftError β} (returned : mapResult change call state = (.ok outcome, last)) :
    ∃ inner, call state = (.ok inner, last) ∧ outcome.toOption = inner.toOption.map change := by
  obtain ⟨inner, reached, ran, ended⟩ := Program.bind_eq_ok_iff.mp returned
  cases ended
  refine ⟨inner, ran, ?_⟩
  cases inner <;> rfl

theorem convertMediasoupErrors_returned {closure : SwiftCall State α} {state last : State}
    {outcome : Except SwiftError α}
    (returned : convertMediasoupErrors closure state = (.ok outcome, last)) :
    ∃ inner, closure state = (.ok inner, last) ∧ outcome.toOption = inner.toOption := by
  obtain ⟨inner, reached, ran, ended⟩ := Program.bind_eq_ok_iff.mp returned
  cases inner with
  | error error =>
      cases ended
      exact ⟨.error error, ran, rfl⟩
  | ok value =>
      cases ended
      exact ⟨.ok value, ran, rfl⟩

theorem nilResultCall_returned {method : ObjCpp State (Option α × Option NSError)}
    {state last : State} {outcome : Except SwiftError α}
    (returned : nilResultCall method state = (.ok outcome, last)) :
    ∃ inner, method state = (.ok inner, last) ∧ outcome.toOption = inner.1 := by
  obtain ⟨⟨result, error⟩, reached, ran, ended⟩ := Program.bind_eq_ok_iff.mp returned
  cases result with
  | some value =>
      cases ended
      exact ⟨(some value, error), ran, rfl⟩
  | none =>
      cases error with
      | none =>
          cases ended
          exact ⟨(none, none), ran, rfl⟩
      | some error =>
          cases ended
          exact ⟨(none, some error), ran, rfl⟩

theorem nonnullErrorCall_returned {method : ObjCpp State (α × Option NSError)}
    {state last : State} {outcome : Except SwiftError α}
    (returned : nonnullErrorCall method state = (.ok outcome, last)) :
    ∃ inner, method state = (.ok inner, last) ∧
      outcome.toOption = if inner.2.isSome then none else some inner.1 := by
  obtain ⟨⟨result, error⟩, reached, ran, ended⟩ := Program.bind_eq_ok_iff.mp returned
  cases error with
  | none =>
      cases ended
      exact ⟨(result, none), ran, rfl⟩
  | some error =>
      cases ended
      exact ⟨(result, some error), ran, rfl⟩

end Values

/-! ### Calls that throw -/

section Throwing

variable {library : NativeLibrary World} {Book : Type} {book : World → Book}
  {made : Handle → Book → Book}

private theorem not_threw_returning {method : ObjCpp (Process World) α}
    {process last : Process World}
    {error : SwiftError} (threw : returning method process = (.ok (.error error), last)) : False := by
  obtain ⟨value, reached, -, ended⟩ := Program.bind_eq_ok_iff.mp threw
  cases ended

/-- A factory of a transport that throws leaves a deleted adapter behind. -/
theorem seen_of_createChild_threw {Arguments Wrapper : Type}
    {create : Handle → AdapterPointer → Arguments → NativeCall World Handle}
    {wrap : Handle → AdapterPointer → ObjCpp (Process World) Wrapper}
    {arguments : Except CppException Arguments} {self : Address}
    (makes : ∀ transport listener converted, Makes book made (create transport listener converted))
    (wraps : ∀ object listenerAdapter process,
      Program.Completes (wrap object listenerAdapter) process)
    {process last : Process World} {outcome : Except SwiftError Wrapper}
    (returned : nilResultCall (createChild create wrap arguments self) process = (.ok outcome, last))
    (threw : outcome.toOption = none) : last.seen book = (process.seen book).withAdapter 1 := by
  obtain ⟨inner, ran, same⟩ := nilResultCall_returned returned
  rcases createChild_cases makes wraps ran with ⟨reported, -, seen⟩ |
      ⟨object, middle, wrapper, -, -, -, rfl⟩
  · exact seen
  · rw [same] at threw
    cases threw

private theorem seen_of_createTransport_threw {create : CreateTransport World} {self : Device}
    {texts : TransportTexts} {iceServers : Option String} {policy : IceTransportPolicy}
    (makes : ∀ device listener arguments, Makes book made (create device listener arguments))
    {process last : Process World} {error : SwiftError}
    (threw : withoutValue (convertMediasoupErrors (nilResultCall
      (DeviceWrapper.createTransport library create self texts iceServers policy))) process =
        (.ok (.error error), last)) : last.seen book = (process.seen book).withAdapter 1 := by
  obtain ⟨converted, ran, sameValue⟩ := mapResult_returned threw
  obtain ⟨inner, ran, sameConverted⟩ := convertMediasoupErrors_returned ran
  obtain ⟨outcome, ran, sameResult⟩ := nilResultCall_returned ran
  have noResult : outcome.1 = none := by
    rw [← sameResult, ← sameConverted]
    exact Option.map_eq_none_iff.mp sameValue.symm
  rcases createTransport_cases library makes ran with ⟨reported, -, seen⟩ | ⟨transport, rfl, -⟩
  · exact seen
  · cases noResult

theorem completes_initWithProducer (producer : Handle) (track : MediaStreamTrack)
    (listenerAdapter : AdapterPointer) (process : Process World) :
    Program.Completes (ProducerWrapper.initWithProducer producer track listenerAdapter) process :=
  Program.completes_of_ok rfl

private theorem completes_wrapConsumer (consumer : Handle) (listenerAdapter : AdapterPointer)
    (process : Process World) :
    Program.Completes
      (do
        let track ← readNative (library.getTrack consumer)
        pure { consumer := consumer, track := track, listenerAdapter := listenerAdapter } :
        ObjCpp (Process World) ConsumerWrapper) process :=
  Program.completes_of_ok rfl

/-- A factory whose facade is its wrapper. -/
theorem seen_of_wrapperFactory_threw {Arguments Wrapper : Type}
    {create : Handle → AdapterPointer → Arguments → NativeCall World Handle}
    {wrap : Handle → AdapterPointer → Wrapper}
    {arguments : Except CppException Arguments} {self : Address}
    (makes : ∀ transport listener converted, Makes book made (create transport listener converted))
    {process last : Process World} {error : SwiftError}
    (threw : withoutValue (convertMediasoupErrors (nilResultCall (createChild create
      (fun object listenerAdapter => pure (wrap object listenerAdapter)) arguments self))) process =
        (.ok (.error error), last)) : last.seen book = (process.seen book).withAdapter 1 := by
  obtain ⟨outcome, ran, sameValue⟩ := mapResult_returned threw
  obtain ⟨inner, ran, sameInner⟩ := convertMediasoupErrors_returned ran
  refine seen_of_createChild_threw makes (fun _ _ _ => Program.completes_of_ok rfl) ran ?_
  rw [sameInner] at sameValue
  exact Option.map_eq_none_iff.mp sameValue.symm

end Throwing

/-! ### The public calls -/

section Operations

variable {library : NativeLibrary World} {Book : Type} (books : ObjectBook library Book)

private theorem seen_of_createProducerWith_threw {self : TransportFacade} {track : MediaStreamTrack}
    {texts : ProducerTexts} {process last : Process World} {error : SwiftError}
    (threw : withoutValue (SendTransport.createProducerWith track
        (SendTransportWrapper.createProducerForTrack library self.transport track texts)) process =
      (.ok (.error error), last)) :
    last.seen books.book = process.seen books.book ∨
      last.seen books.book = (process.seen books.book).withAdapter 1 := by
  obtain ⟨outcome, ran, sameValue⟩ := mapResult_returned threw
  unfold SendTransport.createProducerWith at ran
  cases kind : MediaKind.initStringValue track.kind with
  | none =>
      rw [kind] at ran
      cases ran
      exact Or.inl rfl
  | some mediaKind =>
      simp only [kind] at ran
      obtain ⟨converted, ran, sameConverted⟩ := convertMediasoupErrors_returned ran
      obtain ⟨inner, ran, sameInner⟩ := mapResult_returned ran
      refine Or.inr (seen_of_createChild_threw books.produce
        (fun object listenerAdapter => completes_initWithProducer object track listenerAdapter)
        ran ?_)
      rw [sameConverted, sameInner] at sameValue
      exact Option.map_eq_none_iff.mp (Option.map_eq_none_iff.mp sameValue.symm)

private theorem seen_of_consume_threw {self : TransportFacade} {texts : ConsumerTexts}
    {process last : Process World} {error : SwiftError}
    (threw : withoutValue (ReceiveTransport.consume library self texts) process =
      (.ok (.error error), last)) : last.seen books.book = (process.seen books.book).withAdapter 1 := by
  obtain ⟨outcome, ran, sameValue⟩ := mapResult_returned threw
  obtain ⟨converted, ran, sameConverted⟩ := convertMediasoupErrors_returned ran
  obtain ⟨inner, ran, sameInner⟩ := mapResult_returned ran
  refine seen_of_createChild_threw books.consume completes_wrapConsumer ran ?_
  rw [sameConverted, sameInner] at sameValue
  exact Option.map_eq_none_iff.mp (Option.map_eq_none_iff.mp sameValue.symm)

theorem DeviceOperation.seen_of_threw {self : Device} {operation : DeviceOperation}
    {process last : Process World} {error : SwiftError}
    (threw : operation.call library self process = (.ok (.error error), last)) :
    last.seen books.book = process.seen books.book ∨
      last.seen books.book = (process.seen books.book).withAdapter 1 := by
  cases factory : operation.isFactory with
  | true =>
      cases operation with
      | createSendTransport texts iceServers policy =>
          exact Or.inr (seen_of_createTransport_threw books.createSendTransport threw)
      | createReceiveTransport texts iceServers policy =>
          exact Or.inr (seen_of_createTransport_threw books.createRecvTransport threw)
      | _ => cases factory
  | false =>
      cases silent : operation.isAudioSession with
      | false => exact Or.inl ((operation.keepsSeen books self factory silent).reached threw)
      | true =>
          cases operation with
          | retainAudioSession => exact absurd threw not_threw_returning
          | releaseAudioSession => exact absurd threw not_threw_returning
          | _ => cases silent

theorem TransportOperation.seen_of_threw {self : TransportFacade} {operation : TransportOperation}
    {process last : Process World} {error : SwiftError}
    (threw : operation.call library self process = (.ok (.error error), last)) :
    last.seen books.book = process.seen books.book := by
  cases plain : operation.isDispose with
  | false => exact (operation.keepsSeen books self plain).reached threw
  | true =>
      cases operation with
      | dispose => exact absurd threw not_threw_returning
      | _ => cases plain

theorem ProducerOperation.seen_of_threw {self : Producer} {operation : ProducerOperation World}
    {process last : Process World} {error : SwiftError}
    (threw : operation.call library self process = (.ok (.error error), last)) :
    last.seen books.book = process.seen books.book := by
  cases plain : operation.isUpdate with
  | false => exact (operation.keepsSeen books self plain).reached threw
  | true =>
      cases operation with
      | updateSenderParameters updater => exact absurd threw not_threw_returning
      | replaceTrack track =>
          obtain ⟨inner, ran, same⟩ := nonnullErrorCall_returned threw
          rcases replaceTrack_cases books ran with ⟨reported, -, seen⟩ | ⟨rfl, -⟩
          · exact seen
          · cases same
      | _ => cases plain

/-- A call that throws leaves every wrapper, track property and posted task as it
was; it has made and deleted no transport and no child, and an adapter that it
allocated is deleted again. -/
theorem throwing_call_leaves_nothing (operation : Operation World)
    {process last : Process World} {error : SwiftError}
    (threw : operation.call library process = (.ok (.error error), last)) :
    last.seen books.book = process.seen books.book ∨
      last.seen books.book = (process.seen books.book).withAdapter 1 := by
  cases operation with
  | initCaptureAudioSession captureAudioSession => exact absurd threw not_threw_returning
  | initPCFactory pcFactory => exact absurd threw not_threw_returning
  | device self operation => exact operation.seen_of_threw books threw
  | sendTransport self operation =>
      cases operation with
      | transport operation => exact Or.inl (operation.seen_of_threw books threw)
      | createProducer track encodings codecOptions codec appData =>
          exact seen_of_createProducerWith_threw books threw
      | createScalableProducer track encoding mode codecOptions codec appData =>
          exact seen_of_createProducerWith_threw books threw
      | produceData texts => exact Or.inr (seen_of_wrapperFactory_threw books.produceData threw)
  | receiveTransport self operation =>
      cases operation with
      | transport operation => exact Or.inl (operation.seen_of_threw books threw)
      | consume texts => exact Or.inr (seen_of_consume_threw books threw)
      | consumeData texts => exact Or.inr (seen_of_wrapperFactory_threw books.consumeData threw)
  | producer self operation => exact Or.inl (operation.seen_of_threw books threw)
  | consumer self operation =>
      exact Or.inl ((operation.keepsSeen books self).reached threw)
  | dataProducer self operation =>
      exact Or.inl ((operation.keepsSeen books self).reached threw)
  | dataConsumer self operation =>
      exact Or.inl ((operation.keepsSeen books self).reached threw)

end Operations

/-- The sample process whose ledger notes the native object of its transport. -/
def sampleLedgerProcess : Process (SampleWorld × Ledger) :=
  let process := sampleProcess true false
  { native := (process.native, Ledger.empty.noteMade 0)
    listenerAdapters := process.listenerAdapters
    transportIvars := process.transportIvars
    producerTrack := process.producerTrack
    nextAddress := process.nextAddress
    nextFactory := process.nextFactory
    workerTasks := process.workerTasks }

/-- A producer whose codec is no JSON: the adapter the call allocated is deleted,
and the ledger has only the transport that was made before. -/
theorem throwing_call_leaves_nothing_sample :
    ∃ last error,
      (Operation.sendTransport ⟨0⟩ (.createProducer ⟨7, "audio"⟩ none none (some "opus") none)).call
          sampleLibrary.withLedger sampleLedgerProcess = (.ok (.error error), last) ∧
        (last.seen sampleLibrary.ledger.book = sampleLedgerProcess.seen sampleLibrary.ledger.book ∨
          last.seen sampleLibrary.ledger.book =
            (sampleLedgerProcess.seen sampleLibrary.ledger.book).withAdapter 1) ∧
        last.listenerAdapters = [0, 1] ∧
        last.native.2.made = {0} ∧
        last.native.2.deleted = 0 := by
  refine ⟨_, _, rfl, ?_, rfl, rfl, rfl⟩
  exact throwing_call_leaves_nothing sampleLibrary.ledger
    (.sendTransport ⟨0⟩ (.createProducer ⟨7, "audio"⟩ none none (some "opus") none)) rfl

end MediasoupClientSwift
