import MediasoupClientSwift.Api.Settlement

/-!
Owns the error a Swift caller receives for a native exception that a handler
caught. For every public operation the main result compares it with the case the
exception's class stands for.
-/

namespace MediasoupClientSwift

open Library

variable {World α β : Type} {library : NativeLibrary World} {process : Process World}

def Throws (call : SwiftCall (Process World) α) (process : Process World) (error : SwiftError) :
    Prop :=
  ∃ reached, call process = (.ok (.error error), reached)

section Layers

variable {work : Except CppException Unit} {code : ExceptionClass → MediasoupClientErrorCode}
  {raised : CppException} {message : String} {error : SwiftError}

theorem Throws.mapResult {call : SwiftCall (Process World) α} (change : α → β)
    (throws : Throws call process error) : Throws (mapResult change call) process error := by
  obtain ⟨reached, threw⟩ := throws
  exact ⟨reached, Program.bind_of_ok threw⟩

theorem Throws.convertMediasoupErrors {call : SwiftCall (Process World) α}
    (throws : Throws call process error) :
    Throws (convertMediasoupErrors call) process (.mediasoupError (convertedError error)) := by
  obtain ⟨reached, threw⟩ := throws
  exact ⟨reached, convertMediasoupErrors_of_error threw⟩

theorem Handled.throws_nonnullErrorCall {method : ObjCpp (Process World) (α × Option NSError)}
    {failed : α} (handled : Handled method process work code failed)
    (caught : work = .error raised) (decoded : stringWithUTF8String raised.what = some message) :
    Throws (nonnullErrorCall method) process
      (.nsError (describedError (code raised.exceptionClass) message)) := by
  obtain ⟨reached, reported⟩ := handled.reports raised message caught decoded
  exact ⟨reached, nonnullErrorCall_of_error reported⟩

theorem Handled.throws_nilResultCall
    {method : ObjCpp (Process World) (Option α × Option NSError)}
    (handled : Handled method process work code none)
    (caught : work = .error raised) (decoded : stringWithUTF8String raised.what = some message) :
    Throws (nilResultCall method) process
      (.nsError (describedError (code raised.exceptionClass) message)) := by
  obtain ⟨reached, reported⟩ := handled.reports raised message caught decoded
  exact ⟨reached, nilResultCall_of_error reported⟩

end Layers

/-- The caller receives the `MediasoupError` the exception's class stands for. -/
def Operation.Reports (library : NativeLibrary World) (process : Process World)
    (operation : Operation World) (raised : CppException) (message : String) : Prop :=
  ∃ error, Throws (operation.call library) process (.mediasoupError error) ∧
    error.Reports raised.exceptionClass message

private theorem reports_iff_of_throws (operation : Operation World) (raised : CppException)
    (message : String) {error : MediasoupError}
    (throws : Throws (operation.call library) process (.mediasoupError error)) :
    operation.Reports library process raised message ↔
      error.Reports raised.exceptionClass message := by
  constructor
  · rintro ⟨other, ⟨reached, threw⟩, reports⟩
    obtain ⟨last, same⟩ := throws
    rw [same] at threw
    cases threw
    exact reports
  · exact fun reports => ⟨error, throws, reports⟩

/-- An error thrown without conversion is no `MediasoupError`. -/
theorem not_reports_of_throws_nsError {operation : Operation World} {raised : CppException}
    {message : String} {error : NSError}
    (throws : Throws (operation.call library) process (.nsError error)) :
    ¬ operation.Reports library process raised message := by
  rintro ⟨other, ⟨reached, threw⟩, -⟩
  obtain ⟨last, same⟩ := throws
  rw [same] at threw
  cases threw

/-- The facade method calls `convertMediasoupErrors`. -/
def Operation.Converts : Operation World → Prop
  | .producer _ (.setMaxSpatialLayer _) => False
  | .producer _ (.replaceTrack _) => False
  | _ => True

def Operation.CreatesTransport : Operation World → Prop
  | .device _ (.createSendTransport _ _ _) => True
  | .device _ (.createReceiveTransport _ _ _) => True
  | _ => False

section Reported

variable {raised : CppException} {message : String}

/-- A converted error from one of the helpers. -/
theorem reports_of_errorCode {operation : Operation World}
    (throws : Throws (operation.call library) process (.mediasoupError (convertedError
      (.nsError (describedError (errorCode raised.exceptionClass) message))))) :
    operation.Reports library process raised message :=
  (reports_iff_of_throws operation raised message throws).mpr
    (convertedError_reports raised.exceptionClass message)

theorem DeviceOperation.reports_iff (self : Device) (operation : DeviceOperation)
    (accepted : ∀ text ∈ operation.iceServers, IceServersAccepted library.parse text)
    (caught : operation.handledWork library process self = .error raised)
    (decoded : stringWithUTF8String raised.what = some message) :
    (Operation.device self operation).Reports library process raised message ↔
      ((Operation.device self operation : Operation World).CreatesTransport →
        raised.exceptionClass = .mediaSoupClientTypeError) := by
  cases operation with
  | load routerRTPCapabilities =>
      have throws := (handled_load library process self
        routerRTPCapabilities).throws_nonnullErrorCall caught decoded
      exact iff_of_true (reports_of_errorCode throws.convertMediasoupErrors) False.elim
  | rtpCapabilities =>
      have throws := (handled_capabilities library process library.getRtpCapabilities
        self).throws_nilResultCall caught decoded
      exact iff_of_true
        (reports_of_errorCode (throws.convertMediasoupErrors.mapResult fun _ => ())) False.elim
  | sctpCapabilities =>
      have throws := (handled_capabilities library process library.getSctpCapabilities
        self).throws_nilResultCall caught decoded
      exact iff_of_true
        (reports_of_errorCode (throws.convertMediasoupErrors.mapResult fun _ => ())) False.elim
  | canProduce mediaKind =>
      have throws := (handled_canProduce library process self
        mediaKind).throws_nonnullErrorCall caught decoded
      exact iff_of_true
        (reports_of_errorCode (throws.convertMediasoupErrors.mapResult fun _ => ())) False.elim
  | createSendTransport texts iceServers policy =>
      have throws := (handled_createTransport library process library.createSendTransport self texts
        accepted).throws_nilResultCall caught decoded
      rw [reports_iff_of_throws (.device self (.createSendTransport texts iceServers policy)) raised
        message (throws.convertMediasoupErrors.mapResult fun _ => ()),
        convertedError_invalidParameters_reports_iff]
      exact ⟨fun same _ => same, fun implied => implied trivial⟩
  | createReceiveTransport texts iceServers policy =>
      have throws := (handled_createTransport library process library.createRecvTransport self texts
        accepted).throws_nilResultCall caught decoded
      rw [reports_iff_of_throws (.device self (.createReceiveTransport texts iceServers policy)) raised
        message (throws.convertMediasoupErrors.mapResult fun _ => ()),
        convertedError_invalidParameters_reports_iff]
      exact ⟨fun same _ => same, fun implied => implied trivial⟩
  | retainAudioSession => cases caught
  | releaseAudioSession => cases caught
  | isLoaded => cases caught

theorem TransportOperation.throws {self : TransportFacade} (operation : TransportOperation)
    (caught : operation.handledWork library process self = .error raised)
    (decoded : stringWithUTF8String raised.what = some message) :
    Throws (operation.call library self) process (.mediasoupError (convertedError
      (.nsError (describedError (errorCode raised.exceptionClass) message)))) := by
  cases operation with
  | restartICE iceParameters =>
      have reaches := reachesTransport_of_raised caught
      exact ((handled_withParsedText library process library.restartIce iceParameters
        reaches).throws_nonnullErrorCall caught decoded).convertMediasoupErrors
  | updateICEServers iceServers =>
      have reaches := reachesTransport_of_raised caught
      exact ((handled_withParsedText library process library.updateIceServers iceServers
        reaches).throws_nonnullErrorCall caught decoded).convertMediasoupErrors
  | _ => cases caught

private theorem throws_createProducerWith {self : TransportFacade} {track : MediaStreamTrack}
    {texts : ProducerTexts}
    (caught : createProducerWork library process self track texts = .error raised)
    (decoded : stringWithUTF8String raised.what = some message) :
    Throws (withoutValue (SendTransport.createProducerWith track
        (SendTransportWrapper.createProducerForTrack library self.transport track texts))) process
      (.mediasoupError (convertedError
        (.nsError (describedError (errorCode raised.exceptionClass) message)))) := by
  unfold createProducerWork at caught
  unfold SendTransport.createProducerWith
  cases kind : MediaKind.initStringValue track.kind with
  | none => simp [kind] at caught
  | some mediaKind =>
      simp only [kind] at caught ⊢
      have throws := (handled_createProducerForTrack
        (reachesTransport_of_raised caught)).throws_nilResultCall caught decoded
      exact (throws.mapResult _).convertMediasoupErrors.mapResult _

theorem SendTransportOperation.throws {self : TransportFacade}
    (operation : SendTransportOperation)
    (caught : operation.handledWork library process self = .error raised)
    (decoded : stringWithUTF8String raised.what = some message) :
    Throws (operation.call library self) process (.mediasoupError (convertedError
      (.nsError (describedError (errorCode raised.exceptionClass) message)))) := by
  cases operation with
  | transport operation => exact TransportOperation.throws operation caught decoded
  | createProducer track encodings codecOptions codec appData =>
      exact throws_createProducerWith caught decoded
  | createScalableProducer track encoding scalabilityMode codecOptions codec appData =>
      exact throws_createProducerWith caught decoded
  | produceData texts =>
      have throws := (handled_createDataProducerWithLabel
        (reachesTransport_of_raised caught)).throws_nilResultCall caught decoded
      exact throws.convertMediasoupErrors.mapResult _

theorem ReceiveTransportOperation.throws {self : TransportFacade}
    (operation : ReceiveTransportOperation)
    (caught : operation.handledWork library process self = .error raised)
    (decoded : stringWithUTF8String raised.what = some message) :
    Throws (operation.call library self) process (.mediasoupError (convertedError
      (.nsError (describedError (errorCode raised.exceptionClass) message)))) := by
  cases operation with
  | transport operation => exact TransportOperation.throws operation caught decoded
  | consume texts =>
      have throws := (handled_createConsumerWithId
        (reachesTransport_of_raised caught)).throws_nilResultCall caught decoded
      exact (throws.mapResult _).convertMediasoupErrors.mapResult _
  | consumeData texts =>
      have throws := (handled_createDataConsumerWithId
        (reachesTransport_of_raised caught)).throws_nilResultCall caught decoded
      exact throws.convertMediasoupErrors.mapResult _

/-- The two guarded calls of a producer throw the bridged error itself. -/
theorem ProducerOperation.throws (self : Producer) (operation : ProducerOperation World)
    (caught : operation.handledWork library process self = .error raised)
    (decoded : stringWithUTF8String raised.what = some message) :
    Throws (operation.call library self) process
        (.nsError (describedError (errorCode raised.exceptionClass) message)) ∧
      ¬ (Operation.producer self operation).Converts := by
  cases operation with
  | setMaxSpatialLayer layer =>
      refine ⟨?_, fun converts => converts⟩
      simp only [ProducerOperation.handledWork] at caught
      simp only [ProducerOperation.call, Producer.setMaxSpatialLayer]
      cases typed : Producer.typedLayer layer with
      | none => simp [typed] at caught
      | some typedLayer =>
          simp only [typed] at caught ⊢
          exact (handled_setMaxSpatialLayer library process self.producer
            typedLayer).throws_nonnullErrorCall caught decoded
  | replaceTrack newTrack =>
      refine ⟨?_, fun converts => converts⟩
      exact (handled_replaceTrack library process self.producer
        newTrack).throws_nonnullErrorCall caught decoded
  | _ => cases caught

/-- For every exception a handler catches, with a message that is UTF-8, the
caller receives the case of its class, exactly from an operation that converts
its errors and, for the two transport factories, from a type error. -/
theorem Operation.reports_class_iff (library : NativeLibrary World) (process : Process World)
    (operation : Operation World) (raised : CppException) (message : String)
    (accepted : ∀ text ∈ operation.iceServers, IceServersAccepted library.parse text)
    (caught : operation.handledWork library process = .error raised)
    (decoded : stringWithUTF8String raised.what = some message) :
    operation.Reports library process raised message ↔
      operation.Converts ∧
        (operation.CreatesTransport → raised.exceptionClass = .mediaSoupClientTypeError) := by
  cases operation with
  | device self operation =>
      rw [DeviceOperation.reports_iff self operation accepted caught decoded]
      exact (and_iff_right trivial).symm
  | sendTransport self operation =>
      have throws := SendTransportOperation.throws operation caught decoded
      exact iff_of_true (reports_of_errorCode throws) ⟨trivial, False.elim⟩
  | receiveTransport self operation =>
      have throws := ReceiveTransportOperation.throws operation caught decoded
      exact iff_of_true (reports_of_errorCode throws) ⟨trivial, False.elim⟩
  | producer self operation =>
      obtain ⟨throws, unconverted⟩ := ProducerOperation.throws self operation caught decoded
      exact iff_of_false (not_reports_of_throws_nsError throws) fun both => unconverted both.1
  | _ => cases caught

end Reported

/-- A device that is not loaded is asked what it can produce; its caller receives the
invalid state. -/
theorem Operation.reports_class_iff_sample :
    let operation : Operation SampleWorld :=
      .device ⟨0, DeviceWrapper.defaultPcOptions (.made 0), .made 0, false⟩ (.canProduce .audio)
    let raised : CppException := ⟨.mediaSoupClientInvalidStateError, utf8Bytes "not loaded"⟩
    (operation.Reports sampleLibrary (sampleProcess false false) raised "not loaded" ↔
      operation.Converts ∧
        (operation.CreatesTransport → raised.exceptionClass = .mediaSoupClientTypeError)) ∧
      (operation.call sampleLibrary (sampleProcess false false)).1 =
        .ok (.error (.mediasoupError (.invalidState "not loaded"))) :=
  ⟨Operation.reports_class_iff sampleLibrary (sampleProcess false false) _ _ _
    (fun _ none => by cases none) rfl (stringWithUTF8String_utf8Bytes (by decide)), rfl⟩

/-- On a device that is not loaded `createSendTransport` reports the invalid
state as invalid parameters, and on a closed producer `setMaxSpatialLayer`
throws an error that is no `MediasoupError`. -/
theorem error_vocabulary_counterexample :
    ((Operation.device ⟨0, DeviceWrapper.defaultPcOptions (.made 0), .made 0, false⟩
        (.createSendTransport ⟨"id", "\x7b\x7d", "\x7b\x7d", "\x7b\x7d", none, none⟩ none
          .all)).call sampleLibrary (sampleProcess false false)).1 =
        .ok (.error (.mediasoupError (.invalidParameters "not loaded"))) ∧
      ((Operation.producer ⟨⟨0, 3, 0⟩, .audio⟩ (.setMaxSpatialLayer 1)).call sampleLibrary
        (sampleProcess true true)).1 =
        .ok (.error (.nsError (describedError .invalidState "Producer closed"))) ∧
      ¬ ∀ (operation : Operation SampleWorld) (process : Process SampleWorld)
          (raised : CppException) (message : String), operation.Undisposed process →
          (∀ text ∈ operation.iceServers, IceServersAccepted sampleLibrary.parse text) →
          operation.handledWork sampleLibrary process = .error raised →
          stringWithUTF8String raised.what = some message →
          operation.Reports sampleLibrary process raised message := by
  refine ⟨rfl, rfl, ?_⟩
  intro claim
  let raised : CppException := ⟨.mediaSoupClientInvalidStateError, utf8Bytes "Producer closed"⟩
  let setLayer : ProducerOperation SampleWorld := .setMaxSpatialLayer 1
  have caught : setLayer.handledWork sampleLibrary (sampleProcess true true)
      ⟨⟨0, 3, 0⟩, .audio⟩ = .error raised := rfl
  have decoded : stringWithUTF8String raised.what = some "Producer closed" :=
    stringWithUTF8String_utf8Bytes (by decide)
  have throws : Throws ((Operation.producer ⟨⟨0, 3, 0⟩, .audio⟩ setLayer).call sampleLibrary)
      (sampleProcess true true) (.nsError (describedError .invalidState "Producer closed")) :=
    (ProducerOperation.throws ⟨⟨0, 3, 0⟩, .audio⟩ setLayer caught decoded).1
  have reports := claim (.producer ⟨⟨0, 3, 0⟩, .audio⟩ setLayer) (sampleProcess true true) raised
    "Producer closed" trivial (fun _ none => by cases none) caught decoded
  exact not_reports_of_throws_nsError throws reports

end MediasoupClientSwift
