import MediasoupClientSwift.Api.Operation

/-!
Owns the question whether a public call settles: whether it returns or throws a
Swift error, instead of ending in a C++ exception, an Objective-C exception or
undefined behaviour. The main result gives the exact condition for every
operation and every native library.
-/

namespace MediasoupClientSwift

open Library

variable {World α : Type} {library : NativeLibrary World} {process : Process World}

/-! ### Settling through the Swift layer -/

theorem completes_returning_iff (method : ObjCpp (Process World) α) :
    Program.Completes (returning method) process ↔ Program.Completes method process :=
  Program.completes_bind_iff (fun _ _ => Program.completes_of_ok rfl) process

theorem completes_mapResult_iff {β : Type} (change : α → β) (call : SwiftCall (Process World) α) :
    Program.Completes (mapResult change call) process ↔ Program.Completes call process :=
  Program.completes_bind_iff (fun _ _ => Program.completes_of_ok rfl) process

/-- A method with a nullable result, converted and stripped of its value. -/
theorem completes_nilResultMethod_iff (method : ObjCpp (Process World) (Option α × Option NSError)) :
    Program.Completes (withoutValue (convertMediasoupErrors (nilResultCall method))) process ↔
      Program.Completes method process := by
  rw [withoutValue, completes_mapResult_iff, completes_convertMediasoupErrors_iff,
    completes_nilResultCall_iff]

theorem completes_nonnullErrorMethod_iff (method : ObjCpp (Process World) (α × Option NSError)) :
    Program.Completes (convertMediasoupErrors (nonnullErrorCall method)) process ↔
      Program.Completes method process := by
  rw [completes_convertMediasoupErrors_iff, completes_nonnullErrorCall_iff]

/-! ### Properties -/

private theorem completes_textProperty (read : World → Bytes) :
    Program.Completes (textProperty read) process :=
  Program.completes_of_ok rfl

private theorem endsAs_jsonProperty (read : World → Json) :
    EndsAs (jsonProperty library read) process (dumpedWork library (read process.native)) :=
  EndsAs.of_bind_ok rfl (EndsAs.throwing.bind_total fun _ _ => Program.completes_of_ok rfl)

private theorem endsAs_statsProperty (object : Handle) :
    EndsAs (statsProperty library object) process (statsWork library process object) :=
  EndsAs.bind_callNative fun _ _ =>
    EndsAs.throwing.bind_total fun _ _ => Program.completes_of_ok rfl

/-! ### Transports that are not disposed -/

private theorem transport_of_receiver {self : TransportFacade} {transport : Handle}
    (pointer : receiverTransport process self = some transport) :
    TransportWrapper.transport self.transport process = (.ok transport, process) := by
  unfold receiverTransport at pointer
  unfold TransportWrapper.transport
  rw [Program.bind_of_ok (Program.get_apply process), pointer]
  rfl

private theorem receiver_of_undisposed {self : TransportFacade}
    (undisposed : Operation.UndisposedWrapper process self) :
    ∃ transport, receiverTransport process self = some transport := by
  obtain ⟨transport, listenerAdapter, pcFactory, ivars⟩ := undisposed
  exact ⟨transport, by rw [receiverTransport, ivars]⟩

/-- The transport is there, or a conversion before its use raises. -/
def ReachesTransport {Arguments : Type} (process : Process World) (self : TransportFacade)
    (arguments : Except CppException Arguments) : Prop :=
  ∀ converted, arguments = .ok converted →
    ∃ transport, receiverTransport process self = some transport

private theorem reachesTransport_of_undisposed {Arguments : Type} {self : TransportFacade}
    (undisposed : Operation.UndisposedWrapper process self)
    (arguments : Except CppException Arguments) : ReachesTransport process self arguments :=
  fun _ _ => receiver_of_undisposed undisposed

/-- What a call under a handler raises comes from a conversion or from the transport. -/
theorem reachesTransport_of_raised {Arguments : Type} {self : TransportFacade}
    {arguments : Except CppException Arguments}
    {work : Arguments → Handle → Except CppException Unit} {raised : CppException}
    (caught : (arguments >>= fun converted =>
      match receiverTransport process self with
      | some transport => work converted transport
      | none => .ok ()) = .error raised) : ReachesTransport process self arguments := by
  rintro converted rfl
  cases pointer : receiverTransport process self with
  | some transport => exact ⟨transport, rfl⟩
  | none =>
      rw [pointer] at caught
      cases caught

theorem completes_dispose {self : TransportFacade}
    (undisposed : Operation.UndisposedWrapper process self) :
    Program.Completes (self.dispose library) process := by
  obtain ⟨transport, listenerAdapter, pcFactory, ivars⟩ := undisposed
  unfold TransportFacade.dispose TransportWrapper.dispose Program.Completes
  rw [Program.bind_of_ok (Program.get_apply process), ivars]
  exact ⟨_, _, rfl⟩

theorem completes_closed (self : TransportFacade) :
    Program.Completes (self.closed library) process := by
  unfold TransportFacade.closed TransportWrapper.closed Program.Completes
  rw [Program.bind_of_ok (Program.get_apply process)]
  cases (process.transportIvars self.transport).transport <;> exact ⟨_, _, rfl⟩

/-! ### Methods under a handler -/

section Handlers

variable (library process)

theorem handled_load (self : Device) (routerRTPCapabilities : String) :
    Handled (DeviceWrapper.load library self routerRTPCapabilities) process
      (DeviceOperation.handledWork library process self (.load routerRTPCapabilities))
      errorCode () :=
  handled_mediasoupTry (EndsAs.bind_throwing fun _ _ => EndsAs.callNative)

theorem handled_canProduce (self : Device) (mediaKind : MediaKind) :
    Handled (DeviceWrapper.canProduce library self mediaKind.mediaClientValue) process
      (DeviceOperation.handledWork library process self (.canProduce mediaKind))
      errorCode false :=
  handled_mediasoupTryWithBool EndsAs.callNative

theorem handled_capabilities (getCapabilities : Handle → NativeCall World Json) (self : Device) :
    Handled (DeviceWrapper.capabilitiesWithError library getCapabilities self) process
      (capabilitiesWork library process getCapabilities self) errorCode none :=
  handled_mediasoupTryWithResult
    (EndsAs.bind_callNative fun _ _ =>
      EndsAs.throwing.bind_total fun _ _ => Program.completes_of_ok rfl)
    (by simp)

theorem handled_withParsedText {self : TransportFacade}
    (call : Handle → Json → NativeCall World Unit) (text : String)
    (reaches : ReachesTransport process self (library.parse (stdString text))) :
    Handled (TransportWrapper.withParsedText library call self.transport text) process
      (parsedTextWork library process call self text) errorCode () := by
  refine handled_mediasoupTry (EndsAs.bind_throwing fun json parsed => ?_)
  obtain ⟨transport, pointer⟩ := reaches json parsed
  simp only [pointer]
  exact EndsAs.of_bind_ok (transport_of_receiver pointer) EndsAs.callNative

theorem handled_setMaxSpatialLayer (self : ProducerWrapper) (layer : UInt8) :
    Handled (self.setMaxSpatialLayer library layer) process
      (calledWork process (library.setMaxSpatialLayer self.producer layer)) errorCode () :=
  handled_mediasoupTry EndsAs.callNative

theorem handled_replaceTrack (self : ProducerWrapper) (track : MediaStreamTrack) :
    Handled (self.replaceTrack library track) process
      (calledWork process (library.replaceTrack self.producer track.hash)) errorCode () :=
  handled_mediasoupTry (EndsAs.callNative.bind_total fun _ _ => Program.completes_of_ok rfl)

end Handlers

section Factories

variable {Arguments Wrapper : Type}
  {create : Handle → AdapterPointer → Arguments → NativeCall World Handle}
  {wrap : Handle → AdapterPointer → ObjCpp (Process World) Wrapper}
  {arguments : Except CppException Arguments} {self : TransportFacade}

private theorem endsAs_createChildBlock
    (wraps : ∀ object listenerAdapter reached,
      Program.Completes (wrap object listenerAdapter) reached)
    (reaches : ReachesTransport process self arguments) :
    EndsAs (createChildBlock create wrap arguments self.transport process.listenerAdapters.fresh)
      (process.withAdapter 0) (createChildWork process create arguments self) := by
  refine EndsAs.bind_throwing fun converted isConverted => ?_
  obtain ⟨transport, pointer⟩ := reaches converted isConverted
  have samePointer : receiverTransport (process.withAdapter 0) self = some transport := pointer
  simp only [pointer]
  refine EndsAs.of_bind_ok (transport_of_receiver samePointer) ?_
  refine EndsAs.callNative.bind_total fun object reached => ?_
  exact (Program.completes_bind_iff (fun _ _ => Program.completes_of_ok rfl) reached).mpr
    (wraps object _ reached)

/-- The factories of a transport. -/
theorem handled_createChild
    (wraps : ∀ object listenerAdapter reached,
      Program.Completes (wrap object listenerAdapter) reached)
    (reaches : ReachesTransport process self arguments) :
    Handled (createChild create wrap arguments self.transport) process
      (createChildWork process create arguments self) errorCode none := by
  let listenerAdapter := process.listenerAdapters.fresh
  have block : Handled
      (mediasoupTryWithResult
        (createChildBlock create wrap arguments self.transport listenerAdapter)
        (some (deleteListenerAdapter listenerAdapter)))
      (process.withAdapter 0) (createChildWork process create arguments self) errorCode none := by
    apply handled_mediasoupTryWithResult (endsAs_createChildBlock wraps reaches)
    intro _ same reached
    cases same
    exact Program.completes_of_ok rfl
  exact ⟨block.completes_iff, block.reports⟩

end Factories

section Children

variable {self : TransportFacade}

theorem handled_createProducerForTrack {track : MediaStreamTrack} {texts : ProducerTexts}
    (reaches : ReachesTransport process self (texts.arguments library.parse track)) :
    Handled (SendTransportWrapper.createProducerForTrack library self.transport track texts)
      process
      (createChildWork process library.produce (texts.arguments library.parse track) self)
      errorCode none :=
  handled_createChild (fun _ _ _ => Program.completes_of_ok rfl) reaches

theorem handled_createDataProducerWithLabel {texts : DataProducerTexts}
    (reaches : ReachesTransport process self (texts.arguments library.parse)) :
    Handled (SendTransportWrapper.createDataProducerWithLabel library self.transport texts)
      process (createChildWork process library.produceData (texts.arguments library.parse) self)
      errorCode none :=
  handled_createChild (fun _ _ _ => Program.completes_of_ok rfl) reaches

theorem handled_createConsumerWithId {texts : ConsumerTexts}
    (reaches : ReachesTransport process self (texts.arguments library.parse)) :
    Handled (ReceiveTransportWrapper.createConsumerWithId library self.transport texts) process
      (createChildWork process library.consume (texts.arguments library.parse) self)
      errorCode none :=
  handled_createChild (fun _ _ _ => Program.completes_of_ok rfl) reaches

theorem handled_createDataConsumerWithId {texts : DataConsumerTexts}
    (reaches : ReachesTransport process self (texts.arguments library.parse)) :
    Handled (ReceiveTransportWrapper.createDataConsumerWithId library self.transport texts)
      process (createChildWork process library.consumeData (texts.arguments library.parse) self)
      errorCode none :=
  handled_createChild (fun _ _ _ => Program.completes_of_ok rfl) reaches

end Children

/-- The transport factories from the converted options on: one code for every
class. -/
theorem handled_createTransportWithPcOptions (library : NativeLibrary World)
    (process : Process World) (create : CreateTransport World) (self : Device)
    (texts : TransportTexts) (pcOptions : PcOptions) :
    Handled (DeviceWrapper.createTransportWithPcOptions library create self texts pcOptions)
      process
      (texts.arguments library.parse pcOptions >>= fun arguments =>
        calledWork process (create self.device process.listenerAdapters.fresh arguments))
      (fun _ => .invalidParameters) none := by
  let listenerAdapter := process.listenerAdapters.fresh
  have ends : EndsAs
      (DeviceWrapper.createTransportBlock library create self texts pcOptions listenerAdapter)
      (process.withAdapter 0)
      (texts.arguments library.parse pcOptions >>= fun arguments =>
        calledWork process (create self.device listenerAdapter arguments)) :=
    EndsAs.bind_throwing fun _ _ =>
      EndsAs.callNative.bind_total fun _ _ => Program.completes_of_ok rfl
  have block : Handled
      (guarded createTransportClauses false
        (DeviceWrapper.createTransportBlock library create self texts pcOptions listenerAdapter)
        (deleteListenerAdapter listenerAdapter) (pure none))
      (process.withAdapter 0) _ (fun _ => .invalidParameters) none :=
    handled_guarded ends clauseCode_createTransportClauses (fun _ => Program.completes_of_ok rfl)
      (fun reached => ⟨reached, rfl⟩)
  exact ⟨block.completes_iff, block.reports⟩

/-- With ICE servers that convert, the handler stands around the rest. -/
theorem handled_createTransport (library : NativeLibrary World) (process : Process World)
    (create : CreateTransport World) (self : Device)
    (texts : TransportTexts) {iceServers : Option String} {policy : IceTransportPolicy}
    (accepted : ∀ text ∈ iceServers, IceServersAccepted library.parse text) :
    Handled (DeviceWrapper.createTransport library create self texts iceServers policy) process
      (createTransportWork library process create self texts iceServers policy)
      (fun _ => .invalidParameters) none := by
  obtain ⟨pcOptions, converted⟩ :=
    (returns_pcOptionsWithICEServers_iff library.parse library.nativeTransportsType self.pcOptions
      iceServers policy).mpr accepted
  have continues : DeviceWrapper.createTransport library create self texts iceServers policy
      process = DeviceWrapper.createTransportWithPcOptions library create self texts pcOptions
        process :=
    Program.bind_of_ok (by rw [converted]; rfl)
  have rest := handled_createTransportWithPcOptions library process create self texts pcOptions
  have sameWork : createTransportWork library process create self texts iceServers policy =
      (texts.arguments library.parse pcOptions >>= fun arguments =>
        calledWork process (create self.device process.listenerAdapters.fresh arguments)) := by
    unfold createTransportWork
    rw [converted]
    rfl
  rw [sameWork]
  refine ⟨?_, fun raised message same decoded => continues ▸ rest.reports raised message same decoded⟩
  rw [← rest.completes_iff, Program.Completes, Program.Completes, continues]

/-- The ICE servers are converted outside the handler. -/
theorem completes_createTransport_iff {create : CreateTransport World} {self : Device}
    {texts : TransportTexts} {iceServers : Option String} {policy : IceTransportPolicy} :
    Program.Completes
        (DeviceWrapper.createTransport library create self texts iceServers policy) process ↔
      (∀ text ∈ iceServers, IceServersAccepted library.parse text) ∧
        ReadableErrors (createTransportWork library process create self texts iceServers policy) := by
  by_cases accepted : ∀ text ∈ iceServers, IceServersAccepted library.parse text
  · rw [(handled_createTransport library process create self texts accepted).completes_iff]
    exact (and_iff_right accepted).symm
  · refine iff_of_false ?_ (fun both => accepted both.1)
    rw [← returns_pcOptionsWithICEServers_iff library.parse library.nativeTransportsType
      self.pcOptions iceServers policy]
      at accepted
    cases converted : pcOptionsWithICEServers library.parse library.nativeTransportsType
      self.pcOptions iceServers policy with
    | ok pcOptions => exact absurd ⟨pcOptions, converted⟩ accepted
    | error raised =>
        have aborted : DeviceWrapper.createTransport library create self texts iceServers policy
            process = (.error (.exception raised), process) :=
          Program.bind_of_error (by rw [converted]; rfl)
        exact Program.not_completes_of_error aborted

/-! ### The sender-parameter update -/

private theorem completes_updateSenderParameters_iff (self : Producer)
    (updater : ProducerWrapper.Updater World RTPParameters) :
    Program.Completes (self.updateSenderParameters library updater) process ↔
      ProducerOperation.WritesBack library process self (.updateSenderParameters updater) := by
  have runs : self.updateSenderParameters library updater process =
      ProducerWrapper.finishUpdate library
        ⟨self.sender library process, self.oldParameters library process⟩
        (self.returnedParameters library updater process).wrappedValue _ := rfl
  rw [ProducerOperation.WritesBack, ← isSome_updatedNativeParameters_iff, Program.Completes, runs,
    ProducerWrapper.finishUpdate]
  cases updatedNativeParameters (self.oldParameters library process)
      (self.returnedParameters library updater process).wrappedValue with
  | none => simp
  | some written => exact iff_of_true ⟨_, _, rfl⟩ rfl

/-! ### The operations of each receiver -/

/-- A call that reaches nothing that can raise. -/
theorem completes_returning_of_total {method : ObjCpp (Process World) α}
    (total : Program.Completes method process) :
    Program.Completes (returning method) process :=
  (completes_returning_iff method).mpr total

theorem returns_ok_unit : Returns (.ok () : Except CppException Unit) := returns_ok ()

theorem DeviceOperation.completes_iff (self : Device) (operation : DeviceOperation) :
    Program.Completes (operation.call library self) process ↔
      (∀ text ∈ operation.iceServers, IceServersAccepted library.parse text) ∧
        ReadableErrors (operation.handledWork library process self) := by
  have noText : ∀ text ∈ (none : Option String), IceServersAccepted library.parse text := by simp
  cases operation with
  | load routerRTPCapabilities =>
      apply (completes_nonnullErrorMethod_iff _).trans
      exact (handled_load library process self routerRTPCapabilities).completes_iff.trans
        (and_iff_right noText).symm
  | rtpCapabilities =>
      apply (completes_nilResultMethod_iff _).trans
      exact (handled_capabilities library process _ self).completes_iff.trans
        (and_iff_right noText).symm
  | sctpCapabilities =>
      apply (completes_nilResultMethod_iff _).trans
      exact (handled_capabilities library process _ self).completes_iff.trans
        (and_iff_right noText).symm
  | canProduce mediaKind =>
      refine (completes_mapResult_iff _ _).trans ((completes_nonnullErrorMethod_iff _).trans ?_)
      exact (handled_canProduce library process self mediaKind).completes_iff.trans
        (and_iff_right noText).symm
  | createSendTransport texts iceServers policy =>
      exact (completes_nilResultMethod_iff _).trans completes_createTransport_iff
  | createReceiveTransport texts iceServers policy =>
      exact (completes_nilResultMethod_iff _).trans completes_createTransport_iff
  | retainAudioSession =>
      exact iff_of_true (Program.completes_of_ok rfl) ⟨noText, readableErrors_ok⟩
  | releaseAudioSession =>
      exact iff_of_true (Program.completes_of_ok rfl) ⟨noText, readableErrors_ok⟩
  | isLoaded => exact iff_of_true (Program.completes_of_ok rfl) ⟨noText, readableErrors_ok⟩

theorem TransportOperation.completes_iff {self : TransportFacade}
    (undisposed : Operation.UndisposedWrapper process self) (operation : TransportOperation) :
    Program.Completes (operation.call library self) process ↔
      Returns (operation.unhandledWork library process self) ∧
        ReadableErrors (operation.handledWork library process self) := by
  obtain ⟨transport, pointer⟩ := receiver_of_undisposed undisposed
  have found := transport_of_receiver pointer
  have total : ∀ {β : Type} {method : ObjCpp (Process World) β},
      Program.Completes method process →
      (Program.Completes (returning method) process ↔
        Returns (.ok () : Except CppException Unit) ∧ ReadableErrors (.ok ())) :=
    fun completes =>
      iff_of_true (completes_returning_of_total completes) ⟨returns_ok_unit, readableErrors_ok⟩
  cases operation with
  | id => exact total (Program.completes_bind_of_ok found (completes_textProperty _))
  | closed => exact total (completes_closed self)
  | connectionState =>
      refine total ((Program.completes_bind_iff (fun _ _ => Program.completes_of_ok rfl) _).mpr ?_)
      exact Program.completes_bind_of_ok found (completes_textProperty _)
  | appData =>
      simp only [TransportOperation.unhandledWork, pointer]
      refine ((completes_returning_iff _).trans (completes_iff_of_endsAs
        (EndsAs.of_bind_ok found (endsAs_jsonProperty _)))).trans ?_
      exact (and_iff_left readableErrors_ok).symm
  | stats =>
      simp only [TransportOperation.unhandledWork, pointer]
      refine ((completes_returning_iff _).trans (completes_iff_of_endsAs
        (EndsAs.of_bind_ok found (endsAs_statsProperty transport)))).trans ?_
      exact (and_iff_left readableErrors_ok).symm
  | close =>
      exact total (Program.completes_bind_of_ok found (Program.completes_of_ok rfl))
  | dispose => exact total (completes_dispose undisposed)
  | restartICE iceParameters =>
      refine ((completes_nonnullErrorMethod_iff _).trans
        (handled_withParsedText library process _ iceParameters
          (reachesTransport_of_undisposed undisposed _)).completes_iff).trans ?_
      exact (and_iff_right returns_ok_unit).symm
  | updateICEServers iceServers =>
      refine ((completes_nonnullErrorMethod_iff _).trans
        (handled_withParsedText library process _ iceServers
          (reachesTransport_of_undisposed undisposed _)).completes_iff).trans ?_
      exact (and_iff_right returns_ok_unit).symm

private theorem completes_createProducerWith_iff {self : TransportFacade}
    (undisposed : Operation.UndisposedWrapper process self) (track : MediaStreamTrack)
    (texts : ProducerTexts) :
    Program.Completes (withoutValue (SendTransport.createProducerWith track
        (SendTransportWrapper.createProducerForTrack library self.transport track texts)))
        process ↔
      ReadableErrors (createProducerWork library process self track texts) := by
  unfold SendTransport.createProducerWith createProducerWork
  cases MediaKind.initStringValue track.kind with
  | none => exact iff_of_true (Program.completes_of_ok rfl) readableErrors_ok
  | some mediaKind =>
      simp only
      rw [withoutValue, completes_mapResult_iff, completes_convertMediasoupErrors_iff,
        completes_mapResult_iff, completes_nilResultCall_iff]
      exact (handled_createProducerForTrack
        (reachesTransport_of_undisposed undisposed _)).completes_iff

theorem SendTransportOperation.completes_iff {self : TransportFacade}
    (undisposed : Operation.UndisposedWrapper process self)
    (operation : SendTransportOperation) :
    Program.Completes (operation.call library self) process ↔
      Returns ((Operation.sendTransport self operation : Operation World).unhandledWork
          library process) ∧
        ReadableErrors (operation.handledWork library process self) := by
  cases operation with
  | transport operation => exact TransportOperation.completes_iff undisposed operation
  | createProducer track encodings codecOptions codec appData =>
      exact (completes_createProducerWith_iff undisposed track _).trans
        (and_iff_right returns_ok_unit).symm
  | createScalableProducer track encoding scalabilityMode codecOptions codec appData =>
      exact (completes_createProducerWith_iff undisposed track _).trans
        (and_iff_right returns_ok_unit).symm
  | produceData texts =>
      refine ((completes_nilResultMethod_iff _).trans
        (handled_createDataProducerWithLabel
          (reachesTransport_of_undisposed undisposed _)).completes_iff).trans ?_
      exact (and_iff_right returns_ok_unit).symm

theorem ReceiveTransportOperation.completes_iff {self : TransportFacade}
    (undisposed : Operation.UndisposedWrapper process self)
    (operation : ReceiveTransportOperation) :
    Program.Completes (operation.call library self) process ↔
      Returns ((Operation.receiveTransport self operation : Operation World).unhandledWork
          library process) ∧
        ReadableErrors (operation.handledWork library process self) := by
  cases operation with
  | transport operation => exact TransportOperation.completes_iff undisposed operation
  | consume texts =>
      refine Iff.trans ?_ (and_iff_right returns_ok_unit).symm
      apply (completes_mapResult_iff _ _).trans
      rw [ReceiveTransport.consume, completes_convertMediasoupErrors_iff, completes_mapResult_iff,
        completes_nilResultCall_iff]
      exact (handled_createConsumerWithId
        (reachesTransport_of_undisposed undisposed _)).completes_iff
  | consumeData texts =>
      refine ((completes_nilResultMethod_iff _).trans
        (handled_createDataConsumerWithId
          (reachesTransport_of_undisposed undisposed _)).completes_iff).trans ?_
      exact (and_iff_right returns_ok_unit).symm

theorem ProducerOperation.completes_iff (self : Producer) (operation : ProducerOperation World) :
    Program.Completes (operation.call library self) process ↔
      Returns (operation.unhandledWork library process self) ∧
        ReadableErrors (operation.handledWork library process self) ∧
          operation.WritesBack library process self := by
  have total : ∀ {method : ObjCpp (Process World) (Except SwiftError Unit)},
      Program.Completes method process →
      (Program.Completes method process ↔
        Returns (.ok () : Except CppException Unit) ∧ ReadableErrors (.ok ()) ∧ True) :=
    fun completes => iff_of_true completes ⟨returns_ok_unit, readableErrors_ok, trivial⟩
  cases operation with
  | appData =>
      refine ((completes_returning_iff _).trans
        (completes_iff_of_endsAs (endsAs_jsonProperty _))).trans ?_
      exact (and_iff_left ⟨readableErrors_ok, trivial⟩).symm
  | rtpParameters =>
      refine ((completes_returning_iff _).trans
        (completes_iff_of_endsAs (endsAs_jsonProperty _))).trans ?_
      exact (and_iff_left ⟨readableErrors_ok, trivial⟩).symm
  | stats =>
      refine ((completes_returning_iff _).trans
        (completes_iff_of_endsAs (endsAs_statsProperty _))).trans ?_
      exact (and_iff_left ⟨readableErrors_ok, trivial⟩).symm
  | setMaxSpatialLayer layer =>
      simp only [ProducerOperation.call, ProducerOperation.handledWork,
        Producer.setMaxSpatialLayer]
      cases Producer.typedLayer layer with
      | none => exact total (Program.completes_of_ok rfl)
      | some typedLayer =>
          refine ((completes_nonnullErrorCall_iff _ _).trans
            (handled_setMaxSpatialLayer library process self.producer
              typedLayer).completes_iff).trans ?_
          exact ⟨fun readable => ⟨returns_ok_unit, readable, trivial⟩, fun all => all.2.1⟩
  | replaceTrack newTrack =>
      refine ((completes_nonnullErrorCall_iff _ _).trans
        (handled_replaceTrack library process self.producer newTrack).completes_iff).trans ?_
      exact ⟨fun readable => ⟨returns_ok_unit, readable, trivial⟩, fun all => all.2.1⟩
  | updateSenderParameters updater =>
      refine ((completes_returning_iff _).trans
        (completes_updateSenderParameters_iff self updater)).trans ?_
      exact ⟨fun writes => ⟨returns_ok_unit, readableErrors_ok, writes⟩, fun all => all.2.2⟩
  | track => exact total (Program.completes_of_ok rfl)
  | id => exact total (Program.completes_of_ok rfl)
  | localId => exact total (Program.completes_of_ok rfl)
  | closed => exact total (Program.completes_of_ok rfl)
  | paused => exact total (Program.completes_of_ok rfl)
  | kind => exact total (Program.completes_of_ok rfl)
  | maxSpatialLayer => exact total (Program.completes_of_ok rfl)
  | pause => exact total (Program.completes_of_ok rfl)
  | resume => exact total (Program.completes_of_ok rfl)
  | close => exact total (Program.completes_of_ok rfl)
  | getStats => exact total (Program.completes_of_ok rfl)

theorem ConsumerOperation.completes_iff (self : Consumer) (operation : ConsumerOperation) :
    Program.Completes (operation.call library self) process ↔
      Returns (operation.unhandledWork library process self) := by
  cases operation with
  | appData =>
      exact (completes_returning_iff _).trans (completes_iff_of_endsAs (endsAs_jsonProperty _))
  | rtpParameters =>
      exact (completes_returning_iff _).trans (completes_iff_of_endsAs (endsAs_jsonProperty _))
  | stats =>
      exact (completes_returning_iff _).trans (completes_iff_of_endsAs (endsAs_statsProperty _))
  | _ => exact iff_of_true (Program.completes_of_ok rfl) returns_ok_unit

private theorem completes_readyState (self : DataProducer) :
    Program.Completes (self.readyState library) process := by
  unfold DataProducer.readyState Program.Completes
  rw [Program.bind_of_ok (rfl : readNative _ process = (.ok _, process))]
  cases library.getReadyState self.producer process.native <;> exact ⟨_, _, rfl⟩

theorem DataProducerOperation.completes_iff (self : DataProducer)
    (operation : DataProducerOperation) :
    Program.Completes (operation.call library self) process ↔
      Returns (operation.unhandledWork library process self) := by
  cases operation with
  | appData =>
      exact (completes_returning_iff _).trans (completes_iff_of_endsAs (endsAs_jsonProperty _))
  | sctpStreamParameters =>
      exact (completes_returning_iff _).trans (completes_iff_of_endsAs (endsAs_jsonProperty _))
  | readyState =>
      exact iff_of_true (completes_returning_of_total (completes_readyState self)) returns_ok_unit
  | _ => exact iff_of_true (Program.completes_of_ok rfl) returns_ok_unit

theorem DataConsumerOperation.completes_iff (self : DataConsumer)
    (operation : DataConsumerOperation) :
    Program.Completes (operation.call library self) process ↔
      Returns (operation.unhandledWork library process self) := by
  cases operation with
  | appData =>
      exact (completes_returning_iff _).trans (completes_iff_of_endsAs (endsAs_jsonProperty _))
  | sctpStreamParameters =>
      exact (completes_returning_iff _).trans (completes_iff_of_endsAs (endsAs_jsonProperty _))
  | _ => exact iff_of_true (Program.completes_of_ok rfl) returns_ok_unit

/-! ### Every operation -/

/-- What a call needs from its arguments and from the native state to settle. -/
structure Operation.Settleable (library : NativeLibrary World) (process : Process World)
    (operation : Operation World) : Prop where
  /-- The native calls that no handler stands around do not raise. -/
  unhandled : Returns (operation.unhandledWork library process)
  /-- The text converted before the `try` block is well typed. -/
  iceServers : ∀ text ∈ operation.iceServers, IceServersAccepted library.parse text
  /-- What a handler catches has a message that is UTF-8. -/
  messages : ReadableErrors (operation.handledWork library process)
  /-- An updater's result fits the native encodings. -/
  writesBack : operation.WritesBack library process

theorem completes_initCaptureAudioSession (captureAudioSession : Bool) :
    Program.Completes (DeviceWrapper.initCaptureAudioSession library captureAudioSession)
      process := by
  cases captureAudioSession <;> exact Program.completes_of_ok rfl

/-- A public call on an object that is open or closed settles exactly when it is
settleable. -/
theorem Operation.settles_iff_settleable (library : NativeLibrary World)
    (process : Process World) (operation : Operation World)
    (undisposed : operation.Undisposed process) :
    operation.Settles library process ↔ operation.Settleable library process := by
  have noText : ∀ text ∈ (none : Option String), IceServersAccepted library.parse text := by simp
  cases operation with
  | initCaptureAudioSession captureAudioSession =>
      refine iff_of_true (completes_returning_of_total
        (completes_initCaptureAudioSession captureAudioSession)) ?_
      exact ⟨returns_ok_unit, noText, readableErrors_ok, trivial⟩
  | initPCFactory pcFactory =>
      apply iff_of_true (Program.completes_of_ok rfl)
      exact ⟨returns_ok_unit, noText, readableErrors_ok, trivial⟩
  | device self operation =>
      apply (DeviceOperation.completes_iff self operation).trans
      exact ⟨fun ⟨accepted, readable⟩ => ⟨returns_ok_unit, accepted, readable, trivial⟩,
        fun settleable => ⟨settleable.iceServers, settleable.messages⟩⟩
  | sendTransport self operation =>
      apply (SendTransportOperation.completes_iff undisposed operation).trans
      exact ⟨fun ⟨returned, readable⟩ => ⟨returned, noText, readable, trivial⟩,
        fun settleable => ⟨settleable.unhandled, settleable.messages⟩⟩
  | receiveTransport self operation =>
      apply (ReceiveTransportOperation.completes_iff undisposed operation).trans
      exact ⟨fun ⟨returned, readable⟩ => ⟨returned, noText, readable, trivial⟩,
        fun settleable => ⟨settleable.unhandled, settleable.messages⟩⟩
  | producer self operation =>
      apply (ProducerOperation.completes_iff self operation).trans
      exact ⟨fun ⟨returned, readable, writes⟩ => ⟨returned, noText, readable, writes⟩,
        fun settleable => ⟨settleable.unhandled, settleable.messages, settleable.writesBack⟩⟩
  | consumer self operation =>
      apply (ConsumerOperation.completes_iff self operation).trans
      exact ⟨fun returned => ⟨returned, noText, readableErrors_ok, trivial⟩,
        fun settleable => settleable.unhandled⟩
  | dataProducer self operation =>
      apply (DataProducerOperation.completes_iff self operation).trans
      exact ⟨fun returned => ⟨returned, noText, readableErrors_ok, trivial⟩,
        fun settleable => settleable.unhandled⟩
  | dataConsumer self operation =>
      apply (DataConsumerOperation.completes_iff self operation).trans
      exact ⟨fun returned => ⟨returned, noText, readableErrors_ok, trivial⟩,
        fun settleable => settleable.unhandled⟩

/-- A transport whose statistics are read while it is open, and once it is closed. -/
theorem Operation.settles_iff_settleable_sample :
    let stats : Operation SampleWorld := .sendTransport ⟨0⟩ (.transport .stats)
    (stats.Settles sampleLibrary (sampleProcess true false) ↔
        stats.Settleable sampleLibrary (sampleProcess true false)) ∧
      stats.call sampleLibrary (sampleProcess true false) =
        (.ok (.ok ()), sampleProcess true false) ∧
      (stats.Settles sampleLibrary (sampleProcess true true) ↔
        stats.Settleable sampleLibrary (sampleProcess true true)) ∧
      (stats.call sampleLibrary (sampleProcess true true)).1 =
        .error (.exception ⟨.mediaSoupClientInvalidStateError, utf8Bytes "Producer closed"⟩) :=
  ⟨Operation.settles_iff_settleable sampleLibrary (sampleProcess true false)
      (.sendTransport ⟨0⟩ (.transport .stats)) ⟨1, 0, .made 0, rfl⟩,
    rfl,
    Operation.settles_iff_settleable sampleLibrary (sampleProcess true true)
      (.sendTransport ⟨0⟩ (.transport .stats)) ⟨1, 0, .made 0, rfl⟩,
    rfl⟩

/-- The statistics of a producer after its own `close`, and a send transport
whose ICE servers are no JSON. -/
theorem unhandled_exceptions_counterexample :
    ¬ (∀ (operation : Operation SampleWorld) (process : Process SampleWorld),
        operation.Undisposed process → operation.Settles sampleLibrary process) ∧
      ((Operation.producer ⟨⟨0, 3, 0⟩, .audio⟩ .close).call sampleLibrary
        (sampleProcess true false) = (.ok (.ok ()), sampleProcess true true)) ∧
      ((Operation.producer ⟨⟨0, 3, 0⟩, .audio⟩ .stats).call sampleLibrary
        (sampleProcess true true)).1 =
          .error (.exception ⟨.mediaSoupClientInvalidStateError, utf8Bytes "Producer closed"⟩) ∧
      ((Operation.device ⟨0, DeviceWrapper.defaultPcOptions (.made 0), .made 0, false⟩
        (.createSendTransport ⟨"id", "\x7b\x7d", "\x7b\x7d", "\x7b\x7d", none, none⟩
          (some "stun:host") .all)).call sampleLibrary (sampleProcess true false)).1 =
          .error (.exception ⟨.stdException,
            utf8Bytes "[json.exception.parse_error.101] parse error"⟩) := by
  refine ⟨?_, rfl, rfl, rfl⟩
  intro claim
  have settles := claim (.producer ⟨⟨0, 3, 0⟩, .audio⟩ .stats) (sampleProcess true true) trivial
  exact Program.not_completes_of_error rfl settles

end MediasoupClientSwift
