import MediasoupClientSwift.Api.Accounting
import MediasoupClientSwift.Api.Settlement

/-!
Owns which sessions run to their end. A call on a transport that was disposed is
undefined unless it ends before it uses the native transport; the other calls end
abruptly for reasons of their own. The main result gives the condition on every
step of a session.
-/

namespace MediasoupClientSwift

open Library
open Children (TransportKind ChildKind)

variable {World : Type} {library : NativeLibrary World} {process : Process World}

/-! ### Calls on a disposed transport -/

/-- The call returns or throws before it uses the native transport. -/
def TransportOperation.EndsEarly (library : NativeLibrary World) : TransportOperation → Prop
  | .closed => True
  | .dispose => True
  | .restartICE iceParameters => ¬ Returns (library.parse (stdString iceParameters))
  | .updateICEServers iceServers => ¬ Returns (library.parse (stdString iceServers))
  | _ => False

/-- A producer's texts do not convert, or its track is of no known kind. -/
def producerEndsEarly (library : NativeLibrary World) (track : MediaStreamTrack)
    (texts : ProducerTexts) : Prop :=
  MediaKind.initStringValue track.kind = none ∨ ¬ Returns (texts.arguments library.parse track)

def SendTransportOperation.EndsEarly (library : NativeLibrary World) :
    SendTransportOperation → Prop
  | .transport operation => operation.EndsEarly library
  | .createProducer track encodings codecOptions codec appData =>
      producerEndsEarly library track
        { encodings := encodings, scalabilityMode := none, codecOptions := codecOptions,
          codec := codec, appData := appData }
  | .createScalableProducer track encoding scalabilityMode codecOptions codec appData =>
      producerEndsEarly library track
        { encodings := some [encoding], scalabilityMode := some scalabilityMode,
          codecOptions := codecOptions, codec := codec, appData := appData }
  | .produceData texts => ¬ Returns (texts.arguments library.parse)

def ReceiveTransportOperation.EndsEarly (library : NativeLibrary World) :
    ReceiveTransportOperation → Prop
  | .transport operation => operation.EndsEarly library
  | .consume texts => ¬ Returns (texts.arguments library.parse)
  | .consumeData texts => ¬ Returns (texts.arguments library.parse)

/-- No ladder has a clause for a null dereference. -/
theorem not_completes_guarded {α : Type} {clauses : List CatchClause} {catchesId : Bool}
    {block recover : ObjCpp (Process World) α} {cleanUp : ObjCpp (Process World) Unit}
    {reached : Process World} (aborted : block process = (.error .undefinedBehaviour, reached)) :
    ¬ Program.Completes (guarded clauses catchesId block cleanUp recover) process :=
  Program.not_completes_of_error (Program.tryCatch_of_error (Program.bind_of_error aborted))

section Disposed

variable {self : TransportFacade} (disposed : receiverTransport process self = none)
include disposed

private theorem transport_of_disposed :
    (TransportWrapper.transport self.transport : ObjCpp (Process World) Handle) process =
      (.error .undefinedBehaviour, process) := by
  unfold receiverTransport at disposed
  unfold TransportWrapper.transport
  rw [Program.bind_of_ok (Program.get_apply process), disposed]
  rfl

/-- A method that dereferences the transport first. -/
theorem not_completes_of_disposed {α : Type} {next : Handle → ObjCpp (Process World) α} :
    ¬ Program.Completes (TransportWrapper.transport self.transport >>= next) process :=
  Program.not_completes_of_error (Program.bind_of_error (transport_of_disposed disposed))

private theorem completes_dispose_of_disposed :
    Program.Completes (self.dispose library) process := by
  unfold receiverTransport at disposed
  unfold TransportFacade.dispose TransportWrapper.dispose Program.Completes
  rw [Program.bind_of_ok (Program.get_apply process), disposed]
  exact ⟨_, _, rfl⟩

/-- A guarded block that converts its arguments and then dereferences the
transport. -/
theorem completes_guarded_iff_of_disposed {Arguments α : Type}
    {arguments : Except CppException Arguments}
    {next : Arguments → Handle → ObjCpp (Process World) α} {recover : ObjCpp (Process World) α}
    {failed : α} (recovers : ∀ reached, ∃ last, recover reached = (.ok failed, last)) :
    Program.Completes
        (guarded mediasoupClauses true
          (do
            let converted ← throwing arguments
            let transport ← TransportWrapper.transport self.transport
            next converted transport)
          (pure ()) recover) process ↔
      ¬ Returns arguments ∧ ReadableErrors (arguments >>= fun _ => .ok ()) := by
  cases arguments with
  | ok converted =>
      apply iff_of_false
      · have crashes : (TransportWrapper.transport self.transport >>= next converted) process =
            (.error .undefinedBehaviour, process) :=
          Program.bind_of_error (transport_of_disposed disposed)
        exact not_completes_guarded crashes
      · exact fun both => both.1 (returns_ok converted)
  | error raised =>
      have ends : EndsAs
          (do
            let converted ← throwing (.error raised)
            let transport ← TransportWrapper.transport self.transport
            next converted transport) process (.error raised) := ⟨process, rfl⟩
      refine Iff.trans (handled_guarded ends clauseCode_mediasoupClauses
        (fun _ => Program.completes_of_ok rfl) recovers).completes_iff ?_
      exact (and_iff_right (not_returns_error raised)).symm

private theorem completes_withParsedText_iff_of_disposed
    (call : Handle → Json → NativeCall World Unit) (text : String) :
    Program.Completes (TransportWrapper.withParsedText library call self.transport text) process ↔
      ¬ Returns (library.parse (stdString text)) ∧
        ReadableErrors (parsedTextWork library process call self text) := by
  unfold parsedTextWork
  simp only [disposed]
  exact completes_guarded_iff_of_disposed disposed fun reached => ⟨reached, rfl⟩

private theorem completes_createChild_iff_of_disposed {Arguments Wrapper : Type}
    {create : Handle → AdapterPointer → Arguments → NativeCall World Handle}
    {wrap : Handle → AdapterPointer → ObjCpp (Process World) Wrapper}
    {arguments : Except CppException Arguments} :
    Program.Completes (createChild create wrap arguments self.transport) process ↔
      ¬ Returns arguments ∧ ReadableErrors (createChildWork process create arguments self) := by
  have stillDisposed : receiverTransport (process.withAdapter 0) self = none := disposed
  unfold createChildWork
  simp only [disposed]
  exact completes_guarded_iff_of_disposed stillDisposed fun reached => ⟨_, rfl⟩

theorem TransportOperation.completes_iff_of_disposed (operation : TransportOperation) :
    Program.Completes (operation.call library self) process ↔
      operation.EndsEarly library ∧
        ReadableErrors (operation.handledWork library process self) := by
  -- A property of the native transport is read through the null pointer.
  have crashes : ∀ {β : Type} {next : Handle → ObjCpp (Process World) β},
      Program.Completes (returning (TransportWrapper.transport self.transport >>= next)) process ↔
        False ∧ ReadableErrors (.ok ()) :=
    fun {β next} => iff_of_false
      (fun completes =>
        not_completes_of_disposed disposed ((completes_returning_iff _).mp completes))
      (fun both => both.1)
  cases operation with
  | id => exact crashes
  | appData => exact crashes
  | stats => exact crashes
  | close => exact crashes
  | connectionState =>
      have names : self.connectionState library = TransportWrapper.transport self.transport >>=
          fun transport => textProperty (library.getConnectionState transport) >>= fun text =>
            pure ((TransportConnectionState.initStringValue text).getD .failed) :=
        Program.bind_assoc ..
      simp only [TransportOperation.call, names]
      exact crashes
  | closed =>
      exact iff_of_true (completes_returning_of_total (completes_closed self))
        ⟨trivial, readableErrors_ok⟩
  | dispose =>
      exact iff_of_true (completes_returning_of_total (completes_dispose_of_disposed disposed))
        ⟨trivial, readableErrors_ok⟩
  | restartICE iceParameters =>
      exact (completes_nonnullErrorMethod_iff _).trans
        (completes_withParsedText_iff_of_disposed disposed library.restartIce iceParameters)
  | updateICEServers iceServers =>
      exact (completes_nonnullErrorMethod_iff _).trans
        (completes_withParsedText_iff_of_disposed disposed library.updateIceServers iceServers)

private theorem completes_createProducerWith_iff_of_disposed (track : MediaStreamTrack)
    (texts : ProducerTexts) :
    Program.Completes (withoutValue (SendTransport.createProducerWith track
        (SendTransportWrapper.createProducerForTrack library self.transport track texts)))
        process ↔
      producerEndsEarly library track texts ∧
        ReadableErrors (createProducerWork library process self track texts) := by
  unfold SendTransport.createProducerWith createProducerWork producerEndsEarly
  cases MediaKind.initStringValue track.kind with
  | none => exact iff_of_true (Program.completes_of_ok rfl) ⟨Or.inl rfl, readableErrors_ok⟩
  | some mediaKind =>
      simp only [reduceCtorEq, false_or]
      rw [withoutValue, completes_mapResult_iff, completes_convertMediasoupErrors_iff,
        completes_mapResult_iff, completes_nilResultCall_iff]
      exact completes_createChild_iff_of_disposed disposed

theorem SendTransportOperation.completes_iff_of_disposed (operation : SendTransportOperation) :
    Program.Completes (operation.call library self) process ↔
      operation.EndsEarly library ∧
        ReadableErrors (operation.handledWork library process self) := by
  cases operation with
  | transport operation => exact TransportOperation.completes_iff_of_disposed disposed operation
  | createProducer track encodings codecOptions codec appData =>
      exact completes_createProducerWith_iff_of_disposed disposed track _
  | createScalableProducer track encoding scalabilityMode codecOptions codec appData =>
      exact completes_createProducerWith_iff_of_disposed disposed track _
  | produceData texts =>
      exact (completes_nilResultMethod_iff _).trans
        (completes_createChild_iff_of_disposed disposed)

theorem ReceiveTransportOperation.completes_iff_of_disposed
    (operation : ReceiveTransportOperation) :
    Program.Completes (operation.call library self) process ↔
      operation.EndsEarly library ∧
        ReadableErrors (operation.handledWork library process self) := by
  cases operation with
  | transport operation => exact TransportOperation.completes_iff_of_disposed disposed operation
  | consume texts =>
      apply (completes_mapResult_iff _ _).trans
      rw [ReceiveTransport.consume, completes_convertMediasoupErrors_iff, completes_mapResult_iff,
        completes_nilResultCall_iff]
      exact completes_createChild_iff_of_disposed disposed
  | consumeData texts =>
      exact (completes_nilResultMethod_iff _).trans
        (completes_createChild_iff_of_disposed disposed)

end Disposed

/-! ### Calls on any transport -/

section Transports

variable {self : TransportFacade}

theorem TransportOperation.unhandledWork_of_disposed
    (disposed : receiverTransport process self = none) (operation : TransportOperation) :
    operation.unhandledWork library process self = .ok () := by
  unfold TransportOperation.unhandledWork
  rw [disposed]
  cases operation <;> rfl

theorem SendTransportOperation.unhandledWork_of_disposed
    (disposed : receiverTransport process self = none) (operation : SendTransportOperation) :
    (Operation.sendTransport self operation : Operation World).unhandledWork library process =
      .ok () := by
  cases operation with
  | transport operation => exact TransportOperation.unhandledWork_of_disposed disposed operation
  | _ => rfl

theorem ReceiveTransportOperation.unhandledWork_of_disposed
    (disposed : receiverTransport process self = none) (operation : ReceiveTransportOperation) :
    (Operation.receiveTransport self operation : Operation World).unhandledWork library process =
      .ok () := by
  cases operation with
  | transport operation => exact TransportOperation.unhandledWork_of_disposed disposed operation
  | _ => rfl

variable (paired : (process.transportIvars self.transport).transport = none ↔
  (process.transportIvars self.transport).listenerAdapter = none)
include paired

/-- A wrapper whose two pointers are null together is disposed or it is not. -/
theorem undisposed_of_paired {transport : Handle}
    (present : receiverTransport process self = some transport) :
    Operation.UndisposedWrapper process self := by
  unfold receiverTransport at present
  have notNull : (process.transportIvars self.transport).listenerAdapter ≠ none :=
    fun null => Option.some_ne_none transport (present.symm.trans (paired.mpr null))
  obtain ⟨listenerAdapter, pointer⟩ := Option.ne_none_iff_exists'.mp notNull
  exact ⟨transport, listenerAdapter, _, by rw [← present, ← pointer]⟩

/-- The two cases of a transport make one condition. -/
theorem completes_iff_of_paired {call : ObjCpp (Process World) (Except SwiftError Unit)}
    {endsEarly : Prop} {unhandled handled : Except CppException Unit}
    (present : Operation.UndisposedWrapper process self →
      (Program.Completes call process ↔ Returns unhandled ∧ ReadableErrors handled))
    (disposed : receiverTransport process self = none →
      (Program.Completes call process ↔ endsEarly ∧ ReadableErrors handled) ∧
        unhandled = .ok ()) :
    Program.Completes call process ↔
      (receiverTransport process self = none → endsEarly) ∧ Returns unhandled ∧
        ReadableErrors handled := by
  cases found : receiverTransport process self with
  | none =>
      obtain ⟨completes, rfl⟩ := disposed found
      rw [completes, imp_iff_right rfl, and_iff_right returns_ok_unit]
  | some transport =>
      rw [present (undisposed_of_paired paired found)]
      exact (and_iff_right fun null => absurd null (Option.some_ne_none transport)).symm

theorem SendTransportOperation.completes_iff_of_paired (operation : SendTransportOperation) :
    Program.Completes (operation.call library self) process ↔
      (receiverTransport process self = none → operation.EndsEarly library) ∧
        Returns ((Operation.sendTransport self operation : Operation World).unhandledWork
          library process) ∧
        ReadableErrors (operation.handledWork library process self) := by
  apply MediasoupClientSwift.completes_iff_of_paired paired
  · exact fun undisposed => SendTransportOperation.completes_iff undisposed operation
  · exact fun disposed => ⟨SendTransportOperation.completes_iff_of_disposed disposed operation,
      SendTransportOperation.unhandledWork_of_disposed disposed operation⟩

theorem ReceiveTransportOperation.completes_iff_of_paired
    (operation : ReceiveTransportOperation) :
    Program.Completes (operation.call library self) process ↔
      (receiverTransport process self = none → operation.EndsEarly library) ∧
        Returns ((Operation.receiveTransport self operation : Operation World).unhandledWork
          library process) ∧
        ReadableErrors (operation.handledWork library process self) := by
  apply MediasoupClientSwift.completes_iff_of_paired paired
  · exact fun undisposed => ReceiveTransportOperation.completes_iff undisposed operation
  · exact fun disposed => ⟨ReceiveTransportOperation.completes_iff_of_disposed disposed operation,
      ReceiveTransportOperation.unhandledWork_of_disposed disposed operation⟩

end Transports

namespace Session

/-! ### Steps -/

section Steps

variable {session : State World} {α : Type}

/-- What follows a call takes a step whatever the call returned. -/
theorem isSome_bind_of_taken {Found Reached : Type} {first : Option Found}
    {next : Found → Option Reached} (taken : ∀ value, (next value).isSome) :
    (first >>= next).isSome ↔ first.isSome := by
  cases first with
  | none => exact Iff.rfl
  | some value => exact iff_of_true (taken value) rfl

private theorem isSome_call_iff {program : ObjCpp (Process World) α} :
    (session.call program).isSome ↔ Program.Completes program session.process := by
  unfold State.call
  rcases ran : program session.process with ⟨result, process⟩
  cases result with
  | ok value => exact iff_of_true rfl (Program.completes_of_ok ran)
  | error reason => exact iff_of_false nofun (Program.not_completes_of_error ran)

private theorem isSome_plainCall_iff {program : ObjCpp (Process World) α} :
    (session.plainCall program).isSome ↔ Program.Completes program session.process := by
  rw [State.plainCall, Option.isSome_map]
  exact isSome_call_iff

private theorem isSome_childCall_iff {name : Nat} {isClose : Bool}
    {program : ObjCpp (Process World) α} : (session.childCall name isClose program).isSome ↔
      Program.Completes program session.process := by
  rw [← isSome_plainCall_iff]
  apply isSome_bind_of_taken
  intro reached
  cases isClose <;> rfl

private theorem isSome_createDevice_iff {program : ObjCpp (Process World) Device} :
    (session.createDevice program).isSome ↔ Program.Completes program session.process :=
  (isSome_bind_of_taken fun _ => rfl).trans isSome_call_iff

private theorem isSome_createTransport_iff {kind : TransportKind}
    {program : SwiftCall (Process World) TransportFacade} :
    (session.createTransport kind program).isSome ↔
      Program.Completes (withoutValue program) session.process := by
  rw [withoutValue, completes_mapResult_iff, ← isSome_call_iff]
  apply isSome_bind_of_taken
  rintro ⟨outcome, reached⟩
  cases outcome <;> rfl

private theorem isSome_createChild_iff {name : Nat} {child : α → ChildFacade}
    {program : SwiftCall (Process World) α} :
    (session.createChild name child program).isSome ↔
      Program.Completes (withoutValue program) session.process := by
  rw [withoutValue, completes_mapResult_iff, ← isSome_call_iff]
  apply isSome_bind_of_taken
  rintro ⟨outcome, reached⟩
  cases outcome <;> rfl

end Steps

/-! ### Runs -/

section Runs

variable (library : NativeLibrary World) (native : World)

/-- What a step needs: its device or facade is held, and what it calls on it ends
neither in an exception nor in a null dereference. -/
def State.Allows (session : State World) : Action World → Prop
  | .initCaptureAudioSession _ => True
  | .initPCFactory _ => True
  | .device name operation => ∃ self, session.device name = some self ∧
      (∀ text ∈ operation.iceServers, IceServersAccepted library.parse text) ∧
        ReadableErrors (operation.handledWork library session.process self)
  | .sendTransport name operation => ∃ self, session.transport .send name = some self ∧
      (receiverTransport session.process self = none → operation.EndsEarly library) ∧
        Returns ((Operation.sendTransport self operation : Operation World).unhandledWork
          library session.process) ∧
        ReadableErrors (operation.handledWork library session.process self)
  | .receiveTransport name operation => ∃ self, session.transport .receive name = some self ∧
      (receiverTransport session.process self = none → operation.EndsEarly library) ∧
        Returns ((Operation.receiveTransport self operation : Operation World).unhandledWork
          library session.process) ∧
        ReadableErrors (operation.handledWork library session.process self)
  | .producer name operation => ∃ self, session.child name = some (.producer self) ∧
      (∀ updater, operation ≠ .updateSenderParameters updater) ∧
        Returns (operation.unhandledWork library session.process self) ∧
        ReadableErrors (operation.handledWork library session.process self)
  | .consumer name operation => ∃ self, session.child name = some (.consumer self) ∧
      Returns (operation.unhandledWork library session.process self)
  | .dataProducer name operation => ∃ self, session.child name = some (.dataProducer self) ∧
      Returns (operation.unhandledWork library session.process self)
  | .dataConsumer name operation => ∃ self, session.child name = some (.dataConsumer self) ∧
      Returns (operation.unhandledWork library session.process self)
  | .beginUpdate name => ∃ self, session.child name = some (.producer self)
  | .finishUpdate updatedValue => ∃ update outer, session.updates = update :: outer ∧
      updatedValue.wrappedValue.Writable update.call.parameters
  | .releaseDevice name => ∃ self, session.device name = some self
  | .deallocDevice name => ∃ device : HeldDevice,
      session.devices[name]? = some device ∧ device.phase = .released
  | .releaseTransport name => ∃ transport : HeldTransport,
      session.transports[name]? = some transport ∧ transport.held = true
  | .releaseChild name => ∃ facade, session.child name = some facade ∧
      ∀ update ∈ session.updates, update.producer ≠ name

variable {library} {session : State World}

private theorem isSome_deviceStep_iff (self : Device) (operation : DeviceOperation) :
    (deviceStep library session self operation).isSome ↔
      (∀ text ∈ operation.iceServers, IceServersAccepted library.parse text) ∧
        ReadableErrors (operation.handledWork library session.process self) := by
  rw [← DeviceOperation.completes_iff]
  cases operation with
  | createSendTransport texts iceServers policy => exact isSome_createTransport_iff
  | createReceiveTransport texts iceServers policy => exact isSome_createTransport_iff
  | _ => exact isSome_plainCall_iff

private theorem isSome_sendTransportStep_iff (name : Nat) (self : TransportFacade)
    (operation : SendTransportOperation) :
    (sendTransportStep library session name self operation).isSome ↔
      Program.Completes (operation.call library self) session.process := by
  cases operation with
  | transport operation => exact isSome_plainCall_iff
  | createProducer track encodings codecOptions codec appData => exact isSome_createChild_iff
  | createScalableProducer track encoding scalabilityMode codecOptions codec appData =>
      exact isSome_createChild_iff
  | produceData texts => exact isSome_createChild_iff

private theorem isSome_receiveTransportStep_iff (name : Nat) (self : TransportFacade)
    (operation : ReceiveTransportOperation) :
    (receiveTransportStep library session name self operation).isSome ↔
      Program.Completes (operation.call library self) session.process := by
  cases operation with
  | transport operation => exact isSome_plainCall_iff
  | consume texts => exact isSome_createChild_iff
  | consumeData texts => exact isSome_createChild_iff

private theorem isSome_producerStep_iff (name : Nat) (self : Producer)
    (operation : ProducerOperation World) :
    (producerStep library session name self operation).isSome ↔
      (∀ updater, operation ≠ .updateSenderParameters updater) ∧
        Returns (operation.unhandledWork library session.process self) ∧
        ReadableErrors (operation.handledWork library session.process self) := by
  cases operation with
  | updateSenderParameters updater =>
      exact iff_of_false nofun (fun allowed => allowed.1 updater rfl)
  | _ =>
      refine isSome_childCall_iff.trans ((ProducerOperation.completes_iff self _).trans ?_)
      exact ⟨fun ⟨returned, readable, _⟩ => ⟨nofun, returned, readable⟩,
        fun ⟨_, returned, readable⟩ => ⟨returned, readable, trivial⟩⟩

private theorem isSome_consumerStep_iff (name : Nat) (self : Consumer)
    (operation : ConsumerOperation) : (consumerStep library session name self operation).isSome ↔
      Returns (operation.unhandledWork library session.process self) := by
  rw [← ConsumerOperation.completes_iff]
  cases operation <;> exact isSome_childCall_iff

private theorem isSome_dataProducerStep_iff (name : Nat) (self : DataProducer)
    (operation : DataProducerOperation) :
    (dataProducerStep library session name self operation).isSome ↔
      Returns (operation.unhandledWork library session.process self) := by
  rw [← DataProducerOperation.completes_iff]
  cases operation <;> exact isSome_childCall_iff

private theorem isSome_dataConsumerStep_iff (name : Nat) (self : DataConsumer)
    (operation : DataConsumerOperation) :
    (dataConsumerStep library session name self operation).isSome ↔
      Returns (operation.unhandledWork library session.process self) := by
  rw [← DataConsumerOperation.completes_iff]
  cases operation <;> exact isSome_childCall_iff

/-- Reading the sender raises nothing. -/
theorem completes_beginUpdate (self : ProducerWrapper) :
    Program.Completes (ProducerWrapper.beginUpdate library self) process :=
  Program.completes_of_ok rfl

private theorem completes_finishUpdate_iff (call : ProducerWrapper.OpenUpdate)
    (wrapped : WrappedRTPParameters) :
    Program.Completes (ProducerWrapper.finishUpdate library call wrapped) process ↔
      wrapped.Writable call.parameters := by
  rw [← isSome_updatedNativeParameters_iff, ProducerWrapper.finishUpdate]
  cases updatedNativeParameters call.parameters wrapped with
  | none => exact iff_of_false (Program.not_completes_of_error rfl) (by simp)
  | some written => exact iff_of_true (Program.completes_of_ok rfl) rfl

private theorem completes_deallocDevice (self : Device) :
    Program.Completes (DeviceWrapper.dealloc library self) process := by
  unfold DeviceWrapper.dealloc
  cases self.captureAudioSession <;> exact Program.completes_of_ok rfl

private theorem completes_release (facade : ChildFacade) :
    Program.Completes (facade.release library) process := by
  cases facade <;> exact Program.completes_of_ok rfl

private theorem completes_dealloc_of_paired {self : TransportFacade}
    (paired : (process.transportIvars self.transport).transport = none ↔
      (process.transportIvars self.transport).listenerAdapter = none) :
    Program.Completes (TransportWrapper.dealloc library self.transport) process := by
  cases found : receiverTransport process self with
  | none => exact completes_dispose_of_disposed found
  | some transport => exact completes_dispose (undisposed_of_paired paired found)

private theorem isSome_bind_iff {Facade : Type} {found : Option Facade}
    {step : Facade → Option (State World)} {Allowed : Facade → Prop}
    (taken : ∀ self, found = some self → ((step self).isSome ↔ Allowed self)) :
    (found >>= step).isSome ↔ ∃ self, found = some self ∧ Allowed self := by
  cases found with
  | none => simp
  | some self => simpa using taken self rfl

/-- A step of a session that runs is taken exactly where it is allowed. -/
theorem isSome_step_iff (consistent : Consistent session) (action : Action World) :
    (step library session action).isSome ↔ session.Allows library action := by
  have paired : ∀ {kind : TransportKind} {name : Nat} {self : TransportFacade},
      session.transport kind name = some self →
      ((session.process.transportIvars self.transport).transport = none ↔
        (session.process.transportIvars self.transport).listenerAdapter = none) := by
    intro kind name self owner
    obtain ⟨transport, found, -, -, rfl⟩ := transport_eq_some owner
    exact consistent.pointers name transport found
  cases action with
  | initCaptureAudioSession captureAudioSession =>
      exact isSome_createDevice_iff.trans
        (iff_of_true (completes_initCaptureAudioSession captureAudioSession) trivial)
  | initPCFactory pcFactory =>
      exact isSome_createDevice_iff.trans (iff_of_true (Program.completes_of_ok rfl) trivial)
  | device name operation =>
      apply isSome_bind_iff
      exact fun self held => isSome_deviceStep_iff self operation
  | sendTransport name operation =>
      apply isSome_bind_iff
      intro self owner
      rw [isSome_sendTransportStep_iff]
      exact SendTransportOperation.completes_iff_of_paired (paired owner) operation
  | receiveTransport name operation =>
      apply isSome_bind_iff
      intro self owner
      rw [isSome_receiveTransportStep_iff]
      exact ReceiveTransportOperation.completes_iff_of_paired (paired owner) operation
  | producer name operation =>
      simp only [step, State.Allows]
      split
      · next self held => simp [held, isSome_producerStep_iff]
      · next other => simpa using fun self held => (other self held).elim
  | consumer name operation =>
      simp only [step, State.Allows]
      split
      · next self held => simp [held, isSome_consumerStep_iff]
      · next other => simpa using fun self held => (other self held).elim
  | dataProducer name operation =>
      simp only [step, State.Allows]
      split
      · next self held => simp [held, isSome_dataProducerStep_iff]
      · next other => simpa using fun self held => (other self held).elim
  | dataConsumer name operation =>
      simp only [step, State.Allows]
      split
      · next self held => simp [held, isSome_dataConsumerStep_iff]
      · next other => simpa using fun self held => (other self held).elim
  | beginUpdate name =>
      simp only [step, State.Allows]
      split
      · next self held =>
          apply iff_of_true _ ⟨self, held⟩
          apply (isSome_bind_of_taken fun _ => rfl).mpr
          exact isSome_call_iff.mpr (completes_beginUpdate self.producer)
      · next other => simpa using fun self held => (other self held).elim
  | finishUpdate updatedValue =>
      simp only [step, State.Allows]
      cases session.updates with
      | nil => simp
      | cons update outer =>
          apply (isSome_bind_of_taken fun _ => rfl).trans
          apply isSome_plainCall_iff.trans
          rw [completes_finishUpdate_iff]
          simp
  | releaseDevice name => exact (isSome_bind_of_taken fun _ => rfl).trans Option.isSome_iff_exists
  | deallocDevice name =>
      apply isSome_bind_iff
      intro device found
      have deallocated : (session.plainCall (DeviceWrapper.dealloc library device.facade)).isSome :=
        isSome_plainCall_iff.mpr (completes_deallocDevice device.facade)
      split
      · next released =>
          exact iff_of_true ((isSome_bind_of_taken fun _ => rfl).mpr deallocated) released
      · next notReleased => simp [notReleased]
  | releaseTransport name =>
      apply isSome_bind_iff
      intro transport found
      have released : (session.plainCall
          (TransportWrapper.dealloc library transport.facade.transport)).isSome :=
        isSome_plainCall_iff.mpr
          (completes_dealloc_of_paired (consistent.pointers name transport found))
      split
      · next held => exact iff_of_true ((isSome_bind_of_taken fun _ => rfl).mpr released) held
      · next notHeld => simp [notHeld]
  | releaseChild name =>
      apply isSome_bind_iff
      intro facade held
      have released : (session.plainCall (facade.release library)).isSome :=
        isSome_plainCall_iff.mpr (completes_release facade)
      split
      · next used =>
          obtain ⟨update, member, same⟩ := used
          exact iff_of_false (by simp) fun unused => unused update member same
      · next unused =>
          apply iff_of_true ((isSome_bind_of_taken fun _ => rfl).mpr released)
          exact fun update member same => unused ⟨update, member, same⟩

/-- A session runs to its end exactly where each of its steps is allowed in the
state it is taken in. -/
theorem session_runs_iff (library : NativeLibrary World) (native : World)
    (actions : List (Action World)) :
    ((machine library native).run actions).isSome ↔
      (machine library native).EachStep (State.Allows library) (machine library native).initial
        actions := by
  apply Machine.isSome_runFrom_iff.trans
  apply Machine.eachStep_congr _ _ consistent_initial
  · exact fun _ _ _ consistent stepped => consistent_of_step consistent stepped
  · exact fun session action consistent => isSome_step_iff consistent action

/-- After `dispose`, parameters that are no JSON are refused and others reach the
null pointer. -/
example :
    let restarts := fun text => sampleActions ++
      [.sendTransport 0 (.transport .dispose), .sendTransport 0 (.transport (.restartICE text))]
    let sample := machine sampleLibrary (sampleProcess true false).native
    (sample.run (restarts "none")).isSome = true ∧
      (sample.run (restarts "\x7b\x7d")).isSome = false := by
  decide

end Runs

end Session

end MediasoupClientSwift
