import MediasoupClientSwift.Api.NativeObjects
import MediasoupClientSwift.Library.Agreement

/-!
Owns the native objects that sessions use: only transports and children that the
ledger says were made more often than deleted. It is stated with a second library,
which may do anything at all where it is called on another object; no session can
tell it from the first. Devices and RTP senders stand in no ledger.
-/

namespace MediasoupClientSwift

open Library

/-- The object was made more often than it was deleted. -/
def Ledger.Live (ledger : Ledger) (object : Handle) : Prop :=
  object ∈ ledger.made - ledger.deleted

instance (ledger : Ledger) (object : Handle) : Decidable (ledger.Live object) :=
  inferInstanceAs (Decidable (object ∈ ledger.made - ledger.deleted))

theorem Ledger.live_noteMade {ledger : Ledger} (sound : ledger.deleted ≤ ledger.made)
    (object : Handle) : (ledger.noteMade object).Live object := by
  have fewer : ledger.deleted.count object ≤ ledger.made.count object :=
    Multiset.count_le_of_le object sound
  show object ∈ ledger.made + {object} - ledger.deleted
  rw [← Multiset.count_pos, Multiset.count_sub, Multiset.count_add, Multiset.count_singleton_self]
  omega

variable {World : Type}

/-- The other function does what the recorded one does where it is called on a live
object. -/
def SameOnLive {α : Type} (recorded other : Handle → World × Ledger → α) : Prop :=
  ∀ ⦃object world⦄, world.2.Live object → other object world = recorded object world

/-- The other library does what the recorded one does where it is called on a live
transport or child, or on no such object. -/
structure NativeLibrary.AgreesOnLive (library : NativeLibrary World)
    (other : NativeLibrary (World × Ledger)) : Prop where
  parse : other.parse = library.parse
  nativeTransportsType : other.nativeTransportsType = library.nativeTransportsType
  dump : other.dump = library.dump
  newDevice : other.newDevice = library.withLedger.newDevice
  deleteDevice : other.deleteDevice = library.withLedger.deleteDevice
  isLoaded : other.isLoaded = library.withLedger.isLoaded
  load : other.load = library.withLedger.load
  getSctpCapabilities : other.getSctpCapabilities = library.withLedger.getSctpCapabilities
  getRtpCapabilities : other.getRtpCapabilities = library.withLedger.getRtpCapabilities
  canProduce : other.canProduce = library.withLedger.canProduce
  createSendTransport : other.createSendTransport = library.withLedger.createSendTransport
  createRecvTransport : other.createRecvTransport = library.withLedger.createRecvTransport
  getParameters : other.getParameters = library.withLedger.getParameters
  setParameters : other.setParameters = library.withLedger.setParameters
  getId : SameOnLive library.withLedger.getId other.getId
  getLocalId : SameOnLive library.withLedger.getLocalId other.getLocalId
  getProducerId : SameOnLive library.withLedger.getProducerId other.getProducerId
  getConnectionState : SameOnLive library.withLedger.getConnectionState other.getConnectionState
  getLabel : SameOnLive library.withLedger.getLabel other.getLabel
  getProtocol : SameOnLive library.withLedger.getProtocol other.getProtocol
  isClosed : SameOnLive library.withLedger.isClosed other.isClosed
  isPaused : SameOnLive library.withLedger.isPaused other.isPaused
  getMaxSpatialLayer : SameOnLive library.withLedger.getMaxSpatialLayer other.getMaxSpatialLayer
  getReadyState : SameOnLive library.withLedger.getReadyState other.getReadyState
  getBufferedAmount : SameOnLive library.withLedger.getBufferedAmount other.getBufferedAmount
  getTrack : SameOnLive library.withLedger.getTrack other.getTrack
  getAppData : SameOnLive library.withLedger.getAppData other.getAppData
  getRtpParameters : SameOnLive library.withLedger.getRtpParameters other.getRtpParameters
  getSctpStreamParameters :
    SameOnLive library.withLedger.getSctpStreamParameters other.getSctpStreamParameters
  getStats : SameOnLive library.withLedger.getStats other.getStats
  close : SameOnLive library.withLedger.close other.close
  pause : SameOnLive library.withLedger.pause other.pause
  resume : SameOnLive library.withLedger.resume other.resume
  delete : SameOnLive library.withLedger.delete other.delete
  restartIce : ∀ json,
    SameOnLive (library.withLedger.restartIce · json) (other.restartIce · json)
  updateIceServers : ∀ json,
    SameOnLive (library.withLedger.updateIceServers · json) (other.updateIceServers · json)
  produce : ∀ listener arguments,
    SameOnLive (library.withLedger.produce · listener arguments) (other.produce · listener arguments)
  produceData : ∀ listener arguments,
    SameOnLive (library.withLedger.produceData · listener arguments)
      (other.produceData · listener arguments)
  consume : ∀ listener arguments,
    SameOnLive (library.withLedger.consume · listener arguments) (other.consume · listener arguments)
  consumeData : ∀ listener arguments,
    SameOnLive (library.withLedger.consumeData · listener arguments)
      (other.consumeData · listener arguments)
  setMaxSpatialLayer : ∀ layer,
    SameOnLive (library.withLedger.setMaxSpatialLayer · layer) (other.setMaxSpatialLayer · layer)
  replaceTrack : ∀ track,
    SameOnLive (library.withLedger.replaceTrack · track) (other.replaceTrack · track)
  getRtpSender : SameOnLive library.withLedger.getRtpSender other.getRtpSender

private theorem sameOnLive_self {α : Type} (recorded : Handle → World × Ledger → α) :
    SameOnLive recorded recorded := fun _ _ _ => rfl

theorem NativeLibrary.agreesOnLive_self (library : NativeLibrary World) :
    library.AgreesOnLive library.withLedger := by
  constructor <;> intros <;> first | rfl | exact sameOnLive_self _

/-! ### The steps that reach outside -/

section Steps

variable {α β : Type} {process : Process World}

private theorem readNative_agree {read otherRead : World → α}
    (same : otherRead process.native = read process.native) :
    readNative otherRead process = readNative read process := by
  unfold readNative
  rw [same]

private theorem callNative_agree {call otherCall : NativeCall World α}
    (same : otherCall process.native = call process.native) :
    callNative otherCall process = callNative call process := by
  unfold callNative
  rw [same]

private theorem runNative_agree {run otherRun : World → World}
    (same : otherRun process.native = run process.native) :
    runNative otherRun process = runNative run process := by
  simp only [runNative, Program.modify_apply, same]

private theorem throwing_reached {result : Except CppException α} {reached : Process World}
    {value : α}
    (returned : throwing result process = (.ok value, reached)) : reached = process := by
  unfold throwing at returned
  split at returned <;> exact (congrArg Prod.snd returned).symm

private theorem textProperty_agree {read otherRead : World → Bytes}
    (same : otherRead process.native = read process.native) :
    textProperty otherRead process = textProperty read process :=
  Program.bind_agree (readNative_agree same) fun _ _ _ => rfl

private theorem guarded_agree {clauses : List CatchClause} {catchesId : Bool}
    {block otherBlock recover : ObjCpp (Process World) α} {cleanUp : ObjCpp (Process World) Unit}
    (same : otherBlock process = block process) :
    guarded clauses catchesId otherBlock cleanUp recover process =
      guarded clauses catchesId block cleanUp recover process :=
  Program.tryCatch_agree (Program.bind_agree same fun _ _ _ => rfl)

private theorem returning_agree {method otherMethod : ObjCpp (Process World) α}
    (same : otherMethod process = method process) :
    returning otherMethod process = returning method process :=
  Program.bind_agree same fun _ _ _ => rfl

private theorem mapResult_agree {change : α → β} {call otherCall : SwiftCall (Process World) α}
    (same : otherCall process = call process) :
    mapResult change otherCall process = mapResult change call process :=
  Program.bind_agree same fun _ _ _ => rfl

private theorem nonnullErrorCall_agree
    {method otherMethod : ObjCpp (Process World) (α × Option NSError)}
    (same : otherMethod process = method process) :
    nonnullErrorCall otherMethod process = nonnullErrorCall method process :=
  Program.bind_agree same fun _ _ _ => rfl

private theorem nilResultCall_agree
    {method otherMethod : ObjCpp (Process World) (Option α × Option NSError)}
    (same : otherMethod process = method process) :
    nilResultCall otherMethod process = nilResultCall method process :=
  Program.bind_agree same fun _ _ _ => rfl

private theorem convertMediasoupErrors_agree {closure otherClosure : SwiftCall (Process World) α}
    (same : otherClosure process = closure process) :
    convertMediasoupErrors otherClosure process = convertMediasoupErrors closure process :=
  Program.bind_agree same fun _ _ _ => rfl

end Steps

/-! ### The public calls -/

section Calls

variable {library : NativeLibrary World} {other : NativeLibrary (World × Ledger)}
  {process : Process (World × Ledger)}

private theorem jsonProperty_agree (agrees : library.AgreesOnLive other)
    {read otherRead : World × Ledger → Json}
    (same : otherRead process.native = read process.native) :
    jsonProperty other otherRead process = jsonProperty library.withLedger read process := by
  refine Program.bind_agree (readNative_agree same) fun json reached _ => ?_
  rw [agrees.dump]
  rfl

private theorem statsProperty_agree (agrees : library.AgreesOnLive other) {object : Handle}
    (live : process.native.2.Live object) :
    statsProperty other object process = statsProperty library.withLedger object process := by
  refine Program.bind_agree (callNative_agree (agrees.getStats live)) fun json reached _ => ?_
  rw [agrees.dump]
  rfl

theorem ConsumerOperation.call_agree (agrees : library.AgreesOnLive other) (self : Consumer)
    (live : process.native.2.Live self.consumer.consumer) (operation : ConsumerOperation) :
    operation.call other self process = operation.call library.withLedger self process := by
  cases operation with
  | track => rfl
  | id => exact returning_agree (textProperty_agree (agrees.getId live))
  | localId => exact returning_agree (textProperty_agree (agrees.getLocalId live))
  | producerId => exact returning_agree (textProperty_agree (agrees.getProducerId live))
  | closed => exact returning_agree (readNative_agree (agrees.isClosed live))
  | paused => exact returning_agree (readNative_agree (agrees.isPaused live))
  | kind => rfl
  | appData => exact returning_agree (jsonProperty_agree agrees (agrees.getAppData live))
  | rtpParameters => exact returning_agree (jsonProperty_agree agrees (agrees.getRtpParameters live))
  | stats => exact returning_agree (statsProperty_agree agrees live)
  | pause => exact returning_agree (runNative_agree (agrees.pause live))
  | resume => exact returning_agree (runNative_agree (agrees.resume live))
  | close => exact returning_agree (runNative_agree (agrees.close live))

theorem DataProducerOperation.call_agree (agrees : library.AgreesOnLive other)
    (self : DataProducer) (live : process.native.2.Live self.producer)
    (operation : DataProducerOperation) :
    operation.call other self process = operation.call library.withLedger self process := by
  cases operation with
  | id => exact returning_agree (textProperty_agree (agrees.getId live))
  | localId => exact returning_agree (textProperty_agree (agrees.getLocalId live))
  | sctpStreamParameters =>
      exact returning_agree (jsonProperty_agree agrees (agrees.getSctpStreamParameters live))
  | readyState =>
      exact returning_agree (Program.bind_agree (readNative_agree (agrees.getReadyState live))
        fun _ _ _ => rfl)
  | label => exact returning_agree (textProperty_agree (agrees.getLabel live))
  | protocol => exact returning_agree (textProperty_agree (agrees.getProtocol live))
  | bufferedAmount => exact returning_agree (readNative_agree (agrees.getBufferedAmount live))
  | appData => exact returning_agree (jsonProperty_agree agrees (agrees.getAppData live))
  | closed => exact returning_agree (readNative_agree (agrees.isClosed live))
  | close => exact returning_agree (runNative_agree (agrees.close live))
  | send buffer => rfl

theorem DataConsumerOperation.call_agree (agrees : library.AgreesOnLive other)
    (self : DataConsumer) (live : process.native.2.Live self.consumer)
    (operation : DataConsumerOperation) :
    operation.call other self process = operation.call library.withLedger self process := by
  cases operation with
  | id => exact returning_agree (textProperty_agree (agrees.getId live))
  | localId => exact returning_agree (textProperty_agree (agrees.getLocalId live))
  | producerId => exact returning_agree (textProperty_agree (agrees.getProducerId live))
  | closed => exact returning_agree (readNative_agree (agrees.isClosed live))
  | label => exact returning_agree (textProperty_agree (agrees.getLabel live))
  | dataProtocol => exact returning_agree (textProperty_agree (agrees.getProtocol live))
  | appData => exact returning_agree (jsonProperty_agree agrees (agrees.getAppData live))
  | sctpStreamParameters =>
      exact returning_agree (jsonProperty_agree agrees (agrees.getSctpStreamParameters live))
  | close => exact returning_agree (runNative_agree (agrees.close live))

private theorem replaceTrack_agree (agrees : library.AgreesOnLive other) (self : Producer)
    (live : process.native.2.Live self.producer.producer) (track : MediaStreamTrack) :
    self.replaceTrack other track process =
      self.replaceTrack library.withLedger track process := by
  refine nonnullErrorCall_agree (guarded_agree ?_)
  exact Program.bind_agree (callNative_agree (agrees.replaceTrack track.hash live))
    fun _ _ _ => rfl

private theorem setMaxSpatialLayer_agree (agrees : library.AgreesOnLive other) (self : Producer)
    (live : process.native.2.Live self.producer.producer) (layer : Int64) :
    self.setMaxSpatialLayer other layer process =
      self.setMaxSpatialLayer library.withLedger layer process := by
  unfold Producer.setMaxSpatialLayer
  cases Producer.typedLayer layer with
  | none => rfl
  | some typedLayer =>
      refine nonnullErrorCall_agree (guarded_agree ?_)
      exact callNative_agree (agrees.setMaxSpatialLayer typedLayer live)

/-- Up to its updater, an update uses the producer and its sender. -/
theorem beginUpdate_agree (agrees : library.AgreesOnLive other) (self : ProducerWrapper)
    (live : process.native.2.Live self.producer) :
    ProducerWrapper.beginUpdate other self process =
      ProducerWrapper.beginUpdate library.withLedger self process := by
  refine Program.bind_agree (readNative_agree (agrees.getRtpSender live)) fun sender reached _ => ?_
  refine Program.bind_agree ?_ fun _ _ _ => rfl
  simp only [ProducerWrapper.readParameters, agrees.getParameters]

/-- Every call on a producer but the update, whose updater runs in between. -/
theorem ProducerOperation.call_agree (agrees : library.AgreesOnLive other) (self : Producer)
    (live : process.native.2.Live self.producer.producer)
    {operation : ProducerOperation (World × Ledger)}
    (noUpdate : ∀ updater, operation ≠ .updateSenderParameters updater) :
    operation.call other self process = operation.call library.withLedger self process := by
  cases operation with
  | track => rfl
  | id => exact returning_agree (textProperty_agree (agrees.getId live))
  | localId => exact returning_agree (textProperty_agree (agrees.getLocalId live))
  | closed => exact returning_agree (readNative_agree (agrees.isClosed live))
  | paused => exact returning_agree (readNative_agree (agrees.isPaused live))
  | kind => rfl
  | maxSpatialLayer => exact returning_agree (readNative_agree (agrees.getMaxSpatialLayer live))
  | appData => exact returning_agree (jsonProperty_agree agrees (agrees.getAppData live))
  | rtpParameters => exact returning_agree (jsonProperty_agree agrees (agrees.getRtpParameters live))
  | stats => exact returning_agree (statsProperty_agree agrees live)
  | pause => exact returning_agree (runNative_agree (agrees.pause live))
  | resume => exact returning_agree (runNative_agree (agrees.resume live))
  | close => exact returning_agree (runNative_agree (agrees.close live))
  | setMaxSpatialLayer layer => exact setMaxSpatialLayer_agree agrees self live layer
  | updateSenderParameters updater => exact absurd rfl (noUpdate updater)
  | replaceTrack track => exact replaceTrack_agree agrees self live track
  | getStats => rfl

theorem ChildFacade.release_agree (agrees : library.AgreesOnLive other) (facade : ChildFacade)
    (live : process.native.2.Live facade.object) :
    facade.release other process = facade.release library.withLedger process := by
  cases facade with
  | producer self | dataProducer self | consumer self | dataConsumer self =>
      exact Program.bind_agree (runNative_agree (agrees.delete live)) fun _ _ _ => rfl

private theorem createSendTransport_agree (agrees : library.AgreesOnLive other) {self : Device}
    {texts : TransportTexts} {iceServers : Option String}
    {iceTransportPolicy : IceTransportPolicy} :
    self.createSendTransport other texts iceServers iceTransportPolicy =
      self.createSendTransport library.withLedger texts iceServers iceTransportPolicy := by
  simp only [Device.createSendTransport, DeviceWrapper.createSendTransportWithId,
    DeviceWrapper.createTransport, DeviceWrapper.createTransportWithPcOptions,
    DeviceWrapper.createTransportBlock, agrees.parse, agrees.nativeTransportsType,
    agrees.createSendTransport]
  rfl

private theorem createReceiveTransport_agree (agrees : library.AgreesOnLive other) {self : Device}
    {texts : TransportTexts} {iceServers : Option String}
    {iceTransportPolicy : IceTransportPolicy} :
    self.createReceiveTransport other texts iceServers iceTransportPolicy =
      self.createReceiveTransport library.withLedger texts iceServers iceTransportPolicy := by
  simp only [Device.createReceiveTransport, DeviceWrapper.createReceiveTransportWithId,
    DeviceWrapper.createTransport, DeviceWrapper.createTransportWithPcOptions,
    DeviceWrapper.createTransportBlock, agrees.parse, agrees.nativeTransportsType,
    agrees.createRecvTransport]
  rfl

/-- The native transport of the wrapper, where it has one, is live. -/
def PointsToLive (process : Process (World × Ledger)) (self : Address) : Prop :=
  ∀ ⦃object⦄, (process.transportIvars self).transport = some object →
    process.native.2.Live object

/-- A method that dereferences the transport. -/
theorem transport_agree {α : Type} {self : Address} (points : PointsToLive process self)
    {next otherNext : Handle → ObjCpp (Process (World × Ledger)) α}
    (rest : ∀ object, process.native.2.Live object →
      otherNext object process = next object process) :
    (TransportWrapper.transport self >>= otherNext) process =
      (TransportWrapper.transport self >>= next) process := by
  have read : (TransportWrapper.transport self : ObjCpp (Process (World × Ledger)) Handle) process =
      dereference (process.transportIvars self).transport process := rfl
  cases pointer : (process.transportIvars self).transport with
  | none =>
      rw [pointer] at read
      exact (Program.bind_of_error read).trans (Program.bind_of_error read).symm
  | some object =>
      rw [pointer] at read
      rw [Program.bind_of_ok read, Program.bind_of_ok read]
      exact rest object (points pointer)

private theorem closed_agree (agrees : library.AgreesOnLive other) {self : Address}
    (points : PointsToLive process self) :
    TransportWrapper.closed other self process =
      TransportWrapper.closed library.withLedger self process := by
  refine Program.bind_agree rfl fun found reached returned => ?_
  obtain ⟨rfl, rfl⟩ : process = found ∧ process = reached := by
    simpa only [Program.get_apply, Prod.mk.injEq, Except.ok.injEq] using returned
  cases pointer : (process.transportIvars self).transport with
  | none => rfl
  | some object => exact readNative_agree (agrees.isClosed (points pointer))

/-- `dispose` closes the transport and deletes it, in that order. -/
theorem dispose_agree (agrees : library.AgreesOnLive other) {self : Address}
    (points : PointsToLive process self) :
    TransportWrapper.dispose other self process =
      TransportWrapper.dispose library.withLedger self process := by
  refine Program.bind_agree rfl fun found reached returned => ?_
  obtain ⟨rfl, rfl⟩ : process = found ∧ process = reached := by
    simpa only [Program.get_apply, Prod.mk.injEq, Except.ok.injEq] using returned
  cases pointer : (process.transportIvars self).transport with
  | none => rfl
  | some object =>
      have live : process.native.2.Live object := points pointer
      dsimp only
      cases adapter : (process.transportIvars self).listenerAdapter with
      | none => rfl
      | some listenerAdapter =>
          refine Program.bind_agree rfl fun _ reached returned => ?_
          obtain rfl : process = reached := congrArg Prod.snd returned
          refine Program.bind_agree (runNative_agree (agrees.close live)) fun _ closed returned => ?_
          have stillLive : closed.native.2.Live object := by
            obtain rfl := congrArg Prod.snd returned
            exact live
          exact Program.bind_agree (runNative_agree (agrees.delete stillLive)) fun _ _ _ => rfl

private theorem withParsedText_agree (agrees : library.AgreesOnLive other)
    {call otherCall : Handle → Json → NativeCall (World × Ledger) Unit}
    (same : ∀ json, SameOnLive (call · json) (otherCall · json)) {self : Address}
    (points : PointsToLive process self) (text : String) :
    TransportWrapper.withParsedText other otherCall self text process =
      TransportWrapper.withParsedText library.withLedger call self text process := by
  refine guarded_agree (Program.bind_agree ?_ fun json reached returned => ?_)
  · rw [agrees.parse]
    rfl
  · rw [throwing_reached returned]
    exact transport_agree points fun object live => callNative_agree (same json live)

theorem TransportOperation.call_agree (agrees : library.AgreesOnLive other)
    (self : TransportFacade) (points : PointsToLive process self.transport)
    (operation : TransportOperation) :
    operation.call other self process = operation.call library.withLedger self process := by
  cases operation with
  | id =>
      exact returning_agree (transport_agree points fun object live =>
        textProperty_agree (agrees.getId live))
  | closed => exact returning_agree (closed_agree agrees points)
  | connectionState =>
      refine returning_agree (Program.bind_agree ?_ fun _ _ _ => rfl)
      exact transport_agree points fun object live =>
        textProperty_agree (agrees.getConnectionState live)
  | appData =>
      exact returning_agree (transport_agree points fun object live =>
        jsonProperty_agree agrees (agrees.getAppData live))
  | stats =>
      exact returning_agree (transport_agree points fun object live =>
        statsProperty_agree agrees live)
  | close =>
      exact returning_agree (transport_agree points fun object live =>
        runNative_agree (agrees.close live))
  | dispose => exact returning_agree (dispose_agree agrees points)
  | restartICE iceParameters =>
      exact convertMediasoupErrors_agree (nonnullErrorCall_agree
        (withParsedText_agree agrees agrees.restartIce points iceParameters))
  | updateICEServers iceServers =>
      exact convertMediasoupErrors_agree (nonnullErrorCall_agree
        (withParsedText_agree agrees agrees.updateIceServers points iceServers))

/-! ### The factories -/

section Factories

variable {Arguments Wrapper : Type}
  {create otherCreate : Handle → AdapterPointer → Arguments → NativeCall (World × Ledger) Handle}
  {wrap otherWrap : Handle → AdapterPointer → ObjCpp (Process (World × Ledger)) Wrapper}
  {arguments : Except CppException Arguments} {self : Address}

/-- A factory that may use the object it made. -/
theorem createChild_agree
    (same : ∀ listener arguments,
      SameOnLive (create · listener arguments) (otherCreate · listener arguments))
    (makes : ∀ transport listener arguments,
      Makes Prod.snd Ledger.noteMade (create transport listener arguments))
    (wraps : ∀ {object : Handle} (listener : AdapterPointer) {made : Process (World × Ledger)},
      made.native.2.Live object → otherWrap object listener made = wrap object listener made)
    (sound : process.native.2.deleted ≤ process.native.2.made)
    (points : PointsToLive process self) :
    createChild otherCreate otherWrap arguments self process =
      createChild create wrap arguments self process := by
  refine Program.bind_agree rfl fun listenerAdapter allocated returned => ?_
  obtain rfl := congrArg Prod.snd returned
  have pointsStill : PointsToLive (newListenerAdapter process).2 self := points
  refine guarded_agree (Program.bind_agree rfl fun converted reached returned => ?_)
  rw [throwing_reached returned]
  refine transport_agree pointsStill fun transport live => ?_
  refine Program.bind_agree (callNative_agree (same _ _ live)) fun object made called => ?_
  have noted : made.native.2 = process.native.2.noteMade object :=
    (Process.book_of_seen (seen_of_made (makes transport listenerAdapter converted) called) :)
  refine Program.bind_agree (wraps listenerAdapter ?_) fun _ _ _ => rfl
  rw [noted]
  exact Ledger.live_noteMade sound object

end Factories

variable (agrees : library.AgreesOnLive other) (self : TransportFacade)
  (points : PointsToLive process self.transport)
  (sound : process.native.2.deleted ≤ process.native.2.made)

include agrees points sound

private theorem createProducerWith_agree (track : MediaStreamTrack) (texts : ProducerTexts) :
    SendTransport.createProducerWith track
        (SendTransportWrapper.createProducerForTrack other self.transport track texts) process =
      SendTransport.createProducerWith track
        (SendTransportWrapper.createProducerForTrack library.withLedger self.transport track texts)
        process := by
  unfold SendTransport.createProducerWith
  cases MediaKind.initStringValue track.kind with
  | none => rfl
  | some mediaKind =>
      refine convertMediasoupErrors_agree (mapResult_agree (nilResultCall_agree ?_))
      unfold SendTransportWrapper.createProducerForTrack
      rw [agrees.parse]
      exact createChild_agree agrees.produce library.ledger.produce (fun _ _ _ => rfl) sound points

private theorem produceData_agree (texts : DataProducerTexts) :
    SendTransport.produceData other self texts process =
      SendTransport.produceData library.withLedger self texts process := by
  refine convertMediasoupErrors_agree (nilResultCall_agree ?_)
  unfold SendTransportWrapper.createDataProducerWithLabel
  rw [agrees.parse]
  exact createChild_agree agrees.produceData library.ledger.produceData (fun _ _ _ => rfl) sound
    points

/-- The track of the consumer just made is read. -/
theorem consume_agree (texts : ConsumerTexts) :
    ReceiveTransport.consume other self texts process =
      ReceiveTransport.consume library.withLedger self texts process := by
  refine convertMediasoupErrors_agree (mapResult_agree (nilResultCall_agree ?_))
  unfold ReceiveTransportWrapper.createConsumerWithId
  rw [agrees.parse]
  refine createChild_agree agrees.consume library.ledger.consume ?_ sound points
  intro consumer listener made live
  exact Program.bind_agree (readNative_agree (agrees.getTrack live)) fun _ _ _ => rfl

private theorem consumeData_agree (texts : DataConsumerTexts) :
    ReceiveTransport.consumeData other self texts process =
      ReceiveTransport.consumeData library.withLedger self texts process := by
  refine convertMediasoupErrors_agree (nilResultCall_agree ?_)
  unfold ReceiveTransportWrapper.createDataConsumerWithId
  rw [agrees.parse]
  exact createChild_agree agrees.consumeData library.ledger.consumeData (fun _ _ _ => rfl) sound
    points

omit points sound

/-- Device calls use no transport and no child. -/
theorem DeviceOperation.call_agree (self : Device) (operation : DeviceOperation) :
    operation.call other self process = operation.call library.withLedger self process := by
  cases operation with
  | retainAudioSession | releaseAudioSession => rfl
  | isLoaded => simp only [DeviceOperation.call, DeviceWrapper.isLoaded, agrees.isLoaded]
  | load routerRTPCapabilities =>
      simp only [DeviceOperation.call, Device.load, DeviceWrapper.load, agrees.parse, agrees.load]
      rfl
  | rtpCapabilities =>
      simp only [DeviceOperation.call, Device.rtpCapabilities, DeviceWrapper.rtpCapabilities,
        DeviceWrapper.capabilitiesWithError, agrees.getRtpCapabilities, agrees.dump]
      rfl
  | sctpCapabilities =>
      simp only [DeviceOperation.call, Device.sctpCapabilities, DeviceWrapper.sctpCapabilities,
        DeviceWrapper.capabilitiesWithError, agrees.getSctpCapabilities, agrees.dump]
      rfl
  | canProduce mediaKind =>
      simp only [DeviceOperation.call, Device.canProduce, DeviceWrapper.canProduce,
        agrees.canProduce]
  | createSendTransport texts iceServers iceTransportPolicy =>
      exact congrFun (congrArg withoutValue (createSendTransport_agree agrees)) process
  | createReceiveTransport texts iceServers iceTransportPolicy =>
      exact congrFun (congrArg withoutValue (createReceiveTransport_agree agrees)) process

end Calls

namespace Session

open Children (TransportKind)

/-! ### One step -/

section Calls

variable {α : Type} {session : State World} {process : Process World}

private theorem call_agree {program other : ObjCpp (Process World) α}
    (same : other session.process = program session.process) :
    session.call other = session.call program := by
  unfold State.call
  rw [same]

private theorem plainCall_agree {program other : ObjCpp (Process World) α}
    (same : other session.process = program session.process) :
    session.plainCall other = session.plainCall program :=
  congrArg (Option.map Prod.snd) (call_agree same)

private theorem createDevice_agree {program other : ObjCpp (Process World) Device}
    (same : other session.process = program session.process) :
    session.createDevice other = session.createDevice program := by
  unfold State.createDevice
  rw [call_agree same]

private theorem createTransport_agree {kind : TransportKind}
    {program other : SwiftCall (Process World) TransportFacade}
    (same : other session.process = program session.process) :
    session.createTransport kind other = session.createTransport kind program := by
  unfold State.createTransport
  rw [call_agree same]

theorem createChild_agree {transport : Nat} {child : α → ChildFacade}
    {program other : SwiftCall (Process World) α}
    (same : other session.process = program session.process) :
    session.createChild transport child other = session.createChild transport child program := by
  unfold State.createChild
  rw [call_agree same]

private theorem childCall_agree {name : Nat} {isClose : Bool}
    {program other : ObjCpp (Process World) α}
    (same : other session.process = program session.process) :
    session.childCall name isClose other = session.childCall name isClose program := by
  unfold State.childCall
  rw [plainCall_agree same]

end Calls

section Steps

variable {library : NativeLibrary World} {other : NativeLibrary (World × Ledger)}
  (agrees : library.AgreesOnLive other) {session : State (World × Ledger)}

/-- What is owned is live. -/
theorem live_of_owned (balanced : session.Balanced) {object : Handle}
    (owned : object ∈ session.owned) : session.process.native.2.Live object := by
  have rest : session.ledger.made - session.ledger.deleted = session.owned :=
    tsub_eq_of_eq_add_rev balanced
  rwa [← rest] at owned

private theorem deleted_le_made (balanced : session.Balanced) :
    session.process.native.2.deleted ≤ session.process.native.2.made :=
  le_of_le_of_eq (Multiset.le_add_right _ _) (Eq.symm balanced)

private theorem pointsToLive (balanced : session.Balanced) {name : Nat} {transport : HeldTransport}
    (found : session.transports[name]? = some transport) :
    PointsToLive session.process transport.facade.transport := by
  intro object pointer
  apply live_of_owned balanced
  exact Multiset.mem_add.mpr (Or.inl (Arena.mem_inventory found pointer))

private theorem pointsToLive_of_transport (balanced : session.Balanced) {kind : TransportKind}
    {name : Nat} {facade : TransportFacade} (found : session.transport kind name = some facade) :
    PointsToLive session.process facade.transport := by
  obtain ⟨transport, present, -, -, rfl⟩ := transport_eq_some found
  exact pointsToLive balanced present

private theorem live_of_child (balanced : session.Balanced) {name : Nat} {facade : ChildFacade}
    (found : session.child name = some facade) :
    session.process.native.2.Live facade.object := by
  obtain ⟨child, present, held, rfl⟩ := child_eq_some_iff.mp found
  have heldObject : child.heldObject = some child.facade.object := if_pos held
  apply live_of_owned balanced
  exact Multiset.mem_add.mpr (Or.inr (Arena.mem_inventory present heldObject))

include agrees

private theorem construct_agree :
    DeviceWrapper.construct other = DeviceWrapper.construct library.withLedger := by
  funext pcFactory captureAudioSession process
  unfold DeviceWrapper.construct
  rw [agrees.newDevice]

private theorem deallocDevice_agree (self : Device) :
    DeviceWrapper.dealloc other self = DeviceWrapper.dealloc library.withLedger self := by
  unfold DeviceWrapper.dealloc
  rw [agrees.deleteDevice]

private theorem deviceStep_agree (self : Device) (operation : DeviceOperation) :
    deviceStep other session self operation =
      deviceStep library.withLedger session self operation := by
  cases operation with
  | createSendTransport texts iceServers iceTransportPolicy =>
      exact createTransport_agree (congrFun (createSendTransport_agree agrees) session.process)
  | createReceiveTransport texts iceServers iceTransportPolicy =>
      exact createTransport_agree (congrFun (createReceiveTransport_agree agrees) session.process)
  | retainAudioSession | releaseAudioSession | isLoaded | load | rtpCapabilities
  | sctpCapabilities | canProduce => exact plainCall_agree (DeviceOperation.call_agree agrees self _)

private theorem sendTransportStep_agree (balanced : session.Balanced) (name : Nat)
    {self : TransportFacade} (points : PointsToLive session.process self.transport)
    (operation : SendTransportOperation) :
    sendTransportStep other session name self operation =
      sendTransportStep library.withLedger session name self operation := by
  have sound := deleted_le_made balanced
  cases operation with
  | transport operation => exact plainCall_agree (operation.call_agree agrees self points)
  | createProducer track encodings codecOptions codec appData =>
      exact createChild_agree (createProducerWith_agree agrees self points sound track _)
  | createScalableProducer track encoding scalabilityMode codecOptions codec appData =>
      exact createChild_agree (createProducerWith_agree agrees self points sound track _)
  | produceData texts => exact createChild_agree (produceData_agree agrees self points sound texts)

private theorem receiveTransportStep_agree (balanced : session.Balanced) (name : Nat)
    {self : TransportFacade} (points : PointsToLive session.process self.transport)
    (operation : ReceiveTransportOperation) :
    receiveTransportStep other session name self operation =
      receiveTransportStep library.withLedger session name self operation := by
  have sound := deleted_le_made balanced
  cases operation with
  | transport operation => exact plainCall_agree (operation.call_agree agrees self points)
  | consume texts => exact createChild_agree (consume_agree agrees self points sound texts)
  | consumeData texts => exact createChild_agree (consumeData_agree agrees self points sound texts)

private theorem producerStep_agree (name : Nat) {self : Producer}
    (live : session.process.native.2.Live self.producer.producer)
    (operation : ProducerOperation (World × Ledger)) :
    producerStep other session name self operation =
      producerStep library.withLedger session name self operation := by
  by_cases update : ∃ updater, operation = .updateSenderParameters updater
  · obtain ⟨updater, rfl⟩ := update
    rfl
  · have same :=
      operation.call_agree agrees self live fun updater isUpdate => update ⟨updater, isUpdate⟩
    cases operation with
    | updateSenderParameters updater => rfl
    | track | id | localId | closed | paused | kind | maxSpatialLayer | appData | rtpParameters
    | stats | pause | resume | close | setMaxSpatialLayer | replaceTrack | getStats =>
        exact childCall_agree same

private theorem consumerStep_agree (name : Nat) {self : Consumer}
    (live : session.process.native.2.Live self.consumer.consumer) (operation : ConsumerOperation) :
    consumerStep other session name self operation =
      consumerStep library.withLedger session name self operation := by
  cases operation <;> exact childCall_agree (ConsumerOperation.call_agree agrees self live _)

private theorem dataProducerStep_agree (name : Nat) {self : DataProducer}
    (live : session.process.native.2.Live self.producer) (operation : DataProducerOperation) :
    dataProducerStep other session name self operation =
      dataProducerStep library.withLedger session name self operation := by
  cases operation <;> exact childCall_agree (DataProducerOperation.call_agree agrees self live _)

private theorem dataConsumerStep_agree (name : Nat) {self : DataConsumer}
    (live : session.process.native.2.Live self.consumer) (operation : DataConsumerOperation) :
    dataConsumerStep other session name self operation =
      dataConsumerStep library.withLedger session name self operation := by
  cases operation <;> exact childCall_agree (DataConsumerOperation.call_agree agrees self live _)

/-- One case for each action: the receiver is live, so the call is the same. -/
theorem step_agree (balanced : session.Balanced) (action : Action (World × Ledger)) :
    step other session action = step library.withLedger session action := by
  cases action with
  | initCaptureAudioSession captureAudioSession =>
      apply createDevice_agree
      simp only [DeviceWrapper.initCaptureAudioSession, construct_agree agrees]
  | initPCFactory pcFactory =>
      apply createDevice_agree
      simp only [DeviceWrapper.initWithPCFactory, construct_agree agrees]
  | device name operation =>
      simp only [step]
      cases found : session.device name with
      | none => rfl
      | some self => exact deviceStep_agree agrees self operation
  | sendTransport name operation =>
      simp only [step]
      cases found : session.transport .send name with
      | none => rfl
      | some self =>
          exact sendTransportStep_agree agrees balanced name
            (pointsToLive_of_transport balanced found) operation
  | receiveTransport name operation =>
      simp only [step]
      cases found : session.transport .receive name with
      | none => rfl
      | some self =>
          exact receiveTransportStep_agree agrees balanced name
            (pointsToLive_of_transport balanced found) operation
  | producer name operation =>
      simp only [step]
      split
      · rename_i self found
        exact producerStep_agree agrees name (live_of_child balanced found) operation
      · rfl
  | consumer name operation =>
      simp only [step]
      split
      · rename_i self found
        exact consumerStep_agree agrees name (live_of_child balanced found) operation
      · rfl
  | dataProducer name operation =>
      simp only [step]
      split
      · rename_i self found
        exact dataProducerStep_agree agrees name (live_of_child balanced found) operation
      · rfl
  | dataConsumer name operation =>
      simp only [step]
      split
      · rename_i self found
        exact dataConsumerStep_agree agrees name (live_of_child balanced found) operation
      · rfl
  | beginUpdate name =>
      simp only [step]
      split
      · rename_i self found
        rw [call_agree (beginUpdate_agree agrees self.producer (live_of_child balanced found))]
      · rfl
  | finishUpdate updatedValue =>
      simp only [step]
      simp only [ProducerWrapper.finishUpdate, agrees.setParameters]
  | releaseDevice name => rfl
  | deallocDevice name =>
      simp only [step]
      cases found : session.devices[name]? with
      | none => rfl
      | some device =>
          simp only [Option.bind_eq_bind, Option.bind_some, deallocDevice_agree agrees]
  | releaseTransport name =>
      simp only [step]
      cases found : session.transports[name]? with
      | none => rfl
      | some transport =>
          have same := dispose_agree agrees (pointsToLive balanced found)
          simp only [Option.bind_eq_bind, Option.bind_some, plainCall_agree same,
            TransportWrapper.dealloc]
  | releaseChild name =>
      simp only [step]
      cases found : session.child name with
      | none => rfl
      | some facade =>
          have same := facade.release_agree agrees (live_of_child balanced found)
          simp only [Option.bind_eq_bind, Option.bind_some, plainCall_agree same]

end Steps

/-! ### Runs -/

/-- No session uses a transport or child before it is made or after it is deleted:
a library that may do anything at all there makes the same runs. -/
theorem only_live_objects_used (library : NativeLibrary World)
    {other : NativeLibrary (World × Ledger)} (agrees : library.AgreesOnLive other)
    (native : World) (actions : List (Action (World × Ledger))) :
    (machine other (native, Ledger.empty)).run actions =
      (machine library.withLedger (native, Ledger.empty)).run actions := by
  have balanced : (machine library.withLedger (native, Ledger.empty)).EachStep
      (fun session _ => session.Balanced)
      (machine library.withLedger (native, Ledger.empty)).initial actions := by
    refine Machine.eachStep_of_invariant ?_ ?_ (audited_initial native)
      (Machine.eachStep_true _ actions)
    · intro session action next audited _ stepped
      exact audited_of_step session action next audited stepped
    · intro session action audited _
      exact audited.balanced
  refine Machine.runFrom_eq_of_eachStep ?_ balanced
  intro session action balanced
  exact step_agree agrees balanced action

/-- The sample library, where `GetId` of an object that is not live returns garbage. -/
def garbageLibrary : NativeLibrary (SampleWorld × Ledger) :=
  { sampleLibrary.withLedger with
    getId := fun object world =>
      if world.2.Live object then sampleLibrary.getId object world.1 else [255] }

private theorem sampleLibrary_agreesOnLive : sampleLibrary.AgreesOnLive garbageLibrary :=
  { NativeLibrary.agreesOnLive_self sampleLibrary with
    getId := fun _ _ live => if_pos live }

/-- Reading the identifier of a transport, whose child is released before. -/
theorem only_live_objects_used_sample :
    (machine garbageLibrary ((sampleProcess true false).native, Ledger.empty)).run
        [.initCaptureAudioSession false, .device 0 (.createSendTransport sampleTexts none .all),
          .sendTransport 0 (.createProducer ⟨7, "audio"⟩ none none none none),
          .releaseChild 0, .sendTransport 0 (.transport .id)] =
      (machine sampleLibrary.withLedger ((sampleProcess true false).native, Ledger.empty)).run
        [.initCaptureAudioSession false, .device 0 (.createSendTransport sampleTexts none .all),
          .sendTransport 0 (.createProducer ⟨7, "audio"⟩ none none none none),
          .releaseChild 0, .sendTransport 0 (.transport .id)] :=
  only_live_objects_used sampleLibrary sampleLibrary_agreesOnLive
    (sampleProcess true false).native _

end Session

end MediasoupClientSwift
