import MediasoupClientSwift.Transport.Factories

/-!
Owns the public operations of the library as one type: every method, property
and initializer of `Device`, the two transports, `Producer`, `Consumer`,
`DataProducer` and `DataConsumer`, with its receiver and its arguments, and the
call each of them makes. The `delegate` properties reach no native code and are
left out.
-/

namespace MediasoupClientSwift

open Library

inductive DeviceOperation where
  | retainAudioSession
  | releaseAudioSession
  | isLoaded
  | load (routerRTPCapabilities : String)
  | rtpCapabilities
  | sctpCapabilities
  | canProduce (mediaKind : MediaKind)
  | createSendTransport (texts : TransportTexts) (iceServers : Option String)
      (iceTransportPolicy : IceTransportPolicy)
  | createReceiveTransport (texts : TransportTexts) (iceServers : Option String)
      (iceTransportPolicy : IceTransportPolicy)

inductive TransportOperation where
  | id
  | closed
  | connectionState
  | appData
  | stats
  | close
  | dispose
  | restartICE (iceParameters : String)
  | updateICEServers (iceServers : String)

inductive SendTransportOperation where
  | transport (operation : TransportOperation)
  | createProducer (track : MediaStreamTrack) (encodings : Option (List RTCRtpEncodingParameters))
      (codecOptions codec appData : Option String)
  | createScalableProducer (track : MediaStreamTrack) (encoding : RTCRtpEncodingParameters)
      (scalabilityMode : String) (codecOptions codec appData : Option String)
  | produceData (texts : DataProducerTexts)

inductive ReceiveTransportOperation where
  | transport (operation : TransportOperation)
  | consume (texts : ConsumerTexts)
  | consumeData (texts : DataConsumerTexts)

inductive ProducerOperation (World : Type) where
  | track
  | id
  | localId
  | closed
  | paused
  | kind
  | maxSpatialLayer
  | appData
  | rtpParameters
  | stats
  | pause
  | resume
  | close
  | setMaxSpatialLayer (layer : Int64)
  | updateSenderParameters (updater : ProducerWrapper.Updater World RTPParameters)
  | replaceTrack (track : MediaStreamTrack)
  | getStats

inductive ConsumerOperation where
  | track
  | id
  | localId
  | producerId
  | closed
  | paused
  | kind
  | appData
  | rtpParameters
  | stats
  | pause
  | resume
  | close

inductive DataProducerOperation where
  | id
  | localId
  | sctpStreamParameters
  | readyState
  | label
  | protocol
  | bufferedAmount
  | appData
  | closed
  | close
  | send (buffer : Bytes)

inductive DataConsumerOperation where
  | id
  | localId
  | producerId
  | closed
  | label
  | dataProtocol
  | appData
  | sctpStreamParameters
  | close

inductive Operation (World : Type) where
  | initCaptureAudioSession (captureAudioSession : Bool)
  | initPCFactory (pcFactory : PCFactory)
  | device (self : Device) (operation : DeviceOperation)
  | sendTransport (self : TransportFacade) (operation : SendTransportOperation)
  | receiveTransport (self : TransportFacade) (operation : ReceiveTransportOperation)
  | producer (self : Producer) (operation : ProducerOperation World)
  | consumer (self : Consumer) (operation : ConsumerOperation)
  | dataProducer (self : DataProducer) (operation : DataProducerOperation)
  | dataConsumer (self : DataConsumer) (operation : DataConsumerOperation)

section Calls

variable {World α : Type} (library : NativeLibrary World)

/-- A call that cannot throw in Swift, without its value. -/
def returning (method : ObjCpp (Process World) α) :
    ObjCpp (Process World) (Except SwiftError Unit) := do
  let _ ← method
  pure (.ok ())

def withoutValue (call : SwiftCall (Process World) α) :
    ObjCpp (Process World) (Except SwiftError Unit) :=
  mapResult (fun _ => ()) call

def DeviceOperation.call (self : Device) :
    DeviceOperation → ObjCpp (Process World) (Except SwiftError Unit)
  | .retainAudioSession => returning (DeviceWrapper.retainAudioSession self)
  | .releaseAudioSession => returning (DeviceWrapper.releaseAudioSession self)
  | .isLoaded => returning (DeviceWrapper.isLoaded library self)
  | .load routerRTPCapabilities => self.load library routerRTPCapabilities
  | .rtpCapabilities => withoutValue (self.rtpCapabilities library)
  | .sctpCapabilities => withoutValue (self.sctpCapabilities library)
  | .canProduce mediaKind => withoutValue (self.canProduce library mediaKind)
  | .createSendTransport texts iceServers iceTransportPolicy =>
      withoutValue (self.createSendTransport library texts iceServers iceTransportPolicy)
  | .createReceiveTransport texts iceServers iceTransportPolicy =>
      withoutValue (self.createReceiveTransport library texts iceServers iceTransportPolicy)

def TransportOperation.call (self : TransportFacade) :
    TransportOperation → ObjCpp (Process World) (Except SwiftError Unit)
  | .id => returning (self.id library)
  | .closed => returning (self.closed library)
  | .connectionState => returning (self.connectionState library)
  | .appData => returning (self.appData library)
  | .stats => returning (self.stats library)
  | .close => returning (self.close library)
  | .dispose => returning (self.dispose library)
  | .restartICE iceParameters => self.restartICE library iceParameters
  | .updateICEServers iceServers => self.updateICEServers library iceServers

def SendTransportOperation.call (self : TransportFacade) :
    SendTransportOperation → ObjCpp (Process World) (Except SwiftError Unit)
  | .transport operation => operation.call library self
  | .createProducer track encodings codecOptions codec appData =>
      withoutValue
        (SendTransport.createProducer library self track encodings codecOptions codec appData)
  | .createScalableProducer track encoding scalabilityMode codecOptions codec appData =>
      withoutValue (SendTransport.createScalableProducer library self track encoding
        scalabilityMode codecOptions codec appData)
  | .produceData texts => withoutValue (SendTransport.produceData library self texts)

def ReceiveTransportOperation.call (self : TransportFacade) :
    ReceiveTransportOperation → ObjCpp (Process World) (Except SwiftError Unit)
  | .transport operation => operation.call library self
  | .consume texts => withoutValue (ReceiveTransport.consume library self texts)
  | .consumeData texts => withoutValue (ReceiveTransport.consumeData library self texts)

def ProducerOperation.call (self : Producer) :
    ProducerOperation World → ObjCpp (Process World) (Except SwiftError Unit)
  | .track => returning self.track
  | .id => returning (self.id library)
  | .localId => returning (self.localId library)
  | .closed => returning (self.closed library)
  | .paused => returning (self.paused library)
  | .kind => returning (pure self.kind)
  | .maxSpatialLayer => returning (self.maxSpatialLayer library)
  | .appData => returning (self.appData library)
  | .rtpParameters => returning (self.rtpParameters library)
  | .stats => returning (self.stats library)
  | .pause => returning (self.pause library)
  | .resume => returning (self.resume library)
  | .close => returning (self.close library)
  | .setMaxSpatialLayer layer => self.setMaxSpatialLayer library layer
  | .updateSenderParameters updater => returning (self.updateSenderParameters library updater)
  | .replaceTrack newTrack => self.replaceTrack library newTrack
  | .getStats => withoutValue Producer.getStats

def ConsumerOperation.call (self : Consumer) :
    ConsumerOperation → ObjCpp (Process World) (Except SwiftError Unit)
  | .track => returning (pure self.consumer.track)
  | .id => returning (self.id library)
  | .localId => returning (self.localId library)
  | .producerId => returning (self.producerId library)
  | .closed => returning (self.closed library)
  | .paused => returning (self.paused library)
  | .kind => returning (pure self.kind)
  | .appData => returning (self.appData library)
  | .rtpParameters => returning (self.rtpParameters library)
  | .stats => returning (self.stats library)
  | .pause => returning (self.pause library)
  | .resume => returning (self.resume library)
  | .close => returning (self.close library)

def DataProducerOperation.call (self : DataProducer) :
    DataProducerOperation → ObjCpp (Process World) (Except SwiftError Unit)
  | .id => returning (self.id library)
  | .localId => returning (self.localId library)
  | .sctpStreamParameters => returning (self.sctpStreamParameters library)
  | .readyState => returning (self.readyState library)
  | .label => returning (self.label library)
  | .protocol => returning (self.protocol library)
  | .bufferedAmount => returning (self.bufferedAmount library)
  | .appData => returning (self.appData library)
  | .closed => returning (self.closed library)
  | .close => returning (self.close library)
  | .send buffer => returning (self.send buffer)

def DataConsumerOperation.call (self : DataConsumer) :
    DataConsumerOperation → ObjCpp (Process World) (Except SwiftError Unit)
  | .id => returning (self.id library)
  | .localId => returning (self.localId library)
  | .producerId => returning (self.producerId library)
  | .closed => returning (self.closed library)
  | .label => returning (self.label library)
  | .dataProtocol => returning (self.dataProtocol library)
  | .appData => returning (self.appData library)
  | .sctpStreamParameters => returning (self.sctpStreamParameters library)
  | .close => returning (self.close library)

/-- The call the application makes, without the value it returns. -/
def Operation.call : Operation World → ObjCpp (Process World) (Except SwiftError Unit)
  | .initCaptureAudioSession captureAudioSession =>
      returning (DeviceWrapper.initCaptureAudioSession library captureAudioSession)
  | .initPCFactory pcFactory => returning (DeviceWrapper.initWithPCFactory library pcFactory)
  | .device self operation => operation.call library self
  | .sendTransport self operation => operation.call library self
  | .receiveTransport self operation => operation.call library self
  | .producer self operation => operation.call library self
  | .consumer self operation => operation.call library self
  | .dataProducer self operation => operation.call library self
  | .dataConsumer self operation => operation.call library self

def Operation.Settles (process : Process World) (operation : Operation World) : Prop :=
  Program.Completes (operation.call library) process

end Calls

/-! ### What an operation runs natively -/

section Work

variable {World : Type} (library : NativeLibrary World) (process : Process World)

/-- A native call under a handler, without its value. -/
def calledWork {α : Type} (call : NativeCall World α) : Except CppException Unit :=
  (call process.native).1.map fun _ => ()

def dumpedWork (json : Json) : Except CppException Unit := (library.dump json).map fun _ => ()

def capabilitiesWork (getCapabilities : Handle → NativeCall World Json) (self : Device) :
    Except CppException Unit := do
  let capabilities ← (getCapabilities self.device process.native).1
  dumpedWork library capabilities

def createTransportWork (create : CreateTransport World) (self : Device) (texts : TransportTexts)
    (iceServers : Option String) (iceTransportPolicy : IceTransportPolicy) :
    Except CppException Unit := do
  let pcOptions ←
    pcOptionsWithICEServers library.parse library.nativeTransportsType self.pcOptions iceServers
      iceTransportPolicy
  let arguments ← texts.arguments library.parse pcOptions
  calledWork process (create self.device process.listenerAdapters.fresh arguments)

/-- The part of `DeviceOperation.call` under a handler that can raise. -/
def DeviceOperation.handledWork (self : Device) : DeviceOperation → Except CppException Unit
  | .load routerRTPCapabilities => do
      let json ← library.parse (stdString routerRTPCapabilities)
      calledWork process (library.load self.device json self.pcOptions)
  | .rtpCapabilities => capabilitiesWork library process library.getRtpCapabilities self
  | .sctpCapabilities => capabilitiesWork library process library.getSctpCapabilities self
  | .canProduce mediaKind =>
      calledWork process (library.canProduce self.device (stdString mediaKind.mediaClientValue))
  | .createSendTransport texts iceServers iceTransportPolicy =>
      createTransportWork library process library.createSendTransport self texts iceServers
        iceTransportPolicy
  | .createReceiveTransport texts iceServers iceTransportPolicy =>
      createTransportWork library process library.createRecvTransport self texts iceServers
        iceTransportPolicy
  | _ => .ok ()

/-- The text `create…Transport` parses before its `try` block. -/
def DeviceOperation.iceServers : DeviceOperation → Option String
  | .createSendTransport _ iceServers _ => iceServers
  | .createReceiveTransport _ iceServers _ => iceServers
  | _ => none

/-- The native transport of an operation's receiver, where it has one. -/
def receiverTransport (self : TransportFacade) : Option Handle :=
  (process.transportIvars self.transport).transport

def parsedTextWork (call : Handle → Json → NativeCall World Unit) (self : TransportFacade)
    (text : String) : Except CppException Unit := do
  let json ← library.parse (stdString text)
  match receiverTransport process self with
  | some transport => calledWork process (call transport json)
  | none => .ok ()

def TransportOperation.handledWork (self : TransportFacade) :
    TransportOperation → Except CppException Unit
  | .restartICE iceParameters => parsedTextWork library process library.restartIce self iceParameters
  | .updateICEServers iceServers =>
      parsedTextWork library process library.updateIceServers self iceServers
  | _ => .ok ()

def statsWork (object : Handle) : Except CppException Unit := do
  let json ← (library.getStats object process.native).1
  dumpedWork library json

/-- The part of `TransportOperation.call` outside any handler that can raise. -/
def TransportOperation.unhandledWork (self : TransportFacade) (operation : TransportOperation) :
    Except CppException Unit :=
  match operation, receiverTransport process self with
  | .appData, some transport => dumpedWork library (library.getAppData transport process.native)
  | .stats, some transport => statsWork library process transport
  | _, _ => .ok ()

def createChildWork {Arguments : Type}
    (create : Handle → AdapterPointer → Arguments → NativeCall World Handle)
    (arguments : Except CppException Arguments) (self : TransportFacade) :
    Except CppException Unit := do
  let converted ← arguments
  match receiverTransport process self with
  | some transport => calledWork process (create transport process.listenerAdapters.fresh converted)
  | none => .ok ()

def createProducerWork (self : TransportFacade) (track : MediaStreamTrack)
    (texts : ProducerTexts) : Except CppException Unit :=
  match MediaKind.initStringValue track.kind with
  | none => .ok ()
  | some _ =>
      createChildWork process library.produce (texts.arguments library.parse track) self

def SendTransportOperation.handledWork (self : TransportFacade) :
    SendTransportOperation → Except CppException Unit
  | .transport operation => operation.handledWork library process self
  | .createProducer track encodings codecOptions codec appData =>
      createProducerWork library process self track
        { encodings := encodings, scalabilityMode := none, codecOptions := codecOptions,
          codec := codec, appData := appData }
  | .createScalableProducer track encoding scalabilityMode codecOptions codec appData =>
      createProducerWork library process self track
        { encodings := some [encoding], scalabilityMode := some scalabilityMode,
          codecOptions := codecOptions, codec := codec, appData := appData }
  | .produceData texts =>
      createChildWork process library.produceData (texts.arguments library.parse) self

def ReceiveTransportOperation.handledWork (self : TransportFacade) :
    ReceiveTransportOperation → Except CppException Unit
  | .transport operation => operation.handledWork library process self
  | .consume texts =>
      createChildWork process library.consume (texts.arguments library.parse) self
  | .consumeData texts =>
      createChildWork process library.consumeData (texts.arguments library.parse) self

def ProducerOperation.handledWork (self : Producer) :
    ProducerOperation World → Except CppException Unit
  | .setMaxSpatialLayer layer =>
      match Producer.typedLayer layer with
      | none => .ok ()
      | some typedLayer =>
          calledWork process (library.setMaxSpatialLayer self.producer.producer typedLayer)
  | .replaceTrack newTrack =>
      calledWork process (library.replaceTrack self.producer.producer newTrack.hash)
  | _ => .ok ()

def ProducerOperation.unhandledWork (self : Producer) :
    ProducerOperation World → Except CppException Unit
  | .appData => dumpedWork library (library.getAppData self.producer.producer process.native)
  | .rtpParameters =>
      dumpedWork library (library.getRtpParameters self.producer.producer process.native)
  | .stats => statsWork library process self.producer.producer
  | _ => .ok ()

/-- What the updater returns can be written back to the native parameters it was
given. -/
def ProducerOperation.WritesBack (self : Producer) : ProducerOperation World → Prop
  | .updateSenderParameters updater =>
      (self.returnedParameters library updater process).wrappedValue.Writable
        (self.oldParameters library process)
  | _ => True

def ConsumerOperation.unhandledWork (self : Consumer) :
    ConsumerOperation → Except CppException Unit
  | .appData => dumpedWork library (library.getAppData self.consumer.consumer process.native)
  | .rtpParameters =>
      dumpedWork library (library.getRtpParameters self.consumer.consumer process.native)
  | .stats => statsWork library process self.consumer.consumer
  | _ => .ok ()

def DataProducerOperation.unhandledWork (self : DataProducer) :
    DataProducerOperation → Except CppException Unit
  | .appData => dumpedWork library (library.getAppData self.producer process.native)
  | .sctpStreamParameters =>
      dumpedWork library (library.getSctpStreamParameters self.producer process.native)
  | _ => .ok ()

def DataConsumerOperation.unhandledWork (self : DataConsumer) :
    DataConsumerOperation → Except CppException Unit
  | .appData => dumpedWork library (library.getAppData self.consumer process.native)
  | .sctpStreamParameters =>
      dumpedWork library (library.getSctpStreamParameters self.consumer process.native)
  | _ => .ok ()

namespace Operation

/-- The native work of an operation that stands under a handler. -/
def handledWork : Operation World → Except CppException Unit
  | .device self operation => operation.handledWork library process self
  | .sendTransport self operation => operation.handledWork library process self
  | .receiveTransport self operation => operation.handledWork library process self
  | .producer self operation => operation.handledWork library process self
  | _ => .ok ()

/-- The native work of an operation that no handler stands around, apart from
the conversion of ICE servers. -/
def unhandledWork : Operation World → Except CppException Unit
  | .sendTransport self (.transport operation) => operation.unhandledWork library process self
  | .receiveTransport self (.transport operation) => operation.unhandledWork library process self
  | .producer self operation => operation.unhandledWork library process self
  | .consumer self operation => operation.unhandledWork library process self
  | .dataProducer self operation => operation.unhandledWork library process self
  | .dataConsumer self operation => operation.unhandledWork library process self
  | _ => .ok ()

def iceServers : Operation World → Option String
  | .device _ operation => operation.iceServers
  | _ => none

def WritesBack : Operation World → Prop
  | .producer self operation => operation.WritesBack library process self
  | _ => True

def UndisposedWrapper (self : TransportFacade) : Prop :=
  ∃ transport listenerAdapter pcFactory, process.transportIvars self.transport =
    { transport := some transport, listenerAdapter := some listenerAdapter, pcFactory := pcFactory }

/-- The receiver is open or closed, but no disposed transport. -/
def Undisposed : Operation World → Prop
  | .sendTransport self _ => UndisposedWrapper process self
  | .receiveTransport self _ => UndisposedWrapper process self
  | _ => True

end Operation

end Work

end MediasoupClientSwift
