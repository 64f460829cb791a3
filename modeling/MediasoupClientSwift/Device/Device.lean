import MediasoupClientSwift.Transport.Transport

/-!
Owns `DeviceWrapper` and its Swift facade `Device`: construction, loading, the
capabilities, and the two transport factories, which convert their ICE servers
before the `try` block and report every exception in it under one code. The
audio session's own machine stands in `Device.AudioSession`.
-/

namespace MediasoupClientSwift

open Library

variable {World : Type} (library : NativeLibrary World)

/-- `DeviceWrapper`, held by its facade `Device`. -/
structure Device where
  device : Handle
  pcOptions : PcOptions
  pcFactory : PCFactory
  captureAudioSession : Bool
deriving DecidableEq, Repr

namespace DeviceWrapper

/-- `PeerConnection::Options()` with the factory set. -/
def defaultPcOptions (pcFactory : PCFactory) : PcOptions where
  config := { type := .kAll, servers := [], others := [] }
  factory := pcFactory

/-- The body of `initWithPCFactory:`. -/
def construct (pcFactory : PCFactory) (captureAudioSession : Bool) : ObjCpp (Process World) Device :=
  fun process =>
    let (device, native) := library.newDevice process.native
    (.ok { device := device
           pcOptions := defaultPcOptions pcFactory
           pcFactory := pcFactory
           captureAudioSession := captureAudioSession },
      { process with native := native })

def initWithPCFactory (pcFactory : PCFactory) : ObjCpp (Process World) Device :=
  construct library pcFactory false

def retainAudioSession (self : Device) : ObjCpp (Process World) Unit :=
  postTask self.pcFactory .start

def releaseAudioSession (self : Device) : ObjCpp (Process World) Unit :=
  postTask self.pcFactory .stop

/-- `createPeerConnectionFactory` allocates the factory. -/
def initCaptureAudioSession (captureAudioSession : Bool) : ObjCpp (Process World) Device := do
  let process ← Program.get
  Program.modify fun process => { process with nextFactory := process.nextFactory + 1 }
  let self ← construct library (.made process.nextFactory) captureAudioSession
  if captureAudioSession then retainAudioSession self
  pure self

def dealloc (self : Device) : ObjCpp (Process World) Unit := do
  if self.captureAudioSession then releaseAudioSession self
  runNative (library.deleteDevice self.device)

def isLoaded (self : Device) : ObjCpp (Process World) Bool :=
  readNative (library.isLoaded self.device)

/-- `loadWithRouterRTPCapabilities:`. -/
def load (self : Device) (routerRTPCapabilities : String) :
    ObjCpp (Process World) (Unit × Option NSError) :=
  mediasoupTry do
    let routerRTPCapabilitiesJSON ← throwing (library.parse (stdString routerRTPCapabilities))
    callNative (library.load self.device routerRTPCapabilitiesJSON self.pcOptions)

/-- The two capabilities methods, which differ in the native getter only. -/
def capabilitiesWithError (getCapabilities : Handle → NativeCall World Json) (self : Device) :
    ObjCpp (Process World) (Option String × Option NSError) :=
  mediasoupTryWithResult (do
    let capabilities ← callNative (getCapabilities self.device)
    let text ← throwing (library.dump capabilities)
    pure (stringWithUTF8String text)) none

def sctpCapabilities (self : Device) : ObjCpp (Process World) (Option String × Option NSError) :=
  capabilitiesWithError library library.getSctpCapabilities self

def rtpCapabilities (self : Device) : ObjCpp (Process World) (Option String × Option NSError) :=
  capabilitiesWithError library library.getRtpCapabilities self

def canProduce (self : Device) (mediaKind : String) :
    ObjCpp (Process World) (Bool × Option NSError) :=
  mediasoupTryWithBool (callNative (library.canProduce self.device (stdString mediaKind)))

end DeviceWrapper

structure TransportTexts where
  id : String
  iceParameters : String
  iceCandidates : String
  dtlsParameters : String
  sctpParameters : Option String
  appData : Option String

/-- `nlohmann::json::parse` of a text that may be nil, with the value used then. -/
def parseOptional (parse : Bytes → Except CppException Json) (text : Option String)
    (absent : Json) : Except CppException Json :=
  match text with
  | some text => parse (stdString text)
  | none => .ok absent

/-- The conversions at the head of the `try` block, in order. -/
def TransportTexts.arguments (parse : Bytes → Except CppException Json) (texts : TransportTexts)
    (pcOptions : PcOptions) : Except CppException TransportArguments := do
  let iceParametersJSON ← parse (stdString texts.iceParameters)
  let iceCandidatesJSON ← parse (stdString texts.iceCandidates)
  let dtlsParametersJSON ← parse (stdString texts.dtlsParameters)
  let sctpParametersJSON ← parseOptional parse texts.sctpParameters .null
  let appDataJSON ← parseOptional parse texts.appData (.object [])
  pure
    { id := stdString texts.id
      iceParameters := iceParametersJSON
      iceCandidates := iceCandidatesJSON
      dtlsParameters := dtlsParametersJSON
      sctpParameters := sctpParametersJSON
      pcOptions := pcOptions
      appData := appDataJSON }

/-- `CreateSendTransport` or `CreateRecvTransport`. -/
abbrev CreateTransport (World : Type) :=
  Handle → AdapterPointer → TransportArguments → NativeCall World Handle

namespace DeviceWrapper

/-- The `try` block of the transport factories. -/
def createTransportBlock (create : CreateTransport World) (self : Device)
    (texts : TransportTexts) (pcOptions : PcOptions) (listenerAdapter : AdapterPointer) :
    ObjCpp (Process World) (Option TransportFacade) := do
  let arguments ← throwing (texts.arguments library.parse pcOptions)
  let transport ← callNative (create self.device listenerAdapter arguments)
  let wrapper ← TransportWrapper.initWithTransport transport self.pcFactory listenerAdapter
  pure (some ⟨wrapper⟩)

/-- `create…TransportWithId:…pcOptions:…`; the two differ in the native call only. -/
def createTransportWithPcOptions (create : CreateTransport World) (self : Device)
    (texts : TransportTexts) (pcOptions : PcOptions) :
    ObjCpp (Process World) (Option TransportFacade × Option NSError) := do
  let listenerAdapter ← newListenerAdapter
  guarded createTransportClauses false
    (createTransportBlock library create self texts pcOptions listenerAdapter)
    (deleteListenerAdapter listenerAdapter)
    (pure none)

/-- `create…TransportWithId:…iceServers:iceTransportPolicy:…`. -/
def createTransport (create : CreateTransport World) (self : Device) (texts : TransportTexts)
    (iceServers : Option String) (iceTransportPolicy : IceTransportPolicy) :
    ObjCpp (Process World) (Option TransportFacade × Option NSError) := do
  let pcOptions ← throwing
    (pcOptionsWithICEServers library.parse library.nativeTransportsType self.pcOptions iceServers
      iceTransportPolicy)
  createTransportWithPcOptions library create self texts pcOptions

def createSendTransportWithId (self : Device) (texts : TransportTexts)
    (iceServers : Option String) (iceTransportPolicy : IceTransportPolicy) :
    ObjCpp (Process World) (Option TransportFacade × Option NSError) :=
  createTransport library library.createSendTransport self texts iceServers iceTransportPolicy

def createReceiveTransportWithId (self : Device) (texts : TransportTexts)
    (iceServers : Option String) (iceTransportPolicy : IceTransportPolicy) :
    ObjCpp (Process World) (Option TransportFacade × Option NSError) :=
  createTransport library library.createRecvTransport self texts iceServers iceTransportPolicy

end DeviceWrapper

namespace Device

def load (self : Device) (routerRTPCapabilities : String) : SwiftCall (Process World) Unit :=
  convertMediasoupErrors
    (nonnullErrorCall (DeviceWrapper.load library self routerRTPCapabilities))

def rtpCapabilities (self : Device) : SwiftCall (Process World) String :=
  convertMediasoupErrors (nilResultCall (DeviceWrapper.rtpCapabilities library self))

def sctpCapabilities (self : Device) : SwiftCall (Process World) String :=
  convertMediasoupErrors (nilResultCall (DeviceWrapper.sctpCapabilities library self))

def canProduce (self : Device) (mediaKind : MediaKind) : SwiftCall (Process World) Bool :=
  convertMediasoupErrors
    (nonnullErrorCall (DeviceWrapper.canProduce library self mediaKind.mediaClientValue))

def createSendTransport (self : Device) (texts : TransportTexts) (iceServers : Option String)
    (iceTransportPolicy : IceTransportPolicy) : SwiftCall (Process World) TransportFacade :=
  convertMediasoupErrors (nilResultCall
    (DeviceWrapper.createSendTransportWithId library self texts iceServers iceTransportPolicy))

def createReceiveTransport (self : Device) (texts : TransportTexts) (iceServers : Option String)
    (iceTransportPolicy : IceTransportPolicy) : SwiftCall (Process World) TransportFacade :=
  convertMediasoupErrors (nilResultCall
    (DeviceWrapper.createReceiveTransportWithId library self texts iceServers iceTransportPolicy))

end Device

end MediasoupClientSwift
