import MediasoupClientSwift.Device.IceServers
import MediasoupClientSwift.Rtp.Sender

/-!
Owns the interface of the native libraries the wrappers call: JSON parsing and
dumping, the native form of a transport policy, the methods of the native objects,
and the RTP sender of a producer.
It states no law: which calls raise, and when, is up to the library, except that
getters, `Close`, `Pause`, `Resume` and destructors return. It does not own the
listener adapters, which are C++ classes of this program.
-/

namespace MediasoupClientSwift

open Library

abbrev Handle := Nat

abbrev AdapterPointer := Nat

/-- `RTCMediaStreamTrack`: its `hash`, which is the native track, and its kind. -/
structure MediaStreamTrack where
  hash : Nat
  kind : String
deriving DecidableEq, Repr

/-- A native call: it returns a value or raises, and changes the native world. -/
abbrev NativeCall (World α : Type) := Program CppException World α

/-- The arguments of `CreateSendTransport` and `CreateRecvTransport` after the
listener. -/
structure TransportArguments where
  id : Bytes
  iceParameters : Json
  iceCandidates : Json
  dtlsParameters : Json
  sctpParameters : Json
  pcOptions : PcOptions
  appData : Json

structure ProduceArguments where
  track : Nat
  encodings : List Webrtc.RtpEncodingParameters
  codecOptions : Json
  codec : Option Json
  appData : Json

structure ProduceDataArguments where
  label : Bytes
  protocol : Bytes
  ordered : Bool
  maxRetransmits : Int32
  maxPacketLifeTime : Int32
  appData : Json

structure ConsumeArguments where
  consumerId : Bytes
  producerId : Bytes
  kind : Bytes
  rtpParameters : Json
  appData : Json

structure ConsumeDataArguments where
  consumerId : Bytes
  producerId : Bytes
  streamId : UInt16
  label : Bytes
  protocol : Bytes
  appData : Json

/-- `DataChannelInterface::DataState`. -/
inductive NativeDataState where
  | kConnecting
  | kOpen
  | kClosing
  | kClosed
deriving DecidableEq, Repr

/-- The native libraries over a native world. A method that several native
classes have is one function of the object. -/
structure NativeLibrary (World : Type) where
  parse : Bytes → Except CppException Json
  nativeTransportsType : IceTransportPolicy → IceTransportsType
  dump : Json → Except CppException Bytes
  newDevice : World → Handle × World
  deleteDevice : Handle → World → World
  isLoaded : Handle → World → Bool
  load : Handle → Json → PcOptions → NativeCall World Unit
  getSctpCapabilities : Handle → NativeCall World Json
  getRtpCapabilities : Handle → NativeCall World Json
  canProduce : Handle → Bytes → NativeCall World Bool
  createSendTransport : Handle → AdapterPointer → TransportArguments → NativeCall World Handle
  createRecvTransport : Handle → AdapterPointer → TransportArguments → NativeCall World Handle
  getId : Handle → World → Bytes
  getLocalId : Handle → World → Bytes
  getProducerId : Handle → World → Bytes
  getConnectionState : Handle → World → Bytes
  getLabel : Handle → World → Bytes
  getProtocol : Handle → World → Bytes
  isClosed : Handle → World → Bool
  isPaused : Handle → World → Bool
  getMaxSpatialLayer : Handle → World → UInt8
  getReadyState : Handle → World → NativeDataState
  getBufferedAmount : Handle → World → UInt64
  getTrack : Handle → World → MediaStreamTrack
  getAppData : Handle → World → Json
  getRtpParameters : Handle → World → Json
  getSctpStreamParameters : Handle → World → Json
  getStats : Handle → NativeCall World Json
  close : Handle → World → World
  pause : Handle → World → World
  resume : Handle → World → World
  delete : Handle → World → World
  restartIce : Handle → Json → NativeCall World Unit
  updateIceServers : Handle → Json → NativeCall World Unit
  produce : Handle → AdapterPointer → ProduceArguments → NativeCall World Handle
  produceData : Handle → AdapterPointer → ProduceDataArguments → NativeCall World Handle
  consume : Handle → AdapterPointer → ConsumeArguments → NativeCall World Handle
  consumeData : Handle → AdapterPointer → ConsumeDataArguments → NativeCall World Handle
  setMaxSpatialLayer : Handle → UInt8 → NativeCall World Unit
  replaceTrack : Handle → Nat → NativeCall World Unit
  getRtpSender : Handle → World → Handle
  getParameters : Handle → World → Webrtc.RtpParameters × World
  setParameters : Handle → Webrtc.RtpParameters → World → Bool × World

/-! ### A small library for concrete runs -/

/-- Whether the device is loaded and the objects are closed, and the sender of
the producer. -/
structure SampleWorld where
  loaded : Bool
  closed : Bool
  sender : Webrtc.RtpSender
deriving DecidableEq, Repr

namespace SampleWorld

def raise {α : Type} (exceptionClass : ExceptionClass) (what : String) :
    NativeCall SampleWorld α :=
  Program.abort { exceptionClass := exceptionClass, what := utf8Bytes what }

/-- The device's methods raise while it is not loaded. -/
def whenLoaded {α : Type} (value : α) : NativeCall SampleWorld α := fun world =>
  if world.loaded then (.ok value, world)
  else raise .mediaSoupClientInvalidStateError "not loaded" world

/-- The objects' methods raise once they are closed. -/
def whenOpen {α : Type} (value : α) : NativeCall SampleWorld α := fun world =>
  if world.closed then raise .mediaSoupClientInvalidStateError "Producer closed" world
  else (.ok value, world)

end SampleWorld

open SampleWorld in
/-- A library that knows one JSON text, `{}`, and one object of each class. -/
def sampleLibrary : NativeLibrary SampleWorld where
  parse bytes :=
    if bytes = utf8Bytes "{}" then .ok (.object [])
    else .error { exceptionClass := .stdException,
                  what := utf8Bytes "[json.exception.parse_error.101] parse error" }
  nativeTransportsType
    | .none => .kNone
    | .relay => .kRelay
    | .noHost => .kNoHost
    | .all => .kAll
  dump _ := .ok (utf8Bytes "{}")
  newDevice world := (0, world)
  deleteDevice _ world := world
  isLoaded _ world := world.loaded
  load _ _ _ := fun world => (.ok (), { world with loaded := true })
  getSctpCapabilities _ := whenLoaded (.object [])
  getRtpCapabilities _ := whenLoaded (.object [])
  canProduce _ _ := whenLoaded true
  createSendTransport _ _ _ := whenLoaded 1
  createRecvTransport _ _ _ := whenLoaded 2
  getId _ _ := utf8Bytes "id"
  getLocalId _ _ := utf8Bytes "id"
  getProducerId _ _ := utf8Bytes "id"
  getConnectionState _ _ := utf8Bytes "new"
  getLabel _ _ := []
  getProtocol _ _ := []
  isClosed _ world := world.closed
  isPaused _ _ := false
  getMaxSpatialLayer _ _ := 0
  getReadyState _ _ := .kOpen
  getBufferedAmount _ _ := 0
  getTrack _ _ := { hash := 0, kind := "audio" }
  getAppData _ _ := .object []
  getRtpParameters _ _ := .object []
  getSctpStreamParameters _ _ := .object []
  getStats _ := whenOpen (.object [])
  close _ world := { world with closed := true }
  pause _ world := world
  resume _ world := world
  delete _ world := world
  restartIce _ _ := whenOpen ()
  updateIceServers _ _ := whenOpen ()
  produce _ _ _ := whenOpen 3
  produceData _ _ _ := whenOpen 4
  consume _ _ _ := whenOpen 5
  consumeData _ _ _ := whenOpen 6
  setMaxSpatialLayer _ _ := whenOpen ()
  replaceTrack _ _ := whenOpen ()
  getRtpSender _ _ := 7
  getParameters _ world :=
    let got := world.sender.getParameters
    (got.1, { world with sender := got.2 })
  setParameters _ new world :=
    let set := world.sender.setParameters (fun _ _ => true) new
    (set.1, { world with sender := set.2 })

end MediasoupClientSwift
