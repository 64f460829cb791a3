import MediasoupClientSwift.Rtp.Conversion
import MediasoupClientSwift.Transport.Transport

/-!
Owns `ProducerWrapper` and its Swift facade `Producer`: the properties, the
calls that pass a handler, the sender-parameter update, which reads, lets the
application edit, and writes back, and the calls that reach Swift unconverted.
-/

namespace MediasoupClientSwift

open Library

variable {World α : Type} (library : NativeLibrary World)

/-- `ProducerWrapper`; its `track` is kept in the process, at `address`. -/
structure ProducerWrapper where
  address : Address
  producer : Handle
  listenerAdapter : AdapterPointer
deriving DecidableEq, Repr

structure Producer where
  producer : ProducerWrapper
  kind : MediaKind
deriving DecidableEq, Repr

namespace ProducerWrapper

def setTrack (address : Address) (track : MediaStreamTrack) : ObjCpp (Process World) Unit :=
  Program.modify fun process =>
    { process with producerTrack := Function.update process.producerTrack address track }

/-- `initWithProducer:mediaStreamTrack:listenerAdapter:`. -/
def initWithProducer (producer : Handle) (track : MediaStreamTrack)
    (listenerAdapter : AdapterPointer) : ObjCpp (Process World) ProducerWrapper := do
  let self ← allocWrapper
  setTrack self track
  pure { address := self, producer := producer, listenerAdapter := listenerAdapter }

def dealloc (self : ProducerWrapper) : ObjCpp (Process World) Unit := do
  runNative (library.delete self.producer)
  deleteListenerAdapter self.listenerAdapter

def setMaxSpatialLayer (self : ProducerWrapper) (layer : UInt8) :
    ObjCpp (Process World) (Unit × Option NSError) :=
  mediasoupTry (callNative (library.setMaxSpatialLayer self.producer layer))

def replaceTrack (self : ProducerWrapper) (track : MediaStreamTrack) :
    ObjCpp (Process World) (Unit × Option NSError) :=
  mediasoupTry do
    callNative (library.replaceTrack self.producer track.hash)
    setTrack self.address track

/-- What `updateRTPParameters:` keeps on its stack while the updater runs. -/
structure OpenUpdate where
  sender : Handle
  parameters : Webrtc.RtpParameters
deriving DecidableEq, Repr

/-- `GetParameters` of a sender, which may change the sender. -/
def readParameters (sender : Handle) : ObjCpp (Process World) Webrtc.RtpParameters :=
  fun process =>
    let got := library.getParameters sender process.native
    (.ok got.1, { process with native := got.2 })

/-- `updateRTPParameters:` up to the call of the updater, with what the updater gets. -/
def beginUpdate (self : ProducerWrapper) :
    ObjCpp (Process World) (OpenUpdate × WrappedRTPParameters) := do
  let sender ← readNative (library.getRtpSender self.producer)
  let parameters ← readParameters library sender
  let wrappedOldParameters :=
    WrappedRTPParameters.initWithEncodings parameters.encodings parameters.degradationPreference
  pure ({ sender := sender, parameters := parameters }, wrappedOldParameters)

/-- The rest of it. The result of `SetParameters` is dropped. -/
def finishUpdate (update : OpenUpdate) (wrappedNewParameters : WrappedRTPParameters) :
    ObjCpp (Process World) Unit := do
  match updatedNativeParameters update.parameters wrappedNewParameters with
  | none => Program.abort .undefinedBehaviour
  | some written => runNative fun native => (library.setParameters update.sender written native).2

/-- Application code run by an update: it may call the library itself. -/
abbrev Updater (World α : Type) := α → Process World → α × Process World

def runUpdater (updater : Updater World α) (oldValue : α) : ObjCpp (Process World) α :=
  fun process =>
    let updated := updater oldValue process
    (.ok updated.1, updated.2)

def updateRTPParameters (self : ProducerWrapper) (updater : Updater World WrappedRTPParameters) :
    ObjCpp (Process World) Unit := do
  let (update, wrappedOldParameters) ← beginUpdate library self
  let wrappedNewParameters ← runUpdater updater wrappedOldParameters
  finishUpdate library update wrappedNewParameters

/-- `getStatsWithError:` returns nil and sets no error. -/
def getStatsWithError : ObjCpp (Process World) (Option String × Option NSError) :=
  pure (none, none)

end ProducerWrapper

namespace Producer

def track (self : Producer) : ObjCpp (Process World) MediaStreamTrack := do
  let process ← Program.get
  pure (process.producerTrack self.producer.address)

def id (self : Producer) : ObjCpp (Process World) String :=
  textProperty (library.getId self.producer.producer)

def localId (self : Producer) : ObjCpp (Process World) String :=
  textProperty (library.getLocalId self.producer.producer)

def closed (self : Producer) : ObjCpp (Process World) Bool :=
  readNative (library.isClosed self.producer.producer)

def paused (self : Producer) : ObjCpp (Process World) Bool :=
  readNative (library.isPaused self.producer.producer)

def maxSpatialLayer (self : Producer) : ObjCpp (Process World) UInt8 :=
  readNative (library.getMaxSpatialLayer self.producer.producer)

def appData (self : Producer) : ObjCpp (Process World) String :=
  jsonProperty library (library.getAppData self.producer.producer)

def rtpParameters (self : Producer) : ObjCpp (Process World) String :=
  jsonProperty library (library.getRtpParameters self.producer.producer)

def stats (self : Producer) : ObjCpp (Process World) String :=
  statsProperty library self.producer.producer

def pause (self : Producer) : ObjCpp (Process World) Unit :=
  runNative (library.pause self.producer.producer)

def resume (self : Producer) : ObjCpp (Process World) Unit :=
  runNative (library.resume self.producer.producer)

def close (self : Producer) : ObjCpp (Process World) Unit :=
  runNative (library.close self.producer.producer)

/-- `UInt8(exactly:)`. -/
def typedLayer (layer : Int64) : Option UInt8 :=
  if 0 ≤ layer.toInt ∧ layer.toInt < 256 then some (UInt8.ofNat layer.toInt.toNat) else none

def setMaxSpatialLayer (self : Producer) (layer : Int64) : SwiftCall (Process World) Unit :=
  match typedLayer layer with
  | none =>
      swiftThrow (.mediasoupError (.invalidParameters "Layer index can not be negative"))
  | some typedLayer =>
      nonnullErrorCall (ProducerWrapper.setMaxSpatialLayer library self.producer typedLayer)

/-- The updater as the wrapper's block sees it. -/
def wrappedUpdater (updater : ProducerWrapper.Updater World RTPParameters) :
    ProducerWrapper.Updater World WrappedRTPParameters := fun oldValue process =>
  let updatedValue := updater (RTPParameters.initFrom oldValue) process
  (updatedValue.1.wrappedValue, updatedValue.2)

def updateSenderParameters (self : Producer)
    (updater : ProducerWrapper.Updater World RTPParameters) : ObjCpp (Process World) Unit :=
  ProducerWrapper.updateRTPParameters library self.producer (wrappedUpdater updater)

def sender (self : Producer) (process : Process World) : Handle :=
  library.getRtpSender self.producer.producer process.native

def oldParameters (self : Producer) (process : Process World) : Webrtc.RtpParameters :=
  (library.getParameters (self.sender library process) process.native).1

def updaterRun (self : Producer) (updater : ProducerWrapper.Updater World RTPParameters)
    (process : Process World) : RTPParameters × Process World :=
  let got := library.getParameters (self.sender library process) process.native
  updater
    (RTPParameters.initFrom
      (WrappedRTPParameters.initWithEncodings got.1.encodings got.1.degradationPreference))
    { process with native := got.2 }

/-- What the updater returns to the call. -/
def returnedParameters (self : Producer) (updater : ProducerWrapper.Updater World RTPParameters)
    (process : Process World) : RTPParameters :=
  (self.updaterRun library updater process).1

/-- The two halves of an update, with the application's updater between them, are
the update. -/
theorem updateSenderParameters_eq (self : Producer)
    (updater : ProducerWrapper.Updater World RTPParameters) :
    self.updateSenderParameters library updater =
      (ProducerWrapper.beginUpdate library self.producer >>= fun begun =>
        ProducerWrapper.runUpdater updater (RTPParameters.initFrom begun.2) >>= fun updatedValue =>
          ProducerWrapper.finishUpdate library begun.1 updatedValue.wrappedValue) := rfl

def replaceTrack (self : Producer) (track : MediaStreamTrack) : SwiftCall (Process World) Unit :=
  nonnullErrorCall (ProducerWrapper.replaceTrack library self.producer track)

def getStats : SwiftCall (Process World) String :=
  nilResultCall ProducerWrapper.getStatsWithError

end Producer

end MediasoupClientSwift
