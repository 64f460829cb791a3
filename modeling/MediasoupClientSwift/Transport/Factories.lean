import MediasoupClientSwift.Device.Device
import MediasoupClientSwift.Media.Consumer
import MediasoupClientSwift.Media.Producer

/-!
Owns the factories of the two transports: `createProducer` in its two
overloads, `produceData`, `consume` and `consumeData`, each with the conversion
of its arguments and its `mediasoupTryWithResult` block, which deletes the
listener adapter when the block raises.
-/

namespace MediasoupClientSwift

open Library

variable {World : Type} (library : NativeLibrary World)

/-- The loop body that builds one native encoding; the fields it does not set
keep the native defaults. -/
def nativeEncoding (scalabilityMode : Option String) (encoding : RTCRtpEncodingParameters) :
    Webrtc.RtpEncodingParameters where
  active := encoding.isActive
  maxBitrateBps := encoding.maxBitrateBps.map NSNumber.intValue
  minBitrateBps := encoding.minBitrateBps.map NSNumber.intValue
  maxFramerate := encoding.maxFramerate.map NSNumber.doubleValue
  numTemporalLayers := encoding.numTemporalLayers.map NSNumber.intValue
  scaleResolutionDownBy := encoding.scaleResolutionDownBy.map NSNumber.doubleValue
  scalabilityMode := scalabilityMode.map stdString

/-- What a producer is created from, besides its track. -/
structure ProducerTexts where
  encodings : Option (List RTCRtpEncodingParameters)
  scalabilityMode : Option String
  codecOptions : Option String
  codec : Option String
  appData : Option String

/-- The conversions of `createProducerForTrack:`, in order. `codecJsonPtr` stays
null where no codec is given. -/
def ProducerTexts.arguments (parse : Bytes → Except CppException Json) (texts : ProducerTexts)
    (mediaTrack : MediaStreamTrack) : Except CppException ProduceArguments := do
  let encodingsVector := (texts.encodings.getD []).map (nativeEncoding texts.scalabilityMode)
  let codecOptionsJson ← parseOptional parse texts.codecOptions (.object [])
  let codecJson ← parseOptional parse texts.codec (.object [])
  let appDataJson ← parseOptional parse texts.appData (.object [])
  pure
    { track := mediaTrack.hash
      encodings := encodingsVector
      codecOptions := codecOptionsJson
      codec := if texts.codec.isSome then some codecJson else none
      appData := appDataJson }

structure DataProducerTexts where
  label : String
  protocol : String
  ordered : Bool
  maxRetransmits : Int32
  maxPacketLifeTime : Int32
  appData : Option String

def DataProducerTexts.arguments (parse : Bytes → Except CppException Json)
    (texts : DataProducerTexts) : Except CppException ProduceDataArguments := do
  let appDataJson ← parseOptional parse texts.appData (.object [])
  pure
    { label := stdString texts.label
      protocol := stdString texts.protocol
      ordered := texts.ordered
      maxRetransmits := texts.maxRetransmits
      maxPacketLifeTime := texts.maxPacketLifeTime
      appData := appDataJson }

structure ConsumerTexts where
  consumerId : String
  producerId : String
  kind : MediaKind
  rtpParameters : String
  appData : Option String

def ConsumerTexts.arguments (parse : Bytes → Except CppException Json) (texts : ConsumerTexts) :
    Except CppException ConsumeArguments := do
  let rtpParametersJSON ← parse (stdString texts.rtpParameters)
  let appDataJSON ← parseOptional parse texts.appData (.object [])
  pure
    { consumerId := stdString texts.consumerId
      producerId := stdString texts.producerId
      kind := stdString texts.kind.mediaClientValue
      rtpParameters := rtpParametersJSON
      appData := appDataJSON }

structure DataConsumerTexts where
  consumerId : String
  producerId : String
  streamId : UInt16
  label : String
  protocol : Option String
  appData : Option String

def DataConsumerTexts.arguments (parse : Bytes → Except CppException Json)
    (texts : DataConsumerTexts) : Except CppException ConsumeDataArguments := do
  let appDataJSON ← parseOptional parse texts.appData (.object [])
  pure
    { consumerId := stdString texts.consumerId
      producerId := stdString texts.producerId
      streamId := texts.streamId
      label := stdString texts.label
      protocol := (texts.protocol.map stdString).getD []
      appData := appDataJSON }

section Shape

variable {Arguments Wrapper : Type}
  (create : Handle → AdapterPointer → Arguments → NativeCall World Handle)
  (wrap : Handle → AdapterPointer → ObjCpp (Process World) Wrapper)
  (arguments : Except CppException Arguments) (self : Address)

/-- The guarded block of a factory: convert the arguments, call the native
factory on the transport and wrap its object. -/
def createChildBlock (listenerAdapter : AdapterPointer) :
    ObjCpp (Process World) (Option Wrapper) := do
  let converted ← throwing arguments
  let transport ← TransportWrapper.transport self
  let object ← callNative (create transport listenerAdapter converted)
  let wrapper ← wrap object listenerAdapter
  pure (some wrapper)

def createChild : ObjCpp (Process World) (Option Wrapper × Option NSError) := do
  let listenerAdapter ← newListenerAdapter
  mediasoupTryWithResult (createChildBlock create wrap arguments self listenerAdapter)
    (some (deleteListenerAdapter listenerAdapter))

end Shape

namespace SendTransportWrapper

/-- `createProducerForTrack:encodings:scalabilityMode:codecOptions:codec:appData:`. -/
def createProducerForTrack (self : Address) (mediaTrack : MediaStreamTrack)
    (texts : ProducerTexts) : ObjCpp (Process World) (Option ProducerWrapper × Option NSError) :=
  createChild library.produce
    (fun producer listenerAdapter =>
      ProducerWrapper.initWithProducer producer mediaTrack listenerAdapter)
    (texts.arguments library.parse mediaTrack) self

/-- `createProducerForTrack:encodings:codecOptions:codec:appData:`. -/
def createProducerForTrackEncodings (self : Address) (mediaTrack : MediaStreamTrack)
    (encodings : Option (List RTCRtpEncodingParameters))
    (codecOptions codec appData : Option String) :
    ObjCpp (Process World) (Option ProducerWrapper × Option NSError) :=
  createProducerForTrack library self mediaTrack
    { encodings := encodings, scalabilityMode := none, codecOptions := codecOptions,
      codec := codec, appData := appData }

/-- `createProducerForTrack:encoding:scalabilityMode:codecOptions:codec:appData:`. -/
def createProducerForTrackEncoding (self : Address) (mediaTrack : MediaStreamTrack)
    (encoding : RTCRtpEncodingParameters) (scalabilityMode : String)
    (codecOptions codec appData : Option String) :
    ObjCpp (Process World) (Option ProducerWrapper × Option NSError) :=
  createProducerForTrack library self mediaTrack
    { encodings := some [encoding], scalabilityMode := some scalabilityMode,
      codecOptions := codecOptions, codec := codec, appData := appData }

def createDataProducerWithLabel (self : Address) (texts : DataProducerTexts) :
    ObjCpp (Process World) (Option DataProducer × Option NSError) :=
  createChild library.produceData
    (fun producer listenerAdapter =>
      pure { producer := producer, listenerAdapter := listenerAdapter })
    (texts.arguments library.parse) self

end SendTransportWrapper

namespace ReceiveTransportWrapper

def createConsumerWithId (self : Address) (texts : ConsumerTexts) :
    ObjCpp (Process World) (Option ConsumerWrapper × Option NSError) :=
  createChild library.consume
    (fun consumer listenerAdapter => do
      let track ← readNative (library.getTrack consumer)
      pure { consumer := consumer, track := track, listenerAdapter := listenerAdapter })
    (texts.arguments library.parse) self

def createDataConsumerWithId (self : Address) (texts : DataConsumerTexts) :
    ObjCpp (Process World) (Option DataConsumer × Option NSError) :=
  createChild library.consumeData
    (fun consumer listenerAdapter =>
      pure { consumer := consumer, listenerAdapter := listenerAdapter })
    (texts.arguments library.parse) self

end ReceiveTransportWrapper

namespace SendTransport

/-- The body of both overloads of `createProducer`, which differ in the method of the
wrapper. -/
def createProducerWith (track : MediaStreamTrack)
    (method : ObjCpp (Process World) (Option ProducerWrapper × Option NSError)) :
    SwiftCall (Process World) Producer :=
  match MediaKind.initStringValue track.kind with
  | none => swiftThrow (.mediasoupError (.invalidParameters "Unknown media kind"))
  | some mediaKind =>
      convertMediasoupErrors (mapResult
        (fun producer => { producer := producer, kind := mediaKind }) (nilResultCall method))

/-- `createProducer(for:encodings:codecOptions:codec:appData:)`. -/
def createProducer (self : TransportFacade) (track : MediaStreamTrack)
    (encodings : Option (List RTCRtpEncodingParameters))
    (codecOptions codec appData : Option String) : SwiftCall (Process World) Producer :=
  createProducerWith track
    (SendTransportWrapper.createProducerForTrackEncodings library self.transport track encodings
      codecOptions codec appData)

/-- `createProducer(for:encoding:scalabilityMode:codecOptions:codec:appData:)`. -/
def createScalableProducer (self : TransportFacade) (track : MediaStreamTrack)
    (encoding : RTCRtpEncodingParameters) (scalabilityMode : String)
    (codecOptions codec appData : Option String) : SwiftCall (Process World) Producer :=
  createProducerWith track
    (SendTransportWrapper.createProducerForTrackEncoding library self.transport track encoding
      scalabilityMode codecOptions codec appData)

def produceData (self : TransportFacade) (texts : DataProducerTexts) :
    SwiftCall (Process World) DataProducer :=
  convertMediasoupErrors (nilResultCall
    (SendTransportWrapper.createDataProducerWithLabel library self.transport texts))

end SendTransport

namespace ReceiveTransport

def consume (self : TransportFacade) (texts : ConsumerTexts) :
    SwiftCall (Process World) Consumer :=
  convertMediasoupErrors (mapResult
    (fun consumer => { consumer := consumer, kind := texts.kind })
    (nilResultCall (ReceiveTransportWrapper.createConsumerWithId library self.transport texts)))

def consumeData (self : TransportFacade) (texts : DataConsumerTexts) :
    SwiftCall (Process World) DataConsumer :=
  convertMediasoupErrors (nilResultCall
    (ReceiveTransportWrapper.createDataConsumerWithId library self.transport texts))

end ReceiveTransport

end MediasoupClientSwift
