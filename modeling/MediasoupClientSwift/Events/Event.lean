import MediasoupClientSwift.Foundation.Text
import MediasoupClientSwift.Media.Kinds

/-!
Owns the events native objects report to their listener adapters, and what
becomes of their arguments on the way to the application: the adapters turn C
strings and buffers into Objective-C objects, the facades parse connection
states and media kinds. It does not own the links an event travels along.
-/

namespace MediasoupClientSwift

inductive ObjectKind where
  | sendTransport
  | receiveTransport
  | producer
  | consumer
  | dataProducer
  | dataConsumer
deriving DecidableEq, Repr

def ObjectKind.isTransport : ObjectKind → Bool
  | .sendTransport => true
  | .receiveTransport => true
  | _ => false

/-- A text the native library passes as a `c_str()`: UTF-8 without a NUL. -/
structure NativeText where
  text : String
  nulFree : 0 ∉ utf8Bytes text

/-- The callbacks of the six listener classes, over the representation of texts,
connection states and media kinds. A produce callback is named by a number. -/
inductive Event (Text State Kind : Type) where
  | sendTransportOnConnect (dtlsParameters : Text)
  | sendTransportOnConnectionStateChange (connectionState : State)
  | sendTransportOnProduce (kind : Kind) (rtpParameters appData : Text) (callback : Nat)
  | sendTransportOnProduceData (sctpParameters label protocol appData : Text) (callback : Nat)
  | receiveTransportOnConnect (dtlsParameters : Text)
  | receiveTransportOnConnectionStateChange (connectionState : State)
  | producerOnTransportClose
  | consumerOnTransportClose
  | dataProducerOnOpen
  | dataProducerOnClose
  | dataProducerOnBufferedAmountChange (dataSize : UInt64)
  | dataProducerOnTransportClose
  | dataConsumerOnConnecting
  | dataConsumerOnOpen
  | dataConsumerOnClosing
  | dataConsumerOnClose
  | dataConsumerOnTransportClose
  | dataConsumerOnMessage (messageData : Bytes)
deriving DecidableEq, Repr

/-- An event as the native object reports it to its adapter. -/
abbrev NativeEvent := Event NativeText NativeText NativeText

/-- An event as the adapter hands it to the wrapper, and the wrapper to the facade. -/
abbrev WrapperEvent := Event String String String

abbrev FacadeEvent := Event String TransportConnectionState MediaKind

namespace Event

variable {Text State Kind : Type}

def kind : Event Text State Kind → ObjectKind
  | .sendTransportOnConnect _ => .sendTransport
  | .sendTransportOnConnectionStateChange _ => .sendTransport
  | .sendTransportOnProduce _ _ _ _ => .sendTransport
  | .sendTransportOnProduceData _ _ _ _ _ => .sendTransport
  | .receiveTransportOnConnect _ => .receiveTransport
  | .receiveTransportOnConnectionStateChange _ => .receiveTransport
  | .producerOnTransportClose => .producer
  | .consumerOnTransportClose => .consumer
  | .dataProducerOnOpen => .dataProducer
  | .dataProducerOnClose => .dataProducer
  | .dataProducerOnBufferedAmountChange _ => .dataProducer
  | .dataProducerOnTransportClose => .dataProducer
  | .dataConsumerOnConnecting => .dataConsumer
  | .dataConsumerOnOpen => .dataConsumer
  | .dataConsumerOnClosing => .dataConsumer
  | .dataConsumerOnClose => .dataConsumer
  | .dataConsumerOnTransportClose => .dataConsumer
  | .dataConsumerOnMessage _ => .dataConsumer

/-- The same event over other representations, where each argument has one. -/
def convert {Text' State' Kind' : Type} (text : Text → Text') (state : State → Option State')
    (mediaKind : Kind → Option Kind') : Event Text State Kind → Option (Event Text' State' Kind')
  | .sendTransportOnConnect dtlsParameters => some (.sendTransportOnConnect (text dtlsParameters))
  | .sendTransportOnConnectionStateChange connectionState =>
      (state connectionState).map .sendTransportOnConnectionStateChange
  | .sendTransportOnProduce kind rtpParameters appData callback =>
      (mediaKind kind).map fun kind =>
        .sendTransportOnProduce kind (text rtpParameters) (text appData) callback
  | .sendTransportOnProduceData sctpParameters label protocol appData callback =>
      some (.sendTransportOnProduceData (text sctpParameters) (text label) (text protocol)
        (text appData) callback)
  | .receiveTransportOnConnect dtlsParameters =>
      some (.receiveTransportOnConnect (text dtlsParameters))
  | .receiveTransportOnConnectionStateChange connectionState =>
      (state connectionState).map .receiveTransportOnConnectionStateChange
  | .producerOnTransportClose => some .producerOnTransportClose
  | .consumerOnTransportClose => some .consumerOnTransportClose
  | .dataProducerOnOpen => some .dataProducerOnOpen
  | .dataProducerOnClose => some .dataProducerOnClose
  | .dataProducerOnBufferedAmountChange dataSize =>
      some (.dataProducerOnBufferedAmountChange dataSize)
  | .dataProducerOnTransportClose => some .dataProducerOnTransportClose
  | .dataConsumerOnConnecting => some .dataConsumerOnConnecting
  | .dataConsumerOnOpen => some .dataConsumerOnOpen
  | .dataConsumerOnClosing => some .dataConsumerOnClosing
  | .dataConsumerOnClose => some .dataConsumerOnClose
  | .dataConsumerOnTransportClose => some .dataConsumerOnTransportClose
  | .dataConsumerOnMessage messageData => some (.dataConsumerOnMessage messageData)

end Event

def NativeText.toNSString (native : NativeText) : String :=
  nonnullString (stringWithUTF8String (utf8Bytes native.text))

/-- The conversion of an adapter method; `OnMessage` copies its buffer. -/
def NativeEvent.atWrapper (event : NativeEvent) : Option WrapperEvent :=
  event.convert NativeText.toNSString (fun state => some state.toNSString)
    (fun kind => some kind.toNSString)

/-- The conversion of a facade method, which returns where a state or a kind is
not a known one. -/
def WrapperEvent.atFacade (event : WrapperEvent) : Option FacadeEvent :=
  event.convert (fun text => text) TransportConnectionState.initStringValue
    MediaKind.initStringValue

/-- What the application is to be told of a native event: the same callback with
the same arguments, a connection state and a media kind by the name of the
constant. It tells nothing of a name that is not a known one. -/
def NativeEvent.reported : NativeEvent → Option FacadeEvent
  | .sendTransportOnConnect dtlsParameters => some (.sendTransportOnConnect dtlsParameters.text)
  | .sendTransportOnConnectionStateChange name => do
      let connectionState ← TransportConnectionState.named name.text
      some (.sendTransportOnConnectionStateChange connectionState)
  | .sendTransportOnProduce name rtpParameters appData callback => do
      let kind ← MediaKind.named name.text
      some (.sendTransportOnProduce kind rtpParameters.text appData.text callback)
  | .sendTransportOnProduceData sctpParameters label protocol appData callback =>
      some (.sendTransportOnProduceData sctpParameters.text label.text protocol.text appData.text
        callback)
  | .receiveTransportOnConnect dtlsParameters =>
      some (.receiveTransportOnConnect dtlsParameters.text)
  | .receiveTransportOnConnectionStateChange name => do
      let connectionState ← TransportConnectionState.named name.text
      some (.receiveTransportOnConnectionStateChange connectionState)
  | .producerOnTransportClose => some .producerOnTransportClose
  | .consumerOnTransportClose => some .consumerOnTransportClose
  | .dataProducerOnOpen => some .dataProducerOnOpen
  | .dataProducerOnClose => some .dataProducerOnClose
  | .dataProducerOnBufferedAmountChange dataSize =>
      some (.dataProducerOnBufferedAmountChange dataSize)
  | .dataProducerOnTransportClose => some .dataProducerOnTransportClose
  | .dataConsumerOnConnecting => some .dataConsumerOnConnecting
  | .dataConsumerOnOpen => some .dataConsumerOnOpen
  | .dataConsumerOnClosing => some .dataConsumerOnClosing
  | .dataConsumerOnClose => some .dataConsumerOnClose
  | .dataConsumerOnTransportClose => some .dataConsumerOnTransportClose
  | .dataConsumerOnMessage messageData => some (.dataConsumerOnMessage messageData)

theorem NativeText.toNSString_eq (native : NativeText) : native.toNSString = native.text := by
  unfold NativeText.toNSString
  rw [stringWithUTF8String_utf8Bytes native.nulFree]
  rfl

/-- The two conversions keep every argument, and know the names of all constants. -/
theorem NativeEvent.atWrapper_bind_atFacade (event : NativeEvent) :
    event.atWrapper.bind WrapperEvent.atFacade = event.reported := by
  cases event <;>
    simp [NativeEvent.atWrapper, WrapperEvent.atFacade, NativeEvent.reported, Event.convert,
      NativeText.toNSString_eq, TransportConnectionState.named_eq, MediaKind.named_eq,
      Option.map_eq_bind, Function.comp_def]

end MediasoupClientSwift
