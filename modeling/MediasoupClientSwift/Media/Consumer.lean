import MediasoupClientSwift.Transport.Transport

/-!
Owns the facades and wrappers of the objects a transport creates besides
producers: `Consumer`, `DataProducer` and `DataConsumer`. Their methods are
properties of the native object, `pause`, `resume` and `close`; none stands under
a handler.
-/

namespace MediasoupClientSwift

open Library

variable {World : Type} (library : NativeLibrary World)

structure ConsumerWrapper where
  consumer : Handle
  track : MediaStreamTrack
  listenerAdapter : AdapterPointer
deriving DecidableEq, Repr

def ConsumerWrapper.dealloc (self : ConsumerWrapper) : ObjCpp (Process World) Unit := do
  runNative (library.delete self.consumer)
  deleteListenerAdapter self.listenerAdapter

structure Consumer where
  consumer : ConsumerWrapper
  kind : MediaKind
deriving DecidableEq, Repr

namespace Consumer

def id (self : Consumer) : ObjCpp (Process World) String :=
  textProperty (library.getId self.consumer.consumer)

def localId (self : Consumer) : ObjCpp (Process World) String :=
  textProperty (library.getLocalId self.consumer.consumer)

def producerId (self : Consumer) : ObjCpp (Process World) String :=
  textProperty (library.getProducerId self.consumer.consumer)

def closed (self : Consumer) : ObjCpp (Process World) Bool :=
  readNative (library.isClosed self.consumer.consumer)

def paused (self : Consumer) : ObjCpp (Process World) Bool :=
  readNative (library.isPaused self.consumer.consumer)

def appData (self : Consumer) : ObjCpp (Process World) String :=
  jsonProperty library (library.getAppData self.consumer.consumer)

def rtpParameters (self : Consumer) : ObjCpp (Process World) String :=
  jsonProperty library (library.getRtpParameters self.consumer.consumer)

def stats (self : Consumer) : ObjCpp (Process World) String :=
  statsProperty library self.consumer.consumer

def pause (self : Consumer) : ObjCpp (Process World) Unit :=
  runNative (library.pause self.consumer.consumer)

def resume (self : Consumer) : ObjCpp (Process World) Unit :=
  runNative (library.resume self.consumer.consumer)

def close (self : Consumer) : ObjCpp (Process World) Unit :=
  runNative (library.close self.consumer.consumer)

end Consumer

/-- `DataProducerWrapper`, held by its facade `DataProducer`. -/
structure DataProducer where
  producer : Handle
  listenerAdapter : AdapterPointer
deriving DecidableEq, Repr

namespace DataProducer

def id (self : DataProducer) : ObjCpp (Process World) String :=
  textProperty (library.getId self.producer)

def localId (self : DataProducer) : ObjCpp (Process World) String :=
  textProperty (library.getLocalId self.producer)

def sctpStreamParameters (self : DataProducer) : ObjCpp (Process World) String :=
  jsonProperty library (library.getSctpStreamParameters self.producer)

/-- The two `switch` statements, of the wrapper and of the facade. -/
def readyState (self : DataProducer) : ObjCpp (Process World) DataState := do
  let nativeReadyState ← readNative (library.getReadyState self.producer)
  match nativeReadyState with
  | .kConnecting => pure .connecting
  | .kOpen => pure .open
  | .kClosing => pure .closing
  | .kClosed => pure .closed

def label (self : DataProducer) : ObjCpp (Process World) String :=
  textProperty (library.getLabel self.producer)

def protocol (self : DataProducer) : ObjCpp (Process World) String :=
  textProperty (library.getProtocol self.producer)

def bufferedAmount (self : DataProducer) : ObjCpp (Process World) UInt64 :=
  readNative (library.getBufferedAmount self.producer)

def appData (self : DataProducer) : ObjCpp (Process World) String :=
  jsonProperty library (library.getAppData self.producer)

def closed (self : DataProducer) : ObjCpp (Process World) Bool :=
  readNative (library.isClosed self.producer)

def close (self : DataProducer) : ObjCpp (Process World) Unit :=
  runNative (library.close self.producer)

def dealloc (self : DataProducer) : ObjCpp (Process World) Unit := do
  runNative (library.delete self.producer)
  deleteListenerAdapter self.listenerAdapter

/-- The body of the wrapper's `send:` is commented out. -/
def send (_self : DataProducer) (_buffer : Bytes) : ObjCpp (Process World) Unit := pure ()

end DataProducer

/-- `DataConsumerWrapper`, held by its facade `DataConsumer`. -/
structure DataConsumer where
  consumer : Handle
  listenerAdapter : AdapterPointer
deriving DecidableEq, Repr

namespace DataConsumer

def id (self : DataConsumer) : ObjCpp (Process World) String :=
  textProperty (library.getId self.consumer)

def localId (self : DataConsumer) : ObjCpp (Process World) String :=
  textProperty (library.getLocalId self.consumer)

def producerId (self : DataConsumer) : ObjCpp (Process World) String :=
  textProperty (library.getProducerId self.consumer)

def closed (self : DataConsumer) : ObjCpp (Process World) Bool :=
  readNative (library.isClosed self.consumer)

def label (self : DataConsumer) : ObjCpp (Process World) String :=
  textProperty (library.getLabel self.consumer)

def dataProtocol (self : DataConsumer) : ObjCpp (Process World) String :=
  textProperty (library.getProtocol self.consumer)

def appData (self : DataConsumer) : ObjCpp (Process World) String :=
  jsonProperty library (library.getAppData self.consumer)

def sctpStreamParameters (self : DataConsumer) : ObjCpp (Process World) String :=
  jsonProperty library (library.getSctpStreamParameters self.consumer)

def close (self : DataConsumer) : ObjCpp (Process World) Unit :=
  runNative (library.close self.consumer)

def dealloc (self : DataConsumer) : ObjCpp (Process World) Unit := do
  runNative (library.delete self.consumer)
  deleteListenerAdapter self.listenerAdapter

end DataConsumer

end MediasoupClientSwift
