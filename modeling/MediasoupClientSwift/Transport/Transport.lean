import MediasoupClientSwift.Error.Converter
import MediasoupClientSwift.Media.Kinds
import MediasoupClientSwift.Native.Process

/-!
Owns the part that `SendTransportWrapper` and `ReceiveTransportWrapper` share
word for word (construction, the getters, `close`, `dispose`, `restartICE:` and
`updateICEServers:`) and the conformance of their Swift facades to `Transport`.
It does not own the factories of producers and consumers.
-/

namespace MediasoupClientSwift

open Library

variable {World : Type} (library : NativeLibrary World)

/-- A nonnull text property: `[NSString stringWithUTF8String:…c_str()]` read from
Swift. -/
def textProperty (read : World → Bytes) : ObjCpp (Process World) String := do
  let text ← readNative read
  pure (nonnullString (stringWithUTF8String text))

/-- A nonnull JSON property: `[NSString stringWithUTF8String:….dump().c_str()]`. -/
def jsonProperty (read : World → Json) : ObjCpp (Process World) String := do
  let json ← readNative read
  let text ← throwing (library.dump json)
  pure (nonnullString (stringWithUTF8String text))

/-- The `stats` property of a native object; no handler stands around it. -/
def statsProperty (object : Handle) : ObjCpp (Process World) String := do
  let json ← callNative (library.getStats object)
  let text ← throwing (library.dump json)
  pure (nonnullString (stringWithUTF8String text))

namespace TransportWrapper

def initWithTransport (transport : Handle) (pcFactory : PCFactory)
    (listenerAdapter : AdapterPointer) : ObjCpp (Process World) Address := do
  let self ← allocWrapper
  let ivars : TransportIvars :=
    { transport := some transport
      listenerAdapter := some listenerAdapter
      pcFactory := pcFactory }
  Program.modify fun process =>
    { process with transportIvars := Function.update process.transportIvars self ivars }
  pure self

def transport (self : Address) : ObjCpp (Process World) Handle := do
  let process ← Program.get
  dereference (process.transportIvars self).transport

def id (self : Address) : ObjCpp (Process World) String := do
  let transport ← transport self
  textProperty (library.getId transport)

def closed (self : Address) : ObjCpp (Process World) Bool := do
  let process ← Program.get
  match (process.transportIvars self).transport with
  | none => pure true
  | some transport => readNative (library.isClosed transport)

def connectionState (self : Address) : ObjCpp (Process World) String := do
  let transport ← transport self
  textProperty (library.getConnectionState transport)

def appData (self : Address) : ObjCpp (Process World) String := do
  let transport ← transport self
  jsonProperty library (library.getAppData transport)

def stats (self : Address) : ObjCpp (Process World) String := do
  let transport ← transport self
  statsProperty library transport

def close (self : Address) : ObjCpp (Process World) Unit := do
  let transport ← transport self
  runNative (library.close transport)

/-- The delegate link that `dispose` cuts is modelled with the events. -/
def dispose (self : Address) : ObjCpp (Process World) Unit := do
  let process ← Program.get
  let ivars := process.transportIvars self
  match ivars.transport with
  | none => pure ()
  | some transport =>
      let listenerAdapter ← dereference ivars.listenerAdapter
      runNative (library.close transport)
      runNative (library.delete transport)
      deleteListenerAdapter listenerAdapter
      Program.modify fun process =>
        { process with
          transportIvars := Function.update process.transportIvars self
            { ivars with transport := none, listenerAdapter := none } }

def dealloc (self : Address) : ObjCpp (Process World) Unit := dispose library self

/-- `restartICE:` and `updateICEServers:`: parse one text and hand it on. -/
def withParsedText (call : Handle → Json → NativeCall World Unit) (self : Address)
    (text : String) : ObjCpp (Process World) (Unit × Option NSError) :=
  mediasoupTry do
    let json ← throwing (library.parse (stdString text))
    let transport ← transport self
    callNative (call transport json)

def restartICE (self : Address) (iceParameters : String) :
    ObjCpp (Process World) (Unit × Option NSError) :=
  withParsedText library library.restartIce self iceParameters

def updateICEServers (self : Address) (iceServers : String) :
    ObjCpp (Process World) (Unit × Option NSError) :=
  withParsedText library library.updateIceServers self iceServers

end TransportWrapper

/-- A Swift transport facade, `SendTransport` or `ReceiveTransport`: it holds its
wrapper. -/
structure TransportFacade where
  transport : Address
deriving DecidableEq, Repr

namespace TransportFacade

def id (self : TransportFacade) : ObjCpp (Process World) String :=
  TransportWrapper.id library self.transport

def closed (self : TransportFacade) : ObjCpp (Process World) Bool :=
  TransportWrapper.closed library self.transport

def connectionState (self : TransportFacade) :
    ObjCpp (Process World) TransportConnectionState := do
  let stringValue ← TransportWrapper.connectionState library self.transport
  pure ((TransportConnectionState.initStringValue stringValue).getD .failed)

def appData (self : TransportFacade) : ObjCpp (Process World) String :=
  TransportWrapper.appData library self.transport

def stats (self : TransportFacade) : ObjCpp (Process World) String :=
  TransportWrapper.stats library self.transport

def close (self : TransportFacade) : ObjCpp (Process World) Unit :=
  TransportWrapper.close library self.transport

def dispose (self : TransportFacade) : ObjCpp (Process World) Unit :=
  TransportWrapper.dispose library self.transport

def restartICE (self : TransportFacade) (iceParameters : String) :
    SwiftCall (Process World) Unit :=
  convertMediasoupErrors
    (nonnullErrorCall (TransportWrapper.restartICE library self.transport iceParameters))

def updateICEServers (self : TransportFacade) (iceServers : String) :
    SwiftCall (Process World) Unit :=
  convertMediasoupErrors
    (nonnullErrorCall (TransportWrapper.updateICEServers library self.transport iceServers))

end TransportFacade

end MediasoupClientSwift
