import MediasoupClientSwift.Api.Operation
import MediasoupClientSwift.Library.Machine
import MediasoupClientSwift.Transport.Children

/-!
Owns sessions: runs of the public operations on the devices an application made
and the facades it was handed, and the releases of these, in any order and over
any native library. A call that ends abruptly ends the program. The
sender-parameter update is two steps, so that the calls its updater makes stand
between them.
-/

namespace MediasoupClientSwift

open Library
open Children (TransportKind ChildKind)

inductive ChildFacade where
  | producer (self : Producer)
  | dataProducer (self : DataProducer)
  | consumer (self : Consumer)
  | dataConsumer (self : DataConsumer)
deriving DecidableEq, Repr

namespace ChildFacade

def kind : ChildFacade → ChildKind
  | .producer _ => .producer
  | .dataProducer _ => .dataProducer
  | .consumer _ => .consumer
  | .dataConsumer _ => .dataConsumer

def object : ChildFacade → Handle
  | .producer self => self.producer.producer
  | .dataProducer self => self.producer
  | .consumer self => self.consumer.consumer
  | .dataConsumer self => self.consumer

def listenerAdapter : ChildFacade → AdapterPointer
  | .producer self => self.producer.listenerAdapter
  | .dataProducer self => self.listenerAdapter
  | .consumer self => self.consumer.listenerAdapter
  | .dataConsumer self => self.listenerAdapter

/-- The last reference to the facade goes, and with it the wrapper. -/
def release {World : Type} (library : NativeLibrary World) :
    ChildFacade → ObjCpp (Process World) Unit
  | .producer self => self.producer.dealloc library
  | .dataProducer self => self.dealloc library
  | .consumer self => self.consumer.dealloc library
  | .dataConsumer self => self.dealloc library

end ChildFacade

namespace Session

/-- The application holds the device; it does not any more, but a posted task may
hold its wrapper; `dealloc` of the wrapper was entered. -/
inductive DevicePhase where
  | held
  | released
  | deallocated
deriving DecidableEq, Repr

structure HeldDevice where
  facade : Device
  phase : DevicePhase
deriving DecidableEq, Repr

structure HeldTransport where
  kind : TransportKind
  facade : TransportFacade
  held : Bool
deriving DecidableEq, Repr

/-- A child's facade that was handed to the application, and its transport. -/
structure HeldChild where
  facade : ChildFacade
  transport : Nat
  held : Bool
  /-- The application called `close`. -/
  closeCalled : Bool
deriving DecidableEq, Repr

/-- An update whose updater is running; the call retains its producer. -/
structure PendingUpdate where
  producer : Nat
  call : ProducerWrapper.OpenUpdate
deriving DecidableEq, Repr

structure State (World : Type) where
  process : Process World
  devices : Arena HeldDevice
  transports : Arena HeldTransport
  children : Arena HeldChild
  /-- The innermost update first. -/
  updates : List PendingUpdate

inductive Action (World : Type) where
  | initCaptureAudioSession (captureAudioSession : Bool)
  | initPCFactory (pcFactory : Nat)
  | device (name : Nat) (operation : DeviceOperation)
  | sendTransport (name : Nat) (operation : SendTransportOperation)
  | receiveTransport (name : Nat) (operation : ReceiveTransportOperation)
  | producer (name : Nat) (operation : ProducerOperation World)
  | consumer (name : Nat) (operation : ConsumerOperation)
  | dataProducer (name : Nat) (operation : DataProducerOperation)
  | dataConsumer (name : Nat) (operation : DataConsumerOperation)
  /-- `updateSenderParameters` up to its updater. -/
  | beginUpdate (name : Nat)
  /-- The innermost updater returns, and its update goes on. -/
  | finishUpdate (updatedValue : RTPParameters)
  | releaseDevice (name : Nat)
  /-- The last reference to the wrapper of a released device goes, at once or as
  the worker thread is done with a task that holds it. -/
  | deallocDevice (name : Nat)
  | releaseTransport (name : Nat)
  | releaseChild (name : Nat)

variable {World α : Type}

/-- Make a call. One that ends abruptly ends the program. -/
def State.call (session : State World) (program : ObjCpp (Process World) α) :
    Option (α × State World) :=
  match program session.process with
  | (.ok value, process) => some (value, { session with process := process })
  | (.error _, _) => none

/-- A call whose value is no new facade. -/
def State.plainCall (session : State World) (program : ObjCpp (Process World) α) :
    Option (State World) :=
  (session.call program).map Prod.snd

def State.createDevice (session : State World) (program : ObjCpp (Process World) Device) :
    Option (State World) := do
  let (self, reached) ← session.call program
  some { reached with devices := reached.devices.push { facade := self, phase := .held } }

def State.device (session : State World) (name : Nat) : Option Device := do
  let device ← session.devices[name]?
  if device.phase = .held then some device.facade else none

def State.withPhase (session : State World) (name : Nat) (phase : DevicePhase) : State World :=
  { session with
    devices := session.devices.modify name fun device => { device with phase := phase } }

/-- A call that hands out a transport facade where it does not throw. -/
def State.createTransport (session : State World) (kind : TransportKind)
    (program : SwiftCall (Process World) TransportFacade) : Option (State World) := do
  let (outcome, reached) ← session.call program
  match outcome with
  | .error _ => some reached
  | .ok facade =>
      some { reached with
        transports := reached.transports.push { kind := kind, facade := facade, held := true } }

/-- A call that hands out a child's facade where it does not throw. -/
def State.createChild (session : State World) (transport : Nat) (child : α → ChildFacade)
    (program : SwiftCall (Process World) α) : Option (State World) := do
  let (outcome, reached) ← session.call program
  match outcome with
  | .error _ => some reached
  | .ok facade =>
      some { reached with
        children := reached.children.push
          { facade := child facade, transport := transport, held := true, closeCalled := false } }

def State.transport (session : State World) (kind : TransportKind) (name : Nat) :
    Option TransportFacade := do
  let transport ← session.transports[name]?
  if transport.held ∧ transport.kind = kind then some transport.facade else none

/-- A call on a child's facade, which may be `close`. -/
def State.childCall (session : State World) (name : Nat) (isClose : Bool)
    (program : ObjCpp (Process World) α) : Option (State World) := do
  let reached ← session.plainCall program
  if isClose then
    some { reached with
      children := reached.children.modify name fun child => { child with closeCalled := true } }
  else some reached

def State.child (session : State World) (name : Nat) : Option ChildFacade := do
  let child ← session.children[name]?
  if child.held then some child.facade else none

variable (library : NativeLibrary World)

def deviceStep (session : State World) (self : Device) : DeviceOperation → Option (State World)
  | .createSendTransport texts iceServers iceTransportPolicy =>
      session.createTransport .send
        (self.createSendTransport library texts iceServers iceTransportPolicy)
  | .createReceiveTransport texts iceServers iceTransportPolicy =>
      session.createTransport .receive
        (self.createReceiveTransport library texts iceServers iceTransportPolicy)
  | operation => session.plainCall (operation.call library self)

def sendTransportStep (session : State World) (name : Nat) (self : TransportFacade) :
    SendTransportOperation → Option (State World)
  | .transport operation => session.plainCall (operation.call library self)
  | .createProducer track encodings codecOptions codec appData =>
      session.createChild name .producer
        (SendTransport.createProducer library self track encodings codecOptions codec appData)
  | .createScalableProducer track encoding scalabilityMode codecOptions codec appData =>
      session.createChild name .producer
        (SendTransport.createScalableProducer library self track encoding scalabilityMode
          codecOptions codec appData)
  | .produceData texts =>
      session.createChild name .dataProducer (SendTransport.produceData library self texts)

def receiveTransportStep (session : State World) (name : Nat) (self : TransportFacade) :
    ReceiveTransportOperation → Option (State World)
  | .transport operation => session.plainCall (operation.call library self)
  | .consume texts =>
      session.createChild name .consumer (ReceiveTransport.consume library self texts)
  | .consumeData texts =>
      session.createChild name .dataConsumer (ReceiveTransport.consumeData library self texts)

def producerStep (session : State World) (name : Nat) (self : Producer) :
    ProducerOperation World → Option (State World)
  | .updateSenderParameters _ => none -- Two steps: `beginUpdate` and `finishUpdate`.
  | .close => session.childCall name true (ProducerOperation.close.call library self)
  | operation => session.childCall name false (operation.call library self)

def consumerStep (session : State World) (name : Nat) (self : Consumer) :
    ConsumerOperation → Option (State World)
  | .close => session.childCall name true (ConsumerOperation.close.call library self)
  | operation => session.childCall name false (operation.call library self)

def dataProducerStep (session : State World) (name : Nat) (self : DataProducer) :
    DataProducerOperation → Option (State World)
  | .close => session.childCall name true (DataProducerOperation.close.call library self)
  | operation => session.childCall name false (operation.call library self)

def dataConsumerStep (session : State World) (name : Nat) (self : DataConsumer) :
    DataConsumerOperation → Option (State World)
  | .close => session.childCall name true (DataConsumerOperation.close.call library self)
  | operation => session.childCall name false (operation.call library self)

/-- A step on a device or facade the application does not hold is refused. -/
def step (session : State World) : Action World → Option (State World)
  | .initCaptureAudioSession captureAudioSession =>
      session.createDevice (DeviceWrapper.initCaptureAudioSession library captureAudioSession)
  | .initPCFactory pcFactory =>
      session.createDevice (DeviceWrapper.initWithPCFactory library (.given pcFactory))
  | .device name operation => do
      let self ← session.device name
      deviceStep library session self operation
  | .sendTransport name operation => do
      let self ← session.transport .send name
      sendTransportStep library session name self operation
  | .receiveTransport name operation => do
      let self ← session.transport .receive name
      receiveTransportStep library session name self operation
  | .producer name operation =>
      match session.child name with
      | some (.producer self) => producerStep library session name self operation
      | _ => none
  | .consumer name operation =>
      match session.child name with
      | some (.consumer self) => consumerStep library session name self operation
      | _ => none
  | .dataProducer name operation =>
      match session.child name with
      | some (.dataProducer self) => dataProducerStep library session name self operation
      | _ => none
  | .dataConsumer name operation =>
      match session.child name with
      | some (.dataConsumer self) => dataConsumerStep library session name self operation
      | _ => none
  | .beginUpdate name =>
      match session.child name with
      | some (.producer self) => do
          let ((call, _), reached) ←
            session.call (ProducerWrapper.beginUpdate library self.producer)
          some { reached with updates := { producer := name, call := call } :: reached.updates }
      | _ => none
  | .finishUpdate updatedValue =>
      match session.updates with
      | [] => none
      | update :: outer => do
          let reached ← session.plainCall
            (ProducerWrapper.finishUpdate library update.call updatedValue.wrappedValue)
          some { reached with updates := outer }
  | .releaseDevice name => do
      let _ ← session.device name
      some (session.withPhase name .released)
  | .deallocDevice name => do
      let device ← session.devices[name]?
      if device.phase = .released then
        let reached ← session.plainCall (DeviceWrapper.dealloc library device.facade)
        some (reached.withPhase name .deallocated)
      else none
  | .releaseTransport name => do
      let transport ← session.transports[name]?
      if transport.held then
        let reached ← session.plainCall
          (TransportWrapper.dealloc library transport.facade.transport)
        some { reached with
          transports := reached.transports.modify name fun transport =>
            { transport with held := false } }
      else none
  | .releaseChild name => do
      let facade ← session.child name
      -- A running update holds its producer.
      if ∃ update ∈ session.updates, update.producer = name then none
      else
        let reached ← session.plainCall (facade.release library)
        some { reached with
          children := reached.children.modify name fun child => { child with held := false } }

def newProcess (native : World) : Process World where
  native := native
  listenerAdapters := []
  transportIvars _ := { transport := none, listenerAdapter := none, pcFactory := .made 0 }
  producerTrack _ := { hash := 0, kind := "" }
  nextAddress := 0
  nextFactory := 0
  workerTasks := []

def machine (native : World) : Machine (State World) (Action World) where
  initial :=
    { process := newProcess native, devices := [], transports := [], children := [], updates := [] }
  step := step library

def sampleTexts : TransportTexts where
  id := "id"
  iceParameters := "\x7b\x7d"
  iceCandidates := "\x7b\x7d"
  dtlsParameters := "\x7b\x7d"
  sctpParameters := none
  appData := none

/-- A device, a send transport, a producer, and a producer whose codec is no JSON. -/
def sampleActions : List (Action SampleWorld) :=
  [.initCaptureAudioSession false,
    .device 0 (.createSendTransport sampleTexts none .all),
    .sendTransport 0 (.createProducer ⟨7, "audio"⟩ none none none none),
    .sendTransport 0 (.createProducer ⟨8, "audio"⟩ none none (some "opus") none)]

end Session

end MediasoupClientSwift
