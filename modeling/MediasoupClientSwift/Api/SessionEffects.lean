import MediasoupClientSwift.Api.Failures
import MediasoupClientSwift.Api.Session

/-!
Owns what a step of a session does: the effect it is seen to have, which is read
off the action and whether its call throws, and the change of the wrappers and
facades that goes with each effect. `changed_of_step` is the only place that
looks into the calls.
-/

namespace MediasoupClientSwift.Session

open Library
open Children (TransportKind ChildKind)

variable {World α : Type}

/-! ### Effects -/

/-- What a step did. A call that throws or only reads has the effect `nothing`, or
`calledChild` on a child. -/
inductive Effect where
  | nothing
  | madeTransport (kind : TransportKind)
  | madeProducer (transport : Nat) (track : MediaStreamTrack)
  /-- A child other than a producer. -/
  | madeChild (kind : ChildKind) (transport : Nat)
  | closedTransport (name : Nat)
  | disposed (name : Nat)
  | calledChild (name : Nat)
  | closedChild (name : Nat)
  | replacedTrack (name : Nat) (track : MediaStreamTrack)
  | beganUpdate (name : Nat)
  | finishedUpdate (name : Nat)
  | releasedTransport (name : Nat)
  | releasedChild (name : Nat)
deriving DecidableEq, Repr

/-- The effect of a call that has one where it does not throw. -/
def State.unlessThrows (session : State World) (program : SwiftCall (Process World) α)
    (effect otherwise : Effect) : Effect :=
  match program session.process with
  | (.ok (.ok _), _) => effect
  | _ => otherwise

def transportEffect (name : Nat) : TransportOperation → Effect
  | .close => .closedTransport name
  | .dispose => .disposed name
  | _ => .nothing

variable (library : NativeLibrary World) (session : State World)

def deviceEffect (self : Device) : DeviceOperation → Effect
  | .createSendTransport texts iceServers iceTransportPolicy =>
      session.unlessThrows (self.createSendTransport library texts iceServers iceTransportPolicy)
        (.madeTransport .send) .nothing
  | .createReceiveTransport texts iceServers iceTransportPolicy =>
      session.unlessThrows (self.createReceiveTransport library texts iceServers iceTransportPolicy)
        (.madeTransport .receive) .nothing
  | _ => .nothing

def sendTransportEffect (name : Nat) (self : TransportFacade) : SendTransportOperation → Effect
  | .transport operation => transportEffect name operation
  | .createProducer track encodings codecOptions codec appData =>
      session.unlessThrows
        (SendTransport.createProducer library self track encodings codecOptions codec appData)
        (.madeProducer name track) .nothing
  | .createScalableProducer track encoding scalabilityMode codecOptions codec appData =>
      session.unlessThrows
        (SendTransport.createScalableProducer library self track encoding scalabilityMode
          codecOptions codec appData)
        (.madeProducer name track) .nothing
  | .produceData texts =>
      session.unlessThrows (SendTransport.produceData library self texts)
        (.madeChild .dataProducer name) .nothing

def receiveTransportEffect (name : Nat) (self : TransportFacade) :
    ReceiveTransportOperation → Effect
  | .transport operation => transportEffect name operation
  | .consume texts =>
      session.unlessThrows (ReceiveTransport.consume library self texts)
        (.madeChild .consumer name) .nothing
  | .consumeData texts =>
      session.unlessThrows (ReceiveTransport.consumeData library self texts)
        (.madeChild .dataConsumer name) .nothing

def producerEffect (name : Nat) (self : Producer) : ProducerOperation World → Effect
  | .close => .closedChild name
  | .replaceTrack track =>
      session.unlessThrows (self.replaceTrack library track) (.replacedTrack name track)
        (.calledChild name)
  | _ => .calledChild name

/-- The effect of a step that is not refused. -/
def State.effect : Action World → Effect
  | .initCaptureAudioSession _ => .nothing
  | .initPCFactory _ => .nothing
  | .device name operation =>
      match session.device name with
      | some self => deviceEffect library session self operation
      | none => .nothing
  | .sendTransport name operation =>
      match session.transport .send name with
      | some self => sendTransportEffect library session name self operation
      | none => .nothing
  | .receiveTransport name operation =>
      match session.transport .receive name with
      | some self => receiveTransportEffect library session name self operation
      | none => .nothing
  | .producer name operation =>
      match session.child name with
      | some (.producer self) => producerEffect library session name self operation
      | _ => .nothing
  | .consumer name .close => .closedChild name
  | .consumer name _ => .calledChild name
  | .dataProducer name .close => .closedChild name
  | .dataProducer name _ => .calledChild name
  | .dataConsumer name .close => .closedChild name
  | .dataConsumer name _ => .calledChild name
  | .beginUpdate name => .beganUpdate name
  | .finishUpdate _ =>
      match session.updates with
      | update :: _ => .finishedUpdate update.producer
      | [] => .nothing
  | .releaseDevice _ => .nothing
  | .deallocDevice _ => .nothing
  | .releaseTransport name => .releasedTransport name
  | .releaseChild name => .releasedChild name

/-! ### Changes -/

def withProducer (process : Process World) (track : MediaStreamTrack) : Process World :=
  { process.withAdapter 0 with
    nextAddress := process.nextAddress + 1
    producerTrack := Function.update process.producerTrack process.nextAddress track }

def State.ivars (session : State World) (transport : HeldTransport) : TransportIvars :=
  session.process.transportIvars transport.facade.transport

/-- The effects of steps that leave the wrappers and facades of transports and
children as they were. -/
inductive Idle (session : State World) : Effect → Prop where
  | nothing : Idle session .nothing
  | calledChild {name : Nat} {facade : ChildFacade} (held : session.child name = some facade) :
      Idle session (.calledChild name)
  | closedTransport {kind : TransportKind} {name : Nat} {facade : TransportFacade}
      (owner : session.transport kind name = some facade)
      (pointer : (session.process.transportIvars facade.transport).transport.isSome = true) :
      Idle session (.closedTransport name)
  /-- A second `dispose`. -/
  | disposed {kind : TransportKind} {name : Nat} {facade : TransportFacade}
      (owner : session.transport kind name = some facade)
      (noPointer : (session.process.transportIvars facade.transport).transport = none) :
      Idle session (.disposed name)

/-- Everything a step can do to the wrappers and facades of transports and children
and to a book of their native objects. -/
inductive Changed {library : NativeLibrary World} {Book : Type}
    (books : ObjectBook library Book) (session : State World) :
    Effect → State World → Prop where
  | kept {process : Process World} {devices : Arena HeldDevice} {effect : Effect}
      (idle : Idle session effect)
      (wrappers : process.wrappers books.book = session.process.wrappers books.book) :
      Changed books session effect { session with process := process, devices := devices }
  | beganUpdate {process : Process World} {name : Nat} {self : Producer}
      {call : ProducerWrapper.OpenUpdate} (held : session.child name = some (.producer self))
      (wrappers : process.wrappers books.book = session.process.wrappers books.book) :
      Changed books session (.beganUpdate name) { session with
        process := process
        updates := { producer := name, call := call } :: session.updates }
  | finishedUpdate {process : Process World} {update : PendingUpdate} {outer : List PendingUpdate}
      (innermost : session.updates = update :: outer)
      (wrappers : process.wrappers books.book = session.process.wrappers books.book) :
      Changed books session (.finishedUpdate update.producer) { session with
        process := process
        updates := outer }
  /-- A factory threw. -/
  | failed {process : Process World}
      (seen : process.seen books.book = (session.process.seen books.book).withAdapter 1) :
      Changed books session .nothing { session with process := process }
  | closedChild {process : Process World} {name : Nat} {facade : ChildFacade}
      (held : session.child name = some facade)
      (wrappers : process.wrappers books.book = session.process.wrappers books.book) :
      Changed books session (.closedChild name) { session with
        process := process
        children := session.children.modify name fun child => { child with closeCalled := true } }
  | replacedTrack {process : Process World} {name : Nat} {self : Producer}
      {track : MediaStreamTrack} (held : session.child name = some (.producer self))
      (seen : process.seen books.book =
        (session.process.seen books.book).withTrack self.producer.address track) :
      Changed books session (.replacedTrack name track) { session with process := process }
  | madeTransport {process : Process World} {kind : TransportKind} {object : Handle}
      {pcFactory : PCFactory}
      (seen : process.seen books.book =
        ((session.process.seen books.book).withTransport object pcFactory).noting
          (books.made object)) :
      Changed books session (.madeTransport kind) { session with
        process := process
        transports := session.transports.push
          { kind := kind, facade := ⟨session.process.nextAddress⟩, held := true } }
  | madeProducer {process : Process World} {transport : Nat} {facade : TransportFacade}
      {made : Producer} {track : MediaStreamTrack}
      (owner : session.transport .send transport = some facade)
      (pointer : (session.process.transportIvars facade.transport).transport.isSome = true)
      (address : made.producer.address = session.process.nextAddress)
      (adapter : made.producer.listenerAdapter = session.process.listenerAdapters.fresh)
      (seen : process.seen books.book =
        (withProducer (session.process.seen books.book) track).noting
          (books.made made.producer.producer)) :
      Changed books session (.madeProducer transport track) { session with
        process := process
        children := session.children.push
          { facade := .producer made, transport := transport, held := true, closeCalled := false } }
  | madeChild {process : Process World} {transport : Nat} {facade : TransportFacade}
      {made : ChildFacade} {kind : ChildKind}
      (owner : session.transport kind.transportKind transport = some facade)
      (pointer : (session.process.transportIvars facade.transport).transport.isSome = true)
      (isKind : made.kind = kind) (other : kind ≠ .producer)
      (adapter : made.listenerAdapter = session.process.listenerAdapters.fresh)
      (seen : process.seen books.book =
        ((session.process.seen books.book).withAdapter 0).noting (books.made made.object)) :
      Changed books session (.madeChild kind transport) { session with
        process := process
        children := session.children.push
          { facade := made, transport := transport, held := true, closeCalled := false } }
  | disposed {process : Process World} {name : Nat} {transport : HeldTransport} {object : Handle}
      {adapter : AdapterPointer} (found : session.transports[name]? = some transport)
      (held : transport.held = true) (present : (session.ivars transport).transport = some object)
      (pointer : (session.ivars transport).listenerAdapter = some adapter)
      (seen : process.seen books.book =
        ((session.process.seen books.book).withoutTransport transport.facade.transport
          adapter).noting (books.deleted object)) :
      Changed books session (.disposed name) { session with process := process }
  /-- The last reference to a disposed transport goes. -/
  | releasedDisposed {name : Nat} {transport : HeldTransport}
      (found : session.transports[name]? = some transport) (held : transport.held = true)
      (disposed : (session.ivars transport).transport = none) :
      Changed books session (.releasedTransport name) { session with
        transports := session.transports.modify name fun transport =>
          { transport with held := false } }
  | releasedTransport {process : Process World} {name : Nat} {transport : HeldTransport}
      {object : Handle} {adapter : AdapterPointer}
      (found : session.transports[name]? = some transport) (held : transport.held = true)
      (present : (session.ivars transport).transport = some object)
      (pointer : (session.ivars transport).listenerAdapter = some adapter)
      (seen : process.seen books.book =
        ((session.process.seen books.book).withoutTransport transport.facade.transport
          adapter).noting (books.deleted object)) :
      Changed books session (.releasedTransport name) { session with
        process := process
        transports := session.transports.modify name fun transport =>
          { transport with held := false } }
  | releasedChild {process : Process World} {name : Nat} {child : HeldChild}
      (found : session.children[name]? = some child) (held : child.held = true)
      (unused : ∀ update ∈ session.updates, update.producer ≠ name)
      (seen : process.seen books.book =
        ((session.process.seen books.book).withoutAdapter child.facade.listenerAdapter).noting
          (books.deleted child.facade.object)) :
      Changed books session (.releasedChild name) { session with
        process := process
        children := session.children.modify name fun child => { child with held := false } }

/-! ### Calls -/

section Calls

variable {library} {session} {Book : Type} {next : State World}
  (books : ObjectBook library Book)

theorem call_eq_some {program : ObjCpp (Process World) α} {value : α}
    (called : session.call program = some (value, next)) :
    ∃ process, program session.process = (.ok value, process) ∧
      next = { session with process := process } := by
  unfold State.call at called
  rcases ran : program session.process with ⟨result, process⟩
  rw [ran] at called
  cases result with
  | error reason => cases called
  | ok found =>
      cases called
      exact ⟨process, rfl, rfl⟩

theorem plainCall_eq_some {program : ObjCpp (Process World) α}
    (called : session.plainCall program = some next) :
    ∃ value process, program session.process = (.ok value, process) ∧
      next = { session with process := process } := by
  obtain ⟨⟨value, reached⟩, ran, rfl⟩ := Option.map_eq_some_iff.mp called
  obtain ⟨process, returned, rfl⟩ := call_eq_some ran
  exact ⟨value, process, returned, rfl⟩

theorem transport_eq_some {kind : TransportKind} {name : Nat} {facade : TransportFacade}
    (found : session.transport kind name = some facade) :
    ∃ transport, session.transports[name]? = some transport ∧ transport.held = true ∧
      transport.kind = kind ∧ transport.facade = facade := by
  simp only [State.transport, Option.bind_eq_bind, Option.bind_eq_some_iff,
    Option.ite_none_right_eq_some, Option.some.injEq] at found
  obtain ⟨transport, present, ⟨held, sameKind⟩, same⟩ := found
  exact ⟨transport, present, held, sameKind, same⟩

theorem device_eq_some_iff {name : Nat} {self : Device} :
    session.device name = some self ↔
      ∃ device, session.devices[name]? = some device ∧ device.phase = .held ∧
        device.facade = self := by
  simp only [State.device, Option.bind_eq_bind, Option.bind_eq_some_iff,
    Option.ite_none_right_eq_some, Option.some.injEq]

theorem child_eq_some_iff {name : Nat} {facade : ChildFacade} :
    session.child name = some facade ↔
      ∃ child, session.children[name]? = some child ∧ child.held = true ∧
        child.facade = facade := by
  simp only [State.child, Option.bind_eq_bind, Option.bind_eq_some_iff,
    Option.ite_none_right_eq_some, Option.some.injEq]

/-- What a call that returned has for an effect. -/
theorem unlessThrows_of_returned {program : SwiftCall (Process World) α}
    {outcome : Except SwiftError α} {process : Process World} {effect otherwise : Effect}
    (returned : program session.process = (.ok outcome, process)) :
    session.unlessThrows program effect otherwise =
      if outcome.toOption.isSome then effect else otherwise := by
  unfold State.unlessThrows
  rw [returned]
  cases outcome <;> rfl

private theorem changed_of_keepsWrappers {program : ObjCpp (Process World) α} {effect : Effect}
    (idle : Idle session effect) (keeps : KeepsWrappers books.book program)
    (called : session.plainCall program = some next) : Changed books session effect next := by
  obtain ⟨value, process, ran, rfl⟩ := plainCall_eq_some called
  exact .kept idle (keeps.reached ran)

private theorem changed_createDevice {program : ObjCpp (Process World) Device}
    (keeps : KeepsWrappers books.book program) (called : session.createDevice program = some next) :
    Changed books session .nothing next := by
  obtain ⟨⟨self, reached⟩, ran, ended⟩ := Option.bind_eq_some_iff.mp called
  obtain ⟨process, returned, rfl⟩ := call_eq_some ran
  cases ended
  exact .kept .nothing (keeps.reached returned)

private theorem changed_childCall {name : Nat} {facade : ChildFacade} {isClose : Bool}
    {program : ObjCpp (Process World) α} (held : session.child name = some facade)
    (keeps : KeepsSeen books.book program)
    (called : session.childCall name isClose program = some next) :
    Changed books session (if isClose then .closedChild name else .calledChild name) next := by
  obtain ⟨reached, ran, ended⟩ := Option.bind_eq_some_iff.mp called
  obtain ⟨value, process, returned, rfl⟩ := plainCall_eq_some ran
  have wrappers : process.wrappers books.book = session.process.wrappers books.book :=
    keeps.wrappers.reached returned
  cases isClose with
  | true =>
      cases ended
      exact .closedChild held wrappers
  | false =>
      cases ended
      exact .kept (.calledChild held) wrappers

end Calls

/-! ### Factories -/

section Factories

variable {library} {session} {Book : Type} {next : State World}
  (books : ObjectBook library Book)

private theorem changed_createTransport {kind : TransportKind} {create : CreateTransport World}
    {self : Device} {texts : TransportTexts} {iceServers : Option String}
    {policy : IceTransportPolicy} {program : SwiftCall (Process World) TransportFacade}
    (makes : ∀ device listener arguments,
      Makes books.book books.made (create device listener arguments))
    (isProgram : program = convertMediasoupErrors (nilResultCall
      (DeviceWrapper.createTransport library create self texts iceServers policy)))
    (called : session.createTransport kind program = some next) :
    Changed books session (session.unlessThrows program (.madeTransport kind) .nothing) next := by
  obtain ⟨⟨outcome, reached⟩, ran, ended⟩ := Option.bind_eq_some_iff.mp called
  obtain ⟨process, returned, rfl⟩ := call_eq_some ran
  rw [unlessThrows_of_returned returned]
  rw [isProgram] at returned
  obtain ⟨inner, returned, sameInner⟩ := convertMediasoupErrors_returned returned
  obtain ⟨result, returned, sameResult⟩ := nilResultCall_returned returned
  rw [← sameInner] at sameResult
  rcases createTransport_cases library makes returned with ⟨error, rfl, seen⟩ | ⟨object, rfl, seen⟩
  · cases outcome with
    | error thrown =>
        cases ended
        exact .failed seen
    | ok facade => cases sameResult
  · cases outcome with
    | error thrown => cases sameResult
    | ok facade =>
        cases sameResult
        cases ended
        exact .madeTransport seen

private theorem changed_deviceStep {self : Device} {operation : DeviceOperation}
    (stepped : deviceStep library session self operation = some next) :
    Changed books session (deviceEffect library session self operation) next := by
  cases factory : operation.isFactory with
  | true =>
      cases operation with
      | createSendTransport texts iceServers policy =>
          exact changed_createTransport books books.createSendTransport rfl stepped
      | createReceiveTransport texts iceServers policy =>
          exact changed_createTransport books books.createRecvTransport rfl stepped
      | _ => cases factory
  | false =>
      have keeps := DeviceOperation.keepsWrappers books self factory
      cases operation with
      | createSendTransport texts iceServers policy => cases factory
      | createReceiveTransport texts iceServers policy => cases factory
      | _ => exact changed_of_keepsWrappers books .nothing keeps stepped

private theorem changed_createProducerWith {name : Nat} {self : TransportFacade}
    {track : MediaStreamTrack}
    {texts : ProducerTexts} (owner : session.transport .send name = some self)
    (called : session.createChild name .producer (SendTransport.createProducerWith track
        (SendTransportWrapper.createProducerForTrack library self.transport track texts)) =
      some next) :
    Changed books session
      (session.unlessThrows (SendTransport.createProducerWith track
          (SendTransportWrapper.createProducerForTrack library self.transport track texts))
        (.madeProducer name track) .nothing) next := by
  obtain ⟨⟨outcome, reached⟩, ran, ended⟩ := Option.bind_eq_some_iff.mp called
  obtain ⟨process, returned, rfl⟩ := call_eq_some ran
  rw [unlessThrows_of_returned returned]
  unfold SendTransport.createProducerWith at returned
  cases kind : MediaKind.initStringValue track.kind with
  | none =>
      rw [kind] at returned
      cases returned
      cases ended
      exact .kept .nothing rfl
  | some mediaKind =>
      simp only [kind] at returned
      obtain ⟨converted, returned, sameConverted⟩ := convertMediasoupErrors_returned returned
      obtain ⟨inner, returned, sameInner⟩ := mapResult_returned returned
      obtain ⟨result, returned, sameResult⟩ := nilResultCall_returned returned
      have value : outcome.toOption = result.1.map fun producer =>
          ({ producer := producer, kind := mediaKind } : Producer) := by
        rw [sameConverted, sameInner, sameResult]
      rcases createChild_cases books.produce
          (fun object listenerAdapter => completes_initWithProducer object track listenerAdapter)
          returned with
        ⟨error, rfl, seen⟩ | ⟨object, middle, wrapper, seen, pointer, wrapped, rfl⟩
      · cases outcome with
        | error thrown =>
            cases ended
            exact .failed seen
        | ok facade => cases value
      · cases outcome with
        | error thrown => cases value
        | ok facade =>
            have address : middle.nextAddress = session.process.nextAddress :=
              (Process.nextAddress_of_seen seen :)
            have made : process.seen books.book =
                (withProducer (session.process.seen books.book) track).noting
                  (books.made object) := by
              cases wrapped
              exact congrArg (fun seen : Process _ =>
                { seen with
                  nextAddress := seen.nextAddress + 1
                  producerTrack := Function.update seen.producerTrack seen.nextAddress track })
                seen
            cases value
            cases wrapped
            cases ended
            exact .madeProducer owner pointer address rfl made

/-- The three factories whose wrapper has no address. -/
theorem changed_createChild {Arguments Wrapper : Type} {name : Nat} {self : TransportFacade}
    {create : Handle → AdapterPointer → Arguments → NativeCall World Handle}
    {wrap : Handle → AdapterPointer → ObjCpp (Process World) Wrapper}
    {arguments : Except CppException Arguments} {facade : Wrapper → α} {child : α → ChildFacade}
    {kind : ChildKind} {program : SwiftCall (Process World) α}
    (makes : ∀ transport listener converted,
      Makes books.book books.made (create transport listener converted))
    (other : kind ≠ .producer) (owner : session.transport kind.transportKind name = some self)
    (wraps : ∀ object listenerAdapter process, ∃ wrapper last,
      wrap object listenerAdapter process = (.ok wrapper, last) ∧
        last.seen books.book = process.seen books.book ∧
        (child (facade wrapper)).kind = kind ∧
        (child (facade wrapper)).object = object ∧
        (child (facade wrapper)).listenerAdapter = listenerAdapter)
    (calls : ∀ outcome process, program session.process = (.ok outcome, process) → ∃ result,
      createChild create wrap arguments self.transport session.process = (.ok result, process) ∧
        outcome.toOption = result.1.map facade)
    (called : session.createChild name child program = some next) :
    Changed books session (session.unlessThrows program (.madeChild kind name) .nothing) next := by
  obtain ⟨⟨outcome, reached⟩, ran, ended⟩ := Option.bind_eq_some_iff.mp called
  obtain ⟨process, returned, rfl⟩ := call_eq_some ran
  rw [unlessThrows_of_returned returned]
  obtain ⟨result, created, value⟩ := calls outcome process returned
  have completes : ∀ object listenerAdapter process,
      Program.Completes (wrap object listenerAdapter) process := by
    intro object listenerAdapter start
    obtain ⟨wrapper, last, wrapped, -⟩ := wraps object listenerAdapter start
    exact Program.completes_of_ok wrapped
  rcases createChild_cases makes completes created with
    ⟨error, rfl, seen⟩ | ⟨object, middle, wrapper, seen, pointer, wrapped, rfl⟩
  · cases outcome with
    | error thrown =>
        cases ended
        exact .failed seen
    | ok made => cases value
  · cases outcome with
    | error thrown => cases value
    | ok made =>
        obtain ⟨found, last, wrappedToo, seenLast, madeKind, isObject, adapter⟩ :=
          wraps object session.process.listenerAdapters.fresh middle
        rw [wrapped] at wrappedToo
        cases wrappedToo
        cases value
        cases ended
        rw [← isObject] at seen
        exact .madeChild owner pointer madeKind other adapter (seenLast.trans seen)

end Factories

/-! ### Calls on a transport -/

section Transports

variable {library} {session} {Book : Type} {next : State World}
  (books : ObjectBook library Book)

private theorem changed_dispose {kind : TransportKind} {name : Nat} {self : TransportFacade}
    (owner : session.transport kind name = some self)
    (called : session.plainCall (TransportOperation.call library self .dispose) = some next) :
    Changed books session (.disposed name) next := by
  obtain ⟨value, process, returned, rfl⟩ := plainCall_eq_some called
  obtain ⟨⟨⟩, reached, disposed, ended⟩ := Program.bind_eq_ok_iff.mp returned
  cases ended
  rcases dispose_cases books disposed with
    ⟨noObject, rfl⟩ | ⟨object, adapter, isObject, pointer, seen⟩
  · exact .kept (.disposed owner noObject) rfl
  · obtain ⟨transport, found, held, -, rfl⟩ := transport_eq_some owner
    exact .disposed found held isObject pointer seen

/-- `close` sends its message through the pointer, which is therefore not null. -/
theorem changed_close {kind : TransportKind} {name : Nat} {self : TransportFacade}
    (owner : session.transport kind name = some self)
    (called : session.plainCall (TransportOperation.call library self .close) = some next) :
    Changed books session (.closedTransport name) next := by
  have keeps := (TransportOperation.keepsSeen books self
    (show TransportOperation.close.isDispose = false from rfl)).wrappers
  refine changed_of_keepsWrappers books (.closedTransport owner ?pointer) keeps called
  obtain ⟨value, process, returned, -⟩ := plainCall_eq_some called
  obtain ⟨⟨⟩, closed, ran, -⟩ := Program.bind_eq_ok_iff.mp returned
  obtain ⟨transport, reached, found, -⟩ := Program.bind_eq_ok_iff.mp ran
  obtain ⟨read, same, isRead, pointed⟩ := Program.bind_eq_ok_iff.mp found
  cases isRead
  cases pointer : (session.process.transportIvars self.transport).transport with
  | some object => rfl
  | none =>
      rw [pointer] at pointed
      cases pointed

private theorem changed_transportCall {kind : TransportKind} {name : Nat} {self : TransportFacade}
    {operation : TransportOperation} (owner : session.transport kind name = some self)
    (called : session.plainCall (operation.call library self) = some next) :
    Changed books session (transportEffect name operation) next := by
  cases plain : operation.isDispose with
  | true =>
      cases operation with
      | dispose => exact changed_dispose books owner called
      | _ => cases plain
  | false =>
      have keeps := (operation.keepsSeen books self plain).wrappers
      cases operation with
      | dispose => cases plain
      | close => exact changed_close books owner called
      | _ => exact changed_of_keepsWrappers books .nothing keeps called

private theorem changed_sendTransportStep {name : Nat} {self : TransportFacade}
    {operation : SendTransportOperation} (owner : session.transport .send name = some self)
    (stepped : sendTransportStep library session name self operation = some next) :
    Changed books session (sendTransportEffect library session name self operation) next := by
  cases operation with
  | transport operation => exact changed_transportCall books owner stepped
  | createProducer track encodings codecOptions codec appData =>
      exact changed_createProducerWith books owner stepped
  | createScalableProducer track encoding mode codecOptions codec appData =>
      exact changed_createProducerWith books owner stepped
  | produceData texts =>
      have calls : ∀ outcome process,
          SendTransport.produceData library self texts session.process = (.ok outcome, process) →
          ∃ result, SendTransportWrapper.createDataProducerWithLabel library self.transport texts
            session.process = (.ok result, process) ∧ outcome.toOption = result.1.map id := by
        intro outcome process returned
        obtain ⟨inner, returned, sameInner⟩ := convertMediasoupErrors_returned returned
        obtain ⟨result, returned, sameResult⟩ := nilResultCall_returned returned
        exact ⟨result, returned, sameInner.trans (sameResult.trans Option.map_id'.symm)⟩
      have dataProducer : ChildKind.dataProducer ≠ .producer := by decide
      exact changed_createChild books books.produceData dataProducer owner
        (fun _ _ _ => ⟨_, _, rfl, rfl, rfl, rfl, rfl⟩) calls stepped

private theorem changed_receiveTransportStep {name : Nat} {self : TransportFacade}
    {operation : ReceiveTransportOperation} (owner : session.transport .receive name = some self)
    (stepped : receiveTransportStep library session name self operation = some next) :
    Changed books session (receiveTransportEffect library session name self operation) next := by
  cases operation with
  | transport operation => exact changed_transportCall books owner stepped
  | consume texts =>
      have calls : ∀ outcome process,
          ReceiveTransport.consume library self texts session.process = (.ok outcome, process) →
          ∃ result, ReceiveTransportWrapper.createConsumerWithId library self.transport texts
            session.process = (.ok result, process) ∧
            outcome.toOption = result.1.map fun consumer =>
              ({ consumer := consumer, kind := texts.kind } : Consumer) := by
        intro outcome process returned
        obtain ⟨converted, returned, sameConverted⟩ := convertMediasoupErrors_returned returned
        obtain ⟨inner, returned, sameInner⟩ := mapResult_returned returned
        obtain ⟨result, returned, sameResult⟩ := nilResultCall_returned returned
        exact ⟨result, returned, by rw [sameConverted, sameInner, sameResult]⟩
      have consumer : ChildKind.consumer ≠ .producer := by decide
      exact changed_createChild books books.consume consumer owner
        (fun _ _ _ => ⟨_, _, rfl, rfl, rfl, rfl, rfl⟩) calls stepped
  | consumeData texts =>
      have calls : ∀ outcome process,
          ReceiveTransport.consumeData library self texts session.process =
            (.ok outcome, process) →
          ∃ result, ReceiveTransportWrapper.createDataConsumerWithId library self.transport texts
            session.process = (.ok result, process) ∧ outcome.toOption = result.1.map id := by
        intro outcome process returned
        obtain ⟨inner, returned, sameInner⟩ := convertMediasoupErrors_returned returned
        obtain ⟨result, returned, sameResult⟩ := nilResultCall_returned returned
        exact ⟨result, returned, sameInner.trans (sameResult.trans Option.map_id'.symm)⟩
      have dataConsumer : ChildKind.dataConsumer ≠ .producer := by decide
      exact changed_createChild books books.consumeData dataConsumer owner
        (fun _ _ _ => ⟨_, _, rfl, rfl, rfl, rfl, rfl⟩) calls stepped

end Transports

/-! ### Calls on a child -/

section ChildCalls

variable {library} {session} {Book : Type} {next : State World}
  (books : ObjectBook library Book)

theorem keepsSeen_beginUpdate (self : ProducerWrapper) :
    KeepsSeen books.book (ProducerWrapper.beginUpdate library self) := by
  apply (KeepsSeen.readNative (library.getRtpSender self.producer)).bind
  intro sender
  have reads : KeepsSeen books.book (ProducerWrapper.readParameters library sender) :=
    fun process => Process.seen_withNative (books.getParameters sender process.native)
  exact reads.bind fun _ => Program.Keeps.pure _

theorem keepsSeen_finishUpdate (call : ProducerWrapper.OpenUpdate)
    (wrapped : WrappedRTPParameters) :
    KeepsSeen books.book (ProducerWrapper.finishUpdate library call wrapped) := by
  unfold ProducerWrapper.finishUpdate
  cases updatedNativeParameters call.parameters wrapped with
  | none => exact Program.Keeps.abort _
  | some written => exact KeepsSeen.runNative (books.setParameters call.sender written)

private theorem changed_replaceTrack {name : Nat} {self : Producer} {track : MediaStreamTrack}
    (held : session.child name = some (.producer self))
    (called : session.childCall name false (self.replaceTrack library track) = some next) :
    Changed books session (session.unlessThrows (self.replaceTrack library track)
      (.replacedTrack name track) (.calledChild name)) next := by
  obtain ⟨reached, ran, ended⟩ := Option.bind_eq_some_iff.mp called
  cases ended
  obtain ⟨outcome, process, returned, rfl⟩ := plainCall_eq_some ran
  rw [unlessThrows_of_returned returned]
  obtain ⟨inner, returned, sameInner⟩ := nonnullErrorCall_returned returned
  rcases replaceTrack_cases books returned with ⟨error, rfl, seen⟩ | ⟨rfl, seen⟩
  · have wrappers := Process.wrappers_of_seen seen
    cases outcome with
    | error thrown => exact .kept (.calledChild held) wrappers
    | ok value => cases sameInner
  · cases outcome with
    | error thrown => cases sameInner
    | ok value => exact .replacedTrack held seen

private theorem changed_producerStep {name : Nat} {self : Producer}
    {operation : ProducerOperation World} (held : session.child name = some (.producer self))
    (stepped : producerStep library session name self operation = some next) :
    Changed books session (producerEffect library session name self operation) next := by
  cases plain : operation.isUpdate with
  | true =>
      cases operation with
      | updateSenderParameters updater => cases stepped
      | replaceTrack track => exact changed_replaceTrack books held stepped
      | _ => cases plain
  | false =>
      have keeps := ProducerOperation.keepsSeen books self plain
      cases operation with
      | updateSenderParameters updater => cases plain
      | replaceTrack track => cases plain
      | _ => exact changed_childCall books held keeps stepped

private theorem changed_consumerStep {name : Nat} {self : Consumer} {operation : ConsumerOperation}
    (held : session.child name = some (.consumer self))
    (stepped : consumerStep library session name self operation = some next) :
    Changed books session (session.effect library (.consumer name operation)) next := by
  have keeps := ConsumerOperation.keepsSeen books self operation
  cases operation <;> exact changed_childCall books held keeps stepped

private theorem changed_dataProducerStep {name : Nat} {self : DataProducer}
    {operation : DataProducerOperation} (held : session.child name = some (.dataProducer self))
    (stepped : dataProducerStep library session name self operation = some next) :
    Changed books session (session.effect library (.dataProducer name operation)) next := by
  have keeps := DataProducerOperation.keepsSeen books self operation
  cases operation <;> exact changed_childCall books held keeps stepped

private theorem changed_dataConsumerStep {name : Nat} {self : DataConsumer}
    {operation : DataConsumerOperation} (held : session.child name = some (.dataConsumer self))
    (stepped : dataConsumerStep library session name self operation = some next) :
    Changed books session (session.effect library (.dataConsumer name operation)) next := by
  have keeps := DataConsumerOperation.keepsSeen books self operation
  cases operation <;> exact changed_childCall books held keeps stepped

private theorem changed_beginUpdate {name : Nat}
    (stepped : step library session (.beginUpdate name) = some next) :
    Changed books session (.beganUpdate name) next := by
  simp only [step] at stepped
  split at stepped
  · next self held =>
      obtain ⟨⟨⟨call, given⟩, reached⟩, called, ended⟩ := Option.bind_eq_some_iff.mp stepped
      obtain ⟨process, ran, rfl⟩ := call_eq_some called
      cases ended
      have keeps := KeepsSeen.wrappers (keepsSeen_beginUpdate books self.producer)
      exact .beganUpdate held (keeps.reached ran)
  · cases stepped

private theorem changed_finishUpdate {updatedValue : RTPParameters}
    (stepped : step library session (.finishUpdate updatedValue) = some next) :
    Changed books session (session.effect library (.finishUpdate updatedValue)) next := by
  simp only [step] at stepped
  split at stepped
  · cases stepped
  · next update outer innermost =>
      have effect : session.effect library (.finishUpdate updatedValue) =
          .finishedUpdate update.producer := by
        simp only [State.effect, innermost]
      rw [effect]
      obtain ⟨reached, called, ended⟩ := Option.bind_eq_some_iff.mp stepped
      obtain ⟨value, process, ran, rfl⟩ := plainCall_eq_some called
      cases ended
      have keeps := KeepsSeen.wrappers
        (keepsSeen_finishUpdate books update.call updatedValue.wrappedValue)
      exact .finishedUpdate innermost (keeps.reached ran)

end ChildCalls

/-! ### Releases -/

section Releases

variable {library} {session} {Book : Type} {next : State World}
  (books : ObjectBook library Book)

private theorem changed_deallocDevice {name : Nat}
    (stepped : step library session (.deallocDevice name) = some next) :
    Changed books session .nothing next := by
  simp only [step, Option.bind_eq_bind, Option.bind_eq_some_iff, Option.ite_none_right_eq_some,
    Option.some.injEq] at stepped
  obtain ⟨device, found, released, reached, called, rfl⟩ := stepped
  obtain ⟨value, process, returned, rfl⟩ := plainCall_eq_some called
  exact .kept .nothing ((keepsWrappers_deallocDevice books device.facade).reached returned)

private theorem changed_releaseTransport {name : Nat}
    (stepped : step library session (.releaseTransport name) = some next) :
    Changed books session (.releasedTransport name) next := by
  simp only [step, Option.bind_eq_bind, Option.bind_eq_some_iff, Option.ite_none_right_eq_some,
    Option.some.injEq] at stepped
  obtain ⟨transport, found, held, reached, called, rfl⟩ := stepped
  obtain ⟨value, process, returned, rfl⟩ := plainCall_eq_some called
  rcases dispose_cases books returned with
    ⟨noObject, rfl⟩ | ⟨object, adapter, isObject, pointer, seen⟩
  · exact .releasedDisposed found held noObject
  · exact .releasedTransport found held isObject pointer seen

private theorem seen_of_released (facade : ChildFacade) {process last : Process World}
    (returned : facade.release library process = (.ok (), last)) :
    last.seen books.book =
      ((process.seen books.book).withoutAdapter facade.listenerAdapter).noting
        (books.deleted facade.object) := by
  have deleted := books.delete facade.object process.native
  have seen := (process.withoutAdapter facade.listenerAdapter).seen_withNative deleted
  cases facade <;>
  · cases returned
    exact seen

private theorem changed_releaseChild {name : Nat}
    (stepped : step library session (.releaseChild name) = some next) :
    Changed books session (.releasedChild name) next := by
  simp only [step, Option.bind_eq_bind, Option.bind_eq_some_iff, Option.ite_none_left_eq_some,
    Option.some.injEq] at stepped
  obtain ⟨facade, isChild, unused, reached, called, rfl⟩ := stepped
  obtain ⟨child, found, held, rfl⟩ := child_eq_some_iff.mp isChild
  obtain ⟨⟨⟩, process, returned, rfl⟩ := plainCall_eq_some called
  have unused : ∀ update ∈ session.updates, update.producer ≠ name :=
    fun update member same => unused ⟨update, member, same⟩
  exact .releasedChild found held unused (seen_of_released books child.facade returned)

end Releases

/-- Every step changes the wrappers and the facades as its effect says. -/
theorem changed_of_step {library : NativeLibrary World} {native : World} {Book : Type}
    (books : ObjectBook library Book) {session next : State World} {action : Action World}
    (stepped : (machine library native).step session action = some next) :
    Changed books session (session.effect library action) next := by
  cases action with
  | initCaptureAudioSession captureAudioSession =>
      exact changed_createDevice books
        (keepsWrappers_initCaptureAudioSession books captureAudioSession) stepped
  | initPCFactory pcFactory =>
      have keeps : KeepsWrappers books.book
          (DeviceWrapper.initWithPCFactory library (.given pcFactory)) :=
        keepsWrappers_construct books (.given pcFactory) false
      exact changed_createDevice books keeps stepped
  | device name operation =>
      obtain ⟨self, held, stepped⟩ := Option.bind_eq_some_iff.mp stepped
      simp only [State.effect, held]
      exact changed_deviceStep books stepped
  | sendTransport name operation =>
      obtain ⟨self, owner, stepped⟩ := Option.bind_eq_some_iff.mp stepped
      simp only [State.effect, owner]
      exact changed_sendTransportStep books owner stepped
  | receiveTransport name operation =>
      obtain ⟨self, owner, stepped⟩ := Option.bind_eq_some_iff.mp stepped
      simp only [State.effect, owner]
      exact changed_receiveTransportStep books owner stepped
  | producer name operation =>
      simp only [machine, step] at stepped
      split at stepped
      · next self held =>
          simp only [State.effect, held]
          exact changed_producerStep books held stepped
      · cases stepped
  | consumer name operation =>
      simp only [machine, step] at stepped
      split at stepped
      · next self held => exact changed_consumerStep books held stepped
      · cases stepped
  | dataProducer name operation =>
      simp only [machine, step] at stepped
      split at stepped
      · next self held => exact changed_dataProducerStep books held stepped
      · cases stepped
  | dataConsumer name operation =>
      simp only [machine, step] at stepped
      split at stepped
      · next self held => exact changed_dataConsumerStep books held stepped
      · cases stepped
  | beginUpdate name => exact changed_beginUpdate books stepped
  | finishUpdate updatedValue => exact changed_finishUpdate books stepped
  | releaseDevice name =>
      obtain ⟨self, -, released⟩ := Option.bind_eq_some_iff.mp stepped
      cases released
      exact .kept .nothing rfl
  | deallocDevice name => exact changed_deallocDevice books stepped
  | releaseTransport name => exact changed_releaseTransport books stepped
  | releaseChild name => exact changed_releaseChild books stepped

end MediasoupClientSwift.Session
