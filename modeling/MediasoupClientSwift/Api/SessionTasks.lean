import MediasoupClientSwift.Api.SessionEffects
import MediasoupClientSwift.Device.AudioTasks

/-!
Owns the audio-session tasks of a whole session: only `init(captureAudioSession:)`,
`retainAudioSession`, `releaseAudioSession` and the `dealloc` of a wrapper post
one, each to the worker thread of its device's factory. The main result is about
a device that made its factory itself: under every schedule of that factory's
thread, the tasks it has executed and those it has yet to execute are the ones
the session posted there.
-/

namespace MediasoupClientSwift

open Library
open Children (TransportKind)

variable {World α : Type}

/-- The number of factories made, and the tasks posted to their worker threads. -/
def Process.posted (process : Process World) : Nat × List (PCFactory × AudioTask) :=
  (process.nextFactory, process.workerTasks)

/-- The program makes no factory and posts no task. -/
abbrev KeepsPosted (program : ObjCpp (Process World) α) : Prop :=
  Program.Keeps Process.posted program

theorem KeepsSeen.posted {Book : Type} {book : World → Book} {program : ObjCpp (Process World) α}
    (keeps : KeepsSeen book program) : KeepsPosted program :=
  keeps.part fun seen => (seen.nextFactory, seen.workerTasks)

/-! ### Operations that post nothing -/

namespace KeepsPosted

theorem callNative (call : NativeCall World α) :
    KeepsPosted (MediasoupClientSwift.callNative call) := by
  have blank : Program.Keeps (fun _ : World => ()) call := fun _ => rfl
  exact KeepsSeen.posted (KeepsSeen.callNative blank)

theorem throwing (result : Except CppException α) :
    KeepsPosted (MediasoupClientSwift.throwing result : ObjCpp (Process World) α) :=
  KeepsSeen.posted (KeepsSeen.throwing result : KeepsSeen (fun _ => ()) _)

theorem dereference (pointer : Option α) :
    KeepsPosted (MediasoupClientSwift.dereference pointer : ObjCpp (Process World) α) :=
  KeepsSeen.posted (KeepsSeen.dereference pointer : KeepsSeen (fun _ => ()) _)

theorem transport (self : Address) :
    KeepsPosted (TransportWrapper.transport self : ObjCpp (Process World) Handle) :=
  KeepsSeen.posted (KeepsSeen.transport self : KeepsSeen (fun _ => ()) _)

theorem deleteListenerAdapter (adapter : AdapterPointer) :
    KeepsPosted (MediasoupClientSwift.deleteListenerAdapter adapter : ObjCpp (Process World) Unit) :=
  fun _ => rfl

theorem newListenerAdapter {next : AdapterPointer → ObjCpp (Process World) α}
    (keeps : ∀ adapter, KeepsPosted (next adapter)) :
    KeepsPosted (MediasoupClientSwift.newListenerAdapter >>= next) := by
  have allocates : KeepsPosted
      (MediasoupClientSwift.newListenerAdapter : ObjCpp (Process World) AdapterPointer) :=
    fun _ => rfl
  exact allocates.bind keeps

end KeepsPosted

/-- The task that a call of the device posts. -/
def DeviceOperation.audioTask : DeviceOperation → Option AudioTask
  | .retainAudioSession => some .start
  | .releaseAudioSession => some .stop
  | _ => none

theorem DeviceOperation.audioTask_of_silent {operation : DeviceOperation}
    (silent : operation.isAudioSession = false) : operation.audioTask = none := by
  cases operation with
  | retainAudioSession => cases silent
  | releaseAudioSession => cases silent
  | _ => rfl

section Operations

variable {library : NativeLibrary World}

private theorem keepsPosted_createTransport (create : CreateTransport World) (self : Device)
    (texts : TransportTexts) (iceServers : Option String) (policy : IceTransportPolicy) :
    KeepsPosted (DeviceWrapper.createTransport library create self texts iceServers policy) := by
  apply (KeepsPosted.throwing _).bind
  intro pcOptions
  apply KeepsPosted.newListenerAdapter
  intro listenerAdapter
  apply keeps_guarded
  · apply (KeepsPosted.throwing _).bind
    intro arguments
    apply (KeepsPosted.callNative _).bind
    intro transport
    have wraps : KeepsPosted (TransportWrapper.initWithTransport transport self.pcFactory
        listenerAdapter : ObjCpp (Process World) Address) := fun _ => rfl
    exact wraps.bind fun wrapper => Program.Keeps.pure _
  · exact KeepsPosted.deleteListenerAdapter listenerAdapter
  · exact Program.Keeps.pure none

private theorem keepsPosted_createChild {Arguments Wrapper : Type}
    {create : Handle → AdapterPointer → Arguments → NativeCall World Handle}
    {wrap : Handle → AdapterPointer → ObjCpp (Process World) Wrapper}
    (arguments : Except CppException Arguments) (self : Address)
    (wraps : ∀ object listenerAdapter, KeepsPosted (wrap object listenerAdapter)) :
    KeepsPosted (createChild create wrap arguments self) := by
  apply KeepsPosted.newListenerAdapter
  intro listenerAdapter
  have deletes : KeepsPosted (deleteListenerAdapter listenerAdapter : ObjCpp (Process World) Unit) :=
    KeepsPosted.deleteListenerAdapter listenerAdapter
  apply keeps_guarded
  · apply (KeepsPosted.throwing arguments).bind
    intro converted
    apply (KeepsPosted.transport self).bind
    intro transport
    apply (KeepsPosted.callNative _).bind
    intro object
    exact (wraps object listenerAdapter).bind fun wrapper => Program.Keeps.pure _
  · exact Program.Keeps.pure ()
  · exact deletes.bind fun _ => Program.Keeps.pure none

private theorem keepsPosted_createProducerWith (self : TransportFacade) (track : MediaStreamTrack)
    (texts : ProducerTexts) :
    KeepsPosted (SendTransport.createProducerWith track
        (SendTransportWrapper.createProducerForTrack library self.transport track texts)) := by
  unfold SendTransport.createProducerWith
  cases MediaKind.initStringValue track.kind with
  | none => exact Program.Keeps.pure _
  | some mediaKind =>
      apply keeps_convertMediasoupErrors
      apply keeps_mapResult
      apply keeps_nilResultCall
      exact keepsPosted_createChild _ _ fun producer listenerAdapter _ => rfl

private theorem keepsPosted_dispose (self : Address) :
    KeepsPosted (TransportWrapper.dispose library self) := by
  apply Program.Keeps.get.bind
  intro process
  dsimp only
  split
  · exact Program.Keeps.pure ()
  · apply (KeepsPosted.dereference (process.transportIvars self).listenerAdapter).bind
    exact fun listenerAdapter _ => rfl

private theorem keepsPosted_replaceTrack (self : Producer) (track : MediaStreamTrack) :
    KeepsPosted (self.replaceTrack library track) := by
  apply keeps_nonnullErrorCall
  apply keeps_guarded
  · apply (KeepsPosted.callNative _).bind
    exact fun replaced _ => rfl
  · exact Program.Keeps.pure ()
  · exact Program.Keeps.pure ()

/-- Every operation of a device but the two that post. -/
theorem DeviceOperation.keepsPosted (self : Device) {operation : DeviceOperation}
    (silent : operation.isAudioSession = false) : KeepsPosted (operation.call library self) := by
  cases factory : operation.isFactory with
  | false =>
      exact KeepsSeen.posted (DeviceOperation.keepsSeen (.blank library) self factory silent)
  | true =>
      cases operation with
      | createSendTransport texts iceServers policy =>
          exact keeps_mapResult (keeps_convertMediasoupErrors (keeps_nilResultCall
            (keepsPosted_createTransport _ self texts iceServers policy)))
      | createReceiveTransport texts iceServers policy =>
          exact keeps_mapResult (keeps_convertMediasoupErrors (keeps_nilResultCall
            (keepsPosted_createTransport _ self texts iceServers policy)))
      | _ => cases factory

theorem TransportOperation.keepsPosted (self : TransportFacade) (operation : TransportOperation) :
    KeepsPosted (operation.call library self) := by
  cases plain : operation.isDispose with
  | false => exact KeepsSeen.posted (operation.keepsSeen (.blank library) self plain)
  | true =>
      cases operation with
      | dispose => exact keeps_returning (keepsPosted_dispose self.transport)
      | _ => cases plain

theorem ProducerOperation.keepsPosted (self : Producer) {operation : ProducerOperation World}
    (noUpdater : ∀ updater, operation ≠ .updateSenderParameters updater) :
    KeepsPosted (operation.call library self) := by
  cases plain : operation.isUpdate with
  | false => exact KeepsSeen.posted (operation.keepsSeen (.blank library) self plain)
  | true =>
      cases operation with
      | updateSenderParameters updater => exact absurd rfl (noUpdater updater)
      | replaceTrack track => exact keepsPosted_replaceTrack self track
      | _ => cases plain

end Operations

namespace Session

/-! ### One step -/


/-- The factories made, the tasks posted and the devices. -/
def State.audio (session : State World) :
    (Nat × List (PCFactory × AudioTask)) × Arena HeldDevice :=
  (session.process.posted, session.devices)

/-- The action may post a task, make a device or let one go. -/
def Action.isAudio : Action World → Bool
  | .initCaptureAudioSession _ => true
  | .initPCFactory _ => true
  | .device _ operation => operation.isAudioSession
  | .releaseDevice _ => true
  | .deallocDevice _ => true
  | _ => false

/-- Everything a step can do to them. -/
inductive AudioChanged (session next : State World) : Action World → Prop where
  | initCaptureAudioSession {captureAudioSession : Bool} {self : Device}
      (own : self.pcFactory = .made session.process.nextFactory)
      (captures : self.captureAudioSession = captureAudioSession)
      (factories : next.process.nextFactory = session.process.nextFactory + 1)
      (tasks : next.process.workerTasks = session.process.workerTasks ++
        (AudioSession.firstTasks (.captureAudioSession captureAudioSession)).map
          (Prod.mk self.pcFactory))
      (devices : next.devices = session.devices.push { facade := self, phase := .held }) :
      AudioChanged session next (.initCaptureAudioSession captureAudioSession)
  | initPCFactory {pcFactory : Nat} {self : Device} (shared : self.pcFactory = .given pcFactory)
      (posted : next.process.posted = session.process.posted)
      (devices : next.devices = session.devices.push { facade := self, phase := .held }) :
      AudioChanged session next (.initPCFactory pcFactory)
  | call {name : Nat} {operation : DeviceOperation} {device : HeldDevice}
      (found : session.devices[name]? = some device) (held : device.phase = .held)
      (factories : next.process.nextFactory = session.process.nextFactory)
      (tasks : next.process.workerTasks = session.process.workerTasks ++
        operation.audioTask.toList.map (Prod.mk device.facade.pcFactory))
      (devices : next.devices = session.devices) :
      AudioChanged session next (.device name operation)
  | releaseDevice {name : Nat} {device : HeldDevice} (found : session.devices[name]? = some device)
      (held : device.phase = .held) (posted : next.process.posted = session.process.posted)
      (devices : next.devices =
        session.devices.modify name fun device => { device with phase := .released }) :
      AudioChanged session next (.releaseDevice name)
  | deallocDevice {name : Nat} {device : HeldDevice} (found : session.devices[name]? = some device)
      (released : device.phase = .released)
      (factories : next.process.nextFactory = session.process.nextFactory)
      (tasks : next.process.workerTasks = session.process.workerTasks ++
        (AudioSession.lastTasks (.captureAudioSession device.facade.captureAudioSession)
          .deallocated).map (Prod.mk device.facade.pcFactory))
      (devices : next.devices =
        session.devices.modify name fun device => { device with phase := .deallocated }) :
      AudioChanged session next (.deallocDevice name)
  | silent {action : Action World} (silent : action.isAudio = false)
      (same : next.audio = session.audio) : AudioChanged session next action

section Steps

variable {library : NativeLibrary World} {session next : State World}

private theorem audio_of_call {program : ObjCpp (Process World) α} {value : α}
    (keeps : KeepsPosted program) (called : session.call program = some (value, next)) :
    next.audio = session.audio := by
  obtain ⟨process, ran, rfl⟩ := call_eq_some called
  exact congrArg (·, session.devices) (keeps.reached ran)

private theorem audio_of_plainCall {program : ObjCpp (Process World) α}
    (keeps : KeepsPosted program) (called : session.plainCall program = some next) :
    next.audio = session.audio := by
  obtain ⟨⟨value, reached⟩, ran, rfl⟩ := Option.map_eq_some_iff.mp called
  exact audio_of_call keeps ran

private theorem audio_of_createTransport {kind : TransportKind}
    {program : SwiftCall (Process World) TransportFacade} (keeps : KeepsPosted program)
    (called : session.createTransport kind program = some next) :
    next.audio = session.audio := by
  obtain ⟨⟨outcome, reached⟩, ran, ended⟩ := Option.bind_eq_some_iff.mp called
  have same := audio_of_call keeps ran
  cases outcome <;> cases ended <;> exact same

private theorem audio_of_createChild {transport : Nat} {child : α → ChildFacade}
    {program : SwiftCall (Process World) α} (keeps : KeepsPosted program)
    (called : session.createChild transport child program = some next) :
    next.audio = session.audio := by
  obtain ⟨⟨outcome, reached⟩, ran, ended⟩ := Option.bind_eq_some_iff.mp called
  have same := audio_of_call keeps ran
  cases outcome <;> cases ended <;> exact same

private theorem audio_of_childCall {name : Nat} {isClose : Bool}
    {program : ObjCpp (Process World) α}
    (keeps : KeepsPosted program) (called : session.childCall name isClose program = some next) :
    next.audio = session.audio := by
  obtain ⟨reached, ran, ended⟩ := Option.bind_eq_some_iff.mp called
  have same := audio_of_plainCall keeps ran
  cases isClose <;> cases ended <;> exact same

private theorem audio_of_deviceStep {self : Device} {operation : DeviceOperation}
    (silent : operation.isAudioSession = false)
    (stepped : deviceStep library session self operation = some next) :
    next.audio = session.audio := by
  have keeps : KeepsPosted (operation.call library self) := operation.keepsPosted self silent
  cases operation with
  | retainAudioSession => cases silent
  | releaseAudioSession => cases silent
  | createSendTransport texts iceServers policy =>
      apply audio_of_createTransport _ stepped
      exact keeps_convertMediasoupErrors (keeps_nilResultCall
        (keepsPosted_createTransport _ self texts iceServers policy))
  | createReceiveTransport texts iceServers policy =>
      apply audio_of_createTransport _ stepped
      exact keeps_convertMediasoupErrors (keeps_nilResultCall
        (keepsPosted_createTransport _ self texts iceServers policy))
  | _ => exact audio_of_plainCall keeps stepped

private theorem audioChanged_deviceStep {name : Nat} {operation : DeviceOperation}
    (stepped : step library session (.device name operation) = some next) :
    AudioChanged session next (.device name operation) := by
  obtain ⟨self, isDevice, stepped⟩ := Option.bind_eq_some_iff.mp stepped
  obtain ⟨device, found, held, rfl⟩ := device_eq_some_iff.mp isDevice
  cases silent : operation.isAudioSession with
  | false => exact .silent silent (audio_of_deviceStep silent stepped)
  | true =>
      cases operation with
      | retainAudioSession =>
          cases stepped
          exact .call found held rfl rfl rfl
      | releaseAudioSession =>
          cases stepped
          exact .call found held rfl rfl rfl
      | _ => cases silent

private theorem audio_of_sendTransportStep {name : Nat} {self : TransportFacade}
    {operation : SendTransportOperation}
    (stepped : sendTransportStep library session name self operation = some next) :
    next.audio = session.audio := by
  cases operation with
  | transport operation => exact audio_of_plainCall (operation.keepsPosted self) stepped
  | createProducer track encodings codecOptions codec appData =>
      exact audio_of_createChild (keepsPosted_createProducerWith self track _) stepped
  | createScalableProducer track encoding mode codecOptions codec appData =>
      exact audio_of_createChild (keepsPosted_createProducerWith self track _) stepped
  | produceData texts =>
      apply audio_of_createChild _ stepped
      exact keeps_convertMediasoupErrors (keeps_nilResultCall
        (keepsPosted_createChild _ _ fun _ _ => Program.Keeps.pure _))

private theorem audio_of_receiveTransportStep {name : Nat} {self : TransportFacade}
    {operation : ReceiveTransportOperation}
    (stepped : receiveTransportStep library session name self operation = some next) :
    next.audio = session.audio := by
  cases operation with
  | transport operation => exact audio_of_plainCall (operation.keepsPosted self) stepped
  | consume texts =>
      apply audio_of_createChild _ stepped
      exact keeps_convertMediasoupErrors (keeps_mapResult (keeps_nilResultCall
        (keepsPosted_createChild _ _ fun _ _ _ => rfl)))
  | consumeData texts =>
      apply audio_of_createChild _ stepped
      exact keeps_convertMediasoupErrors (keeps_nilResultCall
        (keepsPosted_createChild _ _ fun _ _ => Program.Keeps.pure _))

private theorem audio_of_producerStep {name : Nat} {self : Producer}
    {operation : ProducerOperation World}
    (stepped : producerStep library session name self operation = some next) :
    next.audio = session.audio := by
  cases operation with
  | updateSenderParameters updater => cases stepped
  | _ => exact audio_of_childCall (ProducerOperation.keepsPosted self (by simp)) stepped

private theorem keepsPosted_release (facade : ChildFacade) : KeepsPosted
    (facade.release library) := by
  cases facade <;> exact fun _ => rfl

private theorem audioChanged_deallocDevice {name : Nat}
    (stepped : step library session (.deallocDevice name) = some next) :
    AudioChanged session next (.deallocDevice name) := by
  simp only [step, Option.bind_eq_bind, Option.bind_eq_some_iff, Option.ite_none_right_eq_some,
    Option.some.injEq] at stepped
  obtain ⟨device, found, released, reached, called, rfl⟩ := stepped
  obtain ⟨value, process, returned, rfl⟩ := plainCall_eq_some called
  unfold DeviceWrapper.dealloc at returned
  cases capture : device.facade.captureAudioSession with
  | true =>
      rw [capture] at returned
      cases returned
      exact .deallocDevice found released rfl (by rw [capture]; rfl) rfl
  | false =>
      rw [capture] at returned
      cases returned
      refine .deallocDevice found released rfl ?tasks rfl
      rw [capture]
      exact (List.append_nil _).symm

/-- Only the initializer that captures, the two audio calls and `dealloc` post. -/
theorem audioChanged_of_step {action : Action World}
    (stepped : step library session action = some next) : AudioChanged session next action := by
  cases action with
  | initCaptureAudioSession captureAudioSession =>
      cases captureAudioSession with
      | true =>
          cases stepped
          exact .initCaptureAudioSession rfl rfl rfl rfl rfl
      | false =>
          cases stepped
          exact .initCaptureAudioSession rfl rfl rfl (List.append_nil _).symm rfl
  | initPCFactory pcFactory =>
      cases stepped
      exact .initPCFactory rfl rfl rfl
  | device name operation => exact audioChanged_deviceStep stepped
  | releaseDevice name =>
      obtain ⟨self, isDevice, ended⟩ := Option.bind_eq_some_iff.mp stepped
      obtain ⟨device, found, held, rfl⟩ := device_eq_some_iff.mp isDevice
      cases ended
      exact .releaseDevice found held rfl rfl
  | deallocDevice name => exact audioChanged_deallocDevice stepped
  | sendTransport name operation =>
      obtain ⟨self, -, stepped⟩ := Option.bind_eq_some_iff.mp stepped
      exact .silent rfl (audio_of_sendTransportStep stepped)
  | receiveTransport name operation =>
      obtain ⟨self, -, stepped⟩ := Option.bind_eq_some_iff.mp stepped
      exact .silent rfl (audio_of_receiveTransportStep stepped)
  | producer name operation =>
      simp only [step] at stepped
      split at stepped
      · exact .silent rfl (audio_of_producerStep stepped)
      · cases stepped
  | consumer name operation =>
      simp only [step] at stepped
      split at stepped
      · next self held =>
          have keeps := KeepsSeen.posted (ConsumerOperation.keepsSeen (.blank library) self operation)
          cases operation <;> exact .silent rfl (audio_of_childCall keeps stepped)
      · cases stepped
  | dataProducer name operation =>
      simp only [step] at stepped
      split at stepped
      · next self held =>
          have keeps := KeepsSeen.posted
            (DataProducerOperation.keepsSeen (.blank library) self operation)
          cases operation <;> exact .silent rfl (audio_of_childCall keeps stepped)
      · cases stepped
  | dataConsumer name operation =>
      simp only [step] at stepped
      split at stepped
      · next self held =>
          have keeps := KeepsSeen.posted
            (DataConsumerOperation.keepsSeen (.blank library) self operation)
          cases operation <;> exact .silent rfl (audio_of_childCall keeps stepped)
      · cases stepped
  | beginUpdate name =>
      simp only [step] at stepped
      split at stepped
      · next self held =>
          obtain ⟨⟨read, reached⟩, called, ended⟩ := Option.bind_eq_some_iff.mp stepped
          have keeps := KeepsSeen.posted (keepsSeen_beginUpdate (.blank library) self.producer)
          have same := audio_of_call keeps called
          cases ended
          exact .silent rfl same
      · cases stepped
  | finishUpdate updatedValue =>
      simp only [step] at stepped
      split at stepped
      · cases stepped
      · next update outer pending =>
          obtain ⟨reached, called, ended⟩ := Option.bind_eq_some_iff.mp stepped
          have keeps := KeepsSeen.posted (keepsSeen_finishUpdate (.blank library) update.call
            updatedValue.wrappedValue)
          have same := audio_of_plainCall keeps called
          cases ended
          exact .silent rfl same
  | releaseTransport name =>
      obtain ⟨transport, -, stepped⟩ := Option.bind_eq_some_iff.mp stepped
      split at stepped
      · obtain ⟨reached, called, ended⟩ := Option.bind_eq_some_iff.mp stepped
        have same :=
          audio_of_plainCall (keepsPosted_dispose transport.facade.transport) called
        cases ended
        exact .silent rfl same
      · cases stepped
  | releaseChild name =>
      obtain ⟨facade, -, stepped⟩ := Option.bind_eq_some_iff.mp stepped
      split at stepped
      · cases stepped
      · obtain ⟨reached, called, ended⟩ := Option.bind_eq_some_iff.mp stepped
        have same := audio_of_plainCall (keepsPosted_release facade) called
        cases ended
        exact .silent rfl same

end Steps

/-! ### Runs -/

/-- The device is made over a factory of its own. -/
def Action.takesFactory : Action World → Bool
  | .initCaptureAudioSession _ => true
  | _ => false

def Action.makesDevice : Action World → Bool
  | .initCaptureAudioSession _ => true
  | .initPCFactory _ => true
  | _ => false

/-- The factories that devices have taken: the next one has their number. -/
def factoriesTaken (actions : List (Action World)) : Nat :=
  actions.countP Action.takesFactory

/-- The devices made: the next one has their number for a name. -/
def devicesMade (actions : List (Action World)) : Nat :=
  actions.countP Action.makesDevice

def Action.audioCall (name : Nat) : Action World → Option AudioTask
  | .device other operation => if other = name then operation.audioTask else none
  | _ => none

def State.tasksFor (session : State World) (factory : PCFactory) : List AudioTask :=
  session.process.workerTasks.filterMap fun posted =>
    if posted.1 = factory then some posted.2 else none

/-- The task that the `dealloc` of the device's wrapper posted. -/
def HeldDevice.lastTasks (device : HeldDevice) : List AudioTask :=
  if device.phase = .deallocated then
    AudioSession.lastTasks (.captureAudioSession device.facade.captureAudioSession) .deallocated
  else []

private theorem lastTasks_of_phase {device : HeldDevice} {phase : DevicePhase}
    (inPhase : device.phase = phase) (notDeallocated : phase ≠ .deallocated) :
    device.lastTasks = [] :=
  if_neg (inPhase ▸ notDeallocated)

/-- What holds after `past`: names and numbers count up, and nothing was posted to
a factory that is not made yet. -/
structure Counted (past : List (Action World)) (session : State World) : Prop where
  factories : session.process.nextFactory = factoriesTaken past
  devices : session.devices.length = devicesMade past
  made : ∀ (name : Nat) (device : HeldDevice) (number : Nat),
    session.devices[name]? = some device → device.facade.pcFactory = .made number →
    number < session.process.nextFactory
  posted : ∀ task ∈ session.process.workerTasks, ∀ number, task.1 = .made number →
    number < session.process.nextFactory

/-- What holds of a device that was made over a factory of its own, after `past`
since then. -/
structure Tracked (name factory : Nat) (captureAudioSession : Bool) (past : List (Action World))
    (session : State World) : Prop where
  device : ∃ device : HeldDevice, session.devices[name]? = some device ∧
    device.facade.pcFactory = .made factory ∧
    device.facade.captureAudioSession = captureAudioSession ∧
    session.tasksFor (.made factory) =
      AudioSession.firstTasks (.captureAudioSession captureAudioSession) ++
        past.filterMap (Action.audioCall name) ++ device.lastTasks
  alone : ∀ (other : Nat) (device : HeldDevice), session.devices[other]? = some device →
    device.facade.pcFactory = .made factory → other = name
  taken : factory < session.process.nextFactory

section Runs

variable {library : NativeLibrary World} {native : World} {session next : State World}

private theorem tasksFor_append {factory posted : PCFactory} {bodies : List AudioTask}
    (tasks : next.process.workerTasks =
      session.process.workerTasks ++ bodies.map (Prod.mk posted)) :
    next.tasksFor factory =
      session.tasksFor factory ++ if posted = factory then bodies else [] := by
  unfold State.tasksFor
  rw [tasks, List.filterMap_append, List.filterMap_map]
  by_cases same : posted = factory <;> simp [same]

private theorem workerTasks_of_posted (posted : next.process.posted = session.process.posted) :
    next.process.workerTasks = session.process.workerTasks :=
  congrArg Prod.snd posted

private theorem tasksFor_congr (posted : next.process.posted = session.process.posted)
    (factory : PCFactory) : next.tasksFor factory = session.tasksFor factory := by
  unfold State.tasksFor
  rw [workerTasks_of_posted posted]

private theorem audioCall_of_silent {action : Action World} (silent : action.isAudio = false)
    (name : Nat) : action.audioCall name = none := by
  cases action with
  | device other operation =>
      rw [Action.audioCall, DeviceOperation.audioTask_of_silent silent]
      exact ite_self none
  | _ => rfl

private theorem makes_of_silent {action : Action World} (silent : action.isAudio = false) :
    action.takesFactory = false ∧ action.makesDevice = false := by
  cases action with
  | initCaptureAudioSession captureAudioSession => cases silent
  | initPCFactory pcFactory => cases silent
  | _ => exact ⟨rfl, rfl⟩

private theorem factoriesTaken_append (past : List (Action World)) (action : Action World) :
    factoriesTaken (past ++ [action]) =
      factoriesTaken past + if action.takesFactory then 1 else 0 := by
  rw [factoriesTaken, List.countP_append, List.countP_singleton]
  rfl

private theorem devicesMade_append (past : List (Action World)) (action : Action World) :
    devicesMade (past ++ [action]) = devicesMade past + if action.makesDevice then 1 else 0 := by
  rw [devicesMade, List.countP_append, List.countP_singleton]
  rfl

/-- A step that makes no device, and posts at most to the factory of one. -/
theorem Counted.keep {past : List (Action World)} {action : Action World}
    (counted : Counted past session) (noFactory : action.takesFactory = false)
    (noDevice : action.makesDevice = false)
    (factories : next.process.nextFactory = session.process.nextFactory)
    (length : next.devices.length = session.devices.length)
    (devices : ∀ (name : Nat) (device : HeldDevice), next.devices[name]? = some device →
      ∃ old : HeldDevice, session.devices[name]? = some old ∧ old.facade = device.facade)
    (tasks : ∀ task ∈ next.process.workerTasks, task ∈ session.process.workerTasks ∨
      ∃ (name : Nat) (device : HeldDevice), session.devices[name]? = some device ∧
        device.facade.pcFactory = task.1) :
    Counted (past ++ [action]) next where
  factories := by rw [factories, counted.factories, factoriesTaken_append, noFactory]; rfl
  devices := by rw [length, counted.devices, devicesMade_append, noDevice]; rfl
  made := by
    intro name device number found own
    obtain ⟨old, present, same⟩ := devices name device found
    rw [factories]
    exact counted.made name old number present (same ▸ own)
  posted := by
    intro task member number own
    rw [factories]
    rcases tasks task member with old | ⟨name, device, found, same⟩
    · exact counted.posted task old number own
    · exact counted.made name device number found (same.trans own)

private theorem mem_of_posted {factory : PCFactory} {bodies : List AudioTask}
    (tasks : next.process.workerTasks =
      session.process.workerTasks ++ bodies.map (Prod.mk factory)) :
    ∀ task ∈ next.process.workerTasks,
      task ∈ session.process.workerTasks ∨ factory = task.1 := by
  intro task member
  rw [tasks] at member
  rcases List.mem_append.mp member with old | new
  · exact Or.inl old
  · obtain ⟨body, -, rfl⟩ := List.mem_map.mp new
    exact Or.inr rfl

/-- A step that makes a device, over a factory whose number is below the next one. -/
theorem Counted.push {past : List (Action World)} {action : Action World} {self : Device}
    (counted : Counted past session) (makes : action.makesDevice = true)
    (factories : next.process.nextFactory =
      session.process.nextFactory + if action.takesFactory then 1 else 0)
    (below : ∀ number, self.pcFactory = .made number → number < next.process.nextFactory)
    (tasks : ∀ task ∈ next.process.workerTasks,
      task ∈ session.process.workerTasks ∨ self.pcFactory = task.1)
    (devices : next.devices = session.devices.push { facade := self, phase := .held }) :
    Counted (past ++ [action]) next := by
  have grown : session.process.nextFactory ≤ next.process.nextFactory := by
    rw [factories]
    exact Nat.le_add_right _ _
  constructor
  case factories => rw [factories, counted.factories, factoriesTaken_append]
  case devices =>
    rw [devices, Arena.push, List.length_append, counted.devices, devicesMade_append, makes]
    rfl
  case made =>
    intro name device number found made
    rw [devices] at found
    rcases Arena.getElem?_push_cases found with ⟨-, rfl⟩ | old
    · exact below number made
    · exact (counted.made name device number old made).trans_le grown
  case posted =>
    intro task member number made
    rcases tasks task member with old | same
    · exact (counted.posted task old number made).trans_le grown
    · exact below number (same.trans made)

/-- The phase of a device is no part of its facade. -/
theorem facade_of_modify {name changed : Nat} {device : HeldDevice} {phase : DevicePhase}
    (devices : next.devices =
      session.devices.modify changed fun device => { device with phase := phase })
    (found : next.devices[name]? = some device) :
    ∃ old : HeldDevice, session.devices[name]? = some old ∧ old.facade = device.facade := by
  rw [devices] at found
  exact Arena.exists_of_getElem?_modify
    (fun old kept : HeldDevice => old.facade = kept.facade) found (fun _ => rfl) fun _ => rfl

private theorem counted_step {past : List (Action World)} {action : Action World}
    (counted : Counted past session) (stepped : step library session action = some next) :
    Counted (past ++ [action]) next := by
  cases audioChanged_of_step stepped with
  | @initCaptureAudioSession captureAudioSession self own captures factories tasks devices =>
      refine counted.push rfl factories ?_ (mem_of_posted tasks) devices
      intro number made
      obtain rfl := PCFactory.made.inj (own.symm.trans made)
      rw [factories]
      exact Nat.lt_succ_self _
  | @initPCFactory pcFactory self shared posted devices =>
      refine counted.push rfl (congrArg Prod.fst posted) ?_ ?_ devices
      · exact fun number made => absurd (shared.symm.trans made) (by simp)
      · exact fun task member => Or.inl (workerTasks_of_posted posted ▸ member)
  | call found held factories tasks devices =>
      refine counted.keep rfl rfl factories (congrArg List.length devices) ?_ ?_
      · exact fun name device lookup => ⟨device, devices ▸ lookup, rfl⟩
      · exact fun task member => (mem_of_posted tasks task member).imp_right
          fun same => ⟨_, _, found, same⟩
  | releaseDevice found held posted devices =>
      refine counted.keep rfl rfl (congrArg Prod.fst posted) ?_
        (fun _ _ lookup => facade_of_modify devices lookup) ?_
      · rw [devices, List.length_modify]
      · exact fun task member => Or.inl (workerTasks_of_posted posted ▸ member)
  | deallocDevice found released factories tasks devices =>
      refine counted.keep rfl rfl factories ?_
        (fun _ _ lookup => facade_of_modify devices lookup) ?_
      · rw [devices, List.length_modify]
      · exact fun task member => (mem_of_posted tasks task member).imp_right
          fun same => ⟨_, _, found, same⟩
  | silent silent same =>
      have posted : next.process.posted = session.process.posted := congrArg Prod.fst same
      have devices : next.devices = session.devices := congrArg Prod.snd same
      refine counted.keep ?_ ?_ (congrArg Prod.fst posted) (congrArg List.length devices) ?_ ?_
      · exact (makes_of_silent silent).1
      · exact (makes_of_silent silent).2
      · exact fun name device lookup => ⟨device, devices ▸ lookup, rfl⟩
      · exact fun task member => Or.inl (workerTasks_of_posted posted ▸ member)

private theorem counted_of_run {actions : List (Action World)}
    (ran : (machine library native).run actions = some session) : Counted actions session := by
  have start : Counted [] (machine library native).initial := by
    refine ⟨rfl, rfl, ?_, ?_⟩
    · intro name device number found
      simp [machine] at found
    · intro task member
      simp [machine, newProcess] at member
  exact Machine.invariant_history (fun _ _ _ _ counted stepped => counted_step counted stepped)
    start ran

/-- The device over the tracked factory is the tracked one. -/
theorem Tracked.own {name factory other : Nat} {captureAudioSession : Bool}
    {past : List (Action World)} {device : HeldDevice}
    (tracked : Tracked name factory captureAudioSession past session)
    (found : session.devices[other]? = some device)
    (own : device.facade.pcFactory = .made factory) :
    other = name ∧ device.facade.captureAudioSession = captureAudioSession ∧
      session.tasksFor (.made factory) =
        AudioSession.firstTasks (.captureAudioSession captureAudioSession) ++
          past.filterMap (Action.audioCall name) ++ device.lastTasks := by
  obtain rfl := tracked.alone other device found own
  obtain ⟨same, foundSame, -, captures, posted⟩ := tracked.device
  obtain rfl : device = same := Option.some.inj (found.symm.trans foundSame)
  exact ⟨rfl, captures, posted⟩

theorem Tracked.ne_of_factory {name factory other : Nat} {captureAudioSession : Bool}
    {past : List (Action World)} {device : HeldDevice}
    (tracked : Tracked name factory captureAudioSession past session)
    (found : session.devices[other]? = some device)
    (different : device.facade.pcFactory ≠ .made factory) : other ≠ name := by
  rintro rfl
  obtain ⟨same, foundSame, own, -⟩ := tracked.device
  obtain rfl : device = same := Option.some.inj (found.symm.trans foundSame)
  exact different own

/-- A step of another device. -/
theorem Tracked.other {name factory : Nat} {captureAudioSession : Bool}
    {past : List (Action World)} {action : Action World}
    (tracked : Tracked name factory captureAudioSession past session)
    (noCall : action.audioCall name = none)
    (taken : session.process.nextFactory ≤ next.process.nextFactory)
    (tasks : next.tasksFor (.made factory) = session.tasksFor (.made factory))
    (kept : next.devices[name]? = session.devices[name]?)
    (devices : ∀ (other : Nat) (device : HeldDevice), next.devices[other]? = some device →
      device.facade.pcFactory = .made factory →
      ∃ old : HeldDevice, session.devices[other]? = some old ∧
        old.facade.pcFactory = .made factory) :
    Tracked name factory captureAudioSession (past ++ [action]) next where
  device := by
    obtain ⟨device, found, own, captures, posted⟩ := tracked.device
    refine ⟨device, kept.trans found, own, captures, ?_⟩
    rw [tasks, posted, List.filterMap_append, List.filterMap_cons_none noCall, List.filterMap_nil,
      List.append_nil]
  alone := by
    intro other device found own
    obtain ⟨old, present, sameOwn⟩ := devices other device found own
    exact tracked.alone other old present sameOwn
  taken := tracked.taken.trans_le taken

/-- A device that is made over another factory, and perhaps posts to it. -/
theorem Tracked.push {name factory : Nat} {captureAudioSession : Bool}
    {past : List (Action World)} {action : Action World} {self : Device}
    (tracked : Tracked name factory captureAudioSession past session)
    (noCall : action.audioCall name = none)
    (taken : session.process.nextFactory ≤ next.process.nextFactory)
    (different : self.pcFactory ≠ .made factory)
    (tasks : next.tasksFor (.made factory) = session.tasksFor (.made factory))
    (devices : next.devices = session.devices.push { facade := self, phase := .held }) :
    Tracked name factory captureAudioSession (past ++ [action]) next := by
  refine tracked.other noCall taken tasks ?_ ?_
  · obtain ⟨device, found, -⟩ := tracked.device
    rw [devices, found]
    exact Arena.getElem?_push_of_some found
  · intro other device lookup own
    rw [devices] at lookup
    rcases Arena.getElem?_push_cases lookup with ⟨-, rfl⟩ | old
    · exact absurd own different
    · exact ⟨device, old, own⟩

/-- A device that changes its phase, and perhaps posts its last task. -/
theorem Tracked.modify {name factory changed : Nat} {captureAudioSession : Bool}
    {past : List (Action World)} {action : Action World} {device : HeldDevice}
    {phase : DevicePhase} {bodies : List AudioTask}
    (tracked : Tracked name factory captureAudioSession past session)
    (noCall : action.audioCall name = none)
    (factories : next.process.nextFactory = session.process.nextFactory)
    (found : session.devices[changed]? = some device) (alive : device.lastTasks = [])
    (last : ({ device with phase := phase } : HeldDevice).lastTasks = bodies)
    (tasks : next.tasksFor (.made factory) = session.tasksFor (.made factory) ++
      if device.facade.pcFactory = .made factory then bodies else [])
    (devices : next.devices =
      session.devices.modify changed fun device => { device with phase := phase }) :
    Tracked name factory captureAudioSession (past ++ [action]) next := by
  have facades : ∀ (other : Nat) (kept : HeldDevice), next.devices[other]? = some kept →
      kept.facade.pcFactory = .made factory →
      ∃ old : HeldDevice, session.devices[other]? = some old ∧
        old.facade.pcFactory = .made factory := by
    intro other kept lookup own
    obtain ⟨old, present, same⟩ := facade_of_modify devices lookup
    exact ⟨old, present, by rw [same]; exact own⟩
  by_cases own : device.facade.pcFactory = .made factory
  · -- It is the tracked device, and had posted no last task.
    obtain ⟨rfl, captures, posted⟩ := tracked.own found own
    refine ⟨⟨{ device with phase := phase }, ?_, own, captures, ?_⟩, ?_, ?_⟩
    · rw [devices, Arena.getElem?_modify_self, found, Option.map_some]
    · rw [tasks, if_pos own, posted, alive, last, List.append_nil, List.filterMap_append,
        List.filterMap_cons_none noCall, List.filterMap_nil, List.append_nil]
    · intro other kept lookup keptOwn
      obtain ⟨old, present, oldOwn⟩ := facades other kept lookup keptOwn
      exact tracked.alone other old present oldOwn
    · rw [factories]
      exact tracked.taken
  · rw [if_neg own, List.append_nil] at tasks
    refine tracked.other noCall factories.ge tasks ?_ facades
    rw [devices, Arena.getElem?_modify_of_ne _ (tracked.ne_of_factory found own).symm]

private theorem tracked_step {name factory : Nat} {captureAudioSession : Bool}
    {past : List (Action World)} {action : Action World}
    (tracked : Tracked name factory captureAudioSession past session)
    (stepped : step library session action = some next) :
    Tracked name factory captureAudioSession (past ++ [action]) next := by
  cases audioChanged_of_step stepped with
  | initCaptureAudioSession own captures factories tasks devices =>
      have different : PCFactory.made session.process.nextFactory ≠ .made factory :=
        fun same => Nat.ne_of_gt tracked.taken (PCFactory.made.inj same)
      rw [← own] at different
      refine tracked.push rfl ?_ different ?_ devices
      · rw [factories]
        exact Nat.le_succ _
      · rw [tasksFor_append tasks, if_neg different, List.append_nil]
  | initPCFactory shared posted devices =>
      refine tracked.push rfl (congrArg Prod.fst posted).ge ?_ (tasksFor_congr posted _) devices
      simp [shared]
  | @call called operation device found held factories tasks devices =>
      have posted : next.tasksFor (.made factory) = _ := tasksFor_append tasks
      by_cases own : device.facade.pcFactory = .made factory
      · obtain ⟨rfl, captures, before⟩ := tracked.own found own
        have alive := lastTasks_of_phase held (by simp)
        refine ⟨⟨device, devices ▸ found, own, captures, ?_⟩, ?_, ?_⟩
        · rw [posted, if_pos own, before, alive, List.filterMap_append]
          cases task : operation.audioTask <;> simp [Action.audioCall, task]
        · rw [devices]
          exact tracked.alone
        · rw [factories]
          exact tracked.taken
      · rw [if_neg own, List.append_nil] at posted
        have different := tracked.ne_of_factory found own
        refine tracked.other (if_neg different) factories.ge posted (by rw [devices]) ?_
        exact fun other kept lookup ofFactory => ⟨kept, devices ▸ lookup, ofFactory⟩
  | @releaseDevice released device found held posted devices =>
      have alive := lastTasks_of_phase held (by simp)
      refine tracked.modify rfl (congrArg Prod.fst posted) found alive rfl ?_ devices
      rw [tasksFor_congr posted]
      split <;> exact (List.append_nil _).symm
  | @deallocDevice deallocated device found released factories tasks devices =>
      have alive := lastTasks_of_phase released (by simp)
      exact tracked.modify rfl factories found alive (if_pos rfl) (tasksFor_append tasks) devices
  | silent silent same =>
      have posted : next.process.posted = session.process.posted := congrArg Prod.fst same
      have devices : next.devices = session.devices := congrArg Prod.snd same
      refine tracked.other (audioCall_of_silent silent name) (congrArg Prod.fst posted).ge
        (tasksFor_congr posted _) (by rw [devices]) ?_
      exact fun other kept lookup ofFactory => ⟨kept, devices ▸ lookup, ofFactory⟩

/-- A device that has just been made over a factory of its own. -/
theorem tracked_of_made {past : List (Action World)} {captureAudioSession : Bool}
    (counted : Counted past session)
    (stepped : step library session (.initCaptureAudioSession captureAudioSession) = some next) :
    Tracked (devicesMade past) (factoriesTaken past) captureAudioSession [] next := by
  cases audioChanged_of_step stepped with
  | @initCaptureAudioSession _ self own captures factories tasks devices =>
      have fresh : session.devices.fresh = devicesMade past := counted.devices
      rw [counted.factories] at own
      have unposted : session.tasksFor (.made (factoriesTaken past)) = [] := by
        apply List.filterMap_eq_nil_iff.mpr
        intro task member
        apply if_neg
        intro same
        have below := counted.posted task member _ same
        rw [counted.factories] at below
        exact Nat.lt_irrefl _ below
      refine ⟨⟨{ facade := self, phase := .held }, ?_, own, captures, ?_⟩, ?_, ?_⟩
      · rw [devices, ← fresh]
        exact Arena.getElem?_push_fresh session.devices _
      · have alive : HeldDevice.lastTasks { facade := self, phase := .held } = [] := rfl
        rw [tasksFor_append tasks, if_pos own, unposted, alive, List.filterMap_nil,
          List.append_nil, List.append_nil, List.nil_append]
      · intro other device found ofFactory
        rw [devices] at found
        rcases Arena.getElem?_push_cases found with ⟨isFresh, -⟩ | old
        · exact isFresh.trans fresh
        · have below := counted.made other device _ old ofFactory
          rw [counted.factories] at below
          exact absurd below (Nat.lt_irrefl _)
      · rw [factories, counted.factories]
        exact Nat.lt_succ_self _
  | silent silent same => cases silent

/-- A device made by `init(captureAudioSession:)`: what the session posts to the
worker thread of its factory is what the audio model queues for the device's
calls, and under every schedule with these calls it is what the thread has executed
and has yet to execute, but for the task of the wrapper's `dealloc` where only one
of the two has come to it. -/
theorem worker_executes_posted {past rest : List (Action World)} {captureAudioSession : Bool}
    (ran : (machine library native).run
      (past ++ .initCaptureAudioSession captureAudioSession :: rest) = some session) :
    let calls := rest.filterMap (Action.audioCall (devicesMade past))
    let posted := session.tasksFor (.made (factoriesTaken past))
    ∃ device, session.devices[devicesMade past]? = some device ∧
      (device.phase ≠ .deallocated →
        ∃ audio, (AudioSession.machine (.captureAudioSession captureAudioSession)).run
            (calls.map .call) = some audio ∧
          audio.waiting = posted) ∧
      ∀ schedule audio executed,
        (AudioSession.recorded (.captureAudioSession captureAudioSession)).run schedule =
          some (audio, executed) →
        schedule.flatMap AudioSession.Action.posts = calls →
        (device.phase ≠ .deallocated → executed ++ audio.waiting = posted ++
          AudioSession.lastTasks (.captureAudioSession captureAudioSession) audio.phase) ∧
        (device.phase = .deallocated → audio.phase ≠ .alive →
          executed ++ audio.waiting = posted) := by
  intro calls posted
  have tracked : Tracked (devicesMade past) (factoriesTaken past) captureAudioSession rest
      session := by
    unfold Machine.run at ran
    rw [Machine.runFrom_append, Option.bind_eq_some_iff] at ran
    obtain ⟨before, ranPast, ran⟩ := ran
    rw [Machine.runFrom_cons, Option.bind_eq_some_iff] at ran
    obtain ⟨made, stepped, ranRest⟩ := ran
    have start := tracked_of_made (counted_of_run ranPast) stepped
    exact Machine.invariant_history (fun _ _ _ _ kept stepped => tracked_step kept stepped)
      start ranRest
  obtain ⟨device, found, -, captures, isPosted⟩ := tracked.device
  have alive : device.phase ≠ .deallocated → posted =
      AudioSession.firstTasks (.captureAudioSession captureAudioSession) ++ calls := by
    intro notDeallocated
    rw [lastTasks_of_phase rfl notDeallocated, List.append_nil] at isPosted
    exact isPosted
  refine ⟨device, found, ?_, ?_⟩
  · intro notDeallocated
    refine ⟨_, AudioSession.runFrom_calls _ _ _ ?_, ?_⟩
    · rfl
    · rw [alive notDeallocated]
      cases captureAudioSession <;>
        simp [AudioSession.State.waiting, AudioSession.machine, AudioSession.initialState,
          AudioSession.firstTasks, AudioSession.retainedTasks, Function.comp_def]
  · intro schedule audio executed scheduled sameCalls
    have conserved := (AudioSession.inOrder_run scheduled).conserved
    rw [AudioSession.postedTasks, sameCalls] at conserved
    constructor
    · intro notDeallocated
      rw [conserved, alive notDeallocated]
    · intro deallocated left
      have last : device.lastTasks =
          AudioSession.lastTasks (.captureAudioSession captureAudioSession) audio.phase := by
        rw [HeldDevice.lastTasks, if_pos deallocated, captures]
        exact AudioSession.lastTasks_congr _ (by simp) left
      rw [conserved, ← last]
      exact isPosted.symm

end Runs

/-- The second of two devices captures; the other one is called in between. It is
released, and its wrapper deallocated. -/
theorem worker_executes_posted_sample :
    ∃ session audio,
      (machine sampleLibrary (sampleProcess true false).native).run
        ([.initCaptureAudioSession false] ++ .initCaptureAudioSession true ::
          [.device 0 .retainAudioSession, .device 1 .releaseAudioSession, .releaseDevice 1,
            .deallocDevice 1]) = some session ∧
      (AudioSession.recorded (.captureAudioSession true)).run
        [.executeTask, .call .stop, .deallocateDevice, .executeTask, .finishDealloc] =
        some (audio, [.start, .stop]) ∧
      [AudioTask.start, .stop] ++ audio.waiting = session.tasksFor (.made 1) ∧
      session.tasksFor (.made 1) = [.start, .stop, .stop] ∧
      session.tasksFor (.made 0) = [.start] := by
  have ran : (machine sampleLibrary (sampleProcess true false).native).run
      ([.initCaptureAudioSession false] ++ .initCaptureAudioSession true ::
        [.device 0 .retainAudioSession, .device 1 .releaseAudioSession, .releaseDevice 1,
          .deallocDevice 1]) = some _ := rfl
  have scheduled : (AudioSession.recorded (.captureAudioSession true)).run
      [.executeTask, .call .stop, .deallocateDevice, .executeTask, .finishDealloc] =
      some (_, [.start, .stop]) := rfl
  obtain ⟨device, found, -, executes⟩ := worker_executes_posted ran
  obtain rfl := Option.some.inj found
  have executed := (executes _ _ _ scheduled rfl).2 rfl (by simp)
  exact ⟨_, _, ran, scheduled, executed, rfl, rfl⟩

end Session

end MediasoupClientSwift
