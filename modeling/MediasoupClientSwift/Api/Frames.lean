import MediasoupClientSwift.Api.Operation
import MediasoupClientSwift.Library.Frame
import MediasoupClientSwift.Transport.CleanUp

/-!
Owns what the public operations leave alone in the state of this program and in
a book of the native objects: every operation but the factories, `dispose`,
`replaceTrack` and the sender-parameter update keeps all wrappers and makes or
deletes no object. It also owns what the factories, `dispose` and `replaceTrack`
change where they return.
-/

namespace MediasoupClientSwift

open Library

variable {World α β : Type}

/-- A native call that may make an object. -/
def Makes {Book : Type} (book : World → Book) (made : Handle → Book → Book)
    (call : NativeCall World Handle) : Prop :=
  ∀ world, book (call world).2 =
    match (call world).1 with
    | .ok object => made object (book world)
    | .error _ => book world

/-- What a native world notes of the transports and their children: `made` as a
factory returns one, `deleted` as one is deleted. Devices are not noted. -/
structure ObjectBook (library : NativeLibrary World) (Book : Type) where
  book : World → Book
  made : Handle → Book → Book
  deleted : Handle → Book → Book
  newDevice : ∀ world, book (library.newDevice world).2 = book world
  deleteDevice : ∀ device world, book (library.deleteDevice device world) = book world
  load : ∀ device json options, Program.Keeps book (library.load device json options)
  getSctpCapabilities : ∀ device, Program.Keeps book (library.getSctpCapabilities device)
  getRtpCapabilities : ∀ device, Program.Keeps book (library.getRtpCapabilities device)
  canProduce : ∀ device kind, Program.Keeps book (library.canProduce device kind)
  createSendTransport : ∀ device listener arguments,
    Makes book made (library.createSendTransport device listener arguments)
  createRecvTransport : ∀ device listener arguments,
    Makes book made (library.createRecvTransport device listener arguments)
  getStats : ∀ object, Program.Keeps book (library.getStats object)
  close : ∀ object world, book (library.close object world) = book world
  pause : ∀ object world, book (library.pause object world) = book world
  resume : ∀ object world, book (library.resume object world) = book world
  delete : ∀ object world, book (library.delete object world) = deleted object (book world)
  restartIce : ∀ transport json, Program.Keeps book (library.restartIce transport json)
  updateIceServers : ∀ transport json, Program.Keeps book (library.updateIceServers transport json)
  produce : ∀ transport listener arguments,
    Makes book made (library.produce transport listener arguments)
  produceData : ∀ transport listener arguments,
    Makes book made (library.produceData transport listener arguments)
  consume : ∀ transport listener arguments,
    Makes book made (library.consume transport listener arguments)
  consumeData : ∀ transport listener arguments,
    Makes book made (library.consumeData transport listener arguments)
  setMaxSpatialLayer : ∀ producer layer, Program.Keeps book (library.setMaxSpatialLayer producer layer)
  replaceTrack : ∀ producer track, Program.Keeps book (library.replaceTrack producer track)
  getParameters : ∀ sender world, book (library.getParameters sender world).2 = book world
  setParameters : ∀ sender parameters world,
    book (library.setParameters sender parameters world).2 = book world

def ObjectBook.blank (library : NativeLibrary World) : ObjectBook library Unit where
  book _ := ()
  made _ _ := ()
  deleted _ _ := ()
  newDevice _ := rfl
  deleteDevice _ _ := rfl
  load _ _ _ _ := rfl
  getSctpCapabilities _ _ := rfl
  getRtpCapabilities _ _ := rfl
  canProduce _ _ _ := rfl
  createSendTransport _ _ _ _ := rfl
  createRecvTransport _ _ _ _ := rfl
  getStats _ _ := rfl
  close _ _ := rfl
  pause _ _ := rfl
  resume _ _ := rfl
  delete _ _ := rfl
  restartIce _ _ _ := rfl
  updateIceServers _ _ _ := rfl
  produce _ _ _ _ := rfl
  produceData _ _ _ _ := rfl
  consume _ _ _ _ := rfl
  consumeData _ _ _ _ := rfl
  setMaxSpatialLayer _ _ _ := rfl
  replaceTrack _ _ _ := rfl
  getParameters _ _ := rfl
  setParameters _ _ _ := rfl

/-- A process with a book in the place of its native world. -/
def Process.seen {Book : Type} (book : World → Book) (process : Process World) : Process Book where
  native := book process.native
  listenerAdapters := process.listenerAdapters
  transportIvars := process.transportIvars
  producerTrack := process.producerTrack
  nextAddress := process.nextAddress
  nextFactory := process.nextFactory
  workerTasks := process.workerTasks

section Seen

variable {Book : Type} {book : World → Book} {process : Process World} {expected : Process Book}

theorem Process.book_of_seen (seen : process.seen book = expected) :
    book process.native = expected.native :=
  congrArg (fun seen : Process Book => seen.native) seen

theorem Process.listenerAdapters_of_seen (seen : process.seen book = expected) :
    process.listenerAdapters = expected.listenerAdapters :=
  congrArg (fun seen : Process Book => seen.listenerAdapters) seen

theorem Process.transportIvars_of_seen (seen : process.seen book = expected) :
    process.transportIvars = expected.transportIvars :=
  congrArg (fun seen : Process Book => seen.transportIvars) seen

theorem Process.producerTrack_of_seen (seen : process.seen book = expected) :
    process.producerTrack = expected.producerTrack :=
  congrArg (fun seen : Process Book => seen.producerTrack) seen

theorem Process.nextAddress_of_seen (seen : process.seen book = expected) :
    process.nextAddress = expected.nextAddress :=
  congrArg (fun seen : Process Book => seen.nextAddress) seen

theorem Process.seen_withNative {native : World} {noted : Book} (same : book native = noted) :
    ({ process with native := native } : Process World).seen book =
      { process.seen book with native := noted } := by
  rw [← same]
  rfl

end Seen

/-- The book, the wrappers and their listener adapters. -/
def Process.wrappers {Book : Type} (book : World → Book) (process : Process World) :
    Process Book :=
  { process.seen book with nextFactory := 0, workerTasks := [] }

section Wrappers

variable {Book : Type} {book : World → Book} {process reached : Process World}

theorem Process.wrappers_of_seen (same : reached.seen book = process.seen book) :
    reached.wrappers book = process.wrappers book :=
  congrArg (fun seen : Process Book => { seen with nextFactory := 0, workerTasks := [] }) same

theorem Process.wrappers_book (same : reached.wrappers book = process.wrappers book) :
    book reached.native = book process.native :=
  congrArg (fun seen : Process Book => seen.native) same

theorem Process.wrappers_listenerAdapters (same : reached.wrappers book = process.wrappers book) :
    reached.listenerAdapters = process.listenerAdapters :=
  congrArg (fun seen : Process Book => seen.listenerAdapters) same

theorem Process.wrappers_transportIvars (same : reached.wrappers book = process.wrappers book) :
    reached.transportIvars = process.transportIvars :=
  congrArg (fun seen : Process Book => seen.transportIvars) same

theorem Process.wrappers_producerTrack (same : reached.wrappers book = process.wrappers book) :
    reached.producerTrack = process.producerTrack :=
  congrArg (fun seen : Process Book => seen.producerTrack) same

theorem Process.wrappers_nextAddress (same : reached.wrappers book = process.wrappers book) :
    reached.nextAddress = process.nextAddress :=
  congrArg (fun seen : Process Book => seen.nextAddress) same

end Wrappers

/-- The program changes what the book does not note of the native world only. -/
abbrev KeepsSeen {Book : Type} (book : World → Book) (program : ObjCpp (Process World) α) : Prop :=
  Program.Keeps (Process.seen book) program

/-- The program leaves the book and every wrapper and adapter alone. -/
abbrev KeepsWrappers {Book : Type} (book : World → Book)
    (program : ObjCpp (Process World) α) : Prop :=
  Program.Keeps (Process.wrappers book) program

theorem KeepsSeen.wrappers {Book : Type} {book : World → Book}
    {program : ObjCpp (Process World) α} (keeps : KeepsSeen book program) :
    KeepsWrappers book program :=
  keeps.part fun seen => { seen with nextFactory := 0, workerTasks := [] }

/-! ### Steps outside the wrappers -/

namespace KeepsSeen

variable {Book : Type} {book : World → Book}

theorem throwing (result : Except CppException α) :
    KeepsSeen book (MediasoupClientSwift.throwing result : ObjCpp (Process World) α) := by
  intro process
  cases result <;> rfl

theorem callNative {call : NativeCall World α} (keeps : Program.Keeps book call) :
    KeepsSeen book (MediasoupClientSwift.callNative call) := by
  intro process
  have same := keeps process.native
  rcases outcome : call process.native with ⟨result, native⟩
  rw [outcome] at same
  unfold MediasoupClientSwift.callNative
  rw [outcome]
  cases result <;> exact Process.seen_withNative same

theorem readNative (read : World → α) :
    KeepsSeen book (MediasoupClientSwift.readNative read) :=
  fun _ => rfl

theorem runNative {run : World → World} (keeps : ∀ world, book (run world) = book world) :
    KeepsSeen book (MediasoupClientSwift.runNative run) := by
  intro process
  exact Process.seen_withNative (keeps process.native)

theorem dereference (pointer : Option α) :
    KeepsSeen book (MediasoupClientSwift.dereference pointer : ObjCpp (Process World) α) := by
  intro process
  cases pointer <;> rfl

theorem transport (self : Address) :
    KeepsSeen book (TransportWrapper.transport self : ObjCpp (Process World) Handle) :=
  Program.Keeps.get.bind fun process => dereference (process.transportIvars self).transport

end KeepsSeen

/-! ### Handlers -/

/-- A clause builds an error and changes nothing. -/
theorem catchLadder_clause {State : Type} {clauses : List CatchClause} {catchesId : Bool}
    {reason : Abrupt} {clause : ObjCpp State NSError}
    (chosen : catchLadder clauses catchesId reason = some clause) (state : State) :
    (clause state).2 = state := by
  cases reason with
  | exception raised =>
      obtain ⟨code, -, rfl⟩ := Option.map_eq_some_iff.mp chosen
      unfold mediasoupError
      cases stringWithUTF8String raised.what <;> rfl
  | objcException =>
      unfold catchLadder at chosen
      by_cases catches : catchesId = true
      · rw [if_pos catches] at chosen
        exact Option.some.inj chosen ▸ rfl
      · rw [if_neg catches] at chosen
        cases chosen
  | undefinedBehaviour => cases chosen

section Guarded

variable {State View : Type} {view : State → View} {clauses : List CatchClause} {catchesId : Bool}
  {throwingBlock recover : ObjCpp State α} {cleanUp : ObjCpp State Unit}

theorem keeps_guarded (block : Program.Keeps view throwingBlock)
    (cleans : Program.Keeps view cleanUp) (recovers : Program.Keeps view recover) :
    Program.Keeps view (guarded clauses catchesId throwingBlock cleanUp recover) := by
  apply Program.Keeps.tryCatch
  · exact block.bind fun result => Program.Keeps.pure (result, none)
  · intro reason handler chosen
    obtain ⟨clause, found, rfl⟩ := Option.map_eq_some_iff.mp chosen
    have clauseKeeps : Program.Keeps view clause := fun state =>
      congrArg view (catchLadder_clause found state)
    apply cleans.bind
    intro cleaned
    apply clauseKeeps.bind
    intro error
    exact recovers.bind fun result => Program.Keeps.pure (result, some error)

/-- A guarded call that returns: its block returned, or it raised and the call
ends with the clean-up, an error and the recovery. -/
theorem guarded_cases {state last : State} {outcome : α × Option NSError}
    (returned : guarded clauses catchesId throwingBlock cleanUp recover state =
      (.ok outcome, last)) :
    (∃ result, throwingBlock state = (.ok result, last) ∧ outcome = (result, none)) ∨
      ∃ reason reached cleaned result error,
        throwingBlock state = (.error reason, reached) ∧
        cleanUp reached = (.ok (), cleaned) ∧ recover cleaned = (.ok result, last) ∧
        outcome = (result, some error) := by
  rcases ran : throwingBlock state with ⟨ended, reached⟩
  cases ended with
  | ok result =>
      rw [guarded_of_ok ran] at returned
      cases returned
      exact Or.inl ⟨result, rfl, rfl⟩
  | error reason =>
      rw [guarded, Program.tryCatch_of_error (Program.bind_of_error ran)] at returned
      cases found : catchLadder clauses catchesId reason with
      | none =>
          rw [found] at returned
          cases returned
      | some clause =>
          rw [found] at returned
          have handled : (cleanUp >>= fun _ => clause >>= fun error => recover >>= fun result =>
              pure (result, some error)) reached = (.ok outcome, last) := returned
          obtain ⟨⟨⟩, cleaned, cleanedUp, clauseRan⟩ := Program.bind_eq_ok_iff.mp handled
          obtain ⟨error, built, reported, recoverRan⟩ := Program.bind_eq_ok_iff.mp clauseRan
          obtain ⟨result, final, recovered, ended⟩ := Program.bind_eq_ok_iff.mp recoverRan
          have unchanged := catchLadder_clause found cleaned
          rw [reported] at unchanged
          have same : built = cleaned := unchanged
          cases ended
          subst same
          exact Or.inr ⟨reason, reached, built, result, error, rfl, cleanedUp, recovered, rfl⟩

end Guarded

/-! ### Swift's side of a call -/

section Swift

variable {State View : Type} {view : State → View}

theorem keeps_mapResult {change : α → β} {call : SwiftCall State α}
    (keeps : Program.Keeps view call) : Program.Keeps view (mapResult change call) :=
  keeps.bind fun result => Program.Keeps.pure (result.map change)

theorem keeps_nonnullErrorCall {method : ObjCpp State (α × Option NSError)}
    (keeps : Program.Keeps view method) : Program.Keeps view (nonnullErrorCall method) := by
  apply keeps.bind
  rintro ⟨result, error⟩
  cases error <;> exact Program.Keeps.pure _

theorem keeps_nilResultCall {method : ObjCpp State (Option α × Option NSError)}
    (keeps : Program.Keeps view method) : Program.Keeps view (nilResultCall method) := by
  apply keeps.bind
  rintro ⟨result, error⟩
  cases result <;> cases error <;> exact Program.Keeps.pure _

theorem keeps_convertMediasoupErrors {closure : SwiftCall State α}
    (keeps : Program.Keeps view closure) :
    Program.Keeps view (convertMediasoupErrors closure) := by
  apply keeps.bind
  rintro (error | result) <;> exact Program.Keeps.pure _

theorem keeps_returning {view : Process World → View} {method : ObjCpp (Process World) α}
    (keeps : Program.Keeps view method) : Program.Keeps view (returning method) :=
  keeps.bind fun _ => Program.Keeps.pure _

end Swift

/-! ### Properties and plain methods -/

section Methods

variable {library : NativeLibrary World} {Book : Type} (books : ObjectBook library Book)

private theorem keepsSeen_textProperty (book : World → Book) (read : World → Bytes) :
    KeepsSeen book (textProperty read) :=
  (KeepsSeen.readNative read).bind fun _ => Program.Keeps.pure _

private theorem keepsSeen_jsonProperty (book : World → Book) (read : World → Json) :
    KeepsSeen book (jsonProperty library read) := by
  apply (KeepsSeen.readNative read).bind
  intro json
  exact (KeepsSeen.throwing (library.dump json)).bind fun _ => Program.Keeps.pure _

private theorem keepsSeen_statsProperty (object : Handle) :
    KeepsSeen books.book (statsProperty library object) := by
  apply (KeepsSeen.callNative (books.getStats object)).bind
  intro json
  exact (KeepsSeen.throwing (library.dump json)).bind fun _ => Program.Keeps.pure _

private theorem keepsSeen_mediasoupTry {book : World → Book} {block : ObjCpp (Process World) Unit}
    (keeps : KeepsSeen book block) : KeepsSeen book (mediasoupTry block) :=
  keeps_guarded keeps (Program.Keeps.pure ()) (Program.Keeps.pure ())

private theorem keepsSeen_load (self : Device) (routerRTPCapabilities : String) :
    KeepsSeen books.book (DeviceWrapper.load library self routerRTPCapabilities) := by
  apply keepsSeen_mediasoupTry
  exact (KeepsSeen.throwing _).bind fun json => KeepsSeen.callNative (books.load _ _ _)

private theorem keepsSeen_capabilities {getCapabilities : Handle → NativeCall World Json}
    {book : World → Book} (self : Device) (keeps : Program.Keeps book (getCapabilities self.device)) :
    KeepsSeen book (DeviceWrapper.capabilitiesWithError library getCapabilities self) := by
  apply keeps_guarded
  · apply (KeepsSeen.callNative keeps).bind
    intro capabilities
    exact (KeepsSeen.throwing _).bind fun text => Program.Keeps.pure _
  · exact Program.Keeps.pure ()
  · exact (Program.Keeps.pure ()).bind fun _ => Program.Keeps.pure none

private theorem keepsSeen_canProduce (self : Device) (mediaKind : String) :
    KeepsSeen books.book (DeviceWrapper.canProduce library self mediaKind) :=
  keeps_guarded (KeepsSeen.callNative (books.canProduce _ _)) (Program.Keeps.pure ())
    (Program.Keeps.pure false)

private theorem keepsSeen_closed (book : World → Book) (self : Address) :
    KeepsSeen book (TransportWrapper.closed library self) := by
  apply Program.Keeps.get.bind
  intro process
  cases (process.transportIvars self).transport with
  | none => exact Program.Keeps.pure true
  | some transport => exact KeepsSeen.readNative _

private theorem keepsSeen_withParsedText {book : World → Book}
    {call : Handle → Json → NativeCall World Unit} (self : Address) (text : String)
    (keeps : ∀ transport json, Program.Keeps book (call transport json)) :
    KeepsSeen book (TransportWrapper.withParsedText library call self text) := by
  apply keepsSeen_mediasoupTry
  apply (KeepsSeen.throwing _).bind
  intro json
  exact (KeepsSeen.transport self).bind fun transport => KeepsSeen.callNative (keeps transport json)

private theorem keepsSeen_setMaxSpatialLayer (self : Producer) (layer : Int64) :
    KeepsSeen books.book (self.setMaxSpatialLayer library layer) := by
  unfold Producer.setMaxSpatialLayer
  cases Producer.typedLayer layer with
  | none => exact Program.Keeps.pure _
  | some typedLayer =>
      exact keeps_nonnullErrorCall
        (keepsSeen_mediasoupTry (KeepsSeen.callNative (books.setMaxSpatialLayer _ _)))

private theorem keepsSeen_readyState (book : World → Book) (self : DataProducer) :
    KeepsSeen book (self.readyState library) := by
  apply (KeepsSeen.readNative (library.getReadyState self.producer)).bind
  intro state
  cases state <;> exact Program.Keeps.pure _

end Methods

/-! ### The operations that keep the wrappers -/

def DeviceOperation.isFactory : DeviceOperation → Bool
  | .createSendTransport _ _ _ => true
  | .createReceiveTransport _ _ _ => true
  | _ => false

/-- The two operations that post a task to the worker thread. -/
def DeviceOperation.isAudioSession : DeviceOperation → Bool
  | .retainAudioSession => true
  | .releaseAudioSession => true
  | _ => false

def TransportOperation.isDispose : TransportOperation → Bool
  | .dispose => true
  | _ => false

/-- The two operations that write a producer's `track` or run an updater. -/
def ProducerOperation.isUpdate : ProducerOperation World → Bool
  | .updateSenderParameters _ => true
  | .replaceTrack _ => true
  | _ => false

section Operations

variable {library : NativeLibrary World} {Book : Type} (books : ObjectBook library Book)

theorem DeviceOperation.keepsSeen (self : Device) {operation : DeviceOperation}
    (plain : operation.isFactory = false) (silent : operation.isAudioSession = false) :
    KeepsSeen books.book (operation.call library self) := by
  cases operation with
  | retainAudioSession => cases silent
  | releaseAudioSession => cases silent
  | isLoaded => exact keeps_returning (KeepsSeen.readNative _)
  | load text =>
      exact keeps_convertMediasoupErrors (keeps_nonnullErrorCall (keepsSeen_load books self text))
  | rtpCapabilities =>
      exact keeps_mapResult (keeps_convertMediasoupErrors
        (keeps_nilResultCall (keepsSeen_capabilities self (books.getRtpCapabilities _))))
  | sctpCapabilities =>
      exact keeps_mapResult (keeps_convertMediasoupErrors
        (keeps_nilResultCall (keepsSeen_capabilities self (books.getSctpCapabilities _))))
  | canProduce mediaKind =>
      exact keeps_mapResult (keeps_convertMediasoupErrors
        (keeps_nonnullErrorCall (keepsSeen_canProduce books self _)))
  | createSendTransport texts iceServers policy => cases plain
  | createReceiveTransport texts iceServers policy => cases plain

theorem DeviceOperation.keepsWrappers (self : Device) {operation : DeviceOperation}
    (plain : operation.isFactory = false) : KeepsWrappers books.book (operation.call library self) := by
  cases silent : operation.isAudioSession with
  | false => exact KeepsSeen.wrappers (DeviceOperation.keepsSeen books self plain silent)
  | true =>
      cases operation with
      | retainAudioSession => exact keeps_returning fun _ => rfl
      | releaseAudioSession => exact keeps_returning fun _ => rfl
      | _ => cases silent

theorem keepsWrappers_construct (pcFactory : PCFactory) (captureAudioSession : Bool) :
    KeepsWrappers books.book (DeviceWrapper.construct library pcFactory captureAudioSession) :=
  fun process => Process.wrappers_of_seen (Process.seen_withNative (books.newDevice process.native))

theorem keepsWrappers_initCaptureAudioSession (captureAudioSession : Bool) :
    KeepsWrappers books.book
      (DeviceWrapper.initCaptureAudioSession library captureAudioSession) := by
  apply Program.Keeps.get.bind
  intro process
  have counting : KeepsWrappers books.book (Program.modify fun process : Process World =>
      { process with nextFactory := process.nextFactory + 1 }) := fun _ => rfl
  apply counting.bind
  intro counted
  apply (keepsWrappers_construct books (.made process.nextFactory) captureAudioSession).bind
  intro self
  cases captureAudioSession with
  | true =>
      have posts : KeepsWrappers books.book (DeviceWrapper.retainAudioSession self) := fun _ => rfl
      exact posts.bind fun _ => Program.Keeps.pure self
  | false => exact Program.Keeps.pure self

theorem keepsWrappers_deallocDevice (self : Device) :
    KeepsWrappers books.book (DeviceWrapper.dealloc library self) := by
  have deletes : KeepsWrappers books.book (runNative (library.deleteDevice self.device)) :=
    (KeepsSeen.runNative (books.deleteDevice self.device)).wrappers
  unfold DeviceWrapper.dealloc
  cases self.captureAudioSession with
  | true =>
      have posts : KeepsWrappers books.book (DeviceWrapper.releaseAudioSession self) :=
        fun _ => rfl
      exact posts.bind fun _ => deletes
  | false => exact deletes

theorem TransportOperation.keepsSeen (self : TransportFacade) {operation : TransportOperation}
    (plain : operation.isDispose = false) : KeepsSeen books.book (operation.call library self) := by
  have withTransport {γ : Type} {next : Handle → ObjCpp (Process World) γ}
      (keeps : ∀ transport, KeepsSeen books.book (next transport)) :
      KeepsSeen books.book (TransportWrapper.transport self.transport >>= next) :=
    (KeepsSeen.transport self.transport).bind keeps
  cases operation with
  | id => exact keeps_returning (withTransport fun _ => keepsSeen_textProperty _ _)
  | closed => exact keeps_returning (keepsSeen_closed _ self.transport)
  | connectionState =>
      apply keeps_returning
      apply Program.Keeps.bind (withTransport fun _ => keepsSeen_textProperty _ _)
      exact fun _ => Program.Keeps.pure _
  | appData => exact keeps_returning (withTransport fun _ => keepsSeen_jsonProperty _ _)
  | stats => exact keeps_returning (withTransport fun _ => keepsSeen_statsProperty books _)
  | close => exact keeps_returning (withTransport fun _ => KeepsSeen.runNative (books.close _))
  | dispose => cases plain
  | restartICE text =>
      exact keeps_convertMediasoupErrors
        (keeps_nonnullErrorCall (keepsSeen_withParsedText _ text books.restartIce))
  | updateICEServers text =>
      exact keeps_convertMediasoupErrors
        (keeps_nonnullErrorCall (keepsSeen_withParsedText _ text books.updateIceServers))

theorem ProducerOperation.keepsSeen (self : Producer) {operation : ProducerOperation World}
    (plain : operation.isUpdate = false) : KeepsSeen books.book (operation.call library self) := by
  cases operation with
  | track => exact keeps_returning (Program.Keeps.get.bind fun _ => Program.Keeps.pure _)
  | id => exact keeps_returning (keepsSeen_textProperty _ _)
  | localId => exact keeps_returning (keepsSeen_textProperty _ _)
  | closed => exact keeps_returning (KeepsSeen.readNative _)
  | paused => exact keeps_returning (KeepsSeen.readNative _)
  | kind => exact keeps_returning (Program.Keeps.pure self.kind)
  | maxSpatialLayer => exact keeps_returning (KeepsSeen.readNative _)
  | appData => exact keeps_returning (keepsSeen_jsonProperty _ _)
  | rtpParameters => exact keeps_returning (keepsSeen_jsonProperty _ _)
  | stats => exact keeps_returning (keepsSeen_statsProperty books _)
  | pause => exact keeps_returning (KeepsSeen.runNative (books.pause _))
  | resume => exact keeps_returning (KeepsSeen.runNative (books.resume _))
  | close => exact keeps_returning (KeepsSeen.runNative (books.close _))
  | setMaxSpatialLayer layer => exact keepsSeen_setMaxSpatialLayer books self layer
  | updateSenderParameters updater => cases plain
  | replaceTrack track => cases plain
  | getStats => exact keeps_mapResult (keeps_nilResultCall (Program.Keeps.pure _))

theorem ConsumerOperation.keepsSeen (self : Consumer) (operation : ConsumerOperation) :
    KeepsSeen books.book (operation.call library self) := by
  cases operation with
  | track => exact keeps_returning (Program.Keeps.pure self.consumer.track)
  | id => exact keeps_returning (keepsSeen_textProperty _ _)
  | localId => exact keeps_returning (keepsSeen_textProperty _ _)
  | producerId => exact keeps_returning (keepsSeen_textProperty _ _)
  | closed => exact keeps_returning (KeepsSeen.readNative _)
  | paused => exact keeps_returning (KeepsSeen.readNative _)
  | kind => exact keeps_returning (Program.Keeps.pure self.kind)
  | appData => exact keeps_returning (keepsSeen_jsonProperty _ _)
  | rtpParameters => exact keeps_returning (keepsSeen_jsonProperty _ _)
  | stats => exact keeps_returning (keepsSeen_statsProperty books _)
  | pause => exact keeps_returning (KeepsSeen.runNative (books.pause _))
  | resume => exact keeps_returning (KeepsSeen.runNative (books.resume _))
  | close => exact keeps_returning (KeepsSeen.runNative (books.close _))

theorem DataProducerOperation.keepsSeen (self : DataProducer) (operation : DataProducerOperation) :
    KeepsSeen books.book (operation.call library self) := by
  cases operation with
  | id => exact keeps_returning (keepsSeen_textProperty _ _)
  | localId => exact keeps_returning (keepsSeen_textProperty _ _)
  | sctpStreamParameters => exact keeps_returning (keepsSeen_jsonProperty _ _)
  | readyState => exact keeps_returning (keepsSeen_readyState _ self)
  | label => exact keeps_returning (keepsSeen_textProperty _ _)
  | protocol => exact keeps_returning (keepsSeen_textProperty _ _)
  | bufferedAmount => exact keeps_returning (KeepsSeen.readNative _)
  | appData => exact keeps_returning (keepsSeen_jsonProperty _ _)
  | closed => exact keeps_returning (KeepsSeen.readNative _)
  | close => exact keeps_returning (KeepsSeen.runNative (books.close _))
  | send buffer => exact keeps_returning (Program.Keeps.pure ())

theorem DataConsumerOperation.keepsSeen (self : DataConsumer) (operation : DataConsumerOperation) :
    KeepsSeen books.book (operation.call library self) := by
  cases operation with
  | id => exact keeps_returning (keepsSeen_textProperty _ _)
  | localId => exact keeps_returning (keepsSeen_textProperty _ _)
  | producerId => exact keeps_returning (keepsSeen_textProperty _ _)
  | closed => exact keeps_returning (KeepsSeen.readNative _)
  | label => exact keeps_returning (keepsSeen_textProperty _ _)
  | dataProtocol => exact keeps_returning (keepsSeen_textProperty _ _)
  | appData => exact keeps_returning (keepsSeen_jsonProperty _ _)
  | sctpStreamParameters => exact keeps_returning (keepsSeen_jsonProperty _ _)
  | close => exact keeps_returning (KeepsSeen.runNative (books.close _))

end Operations

/-! ### Factories -/

/-- After a change of the native world, or of a book in its place. -/
def Process.noting (process : Process World) (note : World → World) : Process World :=
  { process with native := note process.native }

section Making

variable {Book : Type} {book : World → Book} {made : Handle → Book → Book}
  {call : NativeCall World Handle} {process reached : Process World}

theorem seen_of_made (makes : Makes book made call) {object : Handle}
    (returned : callNative call process = (.ok object, reached)) :
    reached.seen book = (process.seen book).noting (made object) := by
  have noted := makes process.native
  rcases outcome : call process.native with ⟨result, native⟩
  rw [outcome] at noted
  unfold callNative at returned
  rw [outcome] at returned
  cases result with
  | error raised => cases returned
  | ok found =>
      cases returned
      exact Process.seen_withNative noted

private theorem seen_of_raised (makes : Makes book made call) {reason : Abrupt}
    (raised : callNative call process = (.error reason, reached)) :
    reached.seen book = process.seen book := by
  have noted := makes process.native
  rcases outcome : call process.native with ⟨result, native⟩
  rw [outcome] at noted
  unfold callNative at raised
  rw [outcome] at raised
  cases result with
  | ok found => cases raised
  | error exception =>
      cases raised
      exact Process.seen_withNative noted

private theorem seen_deleteListenerAdapter
    (same : reached.seen book = (process.seen book).withAdapter 0) :
    (reached.withoutAdapter process.listenerAdapters.fresh).seen book =
      (process.seen book).withAdapter 1 := by
  calc (reached.withoutAdapter process.listenerAdapters.fresh).seen book
      = (reached.seen book).withoutAdapter process.listenerAdapters.fresh := rfl
    _ = ((process.seen book).withAdapter 0).withoutAdapter process.listenerAdapters.fresh := by
        rw [same]
    _ = (process.seen book).withAdapter 1 :=
        Process.withoutAdapter_withAdapter_fresh (process.seen book) 0

end Making

section Children

variable {Book Arguments Wrapper : Type} {book : World → Book} {made : Handle → Book → Book}
  {create : Handle → AdapterPointer → Arguments → NativeCall World Handle}
  {wrap : Handle → AdapterPointer → ObjCpp (Process World) Wrapper}
  {arguments : Except CppException Arguments} {self : Address}

/-- A factory's block ends before it wraps anything, or it wraps a new native
object of a transport that exists. -/
theorem createChildBlock_cases {listenerAdapter : AdapterPointer}
    (makes : ∀ transport listener converted, Makes book made (create transport listener converted))
    (wraps : ∀ object process, Program.Completes (wrap object listenerAdapter) process)
    {process last : Process World} {result : Except Abrupt (Option Wrapper)}
    (ran : createChildBlock create wrap arguments self listenerAdapter process = (result, last)) :
    (last.seen book = process.seen book ∧ ∃ reason, result = .error reason) ∨
      ∃ object middle wrapper,
        middle.seen book = (process.seen book).noting (made object) ∧
        (process.transportIvars self).transport.isSome = true ∧
        wrap object listenerAdapter middle = (.ok wrapper, last) ∧
        result = .ok (some wrapper) := by
  unfold createChildBlock at ran
  have parsing : KeepsSeen book (throwing arguments) := KeepsSeen.throwing arguments
  have pointing : KeepsSeen book (TransportWrapper.transport self) := KeepsSeen.transport self
  rcases Program.bind_cases ran with ⟨reason, raised, same⟩ | ⟨converted, parsed, given, ran⟩
  · exact Or.inl ⟨parsing.reached raised, reason, same⟩
  have seenParsed := parsing.reached given
  rcases Program.bind_cases ran with ⟨reason, raised, same⟩ | ⟨transport, found, pointer, ran⟩
  · exact Or.inl ⟨(pointing.reached raised).trans seenParsed, reason, same⟩
  have seenFound : found.seen book = process.seen book := (pointing.reached pointer).trans seenParsed
  have exists_transport : (process.transportIvars self).transport.isSome = true := by
    have ivars : parsed.transportIvars = process.transportIvars :=
      (Process.transportIvars_of_seen seenParsed :)
    rw [TransportWrapper.transport, Program.bind_of_ok (Program.get_apply parsed), ivars] at pointer
    cases present : (process.transportIvars self).transport with
    | some transport => rfl
    | none =>
        rw [present] at pointer
        cases pointer
  have making := makes transport listenerAdapter converted
  rcases Program.bind_cases ran with ⟨reason, raised, same⟩ | ⟨object, called, created, ran⟩
  · exact Or.inl ⟨(seen_of_raised making raised).trans seenFound, reason, same⟩
  have seenCalled : called.seen book = (process.seen book).noting (made object) := by
    rw [seen_of_made making created, seenFound]
  obtain ⟨wrapper, wrapped, returned⟩ := wraps object called
  rw [Program.bind_of_ok returned] at ran
  cases ran
  exact Or.inr ⟨object, called, wrapper, seenCalled, exists_transport, returned, rfl⟩

/-- A factory that returns: it hands out a wrapper over the adapter it allocated,
or it reports an error and the adapter is deleted again. -/
theorem createChild_cases
    (makes : ∀ transport listener converted, Makes book made (create transport listener converted))
    (wraps : ∀ object listenerAdapter process,
      Program.Completes (wrap object listenerAdapter) process)
    {process last : Process World} {outcome : Option Wrapper × Option NSError}
    (returned : createChild create wrap arguments self process = (.ok outcome, last)) :
    (∃ error, outcome = (none, some error) ∧
        last.seen book = (process.seen book).withAdapter 1) ∨
      ∃ object middle wrapper,
        middle.seen book = ((process.seen book).withAdapter 0).noting (made object) ∧
        (process.transportIvars self).transport.isSome = true ∧
        wrap object process.listenerAdapters.fresh middle = (.ok wrapper, last) ∧
        outcome = (some wrapper, none) := by
  let opened : Process World := process.withAdapter 0
  have ran : mediasoupTryWithResult
      (createChildBlock create wrap arguments self process.listenerAdapters.fresh)
      (some (deleteListenerAdapter process.listenerAdapters.fresh)) opened = (.ok outcome, last) :=
    returned
  rcases guarded_cases ran with ⟨result, blockRan, rfl⟩ |
      ⟨reason, reached, cleaned, result, error, blockRan, cleans, recovers, rfl⟩
  · rcases createChildBlock_cases makes (wraps · _) blockRan with ⟨-, reason, impossible⟩ |
        ⟨object, middle, wrapper, seen, present, wrapped, same⟩
    · cases impossible
    · cases same
      exact Or.inr ⟨object, middle, wrapper, seen, present, wrapped, rfl⟩
  · rcases createChildBlock_cases makes (wraps · _) blockRan with ⟨seen, -⟩ |
        ⟨object, middle, wrapper, seen, present, wrapped, impossible⟩
    · cases cleans
      cases recovers
      exact Or.inl ⟨error, rfl, seen_deleteListenerAdapter seen⟩
    · cases impossible

end Children

section Transports

variable (library : NativeLibrary World) {Book : Type} {book : World → Book}
  {made : Handle → Book → Book}

/-- After a transport wrapper was made around a native transport and the adapter
allocated for it. -/
def Process.withTransport (process : Process World) (transport : Handle)
    (pcFactory : PCFactory) : Process World :=
  { process.withAdapter 0 with
    nextAddress := process.nextAddress + 1
    transportIvars := Function.update process.transportIvars process.nextAddress
      { transport := some transport
        listenerAdapter := some process.listenerAdapters.fresh
        pcFactory := pcFactory } }

/-- The block of a transport factory changes nothing of its own or makes one
wrapper. -/
theorem createTransportBlock_cases {create : CreateTransport World} {self : Device}
    {texts : TransportTexts} {pcOptions : PcOptions} {listenerAdapter : AdapterPointer}
    (makes : ∀ device listener arguments, Makes book made (create device listener arguments))
    {process last : Process World} {result : Except Abrupt (Option TransportFacade)}
    (ran : DeviceWrapper.createTransportBlock library create self texts pcOptions listenerAdapter
      process = (result, last)) :
    (last.seen book = process.seen book ∧ ∃ reason, result = .error reason) ∨
      ∃ transport,
        result = .ok (some ⟨process.nextAddress⟩) ∧
        last.seen book = { (process.seen book).noting (made transport) with
          nextAddress := process.nextAddress + 1
          transportIvars := Function.update process.transportIvars process.nextAddress
            { transport := some transport
              listenerAdapter := some listenerAdapter
              pcFactory := self.pcFactory } } := by
  unfold DeviceWrapper.createTransportBlock at ran
  have parsing : KeepsSeen book (throwing (texts.arguments library.parse pcOptions)) :=
    KeepsSeen.throwing _
  rcases Program.bind_cases ran with ⟨reason, raised, same⟩ | ⟨arguments, parsed, given, ran⟩
  · exact Or.inl ⟨parsing.reached raised, reason, same⟩
  have seenParsed := parsing.reached given
  have making := makes self.device listenerAdapter arguments
  rcases Program.bind_cases ran with ⟨reason, raised, same⟩ | ⟨transport, called, created, ran⟩
  · exact Or.inl ⟨(seen_of_raised making raised).trans seenParsed, reason, same⟩
  have seenCalled : called.seen book = (process.seen book).noting (made transport) := by
    rw [seen_of_made making created, seenParsed]
  have address : called.nextAddress = process.nextAddress :=
    (Process.nextAddress_of_seen seenCalled :)
  have ivars : called.transportIvars = process.transportIvars :=
    (Process.transportIvars_of_seen seenCalled :)
  cases ran
  refine Or.inr ⟨transport, by rw [address], ?_⟩
  rw [← address, ← ivars, ← seenCalled]
  rfl

theorem createTransport_cases {create : CreateTransport World} {self : Device}
    {texts : TransportTexts} {iceServers : Option String} {policy : IceTransportPolicy}
    (makes : ∀ device listener arguments, Makes book made (create device listener arguments))
    {process last : Process World} {outcome : Option TransportFacade × Option NSError}
    (returned : DeviceWrapper.createTransport library create self texts iceServers policy process =
      (.ok outcome, last)) :
    (∃ error, outcome = (none, some error) ∧
        last.seen book = (process.seen book).withAdapter 1) ∨
      ∃ transport, outcome = (some ⟨process.nextAddress⟩, none) ∧
        last.seen book =
          ((process.seen book).withTransport transport self.pcFactory).noting (made transport) := by
  obtain ⟨pcOptions, converted, given, ran⟩ := Program.bind_eq_ok_iff.mp returned
  have sameProcess : converted = process := by
    cases options : pcOptionsWithICEServers library.parse library.nativeTransportsType
      self.pcOptions iceServers policy with
    | error raised =>
        rw [options] at given
        cases given
    | ok value =>
        rw [options] at given
        cases given
        rfl
  subst sameProcess
  let opened : Process World := converted.withAdapter 0
  have guardedRan : guarded createTransportClauses false
      (DeviceWrapper.createTransportBlock library create self texts pcOptions
        converted.listenerAdapters.fresh)
      (deleteListenerAdapter converted.listenerAdapters.fresh) (pure none) opened =
        (.ok outcome, last) := ran
  rcases guarded_cases guardedRan with ⟨result, blockRan, rfl⟩ |
      ⟨reason, reached, cleaned, result, error, blockRan, cleans, recovers, rfl⟩
  · rcases createTransportBlock_cases library makes blockRan with ⟨-, reason, impossible⟩ |
        ⟨transport, same, seen⟩
    · cases impossible
    · cases same
      exact Or.inr ⟨transport, rfl, seen⟩
  · rcases createTransportBlock_cases library makes blockRan with ⟨seen, -⟩ |
        ⟨transport, impossible, seen⟩
    · cases cleans
      cases recovers
      exact Or.inl ⟨error, rfl, seen_deleteListenerAdapter seen⟩
    · cases impossible

end Transports

/-! ### `replaceTrack` and `dispose` -/

section Updates

variable {library : NativeLibrary World} {Book : Type} (books : ObjectBook library Book)

def Process.withTrack (process : Process World) (self : Address) (track : MediaStreamTrack) :
    Process World :=
  { process with producerTrack := Function.update process.producerTrack self track }

/-- The track property follows the native track: it changes where the native call
returned. -/
theorem replaceTrack_cases {self : ProducerWrapper} {track : MediaStreamTrack}
    {process last : Process World} {outcome : Unit × Option NSError}
    (returned : ProducerWrapper.replaceTrack library self track process = (.ok outcome, last)) :
    (∃ error, outcome = ((), some error) ∧ last.seen books.book = process.seen books.book) ∨
      (outcome = ((), none) ∧
        last.seen books.book = (process.seen books.book).withTrack self.address track) := by
  have calling := KeepsSeen.callNative (books.replaceTrack self.producer track.hash)
  rcases guarded_cases returned with ⟨result, blockRan, rfl⟩ |
      ⟨reason, reached, cleaned, result, error, blockRan, cleans, recovers, rfl⟩
  · obtain ⟨⟨⟩, called, replaced, ran⟩ := Program.bind_eq_ok_iff.mp blockRan
    have seen := calling.reached replaced
    have tracks : called.producerTrack = process.producerTrack :=
      (Process.producerTrack_of_seen seen :)
    cases ran
    refine Or.inr ⟨rfl, ?_⟩
    rw [← seen]
    rfl
  · cases cleans
    cases recovers
    rcases Program.bind_cases blockRan with ⟨raised, replaced, -⟩ | ⟨value, called, -, ran⟩
    · exact Or.inl ⟨error, rfl, calling.reached replaced⟩
    · cases ran

/-- After the wrapper at `self` was disposed and its adapter deleted. -/
def Process.withoutTransport (process : Process World) (self : Address)
    (adapter : AdapterPointer) : Process World :=
  { process.withoutAdapter adapter with
    transportIvars := Function.update process.transportIvars self
      { process.transportIvars self with transport := none, listenerAdapter := none } }

/-- `dispose` of a wrapper that was disposed changes nothing; otherwise it deletes
the native transport and the adapter and clears both pointers. -/
theorem dispose_cases {self : Address} {process last : Process World} {result : Unit}
    (returned : TransportWrapper.dispose library self process = (.ok result, last)) :
    ((process.transportIvars self).transport = none ∧ last = process) ∨
      ∃ transport adapter,
        (process.transportIvars self).transport = some transport ∧
        (process.transportIvars self).listenerAdapter = some adapter ∧
        last.seen books.book =
          ((process.seen books.book).withoutTransport self adapter).noting
            (books.deleted transport) := by
  rw [TransportWrapper.dispose, Program.bind_of_ok (Program.get_apply process)] at returned
  cases present : (process.transportIvars self).transport with
  | none =>
      simp only [present] at returned
      cases returned
      exact Or.inl ⟨rfl, rfl⟩
  | some transport =>
      simp only [present] at returned
      obtain ⟨adapter, same, pointer, ran⟩ := Program.bind_eq_ok_iff.mp returned
      cases found : (process.transportIvars self).listenerAdapter with
      | none =>
          rw [found] at pointer
          cases pointer
      | some pointed =>
          rw [found] at pointer
          cases pointer
          cases ran
          have noted : books.book (library.delete transport (library.close transport
              process.native)) = books.deleted transport (books.book process.native) := by
            rw [books.delete, books.close]
          have seen := (process.withoutTransport self adapter).seen_withNative noted
          exact Or.inr ⟨transport, adapter, rfl, rfl, seen⟩

end Updates

end MediasoupClientSwift
