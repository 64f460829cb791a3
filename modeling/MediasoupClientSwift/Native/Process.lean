import MediasoupClientSwift.Device.AudioSession
import MediasoupClientSwift.Error.Handler
import MediasoupClientSwift.Library.Arena
import MediasoupClientSwift.Library.Fallible
import MediasoupClientSwift.Native.Library

/-!
Owns the state the Objective-C++ wrappers work on: the native world, the
listener adapters, the instance variables that change, and the tasks posted to
worker threads; and the steps that reach outside the wrapper: a native call, a
JSON conversion, allocating and deleting an adapter. `EndsAs` relates a block to
the part of it that can raise.
-/

namespace MediasoupClientSwift

open Library

abbrev Address := Nat

/-- The pointers of a transport wrapper; null after `dispose`. -/
structure TransportIvars where
  transport : Option Handle
  listenerAdapter : Option AdapterPointer
  pcFactory : PCFactory
deriving DecidableEq, Repr

structure Process (World : Type) where
  native : World
  /-- How often each listener adapter allocated so far was deleted. -/
  listenerAdapters : Arena Nat
  transportIvars : Address → TransportIvars
  /-- The `track` property of producer wrappers, the only one that changes. -/
  producerTrack : Address → MediaStreamTrack
  nextAddress : Address
  /-- The number of the factory that is made next. -/
  nextFactory : Nat
  /-- Every task posted, with the factory to whose worker thread. -/
  workerTasks : List (PCFactory × AudioTask)

/-- A process over the sample library with one transport wrapper. -/
def sampleProcess (loaded closed : Bool) : Process SampleWorld where
  native :=
    { loaded := loaded
      closed := closed
      sender :=
        { parameters :=
            { transactionId := 0, mid := [], codecs := [], headerExtensions := [], encodings := [],
              degradationPreference := none }
          latest := none
          issued := 0 } }
  listenerAdapters := [0]
  transportIvars _ := { transport := some 1, listenerAdapter := some 0, pcFactory := .made 0 }
  producerTrack _ := { hash := 0, kind := "audio" }
  nextAddress := 1
  nextFactory := 1
  workerTasks := []

variable {World α β : Type}

/-- After the allocation of an adapter that was deleted so often since. -/
def Process.withAdapter (process : Process World) (deletions : Nat) : Process World :=
  { process with listenerAdapters := process.listenerAdapters.push deletions }

/-- After one more deletion of an adapter. -/
def Process.withoutAdapter (process : Process World) (adapter : AdapterPointer) : Process World :=
  { process with listenerAdapters := process.listenerAdapters.modify adapter (· + 1) }

/-- A new adapter that is deleted at once. -/
theorem Process.withoutAdapter_withAdapter_fresh (process : Process World) (deletions : Nat) :
    (process.withAdapter deletions).withoutAdapter process.listenerAdapters.fresh =
      process.withAdapter (deletions + 1) := by
  unfold withAdapter withoutAdapter
  rw [Arena.modify_push_fresh]

def callNative (call : NativeCall World α) : ObjCpp (Process World) α := fun process =>
  match call process.native with
  | (.ok value, native) => (.ok value, { process with native := native })
  | (.error raised, native) => (.error (.exception raised), { process with native := native })

/-- A computation on values that may raise. -/
def throwing (result : Except CppException α) : ObjCpp (Process World) α := fun process =>
  match result with
  | .ok value => (.ok value, process)
  | .error raised => (.error (.exception raised), process)

def readNative (read : World → α) : ObjCpp (Process World) α := fun process =>
  (.ok (read process.native), process)

/-- Run a native method that does not raise. -/
def runNative (run : World → World) : ObjCpp (Process World) Unit :=
  Program.modify fun process => { process with native := run process.native }

def newListenerAdapter : ObjCpp (Process World) AdapterPointer := fun process =>
  (.ok process.listenerAdapters.fresh, process.withAdapter 0)

def deleteListenerAdapter (adapter : AdapterPointer) : ObjCpp (Process World) Unit :=
  Program.modify fun process => process.withoutAdapter adapter

def allocWrapper : ObjCpp (Process World) Address := fun process =>
  (.ok process.nextAddress, { process with nextAddress := process.nextAddress + 1 })

/-- `workerThread->PostTask`. -/
def postTask (pcFactory : PCFactory) (task : AudioTask) : ObjCpp (Process World) Unit :=
  Program.modify fun process =>
    { process with workerTasks := process.workerTasks ++ [(pcFactory, task)] }

/-- A pointer that is dereferenced: undefined behaviour where it is null. -/
def dereference {State : Type} (pointer : Option α) : ObjCpp State α :=
  match pointer with
  | some target => pure target
  | none => Program.abort .undefinedBehaviour

/-! ### How a block ends -/

/-- The block returns where `work` does, and raises the exception `work` raises
where it does not. -/
def EndsAs (block : ObjCpp (Process World) α) (process : Process World)
    (work : Except CppException Unit) : Prop :=
  match work with
  | .ok () => Program.Completes block process
  | .error raised => ∃ reached, block process = (.error (.exception raised), reached)

theorem EndsAs.bind_throwing {result : Except CppException α}
    {next : α → ObjCpp (Process World) β} {process : Process World}
    {work : α → Except CppException Unit}
    (later : ∀ value, result = .ok value → EndsAs (next value) process (work value)) :
    EndsAs (throwing result >>= next) process (result >>= work) := by
  cases result with
  | error raised => exact ⟨process, rfl⟩
  | ok value => exact later value rfl

theorem EndsAs.bind_callNative {call : NativeCall World α}
    {next : α → ObjCpp (Process World) β} {process : Process World}
    {work : α → Except CppException Unit}
    (later : ∀ value native, EndsAs (next value) { process with native := native } (work value)) :
    EndsAs (callNative call >>= next) process ((call process.native).1 >>= work) := by
  rcases outcome : call process.native with ⟨result, native⟩
  have calls : callNative call process =
      (match result with
        | .ok value => (.ok value, { process with native := native })
        | .error raised => (.error (.exception raised), { process with native := native })) := by
    simp only [callNative, outcome]
    cases result <;> rfl
  cases result with
  | error raised => exact ⟨_, Program.bind_of_error calls⟩
  | ok value =>
      have ends := later value native
      unfold EndsAs at ends ⊢
      simp only [bind, Except.bind] at ends ⊢
      split at ends
      · obtain ⟨final, last, returned⟩ := ends
        exact ⟨final, last, (Program.bind_of_ok calls).trans returned⟩
      · obtain ⟨reached, raisedHere⟩ := ends
        exact ⟨reached, (Program.bind_of_ok calls).trans raisedHere⟩

/-- A first step that returns hands over to the rest. -/
theorem EndsAs.of_bind_ok {first : ObjCpp (Process World) α} {next : α → ObjCpp (Process World) β}
    {process reached : Process World} {found : α} {work : Except CppException Unit}
    (returned : first process = (.ok found, reached)) (ends : EndsAs (next found) reached work) :
    EndsAs (first >>= next) process work := by
  cases work with
  | ok value => exact Program.completes_bind_of_ok returned ends
  | error raised =>
      obtain ⟨last, rest⟩ := ends
      exact ⟨last, (Program.bind_of_ok returned).trans rest⟩

/-- A continuation that always returns changes nothing. -/
theorem EndsAs.bind_total {first : ObjCpp (Process World) α} {next : α → ObjCpp (Process World) β}
    {process : Process World} {work : Except CppException Unit}
    (ends : EndsAs first process work)
    (total : ∀ value reached, Program.Completes (next value) reached) :
    EndsAs (first >>= next) process work := by
  cases work with
  | ok value => exact (Program.completes_bind_iff total process).mpr ends
  | error raised =>
      obtain ⟨reached, aborted⟩ := ends
      exact ⟨reached, Program.bind_of_error aborted⟩

theorem completes_iff_of_endsAs {block : ObjCpp (Process World) α} {process : Process World}
    {work : Except CppException Unit} (ends : EndsAs block process work) :
    Program.Completes block process ↔ Returns work := by
  cases work with
  | ok value => exact iff_of_true ends (returns_ok value)
  | error raised =>
      obtain ⟨reached, aborted⟩ := ends
      exact iff_of_false (Program.not_completes_of_error aborted) (not_returns_error raised)

/-- A block that ends with the work of a value. -/
theorem EndsAs.throwing {result : Except CppException α} {process : Process World} :
    EndsAs (throwing result) process (result.map fun _ => ()) := by
  cases result with
  | error raised => exact ⟨process, rfl⟩
  | ok value => exact Program.completes_of_ok rfl

/-- A block that ends with a native call. -/
theorem EndsAs.callNative {call : NativeCall World α} {process : Process World} :
    EndsAs (callNative call) process ((call process.native).1.map fun _ => ()) := by
  rcases outcome : call process.native with ⟨result, native⟩
  cases result with
  | error raised =>
      exact ⟨{ process with native := native }, by simp only [MediasoupClientSwift.callNative, outcome]⟩
  | ok value =>
      exact ⟨value, { process with native := native },
        by simp only [MediasoupClientSwift.callNative, outcome]⟩

/-! ### A method under a handler -/

/-- The exceptions of a handler's block all have a readable message. -/
def ReadableErrors (work : Except CppException Unit) : Prop :=
  ∀ raised, work = .error raised → raised.Readable

theorem readableErrors_ok : ReadableErrors (.ok ()) := fun raised same => by cases same

/-- What a handler makes of the work in its block: the method completes unless
an exception without a readable message is raised, and reports a readable one
under the code of its class, with the value `failed`. -/
structure Handled (method : ObjCpp (Process World) (α × Option NSError))
    (process : Process World) (work : Except CppException Unit)
    (code : ExceptionClass → MediasoupClientErrorCode) (failed : α) : Prop where
  completes_iff : Program.Completes method process ↔ ReadableErrors work
  reports : ∀ raised message, work = .error raised →
    stringWithUTF8String raised.what = some message →
    ∃ reached, method process =
      (.ok (failed, some (describedError (code raised.exceptionClass) message)), reached)

theorem handled_guarded {block recover : ObjCpp (Process World) α}
    {cleanUp : ObjCpp (Process World) Unit} {clauses : List CatchClause} {catchesId : Bool}
    {process : Process World} {work : Except CppException Unit} {failed : α}
    {code : ExceptionClass → MediasoupClientErrorCode} (ends : EndsAs block process work)
    (clause : ∀ raised, clauseCode clauses raised = some (code raised))
    (cleans : ∀ reached, Program.Completes cleanUp reached)
    (recovers : ∀ reached, ∃ last, recover reached = (.ok failed, last)) :
    Handled (guarded clauses catchesId block cleanUp recover) process work code failed := by
  cases work with
  | ok value =>
      obtain ⟨result, reached, returned⟩ := ends
      refine ⟨iff_of_true (Program.completes_of_ok (guarded_of_ok returned)) readableErrors_ok, ?_⟩
      intro raised message same
      cases same
  | error raised =>
      obtain ⟨reached, aborted⟩ := ends
      constructor
      · rw [completes_guarded_iff (fun raised => ⟨_, clause raised⟩) cleans]
        · simp [aborted, ReadableErrors]
        · intro reached
          obtain ⟨last, recovered⟩ := recovers reached
          exact Program.completes_of_ok recovered
        · intro reason same
          rw [aborted] at same
          exact ⟨raised, by cases same; rfl⟩
      · intro other message same decoded
        cases same
        obtain ⟨⟨⟩, cleaned, cleanedUp⟩ := cleans reached
        obtain ⟨last, recovered⟩ := recovers cleaned
        exact ⟨last, guarded_of_readable aborted (clause _) decoded cleanedUp recovered⟩

section Helpers

variable {process : Process World} {work : Except CppException Unit}

theorem handled_mediasoupTry {block : ObjCpp (Process World) Unit}
    (ends : EndsAs block process work) :
    Handled (mediasoupTry block) process work errorCode () :=
  handled_guarded ends clauseCode_mediasoupClauses (fun _ => Program.completes_of_ok rfl)
    (fun reached => ⟨reached, rfl⟩)

theorem handled_mediasoupTryWithBool {block : ObjCpp (Process World) Bool}
    (ends : EndsAs block process work) :
    Handled (mediasoupTryWithBool block) process work errorCode false :=
  handled_guarded ends clauseCode_mediasoupClauses (fun _ => Program.completes_of_ok rfl)
    (fun reached => ⟨reached, rfl⟩)

theorem handled_mediasoupTryWithResult {block : ObjCpp (Process World) (Option α)}
    {catchBlock : Option (ObjCpp (Process World) Unit)} (ends : EndsAs block process work)
    (cleans : ∀ block ∈ catchBlock, ∀ reached, Program.Completes block reached) :
    Handled (mediasoupTryWithResult block catchBlock) process work errorCode none := by
  refine handled_guarded ends clauseCode_mediasoupClauses (fun _ => Program.completes_of_ok rfl)
    (fun reached => ?_)
  cases catchBlock with
  | none => exact ⟨reached, rfl⟩
  | some block =>
      obtain ⟨⟨⟩, last, returned⟩ := cleans block rfl reached
      exact ⟨last, Program.bind_of_ok returned⟩

end Helpers

end MediasoupClientSwift
