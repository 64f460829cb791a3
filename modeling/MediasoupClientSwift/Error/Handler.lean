import MediasoupClientSwift.Error.Exception

/-!
Owns the exception translators `mediasoupTry`, `mediasoupTryWithBool` and
`mediasoupTryWithResult`, and the hand-written `try`/`catch` of the transport
factories. Each is the same guarded block with its own ladder, result and
clean-up; the results say when the guarded block completes and which error it
reports.
-/

namespace MediasoupClientSwift

open Library

variable {State α : Type}

/-- A block under a catch ladder. `cleanUp` runs in the clause before the error is
built; `recover` runs after it and gives the result of the failed call. -/
def guarded (clauses : List CatchClause) (catchesId : Bool) (throwingBlock : ObjCpp State α)
    (cleanUp : ObjCpp State Unit) (recover : ObjCpp State α) :
    ObjCpp State (α × Option NSError) :=
  Program.tryCatch
    (do
      let result ← throwingBlock
      pure (result, none))
    (fun reason => (catchLadder clauses catchesId reason).map fun clause => do
      cleanUp
      let error ← clause
      let result ← recover
      pure (result, some error))

def mediasoupTry (throwingBlock : ObjCpp State Unit) : ObjCpp State (Unit × Option NSError) :=
  guarded mediasoupClauses true throwingBlock (pure ()) (pure ())

def mediasoupTryWithBool (throwingBlock : ObjCpp State Bool) :
    ObjCpp State (Bool × Option NSError) :=
  guarded mediasoupClauses true throwingBlock (pure ()) (pure false)

/-- `if (catchBlock != nil) { catchBlock(); }`. -/
def runCatchBlock : Option (ObjCpp State Unit) → ObjCpp State Unit
  | some catchBlock => catchBlock
  | none => pure ()

/-- `catchBlock` is `none` where the caller passes nil. -/
def mediasoupTryWithResult (throwingBlock : ObjCpp State (Option α))
    (catchBlock : Option (ObjCpp State Unit)) : ObjCpp State (Option α × Option NSError) :=
  guarded mediasoupClauses true throwingBlock (pure ()) do
    runCatchBlock catchBlock
    pure none

theorem guarded_of_ok {clauses : List CatchClause} {catchesId : Bool}
    {throwingBlock recover : ObjCpp State α} {cleanUp : ObjCpp State Unit}
    {state reached : State} {result : α}
    (returned : throwingBlock state = (.ok result, reached)) :
    guarded clauses catchesId throwingBlock cleanUp recover state =
      (.ok (result, none), reached) :=
  Program.tryCatch_of_ok (Program.bind_of_ok returned)

/-- A caught exception with a readable message is reported under the code of
its clause. -/
theorem guarded_of_readable {clauses : List CatchClause} {catchesId : Bool}
    {throwingBlock recover : ObjCpp State α} {cleanUp : ObjCpp State Unit}
    {state reached cleaned last : State} {result : α}
    {raised : CppException} {code : MediasoupClientErrorCode} {message : String}
    (aborted : throwingBlock state = (.error (.exception raised), reached))
    (clause : clauseCode clauses raised.exceptionClass = some code)
    (decoded : stringWithUTF8String raised.what = some message)
    (cleans : cleanUp reached = (.ok (), cleaned))
    (recovered : recover cleaned = (.ok result, last)) :
    guarded clauses catchesId throwingBlock cleanUp recover state =
      (.ok (result, some (describedError code message)), last) := by
  apply (Program.tryCatch_of_error (Program.bind_of_error aborted)).trans
  simp only [catchLadder, clause, Option.map_some]
  rw [Program.bind_of_ok cleans, Program.bind_of_ok (mediasoupError_of_message decoded cleaned),
    Program.bind_of_ok recovered, Program.pure_apply]

/-- The clause itself raises where the message is not UTF-8. -/
theorem guarded_of_unreadable {clauses : List CatchClause} {catchesId : Bool}
    {throwingBlock recover : ObjCpp State α} {cleanUp : ObjCpp State Unit}
    {state reached cleaned : State} {raised : CppException} {code : MediasoupClientErrorCode}
    (aborted : throwingBlock state = (.error (.exception raised), reached))
    (clause : clauseCode clauses raised.exceptionClass = some code)
    (unreadable : ¬ raised.Readable)
    (cleans : cleanUp reached = (.ok (), cleaned)) :
    guarded clauses catchesId throwingBlock cleanUp recover state =
      (.error .objcException, cleaned) := by
  apply (Program.tryCatch_of_error (Program.bind_of_error aborted)).trans
  simp only [catchLadder, clause, Option.map_some]
  rw [Program.bind_of_ok cleans]
  exact Program.bind_of_error (mediasoupError_of_unreadable unreadable cleaned)

/-- A block whose only abrupt ends are C++ exceptions completes under a ladder
with a clause for every class exactly when the exception it raises, if any, has
a readable message. -/
theorem completes_guarded_iff {clauses : List CatchClause} {catchesId : Bool}
    {throwingBlock recover : ObjCpp State α} {cleanUp : ObjCpp State Unit} {state : State}
    (total : ∀ raised, ∃ code, clauseCode clauses raised = some code)
    (cleans : ∀ reached, Program.Completes cleanUp reached)
    (recovers : ∀ reached, Program.Completes recover reached)
    (native : ∀ reason, (throwingBlock state).1 = .error reason →
      ∃ raised, reason = .exception raised) :
    Program.Completes (guarded clauses catchesId throwingBlock cleanUp recover) state ↔
      ∀ raised, (throwingBlock state).1 = .error (.exception raised) → raised.Readable := by
  rcases outcome : throwingBlock state with ⟨result, reached⟩
  cases result with
  | ok value =>
      apply iff_of_true (Program.completes_of_ok (guarded_of_ok outcome))
      intro raised raisedHere
      cases raisedHere
  | error reason =>
      obtain ⟨raised, rfl⟩ := native reason (by rw [outcome])
      obtain ⟨code, clause⟩ := total raised.exceptionClass
      obtain ⟨⟨⟩, cleaned, cleanedUp⟩ := cleans reached
      constructor
      · intro completes other same
        obtain rfl : raised = other := by simpa using same
        by_contra unreadable
        exact Program.not_completes_of_error
          (guarded_of_unreadable outcome clause unreadable cleanedUp) completes
      · intro readable
        obtain ⟨message, decoded⟩ := Option.isSome_iff_exists.mp (readable raised rfl)
        obtain ⟨value, last, recovered⟩ := recovers cleaned
        exact Program.completes_of_ok
          (guarded_of_readable outcome clause decoded cleanedUp recovered)

end MediasoupClientSwift
