import MediasoupClientSwift.Error.Handler

/-!
Owns the contract of an exception translator: the helper returns normally with
what its block returned, or with an error and the state its clean-up made of the
one the block left. The result says when the three helpers meet it.
-/

namespace MediasoupClientSwift

open Library

variable {State α : Type}

/-- The helper returns normally however its block ended. Its clean-up runs once
where the block raised and never where it returned. -/
structure Translates (helper : ObjCpp State (α × Option NSError)) (throwingBlock : ObjCpp State α)
    (failed : α) (cleanUp : State → State) (state : State) : Prop where
  returned : ∀ value reached, throwingBlock state = (.ok value, reached) →
    helper state = (.ok (value, none), reached)
  exception : ∀ raised reached, throwingBlock state = (.error (.exception raised), reached) →
    ∃ error, helper state = (.ok (failed, some error), cleanUp reached)
  objcException : ∀ reached, throwingBlock state = (.error .objcException, reached) →
    ∃ error, helper state = (.ok (failed, some error), cleanUp reached)

/-- The contract speaks of the two runs only. -/
theorem Translates.congr {helper otherHelper : ObjCpp State (α × Option NSError)}
    {throwingBlock otherBlock : ObjCpp State α} {failed : α} {cleanUp : State → State}
    {state other : State}
    (translates : Translates helper throwingBlock failed cleanUp state)
    (sameHelper : otherHelper other = helper state)
    (sameBlock : otherBlock other = throwingBlock state) :
    Translates otherHelper otherBlock failed cleanUp other := by
  constructor
  case returned =>
    intro value reached returned
    rw [sameHelper]
    exact translates.returned value reached (sameBlock.symm.trans returned)
  case exception =>
    intro raised reached aborted
    rw [sameHelper]
    exact translates.exception raised reached (sameBlock.symm.trans aborted)
  case objcException =>
    intro reached aborted
    rw [sameHelper]
    exact translates.objcException reached (sameBlock.symm.trans aborted)

def RaisesReadable (throwingBlock : ObjCpp State α) (state : State) : Prop :=
  ∀ raised, (throwingBlock state).1 = .error (.exception raised) → raised.Readable

/-- The ladder ends with `catch (id e)`, which reports an Objective-C exception
without a description. -/
theorem guarded_of_objcException {clauses : List CatchClause}
    {throwingBlock recover : ObjCpp State α} {cleanUp : ObjCpp State Unit}
    {state reached cleaned last : State} {result : α}
    (aborted : throwingBlock state = (.error .objcException, reached))
    (cleans : cleanUp reached = (.ok (), cleaned))
    (recovered : recover cleaned = (.ok result, last)) :
    guarded clauses true throwingBlock cleanUp recover state =
      (.ok (result, some undescribedError), last) := by
  apply (Program.tryCatch_of_error (Program.bind_of_error aborted)).trans
  show (cleanUp >>= fun _ => pure undescribedError >>= fun error =>
    recover >>= fun result => pure (result, some error)) reached = _
  rw [Program.bind_of_ok cleans, Program.bind_of_ok (Program.pure_apply undescribedError cleaned),
    Program.bind_of_ok recovered, Program.pure_apply]

/-- The helpers translate exactly where their block raises nothing unreadable. -/
theorem translates_guarded_iff {throwingBlock recover : ObjCpp State α} {failed : α}
    {cleanUp : State → State} {state : State}
    (recovers : ∀ reached, recover reached = (.ok failed, cleanUp reached)) :
    Translates (guarded mediasoupClauses true throwingBlock (pure ()) recover) throwingBlock failed
        cleanUp state ↔
      RaisesReadable throwingBlock state := by
  constructor
  · intro translates raised same
    by_contra unreadable
    rcases outcome : throwingBlock state with ⟨result, reached⟩
    rw [outcome] at same
    cases same
    obtain ⟨error, returned⟩ := translates.exception raised reached outcome
    have raises : guarded mediasoupClauses true throwingBlock (pure ()) recover state =
        (.error .objcException, reached) :=
      guarded_of_unreadable outcome (clauseCode_mediasoupClauses _) unreadable
        (Program.pure_apply () reached)
    rw [returned] at raises
    cases raises
  · intro readable
    constructor
    case returned => exact fun value reached returned => guarded_of_ok returned
    case exception =>
      intro raised reached aborted
      have isReadable := readable raised (by rw [aborted])
      obtain ⟨message, decoded⟩ := Option.isSome_iff_exists.mp isReadable
      exact ⟨_, guarded_of_readable aborted (clauseCode_mediasoupClauses _) decoded
        (Program.pure_apply () reached) (recovers reached)⟩
    case objcException =>
      intro reached aborted
      exact ⟨_, guarded_of_objcException aborted (Program.pure_apply () reached)
        (recovers reached)⟩

theorem translates_mediasoupTry_iff (throwingBlock : ObjCpp State Unit) (state : State) :
    Translates (mediasoupTry throwingBlock) throwingBlock () (fun reached => reached) state ↔
      RaisesReadable throwingBlock state :=
  translates_guarded_iff fun _ => rfl

theorem translates_mediasoupTryWithBool_iff (throwingBlock : ObjCpp State Bool) (state : State) :
    Translates (mediasoupTryWithBool throwingBlock) throwingBlock false (fun reached => reached)
        state ↔
      RaisesReadable throwingBlock state :=
  translates_guarded_iff fun _ => rfl

/-- The catch block is what the clean-up runs; nil runs nothing. -/
theorem translates_mediasoupTryWithResult_iff (throwingBlock : ObjCpp State (Option α))
    (catchBlock : Option (State → State)) (state : State) :
    Translates (mediasoupTryWithResult throwingBlock (catchBlock.map Program.modify)) throwingBlock
        none (catchBlock.getD fun reached => reached) state ↔
      RaisesReadable throwingBlock state := by
  apply translates_guarded_iff
  intro reached
  cases catchBlock <;> rfl

end MediasoupClientSwift
