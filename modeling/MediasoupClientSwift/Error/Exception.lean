import MediasoupClientSwift.Foundation.Text
import MediasoupClientSwift.Library.Program

/-!
Owns the exceptions native code raises, the classes the catch ladders tell
apart, the `NSError` values built from them, and `mediasoupError`, which runs
inside the catch clauses and can raise itself.
-/

namespace MediasoupClientSwift

open Library

/-- The exception classes named by a catch clause. `mediaSoupClientError` and
`stdException` also stand for every class derived from them that no clause
names, such as the exceptions of `nlohmann::json`. -/
inductive ExceptionClass where
  | mediaSoupClientUnsupportedError
  | mediaSoupClientInvalidStateError
  | mediaSoupClientTypeError
  | mediaSoupClientError
  | stdException
deriving DecidableEq, Repr

def ExceptionClass.isCaughtBy (raised clause : ExceptionClass) : Bool :=
  match clause with
  | .stdException => true
  | .mediaSoupClientError => raised != .stdException
  | _ => raised == clause

/-- A C++ exception derived from `std::exception`: its class and `what()`. -/
structure CppException where
  exceptionClass : ExceptionClass
  what : Bytes
deriving DecidableEq, Repr

/-- How Objective-C++ code can end without completing. -/
inductive Abrupt where
  | exception (raised : CppException)
  | objcException
  | undefinedBehaviour
deriving DecidableEq, Repr

/-- Objective-C++ code over a process state. -/
abbrev ObjCpp (State : Type) := Program Abrupt State

inductive MediasoupClientErrorCode where
  | unsupported
  | invalidState
  | invalidParameters
  | unknown
deriving DecidableEq, Repr

def mediasoupClientErrorDomain : String := "MediasoupClientErrorDomain"

/-- An error found under `NSUnderlyingErrorKey`. -/
structure UnderlyingError where
  domain : String
  code : Int
deriving DecidableEq, Repr

/-- The two entries of an error's `userInfo` that are written or read. -/
structure UserInfo where
  localizedDescription : Option String
  underlyingError : Option UnderlyingError
deriving DecidableEq, Repr

structure NSError where
  domain : String
  code : MediasoupClientErrorCode
  userInfo : UserInfo
deriving DecidableEq, Repr

variable {State : Type}

def describedError (code : MediasoupClientErrorCode) (description : String) : NSError where
  domain := mediasoupClientErrorDomain
  code := code
  userInfo := { localizedDescription := some description, underlyingError := none }

/-- The error reported for an Objective-C exception, `userInfo:nil`. -/
def undescribedError : NSError where
  domain := mediasoupClientErrorDomain
  code := .unknown
  userInfo := { localizedDescription := none, underlyingError := none }

/-- The dictionary literal raises where the description is nil. -/
def mediasoupError (code : MediasoupClientErrorCode) (raised : CppException) :
    ObjCpp State NSError :=
  match stringWithUTF8String raised.what with
  | some errorDescription => pure (describedError code errorDescription)
  | none => Program.abort .objcException

/-! ### Catch ladders -/

/-- `catch (const C &e) { *error = mediasoupError(code, &e); }`. -/
structure CatchClause where
  exceptionClass : ExceptionClass
  code : MediasoupClientErrorCode

def clauseCode (clauses : List CatchClause) (raised : ExceptionClass) :
    Option MediasoupClientErrorCode :=
  (clauses.find? fun clause => raised.isCaughtBy clause.exceptionClass).map (·.code)

/-- The clauses of `mediasoupTry`, `mediasoupTryWithBool` and
`mediasoupTryWithResult`. -/
def mediasoupClauses : List CatchClause :=
  [⟨.mediaSoupClientUnsupportedError, .unsupported⟩,
    ⟨.mediaSoupClientInvalidStateError, .invalidState⟩,
    ⟨.mediaSoupClientTypeError, .invalidParameters⟩,
    ⟨.mediaSoupClientError, .unknown⟩,
    ⟨.stdException, .unknown⟩]

/-- The single clause of `createSendTransportWithId:` and
`createReceiveTransportWithId:`. -/
def createTransportClauses : List CatchClause :=
  [⟨.stdException, .invalidParameters⟩]

/-- What a ladder does with an abrupt end: the clause to run, if one applies.
`catchesId` says that the ladder ends with `catch (id e)`. -/
def catchLadder (clauses : List CatchClause) (catchesId : Bool) :
    Abrupt → Option (ObjCpp State NSError)
  | .exception raised =>
      (clauseCode clauses raised.exceptionClass).map fun code => mediasoupError code raised
  | .objcException => if catchesId then some (pure undescribedError) else none
  | .undefinedBehaviour => none

/-- The code the helpers report for a class. -/
def errorCode : ExceptionClass → MediasoupClientErrorCode
  | .mediaSoupClientUnsupportedError => .unsupported
  | .mediaSoupClientInvalidStateError => .invalidState
  | .mediaSoupClientTypeError => .invalidParameters
  | .mediaSoupClientError => .unknown
  | .stdException => .unknown

theorem clauseCode_mediasoupClauses (raised : ExceptionClass) :
    clauseCode mediasoupClauses raised = some (errorCode raised) := by
  cases raised <;> rfl

theorem clauseCode_createTransportClauses (raised : ExceptionClass) :
    clauseCode createTransportClauses raised = some .invalidParameters := rfl

/-- The message of an exception can be made an error description. -/
def CppException.Readable (raised : CppException) : Prop :=
  (stringWithUTF8String raised.what).isSome

instance (raised : CppException) : Decidable raised.Readable :=
  inferInstanceAs (Decidable (_ = true))

theorem mediasoupError_of_message {code : MediasoupClientErrorCode} {raised : CppException}
    {message : String} (decoded : stringWithUTF8String raised.what = some message)
    (state : State) :
    mediasoupError code raised state = (.ok (describedError code message), state) := by
  simp only [mediasoupError, decoded, Program.pure_apply]

theorem mediasoupError_of_unreadable {code : MediasoupClientErrorCode} {raised : CppException}
    (unreadable : ¬ raised.Readable) (state : State) :
    mediasoupError code raised state = (.error .objcException, state) := by
  have decoded : stringWithUTF8String raised.what = none := by
    simpa [CppException.Readable] using unreadable
  simp only [mediasoupError, decoded, Program.abort_apply]

end MediasoupClientSwift
