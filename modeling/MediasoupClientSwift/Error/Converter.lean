import MediasoupClientSwift.Error.Handler

/-!
Owns the Swift side of the errors: how an imported Objective-C method throws,
the public `MediasoupError`, and `convertMediasoupErrors`. It also owns the
vocabulary the two stages are meant to give together: one `MediasoupError` case
per exception class, with the message kept.
-/

namespace MediasoupClientSwift

open Library

mutual

/-- An error thrown in Swift: one bridged from Objective-C, the one Swift makes
up for a nil result without an error, or a `MediasoupError`. -/
inductive SwiftError where
  | nsError (error : NSError)
  | nilError
  | mediasoupError (error : MediasoupError)

inductive MediasoupError where
  | unsupported (message : String)
  | invalidState (message : String)
  | invalidParameters (message : String)
  | mediasoup (error : UnderlyingError)
  | unknown (error : SwiftError)

end

deriving instance DecidableEq for SwiftError, MediasoupError

variable {State α β : Type}

/-- Swift code that may throw, over Objective-C++ code that may end abruptly. -/
abbrev SwiftCall (State α : Type) := ObjCpp State (Except SwiftError α)

def swiftThrow (error : SwiftError) : ObjCpp State (Except SwiftError α) :=
  pure (.error error)

def mapResult (change : α → β) (call : SwiftCall State α) : ObjCpp State (Except SwiftError β) := do
  let result ← call
  pure (result.map change)

/-- A method marked `swift_error(nonnull_error)`: it throws when it set an error. -/
def nonnullErrorCall (method : ObjCpp State (α × Option NSError)) :
    ObjCpp State (Except SwiftError α) := do
  let (result, error) ← method
  match error with
  | some error => pure (.error (.nsError error))
  | none => pure (.ok result)

/-- A method with a nullable result: it throws when the result is nil. -/
def nilResultCall (method : ObjCpp State (Option α × Option NSError)) :
    ObjCpp State (Except SwiftError α) := do
  let (result, error) ← method
  match result, error with
  | some result, _ => pure (.ok result)
  | none, some error => pure (.error (.nsError error))
  | none, none => pure (.error .nilError)

/-- `error.errorUserInfo[NSLocalizedDescriptionKey] as? String`, or empty. -/
def description (error : NSError) : String :=
  error.userInfo.localizedDescription.getD ""

/-- The `catch` clauses of `convertMediasoupErrors`. -/
def convertedError : SwiftError → MediasoupError
  | .nsError error =>
      if error.domain = mediasoupClientErrorDomain then
        match error.code with
        | .unsupported => .unsupported (description error)
        | .invalidParameters => .invalidParameters (description error)
        | .invalidState => .invalidState (description error)
        | .unknown =>
            match error.userInfo.underlyingError with
            | some underlying => .mediasoup underlying
            | none => .unknown (.nsError error)
      else .unknown (.nsError error)
  | error => .unknown error

def convertMediasoupErrors (throwingClosure : SwiftCall State α) :
    ObjCpp State (Except SwiftError α) := do
  match ← throwingClosure with
  | .ok result => pure (.ok result)
  | .error error => pure (.error (.mediasoupError (convertedError error)))

/-- The case the API documents for an exception class, carrying the message. -/
def MediasoupError.Reports (raised : ExceptionClass) (message : String) :
    MediasoupError → Prop
  | .unsupported text => raised = .mediaSoupClientUnsupportedError ∧ text = message
  | .invalidState text => raised = .mediaSoupClientInvalidStateError ∧ text = message
  | .invalidParameters text => raised = .mediaSoupClientTypeError ∧ text = message
  | .mediasoup _ => False
  | .unknown _ => raised = .mediaSoupClientError ∨ raised = .stdException

/-- The converter and the ladder of the helpers compose to the vocabulary. -/
theorem convertedError_reports (raised : ExceptionClass) (message : String) :
    (convertedError (.nsError (describedError (errorCode raised) message))).Reports
      raised message := by
  cases raised <;> simp [convertedError, describedError, errorCode, description,
    MediasoupError.Reports]

/-- A ladder that reports one code for every class agrees with the vocabulary
on that code's class only. -/
theorem convertedError_invalidParameters_reports_iff (raised : ExceptionClass)
    (message : String) :
    (convertedError (.nsError (describedError .invalidParameters message))).Reports
      raised message ↔ raised = .mediaSoupClientTypeError := by
  simp [convertedError, describedError, description, MediasoupError.Reports]

theorem nonnullErrorCall_of_error {method : ObjCpp State (α × Option NSError)}
    {state reached : State} {result : α} {error : NSError}
    (returned : method state = (.ok (result, some error), reached)) :
    nonnullErrorCall method state = (.ok (.error (.nsError error)), reached) :=
  Program.bind_of_ok returned

theorem nilResultCall_of_error {method : ObjCpp State (Option α × Option NSError)}
    {state reached : State} {error : NSError}
    (returned : method state = (.ok (none, some error), reached)) :
    nilResultCall method state = (.ok (.error (.nsError error)), reached) :=
  Program.bind_of_ok returned

theorem convertMediasoupErrors_of_error {closure : SwiftCall State α}
    {state reached : State} {error : SwiftError}
    (threw : closure state = (.ok (.error error), reached)) :
    convertMediasoupErrors closure state =
      (.ok (.error (.mediasoupError (convertedError error))), reached) :=
  Program.bind_of_ok threw

theorem completes_nonnullErrorCall_iff (method : ObjCpp State (α × Option NSError))
    (state : State) :
    Program.Completes (nonnullErrorCall method) state ↔ Program.Completes method state := by
  refine Program.completes_bind_iff ?_ state
  rintro ⟨result, error⟩ reached
  cases error <;> exact Program.completes_of_ok rfl

theorem completes_nilResultCall_iff (method : ObjCpp State (Option α × Option NSError))
    (state : State) :
    Program.Completes (nilResultCall method) state ↔ Program.Completes method state := by
  refine Program.completes_bind_iff ?_ state
  rintro ⟨result, error⟩ reached
  cases result <;> cases error <;> exact Program.completes_of_ok rfl

theorem completes_convertMediasoupErrors_iff (closure : SwiftCall State α) (state : State) :
    Program.Completes (convertMediasoupErrors closure) state ↔
      Program.Completes closure state := by
  refine Program.completes_bind_iff ?_ state
  rintro (error | result) reached <;> exact Program.completes_of_ok rfl

end MediasoupClientSwift
