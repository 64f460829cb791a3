import MediasoupClientSwift.Library.Program

/-!
Owns promises with a shared state: it is completed at most once, by a value, by
an exception, or by the destruction of a promise nobody completed. A second
completion aborts and changes nothing.
-/

namespace MediasoupClientSwift.Library

inductive Completion (Value Error : Type) where
  | value (value : Value)
  | exception (error : Error)
  | brokenPromise
deriving DecidableEq, Repr

/-- What a promise and its future share; `none` while the future is pending. -/
abbrev SharedState (Value Error : Type) := Option (Completion Value Error)

namespace Promise

variable {Abort Value Error : Type} (alreadySatisfied : Abort)

def complete (completion : Completion Value Error) :
    Program Abort (SharedState Value Error) Unit := fun shared =>
  match shared with
  | none => (.ok (), some completion)
  | some _ => (.error alreadySatisfied, shared)

def setValue (value : Value) : Program Abort (SharedState Value Error) Unit :=
  complete alreadySatisfied (.value value)

def setException (error : Error) : Program Abort (SharedState Value Error) Unit :=
  complete alreadySatisfied (.exception error)

def destroy (shared : SharedState Value Error) : SharedState Value Error :=
  match shared with
  | none => some .brokenPromise
  | some completion => some completion

/-- Under a handler for everything, a completion returns, and the first one wins. -/
theorem tryCatch_complete (completion : Completion Value Error)
    (shared : SharedState Value Error) :
    Program.tryCatch (complete alreadySatisfied completion) (fun _ => some (pure ())) shared =
      (.ok (), shared.or (some completion)) := by
  cases shared with
  | none => exact Program.tryCatch_of_ok rfl
  | some first => exact Program.tryCatch_of_error rfl

end Promise

end MediasoupClientSwift.Library
