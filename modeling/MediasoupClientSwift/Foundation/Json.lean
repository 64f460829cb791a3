import MediasoupClientSwift.Error.Exception
import MediasoupClientSwift.Library.Fallible

/-!
Owns parsed JSON values and the part of `nlohmann::json` the wrappers call on
them: iteration, `contains`, `operator[]` on a present key, the type tests and
the two `get` conversions with the exception they raise. Parsing text is not
owned here: it belongs to the native library.
-/

namespace MediasoupClientSwift

open Library

/-- A value of type `nlohmann::json`. Object members stand in iteration order;
a number is kept as its literal. -/
inductive Json where
  | null
  | boolean (value : Bool)
  | number (literal : Bytes)
  | string (value : Bytes)
  | array (elements : List Json)
  | object (members : List (Bytes × Json))

namespace Json

/-- What a range-based `for` over the value visits: the elements of an array,
the values of an object, nothing for null, and a scalar itself. -/
def elements : Json → List Json
  | .null => []
  | .array elements => elements
  | .object members => members.map Prod.snd
  | scalar => [scalar]

/-- The member under a key, where the value is an object that has one. -/
def find (key : String) : Json → Option Json
  | .object members => members.lookup (utf8Bytes key)
  | _ => none

def contains (value : Json) (key : String) : Bool := (value.find key).isSome

/-- `value[key]` on a const value; the callers test `contains` first. -/
def subscript (value : Json) (key : String) : Json := (value.find key).getD .null

def isString : Json → Bool
  | .string _ => true
  | _ => false

def typeName : Json → String
  | .null => "null"
  | .boolean _ => "boolean"
  | .number _ => "number"
  | .string _ => "string"
  | .array _ => "array"
  | .object _ => "object"

/-- `type_error.302`. -/
def typeError (value : Json) : CppException where
  exceptionClass := .stdException
  what := utf8Bytes ("[json.exception.type_error.302] type must be string, but is " ++ value.typeName)

/-- `value.get<std::string>()`. -/
def getString : Json → Except CppException Bytes
  | .string value => .ok value
  | value => .error value.typeError

/-- `value.get<std::vector<std::string>>()` on an array. -/
def getStrings : List Json → Except CppException (List Bytes)
  | [] => .ok []
  | head :: rest => do
      let first ← head.getString
      let others ← getStrings rest
      pure (first :: others)

theorem returns_getString_iff (value : Json) :
    Returns value.getString ↔ value.isString = true := by
  cases value <;> simp [getString, isString]

/-- The conversion of an array raises exactly at a member that is no string. -/
theorem returns_getStrings_iff (values : List Json) :
    Returns (getStrings values) ↔ ∀ value ∈ values, value.isString = true := by
  induction values with
  | nil => simp [getStrings]
  | cons head rest inductionHypothesis =>
      rw [List.forall_mem_cons, ← returns_getString_iff, ← inductionHypothesis, getStrings,
        returns_bind_iff]
      constructor
      · rintro ⟨first, headOk, others⟩
        exact ⟨⟨first, headOk⟩, (returns_bind_of_total fun _ => returns_pure _).mp others⟩
      · rintro ⟨⟨first, headOk⟩, others⟩
        exact ⟨first, headOk, (returns_bind_of_total fun _ => returns_pure _).mpr others⟩

end Json

end MediasoupClientSwift
