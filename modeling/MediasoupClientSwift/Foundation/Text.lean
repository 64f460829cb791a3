import Mathlib.Data.List.TakeWhile

/-!
Owns the string conversions the wrappers cross the language border with: an
`NSString` or Swift `String` is a `String` (a sequence of Unicode scalars), a
`std::string` is its bytes, and a `const char *` is what stands before the first
NUL. Conversions back give `none` for bytes that are not UTF-8.
-/

namespace MediasoupClientSwift

/-- The contents of a `std::string`, an `NSData` or a native buffer. -/
abbrev Bytes := List UInt8

def utf8Bytes (text : String) : Bytes := text.toByteArray.data.toList

/-- What a C function reads through a `const char *` to these bytes. -/
def cString (bytes : Bytes) : Bytes := bytes.takeWhile (· ≠ 0)

/-- `std::string(text.UTF8String)`. -/
def stdString (text : String) : Bytes := cString (utf8Bytes text)

/-- `[[NSString alloc] initWithBytes:length:encoding:NSUTF8StringEncoding]`. -/
def stringWithBytes (bytes : Bytes) : Option String := String.fromUTF8? ⟨bytes.toArray⟩

/-- `[NSString stringWithUTF8String:]`, and `stringWithCString:encoding:` with
the UTF-8 encoding. -/
def stringWithUTF8String (bytes : Bytes) : Option String := stringWithBytes (cString bytes)

/-- A nonnull `NSString *` result read from Swift: nil arrives as the empty string. -/
def nonnullString (string : Option String) : String := string.getD ""

@[simp] theorem stringWithBytes_utf8Bytes (text : String) :
    stringWithBytes (utf8Bytes text) = some text := by
  have bytes : (⟨(utf8Bytes text).toArray⟩ : ByteArray) = text.toByteArray := by
    simp [utf8Bytes]
  unfold stringWithBytes
  rw [bytes, String.fromUTF8?, dif_pos text.isValidUTF8]
  rfl

theorem utf8Bytes_inj {text other : String} : utf8Bytes text = utf8Bytes other ↔ text = other := by
  constructor
  · intro same
    have decoded := congrArg stringWithBytes same
    rw [stringWithBytes_utf8Bytes, stringWithBytes_utf8Bytes] at decoded
    exact Option.some.inj decoded
  · exact congrArg utf8Bytes

/-- Bytes without a NUL pass through a `const char *` whole. -/
theorem cString_of_nulFree {bytes : Bytes} (nulFree : 0 ∉ bytes) : cString bytes = bytes := by
  unfold cString
  rw [List.takeWhile_eq_self_iff]
  intro byte member
  simpa using fun isNul : byte = 0 => nulFree (isNul ▸ member)

theorem stringWithUTF8String_utf8Bytes {text : String} (nulFree : 0 ∉ utf8Bytes text) :
    stringWithUTF8String (utf8Bytes text) = some text := by
  unfold stringWithUTF8String
  rw [cString_of_nulFree nulFree, stringWithBytes_utf8Bytes]

theorem nulFree_cString (bytes : Bytes) : 0 ∉ cString bytes := by
  intro member
  have kept := List.mem_takeWhile_imp member
  simp at kept

/-- A text passes through a `const char *` whole exactly when it has no NUL. -/
theorem stdString_eq_utf8Bytes_iff (text : String) :
    stdString text = utf8Bytes text ↔ 0 ∉ utf8Bytes text := by
  constructor
  · intro whole
    rw [← whole]
    exact nulFree_cString (utf8Bytes text)
  · exact cString_of_nulFree

/-- A text or its absence passes whole exactly when it has no NUL. -/
theorem map_stdString_eq_iff (text : Option String) :
    text.map stdString = text.map utf8Bytes ↔ ∀ value ∈ text, 0 ∉ utf8Bytes value := by
  cases text with
  | none => simp
  | some value =>
      simp only [Option.map_some, Option.some.injEq, Option.mem_def, forall_eq']
      exact stdString_eq_utf8Bytes_iff value

/-- Decoded text has the bytes it was decoded from. -/
theorem utf8Bytes_of_stringWithBytes {bytes : Bytes} {text : String}
    (decoded : stringWithBytes bytes = some text) : utf8Bytes text = bytes := by
  unfold stringWithBytes String.fromUTF8? at decoded
  split at decoded
  · obtain rfl := Option.some.inj decoded
    simp [utf8Bytes, String.fromUTF8]
  · cases decoded

/-- The bytes are UTF-8 and have no NUL, so they survive as a C string that is
made a text and back. -/
def IsPlainText (bytes : Bytes) : Prop := 0 ∉ bytes ∧ ∃ text, utf8Bytes text = bytes

theorem map_stdString_stringWithUTF8String_iff (bytes : Bytes) :
    (stringWithUTF8String bytes).map stdString = some bytes ↔ IsPlainText bytes := by
  rw [Option.map_eq_some_iff]
  constructor
  · rintro ⟨text, decoded, same⟩
    have nulFree : 0 ∉ bytes := by
      rw [← same]
      exact nulFree_cString (utf8Bytes text)
    unfold stringWithUTF8String at decoded
    rw [cString_of_nulFree nulFree] at decoded
    exact ⟨nulFree, text, utf8Bytes_of_stringWithBytes decoded⟩
  · rintro ⟨nulFree, text, rfl⟩
    exact ⟨text, stringWithUTF8String_utf8Bytes nulFree, cString_of_nulFree nulFree⟩

example : stdString "a\x00b" = [97] := by decide

example : stringWithUTF8String [0xC3] = none := by decide

end MediasoupClientSwift
