import Mathlib.Algebra.Order.Ring.Int

/-!
Owns the number types that cross the language border: a double as its bit
pattern, `NSNumber` with its narrowing reads, and the `CGFloat` of a size, which
in this program is always the double nearest to an integer.
-/

namespace MediasoupClientSwift

/-- Round a magnitude to 53 significant bits, to nearest with ties to even. -/
def roundMagnitude (magnitude : Nat) : Nat :=
  if magnitude < 2 ^ 53 then magnitude
  else
    let unit := 2 ^ (magnitude.log2 - 52)
    let quotient := magnitude / unit
    let remainder := magnitude % unit
    if unit < 2 * remainder ∨ (unit = 2 * remainder ∧ quotient % 2 = 1) then (quotient + 1) * unit
    else quotient * unit

/-- The integer value of the double nearest to an integer. -/
def roundToDouble (value : Int) : Int := value.sign * roundMagnitude value.natAbs

private theorem roundToDouble_of_small {value : Int} (small : value.natAbs < 2 ^ 53) :
    roundToDouble value = value := by
  unfold roundToDouble
  rw [roundMagnitude, if_pos small]
  exact Int.sign_mul_natAbs value

/-- An IEEE 754 double, kept as its bits: the code copies doubles and converts
them only inside `NSNumber`. -/
structure Double where
  bits : UInt64
deriving DecidableEq, Repr

namespace Double

def ofInt (value : Int) : Double :=
  let magnitude := roundMagnitude value.natAbs
  let exponent := magnitude.log2
  let fraction :=
    if exponent ≤ 52 then magnitude * 2 ^ (52 - exponent) else magnitude / 2 ^ (exponent - 52)
  let sign := if value < 0 then 2 ^ 63 else 0
  if magnitude = 0 then ⟨0⟩
  else ⟨UInt64.ofNat (sign + (exponent + 1023) * 2 ^ 52 + (fraction - 2 ^ 52))⟩

/-- The integer part, toward zero; 0 for an infinity or a NaN. -/
def truncate (value : Double) : Int :=
  let bits := value.bits.toNat
  let exponent := bits / 2 ^ 52 % 2 ^ 11
  let significand := 2 ^ 52 + bits % 2 ^ 52
  let magnitude : Nat :=
    if exponent = 2047 ∨ exponent < 1023 then 0
    else if 1075 ≤ exponent then significand * 2 ^ (exponent - 1075)
    else significand / 2 ^ (1075 - exponent)
  if bits < 2 ^ 63 then (magnitude : Int) else -(magnitude : Int)

example : (ofInt (-3)).truncate = -3 := by decide

end Double

def InInt32Range (value : Int) : Prop := -2 ^ 31 ≤ value ∧ value < 2 ^ 31

instance (value : Int) : Decidable (InInt32Range value) := inferInstanceAs (Decidable (_ ∧ _))

theorem inInt32Range_toInt (value : Int32) : InInt32Range value.toInt :=
  ⟨value.le_toInt, value.toInt_lt⟩

/-- Wrapping to 32 bits keeps an integer exactly when an `int` can hold it. -/
theorem bmod_eq_self_iff (value : Int) : value.bmod (2 ^ 32) = value ↔ InInt32Range value := by
  unfold InInt32Range
  constructor
  · intro same
    have above := Int.le_bmod (x := value) (m := 2 ^ 32) (by decide)
    have below := Int.bmod_lt (x := value) (m := 2 ^ 32) (by decide)
    omega
  · rintro ⟨above, below⟩
    exact Int.bmod_eq_of_le (by omega) (by omega)

/-- Rounding keeps a large magnitude large. -/
theorem le_roundMagnitude {magnitude : Nat} (large : 2 ^ 53 ≤ magnitude) :
    2 ^ 52 ≤ roundMagnitude magnitude := by
  have positive : magnitude ≠ 0 := by omega
  have unitPositive : 0 < 2 ^ (magnitude.log2 - 52) := Nat.two_pow_pos _
  have exponents : 2 ^ 52 * 2 ^ (magnitude.log2 - 52) = 2 ^ magnitude.log2 := by
    have logLarge : 53 ≤ magnitude.log2 := (Nat.le_log2 positive).mpr large
    rw [← Nat.pow_add]
    congr 1
    omega
  have quotientLarge : 2 ^ 52 ≤ magnitude / 2 ^ (magnitude.log2 - 52) := by
    apply (Nat.le_div_iff_mul_le unitPositive).mpr
    rw [exponents]
    exact Nat.log2_self_le positive
  unfold roundMagnitude
  rw [if_neg (by omega)]
  dsimp only
  split
  · exact Nat.le_trans (Nat.le_succ_of_le quotientLarge) (Nat.le_mul_of_pos_right _ unitPositive)
  · exact Nat.le_trans quotientLarge (Nat.le_mul_of_pos_right _ unitPositive)

/-- No integer is rounded into or out of the range of an `int`. -/
theorem inInt32Range_roundToDouble_iff (value : Int) :
    InInt32Range (roundToDouble value) ↔ InInt32Range value := by
  by_cases small : value.natAbs < 2 ^ 53
  · rw [roundToDouble_of_small small]
  · have magnitude := le_roundMagnitude (Nat.not_lt.mp small)
    unfold InInt32Range roundToDouble
    rcases Int.lt_trichotomy value 0 with negative | zero | positive
    · rw [Int.sign_eq_neg_one_of_neg negative]
      omega
    · omega
    · rw [Int.sign_eq_one_of_pos positive]
      omega

theorem roundToDouble_of_inInt32Range {value : Int} (inRange : InInt32Range value) :
    roundToDouble value = value := by
  unfold InInt32Range at inRange
  apply roundToDouble_of_small
  omega

/-- A number object, made from a signed or an unsigned integer or from a double. -/
inductive NSNumber where
  | integer (value : Int64)
  | unsigned (value : UInt64)
  | double (value : Double)
deriving DecidableEq, Repr

namespace NSNumber

def numberWithInt (value : Int32) : NSNumber := .integer value.toInt64

/-- Swift's `intValue`, which is `integerValue`. -/
def integerValue : NSNumber → Int64
  | .integer value => value
  | .unsigned value => value.toInt64
  | .double value => Int64.ofInt value.truncate

/-- Objective-C's `intValue`: the low 32 bits. -/
def intValue (number : NSNumber) : Int32 := number.integerValue.toInt32

def doubleValue : NSNumber → Double
  | .integer value => Double.ofInt value.toInt
  | .unsigned value => Double.ofInt value.toNat
  | .double value => value

/-- The number object was made from this integer. -/
def HoldsInteger : NSNumber → Int → Prop
  | .integer held, value => held.toInt = value
  | .unsigned held, value => (held.toNat : Int) = value
  | .double _, _ => False

theorem HoldsInteger.unique {number : NSNumber} {value other : Int}
    (holds : number.HoldsInteger value) (holdsOther : number.HoldsInteger other) :
    value = other := by
  cases number with
  | integer held => exact holds.symm.trans holdsOther
  | unsigned held => exact holds.symm.trans holdsOther
  | double held => exact holds.elim

/-- `intValue` is the low 32 bits of the integer the object was made from. -/
theorem toInt_intValue {number : NSNumber} {value : Int} (holds : number.HoldsInteger value) :
    number.intValue.toInt = value.bmod (2 ^ 32) := by
  cases number with
  | integer held =>
      obtain rfl := holds
      exact Int64.toInt_toInt32 held
  | unsigned held =>
      obtain rfl := holds
      have wrapped : held.toInt64.toInt = (held.toNat : Int).bmod (2 ^ 64) :=
        BitVec.toInt_eq_toNat_bmod held.toBitVec
      show held.toInt64.toInt32.toInt = _
      rw [Int64.toInt_toInt32, wrapped]
      exact Int.bmod_bmod_of_dvd (by decide)
  | double held => exact holds.elim

/-- `intValue` keeps exactly the integers an `int` can hold. -/
theorem toInt_intValue_eq_iff {number : NSNumber} {value : Int}
    (holds : number.HoldsInteger value) :
    number.intValue.toInt = value ↔ InInt32Range value := by
  rw [toInt_intValue holds, bmod_eq_self_iff]

/-- The native field holds the integer of the number object, and is absent where
there is none. -/
def HeldBy : Option NSNumber → Option Int32 → Prop
  | none, native => native = none
  | some number, native =>
      ∃ held, native = some held ∧ ∀ value, number.HoldsInteger value → held.toInt = value

theorem heldBy_map_intValue_iff (number : Option NSNumber) :
    HeldBy number (number.map intValue) ↔
      ∀ given ∈ number, ∀ value, given.HoldsInteger value → InInt32Range value := by
  cases number with
  | none => simp [HeldBy]
  | some given =>
      simp only [HeldBy, Option.map_some, Option.some.injEq, Option.mem_def, forall_eq',
        exists_eq_left']
      exact forall₂_congr fun value holds => toInt_intValue_eq_iff holds

end NSNumber

/-- A `CGFloat` holding the double nearest to an integer, as that integer. -/
structure CGFloat where
  value : Int
deriving DecidableEq, Repr

namespace CGFloat

/-- `static_cast<CGFloat>` of an `int`. -/
def ofInt32 (value : Int32) : CGFloat := ⟨roundToDouble value.toInt⟩

/-- `CGFloat` of a Swift `Int`. -/
def ofInt64 (value : Int64) : CGFloat := ⟨roundToDouble value.toInt⟩

def FitsInt32 (number : CGFloat) : Prop := -2 ^ 31 ≤ number.value ∧ number.value < 2 ^ 31

instance (number : CGFloat) : Decidable number.FitsInt32 :=
  inferInstanceAs (Decidable (_ ∧ _))

/-- `static_cast<int>`, undefined (`none`) where the value does not fit. -/
def toInt32 (number : CGFloat) : Option Int32 :=
  if number.FitsInt32 then some (Int32.ofInt number.value) else none

/-- Swift's `Int(_:)`. It traps outside 64 bits; the program applies it to sizes
read from native `int`s only. -/
def toInt64 (number : CGFloat) : Int64 := Int64.ofInt number.value

theorem fitsInt32_ofInt64_iff (value : Int64) :
    (ofInt64 value).FitsInt32 ↔ InInt32Range value.toInt :=
  inInt32Range_roundToDouble_iff value.toInt

/-- The cast keeps exactly the integers an `int` can hold. -/
theorem toInt32_ofInt64_eq_some_iff (value : Int64) (result : Int32) :
    (ofInt64 value).toInt32 = some result ↔ result.toInt = value.toInt := by
  unfold toInt32
  by_cases inRange : InInt32Range value.toInt
  · rw [if_pos ((fitsInt32_ofInt64_iff value).mpr inRange), Option.some.injEq]
    show Int32.ofInt (roundToDouble value.toInt) = result ↔ _
    rw [roundToDouble_of_inInt32Range inRange, ← Int32.toInt_inj,
      Int32.toInt_ofInt_of_le inRange.1 inRange.2]
    exact eq_comm
  · rw [if_neg fun fits => inRange ((fitsInt32_ofInt64_iff value).mp fits)]
    apply iff_of_false (by simp)
    intro same
    exact inRange (same ▸ inInt32Range_toInt result)

/-- A native `int` read as a `CGFloat` is that integer for Swift. -/
@[simp] theorem toInt64_ofInt32 (value : Int32) : (ofInt32 value).toInt64 = value.toInt64 := by
  unfold toInt64 ofInt32
  rw [roundToDouble_of_inInt32Range (inInt32Range_toInt value)]
  apply Int64.toInt_inj.mp
  rw [Int32.toInt_toInt64]
  exact Int64.toInt_ofInt_of_le (Int.le_trans (by decide) value.le_toInt)
    (Int.lt_trans value.toInt_lt (by decide))

theorem isSome_toInt32_iff (number : CGFloat) : number.toInt32.isSome ↔ number.FitsInt32 := by
  unfold toInt32
  split <;> simp_all

end CGFloat

structure CGSize where
  width : CGFloat
  height : CGFloat
deriving DecidableEq, Repr

def CGSize.zero : CGSize := ⟨⟨0⟩, ⟨0⟩⟩

end MediasoupClientSwift
