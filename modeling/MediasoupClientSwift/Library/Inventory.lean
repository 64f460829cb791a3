import MediasoupClientSwift.Library.Arena
import Mathlib.Algebra.Order.Group.Multiset

/-!
Owns inventories: the multiset of the values that the objects of an arena hold,
where each holds at most one. Its rules say what one more object adds, what one
object that gives up its value takes away, and what leaves an inventory alone.
-/

namespace MediasoupClientSwift.Library.Arena

variable {Object Value : Type*}

/-- The values held, each as often as it is held. -/
def inventory (holds : Object → Option Value) (arena : Arena Object) : Multiset Value :=
  ↑(arena.filterMap holds)

variable {holds other : Object → Option Value} {arena : Arena Object}

@[simp] theorem inventory_nil : inventory holds [] = 0 := rfl

theorem inventory_cons (object : Object) (rest : Arena Object) :
    inventory holds (object :: rest) =
      (↑(holds object).toList : Multiset Value) + inventory holds rest := by
  unfold inventory
  cases held : holds object with
  | none => rw [List.filterMap_cons_none held, Option.toList_none, Multiset.coe_nil, zero_add]
  | some value =>
      rw [List.filterMap_cons_some held, Option.toList_some, ← Multiset.cons_coe,
        Multiset.coe_singleton, Multiset.singleton_add]

theorem mem_inventory {name : Nat} {object : Object} {value : Value}
    (found : arena[name]? = some object) (held : holds object = some value) :
    value ∈ inventory holds arena :=
  Multiset.mem_coe.mpr (List.mem_filterMap.mpr ⟨object, List.mem_of_getElem? found, held⟩)

theorem inventory_push (object : Object) :
    inventory holds (arena.push object) =
      inventory holds arena + (↑(holds object).toList : Multiset Value) := by
  unfold inventory Arena.push
  rw [List.filterMap_append, ← Multiset.coe_add]
  cases held : holds object <;> simp [held]

/-- What all objects go on holding. -/
theorem inventory_congr
    (same : ∀ {name : Nat} {object : Object}, arena[name]? = some object →
      other object = holds object) : inventory other arena = inventory holds arena := by
  unfold inventory
  rw [List.filterMap_congr]
  intro object member
  obtain ⟨name, found⟩ := List.mem_iff_getElem?.mp member
  exact same found

theorem inventory_eq_zero
    (empty : ∀ {name : Nat} {object : Object}, arena[name]? = some object → holds object = none) :
    inventory holds arena = 0 := by
  unfold inventory
  rw [List.filterMap_eq_nil_iff.mpr]
  · rfl
  · intro object member
    obtain ⟨name, found⟩ := List.mem_iff_getElem?.mp member
    exact empty found

/-- A change of an object that goes on holding what it held. -/
theorem inventory_modify {changed : Nat} {change : Object → Object}
    (same : ∀ object, holds (change object) = holds object) :
    inventory holds (arena.modify changed change) = inventory holds arena := by
  induction arena generalizing changed with
  | nil => cases changed <;> rfl
  | cons head tail inductionHypothesis =>
      cases changed with
      | zero =>
          rw [List.modify_zero_cons, inventory_cons, inventory_cons, same]
      | succ changed =>
          rw [List.modify_succ_cons, inventory_cons, inventory_cons, inductionHypothesis]

/-- One object gives up its value, all others hold what they held. -/
theorem inventory_remove {name : Nat} {object : Object} {value : Value}
    (found : arena[name]? = some object) (held : holds object = some value)
    (gone : other object = none)
    (elsewhere : ∀ {index : Nat} {kept : Object}, index ≠ name → arena[index]? = some kept →
      other kept = holds kept) :
    inventory holds arena = inventory other arena + {value} := by
  induction arena generalizing name with
  | nil => simp at found
  | cons head tail inductionHypothesis =>
      rw [inventory_cons, inventory_cons]
      cases name with
      | zero =>
          obtain rfl := Option.some.inj found
          have rest : inventory other tail = inventory holds tail :=
            inventory_congr fun {index} {kept} lookup =>
              elsewhere (Nat.succ_ne_zero index) lookup
          rw [held, gone, rest, Option.toList_some, Option.toList_none, Multiset.coe_nil,
            Multiset.coe_singleton, zero_add, add_comm]
      | succ name =>
          have here : other head = holds head := elsewhere (Nat.succ_ne_zero name).symm rfl
          have rest := inductionHypothesis found fun {index} {kept} different lookup =>
            elsewhere (fun same => different (Nat.succ.inj same)) lookup
          rw [here, rest, add_assoc]

/-- One object is changed and gives up its value. -/
theorem inventory_modify_remove {name : Nat} {object : Object} {value : Value}
    {change : Object → Object} (found : arena[name]? = some object)
    (held : holds object = some value) (gone : holds (change object) = none) :
    inventory holds arena = inventory holds (arena.modify name change) + {value} := by
  induction arena generalizing name with
  | nil => simp at found
  | cons head tail inductionHypothesis =>
      cases name with
      | zero =>
          obtain rfl := Option.some.inj found
          rw [List.modify_zero_cons, inventory_cons, inventory_cons, held, gone,
            Option.toList_some, Option.toList_none, Multiset.coe_nil, Multiset.coe_singleton,
            zero_add, add_comm]
      | succ name =>
          rw [List.modify_succ_cons, inventory_cons, inventory_cons, inductionHypothesis found,
            add_assoc]

end MediasoupClientSwift.Library.Arena
