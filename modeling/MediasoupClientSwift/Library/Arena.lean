import Mathlib.Data.List.Basic

/-!
Owns arenas: append-only stores whose objects are named by the index they were
allocated at. An object is never moved and its name never reused, so a stale
name keeps naming the same (possibly dead) object. The predicate `All` and its
rules for the two updates carry the invariants of the users, `Matched` and its
rules the relations between two levels of one design.
-/

namespace MediasoupClientSwift.Library

/-- Objects by index of allocation. -/
abbrev Arena (Object : Type*) := List Object

namespace Arena

variable {Object : Type*}

abbrev fresh (arena : Arena Object) : Nat := arena.length

def push (arena : Arena Object) (object : Object) : Arena Object := arena ++ [object]

theorem getElem?_push_of_ne {arena : Arena Object} {object : Object} {name : Nat}
    (different : name ≠ arena.fresh) : (arena.push object)[name]? = arena[name]? := by
  rcases Nat.lt_or_gt_of_ne different with below | above
  · unfold push
    rw [List.getElem?_append_left below]
  · have beyond : (arena ++ [object]).length ≤ name := by
      rw [List.length_append, List.length_singleton]
      exact above
    unfold push
    rw [List.getElem?_eq_none beyond, List.getElem?_eq_none (Nat.le_of_lt above)]

@[simp] theorem getElem?_push_fresh (arena : Arena Object) (object : Object) :
    (arena.push object)[arena.fresh]? = some object := by
  simp [push, fresh]

theorem ne_fresh_of_getElem? {arena : Arena Object} {object : Object} {name : Nat}
    (found : arena[name]? = some object) : name ≠ arena.fresh := by
  have below := (List.getElem?_eq_some_iff.mp found).1
  exact Nat.ne_of_lt below

/-- A new object that is changed at once. -/
theorem modify_push_fresh (arena : Arena Object) (object : Object) (change : Object → Object) :
    (arena.push object).modify arena.fresh change = arena.push (change object) := by
  have tail := List.modifyTailIdx_add (List.modifyHead change) 0 arena [object]
  rw [Nat.add_zero] at tail
  exact tail

/-- A change that a view of the objects commutes with. -/
theorem map_modify {View : Type*} {view : Object → View} {change : Object → Object}
    {changeView : View → View} (commutes : ∀ object, view (change object) = changeView (view object))
    (arena : Arena Object) (name : Nat) :
    (arena.modify name change).map view = (arena.map view).modify name changeView := by
  apply List.ext_getElem?
  intro other
  rw [List.getElem?_map, List.getElem?_modify, List.getElem?_modify, List.getElem?_map]
  cases arena[other]? with
  | none => rfl
  | some object =>
      simp only [Option.map_eq_map, Option.map_some]
      split
      · rw [commutes]
      · rfl

/-- A change that a view of the objects does not see. -/
theorem map_modify_of_same {View : Type*} {view : Object → View} {change : Object → Object}
    (same : ∀ object, view (change object) = view object) (arena : Arena Object) (name : Nat) :
    (arena.modify name change).map view = arena.map view := by
  have commutes : ∀ object, view (change object) = id (view object) := same
  rw [map_modify commutes, List.modify_id]

/-- An object that exists keeps its name when another one is allocated. -/
theorem getElem?_push_of_some {arena : Arena Object} {object old : Object} {name : Nat}
    (found : arena[name]? = some old) : (arena.push object)[name]? = some old := by
  rw [getElem?_push_of_ne (ne_fresh_of_getElem? found), found]

/-- A lookup after an allocation finds the new object or an old one. -/
theorem getElem?_push_cases {arena : Arena Object} {object found : Object} {name : Nat}
    (lookup : (arena.push object)[name]? = some found) :
    (name = arena.fresh ∧ found = object) ∨ arena[name]? = some found := by
  by_cases isFresh : name = arena.fresh
  · subst isFresh
    rw [getElem?_push_fresh] at lookup
    exact Or.inl ⟨rfl, (Option.some.inj lookup).symm⟩
  · rw [getElem?_push_of_ne isFresh] at lookup
    exact Or.inr lookup

@[simp] theorem getElem?_modify_self {arena : Arena Object} (name : Nat)
    (change : Object → Object) : (arena.modify name change)[name]? = arena[name]?.map change := by
  simp

theorem getElem?_modify_of_ne {arena : Arena Object} {name other : Nat}
    (change : Object → Object) (different : other ≠ name) :
    (arena.modify name change)[other]? = arena[other]? := by
  rw [List.getElem?_modify]
  simp [Ne.symm different]

/-- A lookup after an update finds the changed object or an unchanged one. -/
theorem getElem?_modify_cases {arena : Arena Object} {name other : Nat}
    {change : Object → Object} {found : Object}
    (lookup : (arena.modify name change)[other]? = some found) :
    (other = name ∧ ∃ old, arena[name]? = some old ∧ found = change old) ∨
      (other ≠ name ∧ arena[other]? = some found) := by
  by_cases same : other = name
  · subst same
    rw [getElem?_modify_self, Option.map_eq_some_iff] at lookup
    obtain ⟨old, present, changed⟩ := lookup
    exact Or.inl ⟨rfl, old, present, changed.symm⟩
  · rw [getElem?_modify_of_ne change same] at lookup
    exact Or.inr ⟨same, lookup⟩

/-- A lookup that found something still does after an update, up to the update. -/
theorem exists_getElem?_modify {arena : Arena Object} {name : Nat} {object : Object}
    (Same : Object → Object → Prop) (changed : Nat) (change : Object → Object)
    (found : arena[name]? = some object) (unchanged : Same object object)
    (updated : name = changed → Same (change object) object) :
    ∃ kept, (arena.modify changed change)[name]? = some kept ∧ Same kept object := by
  by_cases same : name = changed
  · subst same
    refine ⟨change object, ?_, updated rfl⟩
    rw [getElem?_modify_self, found, Option.map_some]
  · refine ⟨object, ?_, unchanged⟩
    rw [getElem?_modify_of_ne change same, found]

/-- What a lookup after an update finds stood there before, up to the update. -/
theorem exists_of_getElem?_modify {arena : Arena Object} {name changed : Nat}
    {change : Object → Object} {found : Object} (Same : Object → Object → Prop)
    (lookup : (arena.modify changed change)[name]? = some found)
    (unchanged : ∀ object, Same object object) (updated : ∀ object, Same object (change object)) :
    ∃ old, arena[name]? = some old ∧ Same old found := by
  rcases getElem?_modify_cases lookup with ⟨rfl, old, present, rfl⟩ | ⟨-, present⟩
  · exact ⟨old, present, updated old⟩
  · exact ⟨found, present, unchanged found⟩

/-- Every object of the arena satisfies `Property` under its name. -/
def All (Property : Nat → Object → Prop) (arena : Arena Object) : Prop :=
  ∀ name object, arena[name]? = some object → Property name object

namespace All

variable {Property Other : Nat → Object → Prop} {arena : Arena Object}

theorem empty : All Property ([] : Arena Object) := by
  intro name object found
  simp at found

theorem mono (holds : All Property arena)
    (weaker : ∀ name object, arena[name]? = some object → Property name object →
      Other name object) : All Other arena :=
  fun name object found => weaker name object found (holds name object found)

theorem push {object : Object} (holds : All Property arena)
    (new : Property arena.fresh object) : All Property (arena.push object) := by
  intro name found lookup
  rcases getElem?_push_cases lookup with ⟨rfl, rfl⟩ | old
  · exact new
  · exact holds name found old

theorem modify {changed : Nat} {change : Object → Object} (holds : All Property arena)
    (kept : ∀ object, arena[changed]? = some object → Property changed object →
      Property changed (change object)) : All Property (arena.modify changed change) := by
  intro name found lookup
  rcases getElem?_modify_cases lookup with ⟨rfl, old, present, rfl⟩ | ⟨-, unchanged⟩
  · exact kept old present (holds name old present)
  · exact holds name found unchanged

end All

/-- Two arenas with the same names, whose objects of one name are related. -/
structure Matched {Shadow : Type*} (Same : Nat → Object → Shadow → Prop) (arena : Arena Object)
    (shadows : Arena Shadow) : Prop where
  length : arena.length = shadows.length
  same : ∀ {name : Nat} {object : Object} {shadow : Shadow}, arena[name]? = some object →
    shadows[name]? = some shadow → Same name object shadow

namespace Matched

variable {Shadow : Type*} {Same Other : Nat → Object → Shadow → Prop} {arena : Arena Object}
  {shadows : Arena Shadow}

theorem empty : Matched Same ([] : Arena Object) ([] : Arena Shadow) where
  length := rfl
  same found := by
    simp at found

/-- The object that matches one. -/
theorem exists_shadow (matched : Matched Same arena shadows) {name : Nat} {object : Object}
    (found : arena[name]? = some object) :
    ∃ shadow, shadows[name]? = some shadow ∧ Same name object shadow := by
  have below : name < shadows.length := matched.length ▸ (List.getElem?_eq_some_iff.mp found).1
  have present := List.getElem?_eq_getElem below
  exact ⟨_, present, matched.same found present⟩

theorem exists_object (matched : Matched Same arena shadows) {name : Nat} {shadow : Shadow}
    (present : shadows[name]? = some shadow) :
    ∃ object, arena[name]? = some object ∧ Same name object shadow := by
  have below : name < arena.length := matched.length ▸ (List.getElem?_eq_some_iff.mp present).1
  have found := List.getElem?_eq_getElem below
  exact ⟨_, found, matched.same found present⟩

theorem mono (matched : Matched Same arena shadows)
    (weaker : ∀ {name : Nat} {object : Object} {shadow : Shadow}, arena[name]? = some object →
      Same name object shadow → Other name object shadow) : Matched Other arena shadows where
  length := matched.length
  same found present := weaker found (matched.same found present)

theorem push (matched : Matched Same arena shadows) {object : Object} {shadow : Shadow}
    (new : Same arena.fresh object shadow) :
    Matched Same (arena.push object) (shadows.push shadow) where
  length := by
    simp only [Arena.push, List.length_append, List.length_singleton, matched.length]
  same := by
    intro name found foundShadow lookup lookupShadow
    have sameFresh : shadows.fresh = arena.fresh := matched.length.symm
    rcases getElem?_push_cases lookup with ⟨rfl, rfl⟩ | present
    · have atFresh := getElem?_push_fresh shadows shadow
      rw [sameFresh] at atFresh
      obtain rfl := Option.some.inj (lookupShadow.symm.trans atFresh)
      exact new
    · have different : name ≠ shadows.fresh := sameFresh ▸ ne_fresh_of_getElem? present
      rw [getElem?_push_of_ne different] at lookupShadow
      exact matched.same present lookupShadow

/-- Both objects of one name change. -/
theorem modify (matched : Matched Same arena shadows) {changed : Nat} {change : Object → Object}
    {changeShadow : Shadow → Shadow}
    (kept : ∀ {object : Object} {shadow : Shadow}, arena[changed]? = some object →
      Same changed object shadow → Same changed (change object) (changeShadow shadow)) :
    Matched Same (arena.modify changed change) (shadows.modify changed changeShadow) where
  length := by
    rw [List.length_modify, List.length_modify, matched.length]
  same := by
    intro name found foundShadow lookup lookupShadow
    rcases getElem?_modify_cases lookup with ⟨rfl, old, present, rfl⟩ | ⟨different, present⟩
    · rw [getElem?_modify_self, Option.map_eq_some_iff] at lookupShadow
      obtain ⟨oldShadow, presentShadow, rfl⟩ := lookupShadow
      exact kept present (matched.same present presentShadow)
    · rw [getElem?_modify_of_ne changeShadow different] at lookupShadow
      exact matched.same present lookupShadow

theorem modifyObject (matched : Matched Same arena shadows) {changed : Nat}
    {change : Object → Object}
    (kept : ∀ {object : Object} {shadow : Shadow}, arena[changed]? = some object →
      Same changed object shadow → Same changed (change object) shadow) :
    Matched Same (arena.modify changed change) shadows where
  length := by
    rw [List.length_modify, matched.length]
  same := by
    intro name found foundShadow lookup lookupShadow
    rcases getElem?_modify_cases lookup with ⟨rfl, old, present, rfl⟩ | ⟨different, present⟩
    · exact kept present (matched.same present lookupShadow)
    · exact matched.same present lookupShadow

/-- Only the second arena changes, and with it perhaps the relation. -/
theorem modifyShadow (matched : Matched Same arena shadows) {changed : Nat}
    {changeShadow : Shadow → Shadow}
    (here : ∀ {object : Object} {shadow : Shadow}, arena[changed]? = some object →
      Same changed object shadow → Other changed object (changeShadow shadow))
    (elsewhere : ∀ {name : Nat} {object : Object} {shadow : Shadow}, name ≠ changed →
      arena[name]? = some object → Same name object shadow → Other name object shadow) :
    Matched Other arena (shadows.modify changed changeShadow) where
  length := by
    rw [List.length_modify, matched.length]
  same := by
    intro name found foundShadow lookup lookupShadow
    rcases getElem?_modify_cases lookupShadow with ⟨rfl, old, present, rfl⟩ | ⟨different, present⟩
    · exact here lookup (matched.same lookup present)
    · exact elsewhere different lookup (matched.same lookup present)

end Matched

end Arena

end MediasoupClientSwift.Library
