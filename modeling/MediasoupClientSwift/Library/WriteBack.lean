import Mathlib.Data.List.Basic

/-!
Owns the loop that writes a list of updates back into a list of cells: each
update rewrites the cell at its own index, and the rewriting may be undefined.
The results say when the loop is defined, that it changes the cells at its
indexes and no other, and when it changes nothing.
-/

namespace MediasoupClientSwift.Library

variable {Cell Update : Type*} {rewrite : Cell → Update → Option Cell}

/-- The loop from index `i` on; `none` where it indexes past the cells or a
rewriting is undefined. -/
def writeBack (rewrite : Cell → Update → Option Cell) :
    Nat → List Update → List Cell → Option (List Cell)
  | _, [], cells => some cells
  | i, update :: rest, cells => do
      let cell ← cells[i]?
      let written ← rewrite cell update
      writeBack rewrite (i + 1) rest (cells.set i written)

/-- The indexes the loop uses, from index `i` on. -/
def writeBackIndexes : Nat → List Update → List Nat
  | _, [] => []
  | i, _ :: rest => i :: writeBackIndexes (i + 1) rest

theorem mem_writeBackIndexes_iff (i index : Nat) (updates : List Update) :
    index ∈ writeBackIndexes i updates ↔ i ≤ index ∧ index < i + updates.length := by
  induction updates generalizing i with
  | nil =>
      simp only [writeBackIndexes, List.not_mem_nil, List.length_nil, false_iff]
      omega
  | cons head rest inductionHypothesis =>
      rw [writeBackIndexes, List.mem_cons, inductionHypothesis (i + 1), List.length_cons]
      omega

theorem writeBackIndexes_bounded_iff (bound : Nat) (updates : List Update) :
    (∀ index ∈ writeBackIndexes 0 updates, index < bound) ↔ updates.length ≤ bound := by
  constructor
  · intro bounded
    by_contra longer
    have last := bounded bound ((mem_writeBackIndexes_iff 0 bound updates).mpr (by omega))
    omega
  · intro short index member
    have inside := (mem_writeBackIndexes_iff 0 index updates).mp member
    omega

/-- One pass of the loop that is defined. -/
theorem writeBack_cons_eq_some_iff {i : Nat} {update : Update} {rest : List Update}
    {cells result : List Cell} :
    writeBack rewrite i (update :: rest) cells = some result ↔
      ∃ cell written, cells[i]? = some cell ∧ rewrite cell update = some written ∧
        writeBack rewrite (i + 1) rest (cells.set i written) = some result := by
  rw [writeBack, Option.bind_eq_bind, Option.bind_eq_some_iff]
  constructor
  · rintro ⟨cell, found, later⟩
    obtain ⟨written, rewritten, last⟩ := Option.bind_eq_some_iff.mp later
    exact ⟨cell, written, found, rewritten, last⟩
  · rintro ⟨cell, written, found, rewritten, last⟩
    exact ⟨cell, found, Option.bind_eq_some_iff.mpr ⟨written, rewritten, last⟩⟩

/-- What the loop from index `i` on does to the cells. -/
structure WrittenBack (rewrite : Cell → Update → Option Cell) (i : Nat) (updates : List Update)
    (cells result : List Cell) : Prop where
  length : result.length = cells.length
  inside : ∀ k update, updates[k]? = some update →
    ∃ cell written, cells[i + k]? = some cell ∧ rewrite cell update = some written ∧
      result[i + k]? = some written
  outside : ∀ k, k < i ∨ i + updates.length ≤ k → result[k]? = cells[k]?

theorem writtenBack_of_defined {i : Nat} {updates : List Update} {cells result : List Cell}
    (defined : writeBack rewrite i updates cells = some result) :
    WrittenBack rewrite i updates cells result := by
  induction updates generalizing i cells with
  | nil =>
      obtain rfl := Option.some.inj defined
      exact
        { length := rfl
          inside := fun k update found => by simp at found
          outside := fun k _ => rfl }
  | cons head rest inductionHypothesis =>
      obtain ⟨cell, written, found, rewritten, later⟩ := writeBack_cons_eq_some_iff.mp defined
      have tail := inductionHypothesis later
      have below := (List.getElem?_eq_some_iff.mp found).1
      constructor
      case length => rw [tail.length, List.length_set]
      case inside =>
        intro k update updateFound
        cases k with
        | zero =>
            obtain rfl := Option.some.inj updateFound
            have stands : result[i]? = some written := by
              rw [tail.outside i (Or.inl (Nat.lt_succ_self i)), List.getElem?_set_self below]
            exact ⟨cell, written, found, rewritten, stands⟩
        | succ k =>
            have shifted : i + (k + 1) = i + 1 + k := by omega
            rw [shifted]
            obtain ⟨old, new, oldFound, newRewritten, newFound⟩ := tail.inside k update updateFound
            rw [List.getElem?_set_ne (by omega)] at oldFound
            exact ⟨old, new, oldFound, newRewritten, newFound⟩
      case outside =>
        intro k away
        rw [List.length_cons] at away
        rw [tail.outside k (by omega), List.getElem?_set_ne (by omega)]

/-- What the whole loop writes at the index of an update. -/
theorem exists_written_of_writeBack {updates : List Update} {cells result : List Cell}
    (defined : writeBack rewrite 0 updates cells = some result) {k : Nat} {update : Update}
    {cell : Cell} (updateFound : updates[k]? = some update) (cellFound : cells[k]? = some cell) :
    ∃ written, rewrite cell update = some written ∧ result[k]? = some written := by
  have inside := (writtenBack_of_defined defined).inside k update updateFound
  rw [Nat.zero_add] at inside
  obtain ⟨old, written, oldFound, rewritten, newFound⟩ := inside
  obtain rfl := Option.some.inj (cellFound.symm.trans oldFound)
  exact ⟨written, rewritten, newFound⟩

/-- What every rewriting keeps of a cell, the loop keeps of each cell. -/
theorem exists_kept_of_writeBack {updates : List Update} {cells result : List Cell}
    (defined : writeBack rewrite 0 updates cells = some result) {Same : Cell → Cell → Prop}
    (unchanged : ∀ cell, Same cell cell)
    (rewritten : ∀ cell update written, rewrite cell update = some written → Same cell written)
    {k : Nat} {cell : Cell} (found : cells[k]? = some cell) :
    ∃ new, result[k]? = some new ∧ Same cell new := by
  by_cases inside : k < updates.length
  · have updateFound : updates[k]? = some updates[k] := List.getElem?_eq_getElem inside
    obtain ⟨new, same, newFound⟩ := exists_written_of_writeBack defined updateFound found
    exact ⟨new, newFound, rewritten cell _ new same⟩
  · have kept := (writtenBack_of_defined defined).outside k (Or.inr (by omega))
    exact ⟨cell, kept.trans found, unchanged cell⟩

/-! ### When the loop is defined -/

theorem bounded_of_defined {i : Nat} {updates : List Update} {cells result : List Cell}
    (started : i ≤ cells.length) (defined : writeBack rewrite i updates cells = some result) :
    i + updates.length ≤ cells.length := by
  by_contra beyond
  have last : i + (updates.length - 1) < i + updates.length := by omega
  have present : updates.length - 1 < updates.length := by omega
  obtain ⟨cell, -, found, -⟩ := (writtenBack_of_defined defined).inside (updates.length - 1) _
    (List.getElem?_eq_getElem present)
  have inside := (List.getElem?_eq_some_iff.mp found).1
  omega

theorem exists_writeBack_of_defined {i : Nat} {updates : List Update} {cells : List Cell}
    (bounded : i + updates.length ≤ cells.length)
    (each : ∀ (k : Nat) (update : Update) (cell : Cell), updates[k]? = some update →
      cells[i + k]? = some cell → ∃ written, rewrite cell update = some written) :
    ∃ result, writeBack rewrite i updates cells = some result := by
  induction updates generalizing i cells with
  | nil => exact ⟨cells, rfl⟩
  | cons head rest inductionHypothesis =>
      rw [List.length_cons] at bounded
      have found : cells[i]? = some cells[i] := List.getElem?_eq_getElem (by omega)
      obtain ⟨written, rewritten⟩ := each 0 head cells[i] rfl found
      have later : ∃ result, writeBack rewrite (i + 1) rest (cells.set i written) = some result := by
        apply inductionHypothesis
        · rw [List.length_set]
          omega
        · intro k update cell updateFound cellFound
          rw [List.getElem?_set_ne (by omega), Nat.add_assoc, Nat.add_comm 1] at cellFound
          exact each (k + 1) update cell updateFound cellFound
      obtain ⟨result, defined⟩ := later
      exact ⟨result, writeBack_cons_eq_some_iff.mpr ⟨cells[i], written, found, rewritten, defined⟩⟩

/-- The loop is defined and gives each cell it writes a property exactly when it
stays inside the cells and each of its rewritings does so. -/
theorem writeBack_good_iff {Good : Update → Cell → Prop} {GoodAt : Cell → Update → Prop}
    (goodIff : ∀ cell update,
      (∃ written, rewrite cell update = some written ∧ Good update written) ↔ GoodAt cell update)
    (updates : List Update) (cells : List Cell) :
    (∃ result, writeBack rewrite 0 updates cells = some result ∧
        ∀ (k : Nat) (update : Update), updates[k]? = some update →
          ∃ written, result[k]? = some written ∧ Good update written) ↔
      updates.length ≤ cells.length ∧
        ∀ (k : Nat) (update : Update) (cell : Cell), updates[k]? = some update →
          cells[k]? = some cell → GoodAt cell update := by
  constructor
  · rintro ⟨result, defined, good⟩
    have bounded := bounded_of_defined (Nat.zero_le _) defined
    rw [Nat.zero_add] at bounded
    refine ⟨bounded, ?_⟩
    intro k update cell updateFound cellFound
    obtain ⟨new, rewritten, newFound⟩ := exists_written_of_writeBack defined updateFound cellFound
    obtain ⟨written, writtenFound, isGood⟩ := good k update updateFound
    obtain rfl := Option.some.inj (newFound.symm.trans writtenFound)
    exact (goodIff cell update).mp ⟨new, rewritten, isGood⟩
  · rintro ⟨bounded, goodAt⟩
    have each (k : Nat) (update : Update) (cell : Cell) (updateFound : updates[k]? = some update)
        (cellFound : cells[k]? = some cell) :
        ∃ written, rewrite cell update = some written ∧ Good update written :=
      (goodIff cell update).mpr (goodAt k update cell updateFound cellFound)
    have started : ∃ result, writeBack rewrite 0 updates cells = some result := by
      apply exists_writeBack_of_defined
      · omega
      · intro k update cell updateFound cellFound
        rw [Nat.zero_add] at cellFound
        obtain ⟨written, rewritten, -⟩ := each k update cell updateFound cellFound
        exact ⟨written, rewritten⟩
    obtain ⟨result, defined⟩ := started
    refine ⟨result, defined, ?_⟩
    intro k update updateFound
    have inside : k < cells.length :=
      Nat.lt_of_lt_of_le (List.getElem?_eq_some_iff.mp updateFound).1 bounded
    have cellFound : cells[k]? = some cells[k] := List.getElem?_eq_getElem inside
    obtain ⟨new, rewritten, newFound⟩ := exists_written_of_writeBack defined updateFound cellFound
    obtain ⟨written, same, isGood⟩ := each k update cells[k] updateFound cellFound
    obtain rfl := Option.some.inj (rewritten.symm.trans same)
    exact ⟨new, newFound, isGood⟩

/-- Each update has a cell, so what holds at the indexes holds of the updates. -/
theorem forall_index_iff {updates : List Update} {cells : List Cell} {Holds : Update → Prop}
    (bounded : updates.length ≤ cells.length) :
    (∀ (k : Nat) (update : Update) (cell : Cell), updates[k]? = some update →
      cells[k]? = some cell → Holds update) ↔ ∀ update ∈ updates, Holds update := by
  constructor
  · intro holds update member
    obtain ⟨k, found⟩ := List.mem_iff_getElem?.mp member
    have inside : k < cells.length :=
      Nat.lt_of_lt_of_le (List.getElem?_eq_some_iff.mp found).1 bounded
    exact holds k update cells[k] found (List.getElem?_eq_getElem inside)
  · intro holds k update cell found _
    exact holds update (List.mem_of_getElem? found)

/-- A loop whose rewriting is defined by the update alone is defined exactly when
it stays inside the cells and every update is. -/
theorem isSome_writeBack_iff {Defined : Update → Prop}
    (definedIff : ∀ cell update, (rewrite cell update).isSome ↔ Defined update)
    (updates : List Update) (cells : List Cell) :
    (writeBack rewrite 0 updates cells).isSome ↔
      updates.length ≤ cells.length ∧ ∀ update ∈ updates, Defined update := by
  have definedAt (cell : Cell) (update : Update) :
      (∃ written, rewrite cell update = some written ∧ True) ↔ Defined update := by
    rw [← definedIff cell update, Option.isSome_iff_exists]
    simp only [and_true]
  rw [← and_congr_right forall_index_iff, ← writeBack_good_iff definedAt,
    Option.isSome_iff_exists]
  constructor
  · rintro ⟨result, defined⟩
    refine ⟨result, defined, ?_⟩
    intro k update found
    obtain ⟨_, written, -, -, newFound⟩ := (writtenBack_of_defined defined).inside k update found
    rw [Nat.zero_add] at newFound
    exact ⟨written, newFound, trivial⟩
  · rintro ⟨result, defined, -⟩
    exact ⟨result, defined⟩

/-- Updates that are read from other values. -/
theorem writeBack_map {Source : Type*} (read : Source → Update) (i : Nat) (sources : List Source)
    (cells : List Cell) :
    writeBack rewrite i (sources.map read) cells =
      writeBack (fun cell source => rewrite cell (read source)) i sources cells := by
  induction sources generalizing i cells with
  | nil => rfl
  | cons head rest inductionHypothesis =>
      simp only [List.map_cons, writeBack, inductionHypothesis]

/-! ### When the loop changes nothing -/

/-- Rewriting each cell to itself changes nothing. -/
theorem writeBack_eq_self {i : Nat} {updates : List Update} {cells : List Cell}
    (bounded : i + updates.length ≤ cells.length)
    (same : ∀ k update cell, updates[k]? = some update → cells[i + k]? = some cell →
      rewrite cell update = some cell) :
    writeBack rewrite i updates cells = some cells := by
  induction updates generalizing i with
  | nil => rfl
  | cons head rest inductionHypothesis =>
      rw [List.length_cons] at bounded
      have inside : i < cells.length := by omega
      have found : cells[i]? = some cells[i] := List.getElem?_eq_getElem inside
      apply writeBack_cons_eq_some_iff.mpr
      refine ⟨cells[i], cells[i], found, same 0 head cells[i] rfl found, ?_⟩
      rw [List.set_getElem_self]
      apply inductionHypothesis (by omega)
      intro k update cell updateFound cellFound
      apply same (k + 1) update cell updateFound
      rw [← cellFound, Nat.add_right_comm]
      rfl

/-- Writing back what was read from each cell changes nothing exactly when each
cell is its own rewriting. -/
theorem writeBack_map_eq_self_iff (read : Cell → Update) (cells : List Cell) :
    writeBack rewrite 0 (cells.map read) cells = some cells ↔
      ∀ cell ∈ cells, rewrite cell (read cell) = some cell := by
  constructor
  · intro unchanged cell member
    obtain ⟨k, found⟩ := List.mem_iff_getElem?.mp member
    have update : (cells.map read)[k]? = some (read cell) := by
      rw [List.getElem?_map, found, Option.map_some]
    obtain ⟨written, rewritten, stands⟩ := exists_written_of_writeBack unchanged update found
    obtain rfl := Option.some.inj (found.symm.trans stands)
    exact rewritten
  · intro same
    have bounded : 0 + (cells.map read).length ≤ cells.length := by simp
    apply writeBack_eq_self bounded
    intro k update cell updateFound cellFound
    rw [Nat.zero_add] at cellFound
    rw [List.getElem?_map, cellFound, Option.map_some] at updateFound
    obtain rfl := Option.some.inj updateFound
    exact same cell (List.mem_of_getElem? cellFound)

end MediasoupClientSwift.Library
