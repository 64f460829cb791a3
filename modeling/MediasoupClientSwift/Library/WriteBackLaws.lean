import MediasoupClientSwift.Library.WriteBack

/-!
Owns how loops that write back follow one another, and what is read from the
cells they leave: a loop with at least as many updates makes the one before it
as if it had not been, and the cells read back as the updates exactly when each
of them does.
-/

namespace MediasoupClientSwift.Library

variable {Cell Update : Type*} {rewrite : Cell → Update → Option Cell}

/-! ### A loop after another -/

/-- A cell before the indexes of the loop is of no concern to it. -/
theorem writeBack_set_before {i j : Nat} (before : j < i) (cell : Cell) {updates : List Update}
    {cells result : List Cell} (defined : writeBack rewrite i updates cells = some result) :
    writeBack rewrite i updates (cells.set j cell) = some (result.set j cell) := by
  induction updates generalizing i cells with
  | nil =>
      obtain rfl := Option.some.inj defined
      rfl
  | cons head rest inductionHypothesis =>
      obtain ⟨old, written, found, rewritten, later⟩ := writeBack_cons_eq_some_iff.mp defined
      apply writeBack_cons_eq_some_iff.mpr
      refine ⟨old, written, ?_, rewritten, ?_⟩
      · rwa [List.getElem?_set_ne (by omega)]
      · rw [List.set_comm _ _ (by omega)]
        exact inductionHypothesis (by omega) later

/-- A rewriting that leaves nothing of the one before it. -/
def Overwrites (rewrite : Cell → Update → Option Cell) : Prop :=
  ∀ ⦃cell earlier written⦄, rewrite cell earlier = some written →
    ∀ later, rewrite written later = rewrite cell later

/-- The later loop reaches every cell of the earlier one. -/
theorem writeBack_overwrites (overwrites : Overwrites rewrite) {i : Nat}
    {earlier later : List Update} {cells result : List Cell}
    (reaches : earlier.length ≤ later.length)
    (defined : writeBack rewrite i earlier cells = some result) :
    writeBack rewrite i later result = writeBack rewrite i later cells := by
  induction earlier generalizing i later cells result with
  | nil =>
      obtain rfl := Option.some.inj defined
      rfl
  | cons head rest inductionHypothesis =>
      obtain ⟨cell, written, found, rewritten, remaining⟩ :=
        writeBack_cons_eq_some_iff.mp defined
      have below := (List.getElem?_eq_some_iff.mp found).1
      have stands : result[i]? = some written := by
        rw [(writtenBack_of_defined remaining).outside i (Or.inl (Nat.lt_succ_self i)),
          List.getElem?_set_self below]
      cases later with
      | nil => simp at reaches
      | cons update updates =>
          simp only [writeBack, stands, found, Option.bind_eq_bind, Option.bind_some,
            overwrites rewritten update]
          cases rewrite cell update with
          | none => rfl
          | some new =>
              rw [Option.bind_some, Option.bind_some]
              refine inductionHypothesis (Nat.le_of_succ_le_succ reaches) ?_
              have moved := writeBack_set_before (Nat.lt_succ_self i) new remaining
              rwa [List.set_set] at moved

/-! ### Reading back -/

/-- Cells and updates are read one by one. -/
theorem map_eq_of_writeBack_iff {read : Cell → Update} {ReadsBack : Cell → Update → Prop}
    (readsBackIff : ∀ cell update written, rewrite cell update = some written →
      (read written = update ↔ ReadsBack cell update))
    {updates : List Update} {cells result : List Cell}
    (defined : writeBack rewrite 0 updates cells = some result) :
    result.map read = updates ↔
      updates.length = cells.length ∧
        ∀ (k : Nat) (update : Update) (cell : Cell), updates[k]? = some update →
          cells[k]? = some cell → ReadsBack cell update := by
  have back := writtenBack_of_defined defined
  constructor
  · intro same
    have count : updates.length = cells.length := by
      rw [← same, List.length_map, back.length]
    refine ⟨count, fun k update cell updateFound cellFound => ?_⟩
    obtain ⟨written, rewritten, newFound⟩ :=
      exists_written_of_writeBack defined updateFound cellFound
    rw [← same, List.getElem?_map, newFound, Option.map_some] at updateFound
    exact (readsBackIff cell update written rewritten).mp (Option.some.inj updateFound)
  · rintro ⟨count, readsBack⟩
    apply List.ext_getElem?
    intro k
    rw [List.getElem?_map]
    by_cases inside : k < updates.length
    · have updateFound : updates[k]? = some updates[k] := List.getElem?_eq_getElem inside
      have cellFound : cells[k]? = some cells[k] := List.getElem?_eq_getElem (by omega)
      obtain ⟨written, rewritten, newFound⟩ :=
        exists_written_of_writeBack defined updateFound cellFound
      rw [newFound, Option.map_some, updateFound]
      exact congrArg some ((readsBackIff _ _ written rewritten).mpr
        (readsBack k _ _ updateFound cellFound))
    · have resultLength := back.length
      rw [List.getElem?_eq_none (by omega), List.getElem?_eq_none (by omega), Option.map_none]

end MediasoupClientSwift.Library
