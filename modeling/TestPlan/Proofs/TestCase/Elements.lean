import TestPlan.Proofs.TestCase.Coherence

/-! The assignments to the elements of an array, wherever they stand in a test case. -/

namespace TestPlan

/-- An assignment to an element of an array. -/
structure ElementWrite where
  position : Nat
  index : Nat
  value : Operand
  deriving DecidableEq

/-- What a statement at a position stores in an array, if it assigns one of its elements. -/
def Statement.elementWrite? (array : Var) (position : Nat) : Statement → Option ElementWrite
  | .assignment (.element target index) value =>
    if target = array then some ⟨position, index, value⟩ else none
  | _ => none

namespace TestCase

/-- What is stored in an array at a position. -/
def elementWriteAt? (test : TestCase) (array : Var) (position : Nat) : Option ElementWrite :=
  test.statements[position]?.bind (Statement.elementWrite? array position)

/-- All that is stored in an array, in the order of the test. -/
def elementWrites (test : TestCase) (array : Var) : List ElementWrite :=
  (List.range test.size).filterMap (test.elementWriteAt? array)

variable {test : TestCase} {array : Var} {position : Nat} {write : ElementWrite}

/-- What is stored at a position is what the statement there assigns. -/
theorem elementWriteAt?_eq_some_iff : test.elementWriteAt? array position = some write ↔
    write.position = position ∧ test.statements[position]? =
      some (.assignment (.element array write.index) write.value) := by
  unfold elementWriteAt?
  constructor
  · intro found
    obtain ⟨statement, there, found⟩ := Option.bind_eq_some_iff.mp found
    unfold Statement.elementWrite? at found
    split at found
    · split at found
      · cases found
        subst array
        exact ⟨rfl, there⟩
      · cases found
    · cases found
  · rintro ⟨rfl, there⟩
    simp [there, Statement.elementWrite?]

/-- All that is stored in an array stands at its position in the test. -/
theorem mem_elementWrites : write ∈ test.elementWrites array ↔
    test.statements[write.position]? =
      some (.assignment (.element array write.index) write.value) := by
  unfold elementWrites
  rw [List.mem_filterMap]
  constructor
  · rintro ⟨position, _, found⟩
    obtain ⟨rfl, there⟩ := elementWriteAt?_eq_some_iff.mp found
    exact there
  · intro there
    refine ⟨write.position, ?_, elementWriteAt?_eq_some_iff.mpr ⟨rfl, there⟩⟩
    exact List.mem_range.mpr (List.getElem?_eq_some_iff.mp there).1

/-- Elements are stored in an array after its allocation, and inside of the allocated length. -/
theorem Coherent.of_elementWrite (coherent : test.Coherent) {length : Nat}
    (allocated : test.statements[position]? = some (.newArray length array))
    (member : write ∈ test.elementWrites array) :
    position < write.position ∧ write.index < length := by
  have there := mem_elementWrites.mp member
  have defined : test.definedAt? array = some position :=
    (coherent.definedAt_iff array position).mpr ⟨_, allocated, rfl⟩
  have sized : test.lengthOf? array = some length :=
    (coherent.lengthOf_iff array length).mpr ⟨position, defined, allocated⟩
  constructor
  · -- The assignment reads the array, whose one definition is the allocation.
    have used : array ∈ (Statement.assignment (.element array write.index) write.value).uses := by
      simp [Statement.uses]
    obtain ⟨earlier, before, defined'⟩ := coherent.reads_earlier _ _ array there used
    cases defined.symm.trans defined'
    exact before
  · obtain ⟨known, found, _, inside⟩ :=
      coherent.elements_inside array _ _ (List.mem_of_getElem? there)
    rw [lengthOf?, found, Option.bind_some] at sized
    exact inside length sized

end TestCase

end TestPlan
