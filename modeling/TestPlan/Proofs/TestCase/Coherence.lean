import TestPlan.Proofs.TestCase.Append

/-! What a test case knows about its variables agrees with its statements after any edits. -/

namespace TestPlan

/-- A change of a test case from outside. -/
inductive Edit where
  | declare (type : RuntimeType)
  /-- Appends a statement when it is accepted, and changes nothing otherwise. -/
  | append (statement : Statement)

/-- The test case after an edit. -/
def Edit.apply (test : TestCase) : Edit → TestCase
  | .declare type => (test.declare type).2
  | .append statement =>
    match test.append statement with
    | .ok after => after
    | .error _ => test

namespace TestCase

/-- The test case that edits make of the empty one. -/
def edited (edits : List Edit) : TestCase :=
  edits.foldl Edit.apply {}

/-- The table of variables and the list of statements tell the same. -/
structure Coherent (test : TestCase) : Prop where
  /-- A variable is defined at a position exactly when the statement there defines it. -/
  definedAt_iff : ∀ var position, test.definedAt? var = some position ↔
    ∃ statement, test.statements[position]? = some statement ∧ statement.defines = some var
  /-- A length is known exactly when the defining statement allocates an array of that length. -/
  lengthOf_iff : ∀ var length, test.lengthOf? var = some length ↔
    ∃ position, test.definedAt? var = some position ∧
      test.statements[position]? = some (.newArray length var)
  /-- Whatever a statement reads is defined before it. -/
  reads_earlier : ∀ position statement var, test.statements[position]? = some statement →
    var ∈ statement.uses → ∃ earlier < position, test.definedAt? var = some earlier
  /-- Every assignment to an element stays inside the array. -/
  elements_inside : ∀ array index value,
    .assignment (.element array index) value ∈ test.statements → test.HasElement array index

/-! ### Declarations -/

/-- A declaration adds one variable without a definition. -/
theorem info?_declare (test : TestCase) (type : RuntimeType) (var : Var) :
    (test.declare type).2.info? var =
      if var.index = test.declared.length then some { type } else test.info? var := by
  -- The new variable has the index that was the length of the table.
  simp only [declare, info?]
  split
  · rename_i last
    rw [last, List.getElem?_concat_length]
  · rename_i other
    rcases Nat.lt_or_gt_of_ne other with inside | beyond
    · rw [List.getElem?_append_left inside]
    · -- Past the new variable nothing is declared, before or after.
      rw [List.getElem?_eq_none (by simp; omega), List.getElem?_eq_none (by omega)]

/-- The index after the last declared variable has no entry. -/
theorem info?_eq_none_of_last {test : TestCase} {var : Var}
    (last : var.index = test.declared.length) : test.info? var = none := by
  simp [info?, last]

/-- A declaration defines nothing. -/
@[simp] theorem definedAt?_declare (test : TestCase) (type : RuntimeType) (var : Var) :
    (test.declare type).2.definedAt? var = test.definedAt? var := by
  simp only [definedAt?, info?_declare]
  split
  · rename_i last
    simp [info?_eq_none_of_last last]
  · rfl

/-- A declaration fixes no length. -/
@[simp] theorem lengthOf?_declare (test : TestCase) (type : RuntimeType) (var : Var) :
    (test.declare type).2.lengthOf? var = test.lengthOf? var := by
  simp only [lengthOf?, info?_declare]
  split
  · rename_i last
    simp [info?_eq_none_of_last last]
  · rfl

/-- A declaration leaves every array as it is. -/
theorem HasElement.declare {test : TestCase} {array : Var} {index : Nat}
    (inside : test.HasElement array index) (type : RuntimeType) :
    (test.declare type).2.HasElement array index := by
  obtain ⟨known, found, rest⟩ := inside
  refine ⟨known, ?_, rest⟩
  -- A declared variable is not the one after the last.
  rw [info?_declare, if_neg, found]
  intro last
  rw [info?_eq_none_of_last last] at found
  cases found

/-- A declaration keeps the tables coherent. -/
theorem Coherent.declare {test : TestCase} (coherent : test.Coherent) (type : RuntimeType) :
    (test.declare type).2.Coherent where
  definedAt_iff var position := by
    rw [definedAt?_declare]
    exact coherent.definedAt_iff var position
  lengthOf_iff var length := by
    -- Neither table tells anything new, and the statements are the same.
    simp only [lengthOf?_declare, definedAt?_declare]
    exact coherent.lengthOf_iff var length
  reads_earlier position statement var found used := by
    simp only [definedAt?_declare]
    exact coherent.reads_earlier position statement var found used
  elements_inside array index value member :=
    (coherent.elements_inside array index value member).declare type

/-! ### Appended statements -/

/-- An appended statement changes what is known about the variable it defines. -/
theorem info?_extended (test : TestCase) (statement : Statement) (var : Var) :
    (test.extended statement).info? var =
      if statement.defines = some var then
        (test.info? var).map (·.definedBy statement test.size)
      else test.info? var := by
  simp only [extended, info?]
  cases result : statement.defines with
  | none => simp
  | some defined =>
    simp only [List.getElem?_modify, Option.some.injEq]
    by_cases same : defined = var
    · simp [same]
    · -- Variables are told apart by their indices.
      have apart : defined.index ≠ var.index := fun equal =>
        same (by cases defined; cases var; simp_all)
      simp [same, apart]

/-- The positions of definitions after an accepted statement. -/
theorem definedAt?_extended {test : TestCase} {statement : Statement}
    (accepted : test.Accepts statement) (var : Var) :
    (test.extended statement).definedAt? var =
      if statement.defines = some var then some test.size else test.definedAt? var := by
  simp only [definedAt?, info?_extended]
  split
  · rename_i result
    -- The variable was declared, so there is an entry to record the position in.
    obtain ⟨known, found, _⟩ := accepted.defines_fresh var result
    simp [found, Variable.definedBy]
  · rfl

/-- An accepted statement does not define again what is defined. -/
theorem Accepts.definedAt?_of_defined {test : TestCase} {statement : Statement}
    (accepted : test.Accepts statement) {var : Var} {position : Nat}
    (defined : test.definedAt? var = some position) :
    (test.extended statement).definedAt? var = some position := by
  -- What a statement defines was fresh, and this variable is not.
  rw [definedAt?_extended accepted, if_neg, defined]
  intro result
  obtain ⟨known, found, first⟩ := accepted.defines_fresh var result
  simp [definedAt?, found, first] at defined

/-- The lengths that are known after an accepted statement. -/
theorem lengthOf?_extended {test : TestCase} (coherent : test.Coherent) {statement : Statement}
    (accepted : test.Accepts statement) (var : Var) :
    (test.extended statement).lengthOf? var =
      if statement.defines = some var then allocatedLength statement else test.lengthOf? var := by
  simp only [lengthOf?, info?_extended]
  split
  · rename_i result
    obtain ⟨known, found, first⟩ := accepted.defines_fresh var result
    -- No length is known of a variable that has no definition.
    have unknown : known.arrayLength = none := by
      rw [Option.eq_none_iff_forall_ne_some]
      intro length stored
      have stored : test.lengthOf? var = some length := by simp [lengthOf?, found, stored]
      obtain ⟨position, defined, _⟩ := (coherent.lengthOf_iff var length).mp stored
      simp [definedAt?, found, first] at defined
    simp [found, Variable.definedBy, unknown]
  · rfl

/-- An accepted statement leaves the arrays of earlier statements as they are. -/
theorem HasElement.extended {test : TestCase} {array : Var} {index : Nat}
    (inside : test.HasElement array index) (defined : test.Defined array)
    {statement : Statement} (accepted : test.Accepts statement) :
    (test.extended statement).HasElement array index := by
  obtain ⟨known, found, rest⟩ := inside
  refine ⟨known, ?_, rest⟩
  rw [info?_extended, if_neg, found]
  -- The array has a definition, so the statement is not the one that defines it.
  intro result
  obtain ⟨position, defined⟩ := defined
  obtain ⟨fresh, found, first⟩ := accepted.defines_fresh array result
  simp [definedAt?, found, first] at defined

/-- The statements of an extended test case are the old ones and the new one at the end. -/
theorem getElem?_extended {test : TestCase} {added statement : Statement} {position : Nat} :
    (test.extended added).statements[position]? = some statement ↔
      test.statements[position]? = some statement ∨ position = test.size ∧ added = statement := by
  simp only [extended, size]
  -- A position is among the old statements, is the last one, or is past the end.
  rcases Nat.lt_trichotomy position test.statements.length with inside | last | beyond
  · rw [List.getElem?_append_left inside]
    simp [Nat.ne_of_lt inside]
  · simp [last]
  · rw [List.getElem?_eq_none (by simp; omega), List.getElem?_eq_none (by omega)]
    simp [Nat.ne_of_gt beyond]

/-- A definition stands before the end of the statements. -/
theorem Coherent.definedAt?_lt {test : TestCase} (coherent : test.Coherent) {var : Var}
    {position : Nat} (defined : test.definedAt? var = some position) : position < test.size := by
  obtain ⟨statement, found, _⟩ := (coherent.definedAt_iff var position).mp defined
  exact (List.getElem?_eq_some_iff.mp found).1

/-- A statement allocates an array exactly when it fixes a length for the variable it defines. -/
theorem eq_newArray_iff {statement : Statement} {length : Nat} {var : Var} :
    statement = .newArray length var ↔
      statement.defines = some var ∧ allocatedLength statement = some length := by
  cases statement <;> simp [Statement.defines, allocatedLength, and_comm]

/-- An accepted statement keeps the tables coherent. -/
theorem Coherent.extended {test : TestCase} (coherent : test.Coherent) {statement : Statement}
    (accepted : test.Accepts statement) : (test.extended statement).Coherent where
  definedAt_iff var position := by
    rw [definedAt?_extended accepted]
    split
    · rename_i result
      -- The variable was fresh, so no earlier statement defines it.
      have fresh : ∀ earlier, test.definedAt? var ≠ some earlier := by
        obtain ⟨known, found, first⟩ := accepted.defines_fresh var result
        simp [definedAt?, found, first]
      constructor
      · rintro ⟨⟩
        exact ⟨statement, getElem?_extended.mpr (.inr ⟨rfl, rfl⟩), result⟩
      · rintro ⟨other, found, defines⟩
        rcases getElem?_extended.mp found with old | ⟨rfl, _⟩
        · exact absurd ((coherent.definedAt_iff var position).mpr ⟨other, old, defines⟩) (fresh _)
        · rfl
    · rename_i other
      rw [coherent.definedAt_iff]
      constructor
      · rintro ⟨old, found, defines⟩
        exact ⟨old, getElem?_extended.mpr (.inl found), defines⟩
      · rintro ⟨old, found, defines⟩
        rcases getElem?_extended.mp found with found | ⟨_, rfl⟩
        · exact ⟨old, found, defines⟩
        · exact absurd defines other
  lengthOf_iff var length := by
    rw [lengthOf?_extended coherent accepted]
    simp only [getElem?_extended]
    split
    · rename_i result
      constructor
      · intro allocated
        refine ⟨test.size, ?_, .inr ⟨rfl, eq_newArray_iff.mpr ⟨result, allocated⟩⟩⟩
        rw [definedAt?_extended accepted, if_pos result]
      · rintro ⟨position, defined, old | ⟨_, same⟩⟩
        · -- The variable is defined by the new statement, hence not by an older one.
          rw [definedAt?_extended accepted, if_pos result] at defined
          cases defined
          -- An older statement would stand before the position it stands at.
          have inside := (List.getElem?_eq_some_iff.mp old).1
          exact absurd inside (Nat.lt_irrefl _)
        · exact (eq_newArray_iff.mp same).2
    · rename_i other
      rw [coherent.lengthOf_iff, definedAt?_extended accepted, if_neg other]
      constructor
      · rintro ⟨position, defined, found⟩
        exact ⟨position, defined, .inl found⟩
      · rintro ⟨position, defined, found | ⟨_, same⟩⟩
        · exact ⟨position, defined, found⟩
        · exact absurd (eq_newArray_iff.mp same).1 other
  reads_earlier position reader var found used := by
    -- What the new statement reads is defined, and so before the end of the others.
    rcases getElem?_extended.mp found with found | ⟨rfl, rfl⟩
    · obtain ⟨earlier, before, defined⟩ := coherent.reads_earlier position reader var found used
      exact ⟨earlier, before, accepted.definedAt?_of_defined defined⟩
    · obtain ⟨earlier, defined⟩ := accepted.uses_defined var used
      exact ⟨earlier, coherent.definedAt?_lt defined, accepted.definedAt?_of_defined defined⟩
  elements_inside array index value member := by
    -- An old assignment keeps its array, and the new one was checked when it was accepted.
    rcases List.mem_append.mp member with old | new
    · obtain ⟨position, found⟩ := List.mem_iff_getElem?.mp old
      obtain ⟨earlier, _, defined⟩ :=
        coherent.reads_earlier position _ array found (by simp [Statement.uses])
      exact (coherent.elements_inside array index value old).extended ⟨earlier, defined⟩ accepted
    · have same := List.mem_singleton.mp new
      subst same
      exact (accepted.target_inside array index value rfl).extended
        (accepted.uses_defined array (by simp [Statement.uses])) accepted

/-! ### Edits -/

/-- The empty test case is coherent. -/
theorem Coherent.empty : ({} : TestCase).Coherent := by
  constructor <;> simp [definedAt?, lengthOf?, info?]

/-- Every edit, accepted or not, keeps the tables coherent. -/
theorem Coherent.apply {test : TestCase} (coherent : test.Coherent) (edit : Edit) :
    (edit.apply test).Coherent := by
  cases edit with
  | declare type => exact coherent.declare type
  | append statement =>
    simp only [Edit.apply]
    -- A refused statement leaves the test case as it was.
    split
    · rename_i after appended
      obtain ⟨accepted, rfl⟩ := append_eq_ok_iff.mp appended
      exact coherent.extended accepted
    · exact coherent

/-- In coherent tables a variable is defined by one statement. -/
theorem Coherent.definer_unique {test : TestCase} (coherent : test.Coherent)
    {left right : Nat} {var : Var}
    (leftDefines : (test.statements[left]?).bind Statement.defines = some var)
    (rightDefines : (test.statements[right]?).bind Statement.defines = some var) :
    left = right := by
  -- Both positions are the one that the table names.
  have position : ∀ {position : Nat},
      (test.statements[position]?).bind Statement.defines = some var →
        test.definedAt? var = some position := by
    intro position defines
    obtain ⟨statement, found, result⟩ := Option.bind_eq_some_iff.mp defines
    exact (coherent.definedAt_iff var position).mpr ⟨statement, found, result⟩
  have same := (position leftDefines).symm.trans (position rightDefines)
  exact Option.some.inj same

/-- In coherent tables no statement reads ahead. -/
theorem Coherent.firstForwardReference?_eq_none {test : TestCase} (coherent : test.Coherent) :
    test.firstForwardReference? = none := by
  unfold firstForwardReference?
  rw [List.findSome?_eq_none_iff]
  rintro ⟨statement, position⟩ member
  rw [List.findSome?_eq_none_iff]
  intro var used
  -- The search goes over statements with their positions and over what each one reads.
  have found := List.mem_zipIdx_iff_getElem?.mp member
  obtain ⟨earlier, before, defined⟩ := coherent.reads_earlier position statement var found used
  rw [definedAt?] at defined
  simp [defined, before]

/--
After any declarations and attempts to append, the table of variables and the statements tell
the same, every variable has one definition, and no statement reads ahead.
-/
theorem edited_coherent (edits : List Edit) :
    (edited edits).Coherent ∧
      (∀ (left right : Nat) (var : Var),
        ((edited edits).statements[left]?).bind Statement.defines = some var →
          ((edited edits).statements[right]?).bind Statement.defines = some var →
            left = right) ∧
      (edited edits).firstForwardReference? = none := by
  have coherent : (edited edits).Coherent := by
    -- The induction is on the edits, from any coherent test case.
    suffices ∀ test : TestCase, test.Coherent → (edits.foldl Edit.apply test).Coherent from
      this {} .empty
    induction edits with
    | nil => exact fun test coherent => coherent
    | cons edit rest ih => exact fun test coherent => ih (edit.apply test) (coherent.apply edit)
  exact ⟨coherent, fun _ _ _ => coherent.definer_unique, coherent.firstForwardReference?_eq_none⟩

end TestCase

end TestPlan
