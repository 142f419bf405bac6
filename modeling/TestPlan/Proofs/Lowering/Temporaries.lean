import TestPlan.Proofs.Lowering.Requests

/-!
Variables that hold the value of no plan: each is read by the statement after its own and by
nothing else, unless it has been made in vain.
-/

namespace TestPlan

variable {ρ α : Type}

/-! ### What becomes of them -/

/-- A statement whose variable holds the value of no plan. -/
structure Compilation.Spare (session : Compilation ρ) (position : Nat) (first : Statement)
    (var : Var) : Prop where
  there : session.test.statements[position]? = some first
  defines : first.defines = some var
  unheld : ¬ session.Holds var

/-- A variable that belongs to no plan serves the next statement only, or nothing at all. -/
inductive Compilation.Explains (session : Compilation ρ) (position : Nat) (first : Statement)
    (var : Var) : Prop
  | passed {second : Statement} : session.test.statements[position + 1]? = some second →
      Passes var first second → (∀ result, second.defines = some result → session.Holds result) →
      (∀ reader statement, session.test.statements[reader]? = some statement →
        var ∈ statement.uses → reader = position + 1) →
      Explains session position first var
  /-- An array that has been made before its plan turned out to have a value. -/
  | lost {handle : MethodHandle} {args : List Operand} :
      first = .method handle none args (some var) →
      (∀ statement ∈ session.test.statements, var ∉ statement.uses) →
      Explains session position first var

/-- Every variable that belongs to no plan is explained. -/
def Compilation.Tidy (session : Compilation ρ) : Prop :=
  ∀ position first var, session.Spare position first var → session.Explains position first var

namespace Compilation

variable {session after : Compilation ρ} {position : Nat} {first : Statement} {var : Var}

/-- A spare variable is defined. -/
theorem Spare.defined (spare : session.Spare position first var) (orderly : Orderly session) :
    session.test.Defined var :=
  ⟨position, (orderly.coherent.definedAt_iff var position).mpr ⟨first, spare.there, spare.defines⟩⟩

/-- The next variable is not defined. -/
theorem not_defined_nextVar : ¬ session.test.Defined session.nextVar :=
  fun defined => Nat.lt_irrefl _ defined.lt_declared

/-- What a statement reads has been defined. -/
theorem defined_of_uses (orderly : Orderly session) {statement : Statement}
    (member : statement ∈ session.test.statements) (used : var ∈ statement.uses) :
    session.test.Defined var := by
  obtain ⟨reader, there⟩ := List.mem_iff_getElem?.mp member
  obtain ⟨earlier, _, defined⟩ := orderly.coherent.reads_earlier reader statement var there used
  exact ⟨earlier, defined⟩

/-- An explanation stands when nothing that is added reads the variable. -/
theorem Explains.grow {added : List Statement}
    (grown : after.test.statements = session.test.statements ++ added)
    (holds : ∀ other, session.Holds other → after.Holds other)
    (unread : ∀ statement ∈ added, var ∉ statement.uses)
    (explained : session.Explains position first var) : after.Explains position first var := by
  cases explained with
  | passed next passes held only =>
    refine .passed ?_ passes (fun result defines => holds result (held result defines)) ?_
    · rw [grown, List.getElem?_append_left (List.getElem?_eq_some_iff.mp next).1, next]
    · intro reader statement there used
      rw [grown] at there
      rcases Nat.lt_or_ge reader session.test.statements.length with old | new
      · rw [List.getElem?_append_left old] at there
        exact only reader statement there used
      · rw [List.getElem?_append_right new] at there
        exact absurd used (unread statement (List.mem_of_getElem? there))
  | lost made nowhere =>
    refine .lost made fun statement member => ?_
    rw [grown] at member
    exact (List.mem_append.mp member).elim (nowhere statement) (unread statement)

/-- A tidy compilation stays so when the new spare variables are explained. -/
theorem Tidy.grow (tidy : session.Tidy) (orderly : Orderly session) {added : List Statement}
    (grown : after.test.statements = session.test.statements ++ added)
    (holds : ∀ other, session.Holds other → after.Holds other)
    (reads : ∀ statement ∈ added, ∀ used ∈ statement.uses,
      session.Holds used ∨ ¬ session.test.Defined used)
    (new : ∀ {index first var}, added[index]? = some first →
      after.Spare (session.test.size + index) first var →
        after.Explains (session.test.size + index) first var) : after.Tidy := by
  intro position first var spare
  rcases Nat.lt_or_ge position session.test.size with old | beyond
  · -- A statement that has been there before defines a variable that nothing new reads.
    have there := spare.there
    rw [grown, List.getElem?_append_left old] at there
    have before : session.Spare position first var :=
      ⟨there, spare.defines, fun held => spare.unheld (holds var held)⟩
    refine (tidy _ _ _ before).grow grown holds fun statement member used => ?_
    exact (reads statement member var used).elim before.unheld
      fun undefined => undefined (before.defined orderly)
  · obtain ⟨index, rfl⟩ := Nat.exists_eq_add_of_le beyond
    have there := spare.there
    rw [grown, List.getElem?_append_right beyond] at there
    exact new (by simpa [TestCase.size] using there) spare

/-- A tidy compilation stays so without new statements. -/
theorem Tidy.still (tidy : session.Tidy) (orderly : Orderly session)
    (statements : after.test.statements = session.test.statements)
    (bound : after.bindings.bound = session.bindings.bound) : after.Tidy := by
  have grown : after.test.statements = session.test.statements ++ [] := by simpa using statements
  refine tidy.grow orderly grown ?_ (by simp) (by simp)
  rintro other ⟨name, member⟩
  exact ⟨name, bound ▸ member⟩

/-- The result of a statement that is appended belongs to its plan. -/
theorem holds_appended {owner : Option (String × RuntimeType)} {statement : Statement}
    (ready : Ready session owner statement) {result : Var}
    (defines : statement.defines = some result) :
    (session.appended statement owner).Holds result := by
  rw [ready.defines] at defines
  cases owner with
  | none => cases defines
  | some owner =>
    cases defines
    exact ⟨owner.1, by simp [appended, bound]⟩

/-- Appending a statement adds it at the end. -/
theorem statements_appended {owner : Option (String × RuntimeType)} {statement : Statement} :
    (session.appended statement owner).test.statements
      = session.test.statements ++ [statement] := by
  cases owner <;> rfl

/-- What holds a value before a statement is appended holds it afterwards. -/
theorem Holds.append {owner : Option (String × RuntimeType)} {statement : Statement}
    (held : session.Holds var) : (session.appended statement owner).Holds var := by
  obtain ⟨name, member⟩ := held
  refine ⟨name, ?_⟩
  cases owner with
  | none => exact member
  | some owner => exact List.mem_append_left _ member

/-- A statement that reads values of plans, and gives its own to a plan, keeps all tidy. -/
theorem Tidy.append (tidy : session.Tidy) (orderly : Orderly session)
    {owner : Option (String × RuntimeType)} {statement : Statement}
    (ready : Ready session owner statement) (held : ∀ used ∈ statement.uses, session.Holds used) :
    (session.appended statement owner).Tidy := by
  refine tidy.grow orderly statements_appended (fun _ => Holds.append) ?_ ?_
  · exact fun other member used read => .inl (held used (List.mem_singleton.mp member ▸ read))
  · intro index first var there spare
    -- The only new statement gives its result to a plan.
    cases List.mem_singleton.mp (List.mem_of_getElem? there)
    exact absurd (holds_appended ready spare.defines) spare.unheld

/-- An array that is lost is read by nothing. -/
theorem Tidy.allocate (tidy : session.Tidy) (orderly : Orderly session)
    {type : RuntimeType} {handle : MethodHandle} {args : List Operand}
    (held : ∀ used ∈ args.filterMap Operand.var?, session.Holds used) :
    (session.produced type (.method handle none args (some session.nextVar))).Tidy := by
  have reads : ∀ used ∈ (Statement.method handle none args (some session.nextVar)).uses,
      session.Holds used := by
    simpa [Statement.uses] using held
  have grown : (session.produced type (.method handle none args
      (some session.nextVar))).test.statements
        = session.test.statements ++ [.method handle none args (some session.nextVar)] := rfl
  refine tidy.grow orderly grown (fun _ => id) ?_ ?_
  · exact fun other member used read => .inl (reads used (List.mem_singleton.mp member ▸ read))
  · intro index first var there spare
    cases List.mem_singleton.mp (List.mem_of_getElem? there)
    cases spare.defines
    -- Whatever is read has been defined, and the new variable has not.
    refine .lost rfl fun statement member used => @not_defined_nextVar ρ session ?_
    rw [grown] at member
    rcases List.mem_append.mp member with old | last
    · exact defined_of_uses orderly old used
    · cases List.mem_singleton.mp last
      exact orderly.defined (reads _ used)

/-- A statement may make a value for the next one, which gives its own to a plan. -/
theorem Tidy.appendBoth (tidy : session.Tidy) (orderly : Orderly session) {type : RuntimeType}
    {first second : Statement} {owner : Option (String × RuntimeType)} {others : List Var}
    (defines : first.defines = some session.nextVar)
    (held : ∀ used ∈ first.uses, session.Holds used)
    (ready : Ready (session.produced type first) owner second)
    (passes : Passes session.nextVar first second)
    (uses : second.uses = session.nextVar :: others) (held' : ∀ used ∈ others, session.Holds used) :
    ((session.produced type first).appended second owner).Tidy := by
  have grown : ((session.produced type first).appended second owner).test.statements
      = session.test.statements ++ [first, second] := by
    rw [statements_appended, produced, TestCase.extended, List.append_assoc]
    rfl
  have undefined : ¬ session.test.Defined session.nextVar := not_defined_nextVar
  refine tidy.grow orderly grown (fun _ held => Holds.append held) ?_ ?_
  · -- The second statement reads the new variable besides values of plans.
    intro statement member used read
    rcases List.mem_cons.mp member with rfl | member
    · exact .inl (held used read)
    · cases List.mem_singleton.mp member
      rw [uses] at read
      rcases List.mem_cons.mp read with rfl | read
      · exact .inr undefined
      · exact .inl (held' used read)
  · intro index statement var there spare
    rcases index with _ | _ | beyond
    · cases there
      cases defines.symm.trans spare.defines
      have next : ((session.produced type first).appended second owner).test.statements[
          session.test.size + 0 + 1]? = some second := by
        rw [grown, List.getElem?_append_right (by simp [TestCase.size])]
        simp [TestCase.size]
      refine .passed next passes (fun result => holds_appended ready) ?_
      intro reader statement there used
      -- Only the second statement reads what has not been defined before.
      rw [grown] at there
      rcases Nat.lt_or_ge reader session.test.statements.length with old | beyond
      · rw [List.getElem?_append_left old] at there
        exact absurd (defined_of_uses orderly (List.mem_of_getElem? there) used) undefined
      · obtain ⟨index, rfl⟩ := Nat.exists_eq_add_of_le beyond
        rw [List.getElem?_append_right beyond, Nat.add_sub_cancel_left] at there
        rcases index with _ | _ | beyond
        · cases there
          exact absurd (orderly.defined (held _ used)) undefined
        · rfl
        · cases there
    · cases there
      exact absurd (holds_appended ready spare.defines) spare.unheld
    · cases there

end Compilation

variable [ClassLoading ρ] {session after : Compilation ρ}

/-- A move keeps a compilation tidy. -/
theorem Move.tidy (move : Move session after) (orderly : Orderly session) (tidy : session.Tidy) :
    after.Tidy := by
  cases move with
  | load _ | record | terminate | declare _ => exact tidy.still orderly rfl rfl
  | append ready held => exact tidy.append orderly ready held
  | appendBoth _ defines held ready passes uses held' =>
    exact tidy.appendBoth orderly defines held ready passes uses held'
  | allocate _ held => exact tidy.allocate orderly held

/-- Moves keep a compilation tidy. -/
theorem Moves.tidy (moves : Moves session after) (orderly : Orderly session)
    (tidy : session.Tidy) : after.Tidy := by
  induction moves with
  | refl _ => exact tidy
  | one move => exact move.tidy orderly tidy
  | trans first _ ih ih' => exact ih' (first.orderly orderly) (ih orderly tidy)
  | @within session inside name moves ih =>
    -- Which plans are being compiled makes no difference.
    have entered : Orderly (session.enter name) := { orderly with }
    have tidy' : (session.enter name).Tidy := tidy.still orderly rfl rfl
    exact (ih entered tidy').still (moves.orderly entered) rfl rfl

end TestPlan
