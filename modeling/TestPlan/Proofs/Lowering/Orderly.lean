import TestPlan.Proofs.Lowering.Moves

/-! Variables are declared, defined and bound in one order, whatever moves a compilation makes. -/

namespace TestPlan

variable {ρ : Type}

/-- Variables, their definitions and their bindings to plans go together. -/
structure Orderly (session : Compilation ρ) : Prop where
  coherent : session.test.Coherent
  /-- The variables are defined in the order of their declaration, all of them before the call. -/
  definers : ∃ count ≤ session.test.declared.length,
    (session.terminated = false → count = session.test.declared.length) ∧
    session.test.statements.filterMap Statement.defines = (List.range count).map Var.mk
  /-- Every variable of a plan has a definition. -/
  bound_defined : ∀ name var, (name, var) ∈ session.bindings.bound → session.test.Defined var
  /-- Plans get their variables in the order of declaration. -/
  bound_increasing : (session.bindings.bound.map fun entry => entry.2.index).Pairwise (· < ·)
  names_distinct : (session.bindings.bound.map Prod.fst).Nodup

namespace TestCase

/-- A defined variable is declared. -/
theorem Defined.lt_declared {test : TestCase} {var : Var} (defined : test.Defined var) :
    var.index < test.declared.length := by
  obtain ⟨position, defined⟩ := defined
  obtain ⟨known, found, _⟩ := Option.bind_eq_some_iff.mp defined
  exact lt_of_info? found

/-- A statement for a newly declared variable is accepted when what it reads is defined. -/
theorem accepts_declare {test : TestCase} (type : RuntimeType) {statement : Statement}
    (defines : statement.defines = some ⟨test.declared.length⟩)
    (reads : ∀ var ∈ statement.uses, test.Defined var) :
    (test.declare type).2.Accepts statement where
  uses_defined var used := by
    obtain ⟨position, defined⟩ := reads var used
    exact ⟨position, by rw [definedAt?_declare, defined]⟩
  target_inside array index value same := by
    subst same
    cases defines
  -- The new variable has just been declared, and nothing defines it.
  defines_fresh var result := by
    rw [defines] at result
    cases result
    exact ⟨{ type }, by rw [info?_declare, if_pos rfl], rfl⟩

end TestCase

namespace Bindings

/-- A name without a variable is not among the bound names. -/
theorem not_mem_of_isBound_eq_false {bindings : Bindings} {name : String}
    (unbound : bindings.isBound name = false) : name ∉ bindings.bound.map Prod.fst := by
  intro member
  obtain ⟨⟨_, var⟩, entry, rfl⟩ := List.mem_map.mp member
  rw [isBound, get?, Option.isSome_eq_false_iff, Option.isNone_iff_eq_none,
    List.lookup_eq_none_iff] at unbound
  -- The entry found for the name is what the search would have returned.
  simpa using unbound _ entry

/-- The variable found for a name is bound to it. -/
theorem mem_of_get? {bindings : Bindings} {name : String} {var : Var}
    (found : bindings.get? name = some var) : (name, var) ∈ bindings.bound := by
  obtain ⟨before, after, split, _⟩ := List.lookup_eq_some_iff.mp found
  rw [split]
  simp

end Bindings

namespace Orderly

/-- A compilation that has not begun is orderly. -/
theorem initial (loader : ρ) : Orderly ({ loader } : Compilation ρ) where
  coherent := .empty
  definers := ⟨0, Nat.le_refl 0, fun _ => rfl, rfl⟩
  bound_defined _ _ member := by cases member
  bound_increasing := .nil
  names_distinct := .nil

/-- A variable that holds a value has a definition. -/
theorem defined {session : Compilation ρ} (orderly : Orderly session) {var : Var}
    (held : session.Holds var) : session.test.Defined var := by
  obtain ⟨name, member⟩ := held
  exact orderly.bound_defined name var member

/-- A statement for a new variable defines it as the next one. -/
theorem produced {session : Compilation ρ} (orderly : Orderly session) (type : RuntimeType)
    {statement : Statement} (running : session.terminated = false)
    (defines : statement.defines = some session.nextVar)
    (reads : ∀ var ∈ statement.uses, session.test.Defined var) :
    Orderly (session.produced type statement) where
  coherent := (orderly.coherent.declare type).extended
    (TestCase.accepts_declare type defines reads)
  definers := by
    obtain ⟨count, _, all, definers⟩ := orderly.definers
    refine ⟨count + 1, ?_, ?_, ?_⟩
    · simp [Compilation.produced, TestCase.declare, all running]
    · simp [Compilation.produced, TestCase.declare, all running]
    · -- The new statement defines the variable after all that are defined.
      simp only [Compilation.produced, TestCase.extended, TestCase.declare,
        List.filterMap_append, definers, List.range_succ, List.map_append]
      simp [defines, Compilation.nextVar, all running]
  bound_defined name var member := by
    obtain ⟨position, defined⟩ := orderly.bound_defined name var member
    exact ⟨position, (Compilation.keeps_produced running defines).definedAt? defined⟩
  bound_increasing := orderly.bound_increasing
  names_distinct := orderly.names_distinct

/-- What is read right after a statement for a new variable is defined. -/
theorem reads_produced {session : Compilation ρ} (orderly : Orderly session) {type : RuntimeType}
    {statement : Statement} (running : session.terminated = false)
    (defines : statement.defines = some session.nextVar) {others : List Var}
    (held : ∀ var ∈ others, session.Holds var) :
    ∀ var ∈ session.nextVar :: others, (session.produced type statement).test.Defined var := by
  intro var used
  rcases List.mem_cons.mp used with rfl | other
  · exact ⟨_, Compilation.definedAt?_produced defines⟩
  · -- What was defined before stays so.
    obtain ⟨position, defined⟩ := orderly.defined (held var other)
    exact ⟨position, (Compilation.keeps_produced running defines).definedAt? defined⟩

/-- A plan may be bound to a variable after all that are bound. -/
theorem bound {session : Compilation ρ} (orderly : Orderly session) {name : String} {var : Var}
    (unbound : session.bindings.isBound name = false) (defined : session.test.Defined var)
    (last : ∀ other, session.Holds other → other.index < var.index) :
    Orderly (session.bound name var) where
  coherent := orderly.coherent
  definers := orderly.definers
  bound_defined name' var' member := by
    rcases List.mem_append.mp member with old | new
    · exact orderly.bound_defined name' var' old
    · cases List.mem_singleton.mp new
      exact defined
  bound_increasing := by
    simp only [Compilation.bound, List.map_append, List.pairwise_append]
    refine ⟨orderly.bound_increasing, by simp, ?_⟩
    -- Every earlier entry has a smaller index than the new one.
    rintro index member index' new
    obtain ⟨⟨name', other⟩, entry, rfl⟩ := List.mem_map.mp member
    simp only [List.map_cons, List.map_nil, List.mem_singleton] at new
    subst new
    exact last other ⟨name', entry⟩
  names_distinct := by
    simp only [Compilation.bound, List.map_append, List.nodup_append]
    refine ⟨orderly.names_distinct, by simp, ?_⟩
    -- The name is not bound yet, so it is none of the earlier names.
    rintro name' member _ new rfl
    simp only [List.map_cons, List.map_nil, List.mem_singleton] at new
    subst new
    exact Bindings.not_mem_of_isBound_eq_false unbound member

/-- A statement may be appended when what it reads is defined. -/
theorem appended {session : Compilation ρ} (orderly : Orderly session)
    {owner : Option (String × RuntimeType)} {statement : Statement}
    (ready : Ready session owner statement)
    (reads : ∀ var ∈ statement.uses, session.test.Defined var) :
    Orderly (session.appended statement owner) := by
  cases owner with
  | some owner =>
    obtain ⟨name, type⟩ := owner
    refine (orderly.produced type ready.running ready.defines reads).bound
      (ready.unbound name type rfl) ⟨_, Compilation.definedAt?_produced ready.defines⟩ ?_
    -- All variables bound before are declared, so they come before the next one.
    intro other held
    exact (orderly.defined held).lt_declared
  | none =>
    -- Nothing is defined, so only the coherence of the test changes.
    have accepted : session.test.Accepts statement :=
      ⟨reads, ready.inside, fun var result => by rw [ready.defines] at result; cases result⟩
    exact {
      coherent := orderly.coherent.extended accepted
      definers := by
        obtain ⟨count, bound, all, definers⟩ := orderly.definers
        refine ⟨count, ?_, ?_, ?_⟩
        · simpa [Compilation.appended] using bound
        · simpa [Compilation.appended] using all
        · simp [Compilation.appended, TestCase.extended, List.filterMap_append, definers,
            ready.defines]
      bound_defined := fun name var member => by
        obtain ⟨position, defined⟩ := orderly.bound_defined name var member
        exact ⟨position, (Compilation.keeps_appended ready).definedAt? defined⟩
      bound_increasing := orderly.bound_increasing
      names_distinct := orderly.names_distinct }

/-- What a statement reads is defined when it holds values of plans. -/
theorem reads_defined {session : Compilation ρ} (orderly : Orderly session) {vars : List Var}
    (held : ∀ var ∈ vars, session.Holds var) : ∀ var ∈ vars, session.test.Defined var :=
  fun var member => orderly.defined (held var member)

end Orderly

variable [ClassLoading ρ]

/-- A move keeps a compilation orderly. -/
theorem Move.orderly {session after : Compilation ρ} (move : Move session after)
    (orderly : Orderly session) : Orderly after := by
  cases move with
  | load _ => exact { orderly with }
  | append ready held => exact orderly.appended ready (orderly.reads_defined held)
  | appendBoth running defines held ready _ uses others =>
    have reads := orderly.reads_defined held
    refine (orderly.produced _ running defines reads).appended ready ?_
    -- The second statement reads what the first one defines and what was defined before.
    rw [uses]
    exact orderly.reads_produced running defines others
  | allocate running held =>
    refine orderly.produced _ running rfl (orderly.reads_defined fun var used => held var ?_)
    simpa [Statement.uses] using used
  | declare terminated =>
    -- A complete test has one declared variable more, which nothing defines.
    obtain ⟨count, bound, _, definers⟩ := orderly.definers
    exact {
      coherent := orderly.coherent.declare _
      definers := by
        refine ⟨count, ?_, ?_, definers⟩
        · simp only [Compilation.declared, TestCase.declare, List.length_append]
          omega
        · intro running
          rw [Compilation.declared, terminated] at running
          cases running
      bound_defined := fun name var member => by
        obtain ⟨position, defined⟩ := orderly.bound_defined name var member
        exact ⟨position, by rw [Compilation.declared, TestCase.definedAt?_declare, defined]⟩
      bound_increasing := orderly.bound_increasing
      names_distinct := orderly.names_distinct }
  | record => exact { orderly with }
  | terminate =>
    obtain ⟨count, bound, _, definers⟩ := orderly.definers
    exact { orderly with
      definers := ⟨count, bound, (fun running => absurd running (by simp)), definers⟩ }

/-- Moves keep a compilation orderly. -/
theorem Moves.orderly {session after : Compilation ρ} (moves : Moves session after)
    (orderly : Orderly session) : Orderly after := by
  induction moves with
  | refl _ => exact orderly
  | one move => exact move.orderly orderly
  | trans _ _ first second => exact second (first orderly)
  -- Which plans are being compiled is no part of the order.
  | within _ ih => exact { ih { orderly with } with }

end TestPlan
