import TestPlan.Proofs.Lowering.Once

/-! A literal or text gets at most one statement of its own. -/

namespace TestPlan

variable {ρ : Type} [ClassLoading ρ] {setting : Setting ρ} {session after : Compilation ρ}
  {origins : List Origin} {plan : Plan}

/-- The statement of a literal or text has been appended. -/
inductive LeafMade (setting : Setting ρ) (plan : Plan) (session : Compilation ρ) :
    Compilation ρ → Prop
  | mk {loader : ρ} {type : RuntimeType} {statement : Statement} :
      Loads session.loader loader →
      Ready { session with loader } (some (plan.name, type)) statement →
      statement.uses = [] →
      (∀ later, later.At session.test.size statement →
        later.Owns plan.name type session.nextVar →
          setting.PrescribesLeaf later plan session.test.size) →
      LeafMade setting plan session
        (Compilation.appended { session with loader } statement (some (plan.name, type)))

/-- A literal or text has a variable when its statement is there. -/
theorem Setting.PrescribesLeaf.isBound {built : CompiledTest} {position : Nat}
    (prescribed : setting.PrescribesLeaf built plan position) :
    built.bindings.isBound plan.name = true := by
  cases prescribed with
  | literal _ _ _ owns _ => exact Option.isSome_iff_exists.mpr ⟨_, owns.bound⟩
  | text _ _ owns _ => exact Option.isSome_iff_exists.mpr ⟨_, owns.bound⟩
  | null _ _ owns _ => exact Option.isSome_iff_exists.mpr ⟨_, owns.bound⟩

/-- A literal or text is settled by its only statement. -/
theorem Settled.of_leaf {built : CompiledTest} {position : Nat} (leaf : plan.isLeaf = true)
    (only : positionsOf origins (.leaf plan.name) = [position])
    (none : ∀ index, .step plan.name index ∉ origins)
    (prescribed : ∀ later, built.Kept later → setting.PrescribesLeaf later plan position)
    (root : plan.constant?.isSome = true → plan ∈ setting.roots) :
    Settled setting built origins plan where
  steps := by
    rw [Plan.stepCount_of_isLeaf leaf]
    nofun
  indices index member := absurd member (none index)
  -- Without steps there is no order to keep.
  in_order first _ _ position there := by
    rw [positionsOf_eq_nil_iff.mpr (none first)] at there
    cases there
  served := by
    rw [Plan.reads_of_isLeaf leaf]
    nofun
  leaf _ := leaf
  statement _ := ⟨position, only, prescribed⟩
  root := root
  kind := .inl leaf

namespace LeafMade

/-- The plan has a variable then. -/
theorem bound (made : LeafMade setting plan session after) :
    after.bindings.get? plan.name = some session.nextVar := by
  obtain ⟨_, ready, _, _⟩ := made
  exact (Compilation.owns_appended ready).bound

/-- All there was is kept. -/
theorem keeps (made : LeafMade setting plan session after) : Keeps session after := by
  obtain @⟨loader, _, _, _, ready, _, _⟩ := made
  have loaded : Keeps session { session with loader } := { Keeps.refl session with }
  exact loaded.trans (Compilation.keeps_appended ready)

/-- No other plan gets a variable. -/
theorem others (made : LeafMade setting plan session after) {other : String}
    (apart : other ≠ plan.name) : after.bindings.get? other = session.bindings.get? other := by
  obtain ⟨_, _, _, _⟩ := made
  exact Compilation.get?_appended (by rintro _ _ ⟨⟩; exact apart)

/-- The compilation is traced when no statement of the plan has been there before. -/
theorem traced (made : LeafMade setting plan session after)
    (before : Traced setting session origins) (needed : Needed setting.roots plan)
    (leaf : plan.isLeaf = true) (unmet : ¬ session.Met plan.name)
    (root : plan.constant?.isSome = true → plan ∈ setting.roots) :
    Traced setting after (origins ++ [.leaf plan.name]) := by
  have kept := made.keeps
  have bound := made.bound
  obtain @⟨loader, type, statement, loads, ready, reads, prescribed⟩ := made
  have absent {origin : Origin} (named : origin.plan? = some plan.name) : origin ∉ origins :=
    before.absent unmet named
  have there := @Compilation.at_appended _ { session with loader } statement
    (some (plan.name, type))
  -- The new statement is the only one of the plan.
  have only : positionsOf (origins ++ [.leaf plan.name]) (.leaf plan.name)
      = [session.test.size] := by
    rw [positionsOf_concat, if_pos rfl, positionsOf_eq_nil_iff.mpr (absent rfl), before.length]
    rfl
  have none : ∀ index, .step plan.name index ∉ origins ++ [.leaf plan.name] := by
    intro index member
    rcases List.mem_append.mp member with old | new
    · exact absent rfl old
    · cases List.mem_singleton.mp new
  constructor
  · exact ({ before.orderly with } : Orderly { session with loader }).appended ready
      (by rw [reads]; nofun)
  · exact ready.running
  · exact before.loads.trans loads
  · rw [List.length_append, before.length]
    exact (Compilation.size_extended _ _).symm
  · intro origin member
    rcases List.mem_append.mp member with old | new
    · obtain ⟨name, named, met⟩ := before.met origin old
      exact ⟨name, named, met.mono kept⟩
    · cases List.mem_singleton.mp new
      -- A plan with a variable counts as compiled.
      refine ⟨plan.name, rfl, .inl ?_⟩
      rw [Bindings.isCompiled, Bindings.isBound, bound]
      simp
  · intro name compiled outside
    -- Of all compiled plans only this one has not been settled before.
    by_cases same : name = plan.name
    · have owns := Compilation.owns_appended ready
      exact ⟨plan, needed, same.symm, .of_leaf leaf only none
        (fun later more => prescribed later (there.mono more) (owns.mono more)) root⟩
    · rw [Compilation.isCompiled_appended (by rintro _ _ ⟨⟩; exact same)] at compiled
      obtain ⟨other, needed', rfl, settled⟩ := before.settled name compiled outside
      refine ⟨other, needed', rfl, settled.mono kept.toKept fun origin member => ?_⟩
      cases List.mem_singleton.mp member
      exact fun named => same (Option.some.inj named).symm
  · exact before.active

/-- It is all the same whether the plan has been entered. -/
theorem of_enter {inside : Compilation ρ}
    (made : LeafMade setting plan (session.enter plan.name) inside) :
    ∃ after, LeafMade setting plan session after ∧
      (inside.recorded plan.name).leave = after.recorded plan.name := by
  obtain ⟨loads, ready, reads, prescribed⟩ := made
  exact ⟨_, ⟨loads, { ready with }, reads, prescribed⟩, rfl⟩

end LeafMade

namespace Lower

/-- A literal that is a constant has a primitive type. -/
theorem isSome_primitive?_of_literal {value : Literal} {constant : Constant}
    (found : value.constant? = some constant) : constant.primitive?.isSome = true := by
  cases value <;> cases found <;> rfl

/-- A literal that is compiled has got its statement. -/
theorem literalLeaf_ok {value : Literal} {var : Var} (loads : Loads setting.loader session.loader)
    (kind : plan.kind = .primitive value)
    (ran : literalLeaf plan.name value session = .ok var after) :
    var = session.nextVar ∧ LeafMade setting plan session after := by
  cases found : value.constant? with
  | some constant =>
    -- A constant needs no lookup.
    simp only [literalLeaf, found] at ran
    obtain ⟨ready, _, rfl, rfl⟩ := define_ok (fun _ => rfl) ran
    obtain ⟨primitive, known⟩ :=
      Option.isSome_iff_exists.mp (isSome_primitive?_of_literal found)
    refine ⟨rfl, .mk (.refl _) ready rfl fun later there owns => ?_⟩
    rw [known] at owns
    exact .literal kind found (congrArg _ known) owns there
  | none =>
    simp only [literalLeaf, found] at ran
    -- A null is declared with the type that every object has.
    obtain ⟨type, _, resolved, defined⟩ := bind_eq_ok_iff.mp ran
    obtain ⟨loader, looked, rfl⟩ := resolve_ok resolved
    obtain ⟨ready, _, rfl, rfl⟩ := define_ok (fun _ => rfl) defined
    have loaded := Resolve.typeNamed_plain objectClass session.loader
    rw [looked] at loaded
    refine ⟨rfl, .mk loaded ready rfl fun later there owns => ?_⟩
    have isNull : plan.isNull = true := by
      simp [Plan.isNull, Plan.isLeaf, Plan.constant?, kind, found]
    exact .null isNull ⟨_, _, loads, looked⟩ owns there

/-- A text that is compiled has got its statement. -/
theorem textLeaf_ok {text : String} {var : Var} (loads : Loads setting.loader session.loader)
    (kind : plan.kind = .text text)
    (ran : textLeaf plan.name text session = .ok var after) :
    var = session.nextVar ∧ LeafMade setting plan session after := by
  obtain ⟨type, _, found, defined⟩ := bind_eq_ok_iff.mp ran
  obtain ⟨loader, looked, rfl⟩ := resolve_ok found
  obtain ⟨ready, _, rfl, rfl⟩ := define_ok (fun _ => rfl) defined
  -- The lookup of the type only loads classes, so the move is of the expected form.
  have loaded := Resolve.typeNamed_plain stringClass session.loader
  rw [looked] at loaded
  exact ⟨rfl, .mk loaded ready rfl fun later there owns =>
    .text kind ⟨_, _, loads, looked⟩ owns there⟩

end Lower

/-- A literal or text without a variable has not been met. -/
theorem Traced.unmet_of_unbound (traced : Traced setting session origins)
    (consistent : setting.Consistent) (needed : Needed setting.roots plan)
    (leaf : plan.isLeaf = true) (unbound : session.bindings.isBound plan.name = false) :
    ¬ session.Met plan.name := by
  intro met
  by_cases active : plan.name ∈ session.active
  · exact traced.ne_constant consistent active needed leaf rfl
  · obtain ⟨other, needed', same, settled⟩ :=
      traced.settled plan.name (met.resolve_right active) active
    have leaf' := (consistent other plan needed' needed same).isLeaf.trans leaf
    -- A literal or text that is settled has got a variable.
    obtain ⟨_, _, prescribed⟩ := settled.statement leaf'
    have bound : session.bindings.isBound other.name = true :=
      (prescribed session.compiled (.refl _)).isBound
    rw [same, unbound] at bound
    cases bound

/-- A null that is read gets a variable. -/
theorem Reading.nullLeaf (needed : Needed setting.roots plan) (consistent : setting.Consistent)
    {value : Literal} (kind : plan.kind = .primitive value) (null : value.constant? = none) :
    Reading (.nothing : Fact setting) (Lower.literalLeaf plan.name value)
      fun var => .read needed (.var var) where
  running {session _ _} ran active := by
    -- Whatever the loader is, the statement has been taken by a running test.
    have made := @Lower.literalLeaf_ok _ _ ⟨{}, session.loader, []⟩ _ _ plan _ _ (.refl _) kind ran
    obtain ⟨_, _, ready, _, _⟩ := made
    exact ready.running
  grows traced _ ran active := by
    obtain ⟨rfl, made⟩ := Lower.literalLeaf_ok traced.loads kind ran
    have leaf : plan.isLeaf = true := by simp [Plan.isLeaf, kind]
    have isNull : plan.isNull = true := by simp [Plan.isNull, leaf, Plan.constant?, kind, null]
    -- The literal had no variable, so it is met here for the first time.
    have unmet := traced.unmet_of_unbound consistent needed leaf (by
      obtain ⟨_, ready, _, _⟩ := made
      exact ready.unbound _ _ rfl)
    have root : plan.constant?.isSome = true → plan ∈ setting.roots := by
      simp [Plan.constant?, kind, null]
    refine ⟨_, ⟨made.keeps, made.traced traced needed leaf unmet root, ⟨_, rfl, ?_⟩, ?_⟩,
      .var made.bound⟩
    · intro origin member
      cases List.mem_singleton.mp member
      exact .inr ⟨plan.name, rfl, unmet⟩
    · intro other needed' constant
      refine made.others fun same => ?_
      -- A constant does not share its name with a null.
      have alike := (consistent other plan needed' needed same).isNull
      rw [isNull, Plan.isNull, ← Option.not_isSome, constant] at alike
      simp at alike

end TestPlan
