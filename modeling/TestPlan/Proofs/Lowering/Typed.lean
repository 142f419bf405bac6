import TestPlan.Proofs.Lowering.Naming
import TestPlan.Proofs.Lowering.WritingPlans
import TestPlan.Proofs.Plan.Sameness

/-! The variable of a plan has the type that the step which makes the value of the plan declares. -/

namespace TestPlan

/-- A direct step declares a type just when it makes the value of its plan. -/
theorem Action.isSome_makes? (step : Action) :
    step.makes?.isSome = (step.role == .produces) := by
  cases step <;> rfl

/-- A reflective step declares a type just when it makes the value of its plan. -/
theorem ReflectiveAction.isSome_makes? (step : ReflectiveAction) :
    step.makes?.isSome = (step.role == .produces) := by
  cases step <;> rfl

/-! ### Equal plans -/

/-- Equal literals are of one type. -/
theorem Literal.valueType_eq_of_same {value other : Literal} (same : value.same other = true) :
    value.valueType = other.valueType := by
  unfold Literal.same at same
  split at same
  · rfl
  · rfl
  · rw [beq_iff_eq.mp same]

/-- Lists that are related one by one give the same, if related items do. -/
theorem filterMap_eq_of_forall₂ {β γ : Type} {related : β → β → Prop} {give : β → Option γ}
    {items others : List β} (all : List.Forall₂ related items others)
    (each : ∀ item other, related item other → give item = give other) :
    items.filterMap give = others.filterMap give := by
  induction all with
  | nil => rfl
  | cons first _ ih => rw [List.filterMap_cons, List.filterMap_cons, each _ _ first, ih]

namespace Plan

/-- Equal plans make values of the same types. -/
theorem madeTypes_eq_of_same {plan other : Plan} (same : plan.same other = true) :
    plan.madeTypes = other.madeTypes := by
  obtain ⟨name, kind⟩ := plan
  obtain ⟨name', kind'⟩ := other
  have twins : kind.Twins _ _ kind' := (same_iff_twins.mp same).2
  simp only [madeTypes, Plan.kind]
  -- Plans of one kind make the same when their steps do, one by one.
  cases twins with
  | actions steps =>
    refine filterMap_eq_of_forall₂ steps fun _ _ twins => ?_
    cases twins <;> rfl
  | reflection steps =>
    refine filterMap_eq_of_forall₂ steps fun _ _ twins => ?_
    cases twins <;> rfl
  | primitive equal => simp only [Literal.valueType_eq_of_same equal]
  | testCall | text | mock | unknown => rfl

/-- Linked plans make values of the same types. -/
theorem Linked.madeTypes {plan other : Plan} (linked : plan.Linked other) :
    plan.madeTypes = other.madeTypes := by
  induction linked with
  | refl => rfl
  | step same _ ih => exact (madeTypes_eq_of_same same).trans ih

/-! ### One value -/

/-- Among steps of which those that make the value are marked, each of them declares a type. -/
theorem length_filterMap_eq_count {β : Type} {makes : β → Option ValueType} {role : β → Role}
    (each : ∀ step, (makes step).isSome = (role step == .produces)) (steps : List β) :
    (steps.filterMap makes).length = (steps.map role).count .produces := by
  induction steps with
  | nil => rfl
  | cons step rest ih =>
    -- The first step counts on both sides, or on neither.
    rw [List.map_cons, List.count_cons, ← each step, ← ih]
    cases made : makes step <;> simp [made]

/-- A plan that does not make its value twice makes at most one value. -/
theorem length_madeTypes_le_one {plan : Plan} (once : ¬ plan.ProducesTwice) :
    plan.madeTypes.length ≤ 1 := by
  have few : ∀ roles, plan.roles? = some roles → roles.count .produces ≤ 1 := fun roles made =>
    Nat.le_of_not_lt fun twice => once ⟨roles, made, twice⟩
  obtain ⟨name, kind⟩ := plan
  cases kind with
  | actions steps =>
    exact Nat.le_trans (Nat.le_of_eq (length_filterMap_eq_count Action.isSome_makes? steps))
      (few _ rfl)
  | reflection steps =>
    exact Nat.le_trans
      (Nat.le_of_eq (length_filterMap_eq_count ReflectiveAction.isSome_makes? steps)) (few _ rfl)
  | primitive | text | testCall | mock | unknown => simp [madeTypes, kind]

end Plan

/-! ### Variables -/

/-- In a test that is compiled, no plan with a variable has two steps that make its value. -/
theorem Lower.compileTest_once {ρ : Type} [ClassLoading ρ] {sharing : Sharing}
    {config : CompilerConfig} {method : MethodReference} {parameters : Parameters} {loader : ρ}
    {graph : PlanGraph} (consistent : PlanGraph.ofRoots sharing parameters.roots = .ok graph)
    {test : CompiledTest} {after : Compilation ρ}
    (compiled : compileTest sharing config method parameters { loader } = .ok test after)
    {name : String} {var : Var} (bound : after.bindings.get? name = some var) {plan : Plan}
    (found : graph.get? name = some plan) : ¬ plan.ProducesTwice := by
  -- A plan with two such steps would have been refused at the second one.
  have acted := @compileTest_acts _ _ sharing config graph method parameters consistent { loader }
    (.initial loader) rfl
  rw [compiled] at acted
  -- A plan with a variable counts as compiled.
  have isCompiled : after.bindings.isCompiled name = true := by
    simp [Bindings.isCompiled, Bindings.isBound, bound]
  exact acted.honest.not_producesTwice acted.active consistent found isCompiled

/--
In a test that is compiled from consistent plans, the variable of a plan has the type that the
single step making its value declares, or that the literal or text is of: the type that the class
loader gives for it.
-/
theorem compileTest_typed (sharing : Sharing) (loader : Loader) (config : CompilerConfig)
    (method : MethodReference) (parameters : Parameters) {graph : PlanGraph}
    (consistent : PlanGraph.ofRoots sharing parameters.roots = .ok graph) {test : CompiledTest}
    {after : Session}
    (compiled : Lower.compileTest sharing config method parameters { loader } = .ok test after)
    (name : String) (var : Var) (bound : test.bindings.get? name = some var) :
    ∃ plan declared type later, graph.get? name = some plan ∧ plan.madeTypes = [declared] ∧
      test.test.typeOf? var = some type ∧
      Resolve.runtimeType declared loader = .ok type later := by
  obtain ⟨rfl, sound⟩ := Lower.compileTest_sound compiled
  obtain ⟨type, typed, plan, declared, needed, rfl, member, finds⟩ := sound.typed name var bound
  obtain ⟨later, found⟩ := finds.initially (Resolve.runtimeType_uniform Loader.sameClasses declared)
  obtain ⟨node, stored, linked⟩ := needed.get? consistent
  refine ⟨node, declared, type, later, stored, ?_, typed, found⟩
  -- No two steps make the value of the plan, so the type found is that of the only one.
  have single := Plan.length_madeTypes_le_one
    (Lower.compileTest_once consistent compiled bound stored)
  rw [linked.madeTypes] at single ⊢
  obtain ⟨only, same⟩ := List.length_eq_one_iff.mp
    (Nat.le_antisymm single (List.length_pos_of_mem member))
  rw [same] at member ⊢
  rw [List.mem_singleton.mp member]

/-- The distance of two points, the second of which is made without a constructor. -/
def Demo.hiding : Parameters where
  receiver := some (pointAt "p" 1 2)
  arguments := [hidingPoint "q" 7]

/-- A point made without a constructor has the type of points. -/
theorem compileTest_typed_hiding :
    ∃ (graph : PlanGraph) (test : CompiledTest) (after : Session) (var : Var),
      PlanGraph.ofRoots .none Demo.hiding.roots = .ok graph ∧
      Lower.compileTest .none {} Demo.pointDistance Demo.hiding
        { loader := Demo.loader [({} : HelperLibrary).classDefinition] } = .ok test after ∧
      test.bindings.get? "q" = some var ∧ ∃ plan declared type later,
        graph.get? "q" = some plan ∧ plan.madeTypes = [declared] ∧
        test.test.typeOf? var = some type ∧ Resolve.runtimeType declared
          (Demo.loader [({} : HelperLibrary).classDefinition]) = .ok type later := by
  obtain ⟨graph, consistent⟩ : ∃ graph, PlanGraph.ofRoots .none Demo.hiding.roots = .ok graph :=
    exists_ok_of_isOk (by decide +kernel)
  obtain ⟨test, after, ran, found⟩ : ∃ test after, Lower.compileTest .none {} Demo.pointDistance
      Demo.hiding ({ loader := Demo.loader [({} : HelperLibrary).classDefinition] } : Session)
        = .ok test after ∧ test.bindings.isBound "q" = true :=
    exists_ok_of_any_run' (by decide +kernel)
  obtain ⟨var, bound⟩ := Option.isSome_iff_exists.mp found
  exact ⟨graph, test, after, var, consistent, ran, bound, compileTest_typed _ _ {}
    Demo.pointDistance Demo.hiding consistent ran "q" var bound⟩

end TestPlan
