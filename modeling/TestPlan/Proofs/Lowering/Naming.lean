import TestPlan.Proofs.Lowering.Stages

/-! When plans form a graph, a failure for the name of a plan is due to the steps of that plan. -/

namespace TestPlan

variable {ρ : Type} [ClassLoading ρ] {sharing : Sharing} {config : CompilerConfig}
  {graph : PlanGraph} {method : MethodReference} {parameters : Parameters}

/-- A check of the names is refused by the graph of the plans, and not for a name. -/
theorem Lower.checkNames_not_ofName {error : CompileError}
    (failed : checkNames sharing config parameters = .error error) : ¬ error.OfName := by
  unfold checkNames at failed
  split at failed
  · split at failed <;> cases failed
    exact id
  · cases failed

/-- A test that is compiled keeps names honest. -/
theorem Lower.compileTest_acts
    (consistent : PlanGraph.ofRoots sharing parameters.roots = .ok graph) :
    Acts parameters.roots [] [] "" .neither
      (compileTest sharing (ρ := ρ) config method parameters) := by
  have checked : Composed (ρ := ρ) config config "" [] .neither
      (Lower.ofExcept (checkNames sharing config parameters)) _ :=
    .ofExcept fun _ => checkNames_not_ofName
  -- The names are checked first, then the roots are compiled, then the call is appended.
  refine .before (absurd rfl) (checked.acts (absurd rfl) (List.forall_mem_nil _)) fun _ => ?_
  refine .before (absurd rfl) (forM_compile_acts consistent "" _ (List.Subset.refl _)) fun _ => ?_
  refine .before (absurd rfl) (lowerTestCall_acts consistent (List.subset_append_left _ _))
    fun _ => ?_
  exact fun _ honest _ => .of_same nofun honest rfl rfl rfl

/--
When the plans of a test form a graph, compiling the test fails for the name of a plan only if the
steps of that plan are why, and it never fails because a plan is met again. No plan that is needed,
or that has been compiled for any other reason, makes its value twice in a test that is compiled.
-/
theorem compileTest_names (sharing : Sharing) (loader : ρ) (config : CompilerConfig)
    (method : MethodReference) (parameters : Parameters) {graph : PlanGraph}
    (consistent : PlanGraph.ofRoots sharing parameters.roots = .ok graph) :
    let run := Lower.compileTest sharing config method parameters { loader }
    (∀ name after, run ≠ .error (.cyclicPlan name) after) ∧
      (∀ name after, run = .error (.duplicateBinding name) after →
        ∃ plan, graph.get? name = some plan ∧ plan.ProducesTwice) ∧
      (∀ name after, run = .error (.unboundOwner name) after →
        ∃ plan, graph.get? name = some plan ∧ plan.UsesEarly) ∧
      (∀ name after, run = .error (.noValue name) after →
        ∃ plan, graph.get? name = some plan ∧ plan.Valueless) ∧
      (∀ plan, Needed parameters.roots plan → plan.ProducesTwice →
        ∀ test after, run ≠ .ok test after) ∧
      ∀ test after, run = .ok test after → ∀ name plan, graph.get? name = some plan →
        test.bindings.isCompiled name = true → ¬ plan.ProducesTwice := by
  intro run
  -- Failures are justified, and after a success names are honest.
  have acts : Acts parameters.roots [] [] "" .neither
      (Lower.compileTest sharing (ρ := ρ) config method parameters) :=
    Lower.compileTest_acts consistent
  have acted := acts { loader } (.initial loader) rfl
  have justified : ∀ {error after}, run = .error error after →
      Justified parameters.roots error := fun failed => by
    rw [show Lower.compileTest sharing config method parameters { loader } = _ from failed] at acted
    obtain justified | _ | _ := acted
    exact justified
  have honest : ∀ {test after}, run = .ok test after → test = after.compiled ∧
      Honest parameters.roots after ∧ after.active = [] := fun ran => by
    rw [show Lower.compileTest sharing config method parameters { loader } = _ from ran] at acted
    exact ⟨(Lower.compileTest_stages consistent ran).1, acted.honest, acted.active⟩
  refine ⟨fun name after failed => justified failed,
    fun name after failed => Needed.exists_get? Plan.Linked.producesTwice consistent
      (justified failed),
    fun name after failed => Needed.exists_get? Plan.Linked.usesEarly consistent
      (justified failed),
    fun name after failed => Needed.exists_get? Plan.Linked.valueless consistent
      (justified failed), ?_, ?_⟩
  · intro plan needed twice test after ran
    -- All that is needed is compiled before the call, and stays so.
    obtain ⟨_, _, _, _, _, prepared, _, kept, _⟩ := Lower.compileTest_stages consistent ran
    obtain ⟨_, honest, outermost⟩ := honest ran
    obtain ⟨node, found, linked⟩ := needed.get? consistent
    have compiled := prepared.isCompiled_of_needed needed
      (Plan.constant?_of_isLeaf twice.isLeaf)
    exact honest.not_producesTwice outermost consistent found (kept.isCompiled compiled)
      (linked.producesTwice.mpr twice)
  · intro test after ran name plan found compiled
    obtain ⟨rfl, honest, outermost⟩ := honest ran
    exact honest.not_producesTwice outermost consistent found compiled

/-- The distance of two points, the second of which is made twice. -/
def Demo.remade : Parameters where
  receiver := some (pointAt "p" 1 2)
  arguments := [.mk "q" (.actions
    [.constructorCall pointConstructor [int "x" 3, int "y" 4],
      .constructorCall pointConstructor [int "y" 4, int "x" 3]])]

/-- A point that is made twice is to blame when its name is bound twice. -/
theorem compileTest_names_remade :
    ∃ (graph : PlanGraph) (after : Session), PlanGraph.ofRoots .none Demo.remade.roots = .ok graph ∧
      Lower.compileTest .none {} Demo.pointDistance Demo.remade { loader := Demo.loader [] }
        = .error (.duplicateBinding "q") after ∧
      ∃ plan, graph.get? "q" = some plan ∧ plan.ProducesTwice := by
  obtain ⟨graph, consistent⟩ : ∃ graph, PlanGraph.ofRoots .none Demo.remade.roots = .ok graph :=
    exists_ok_of_isOk (by decide +kernel)
  obtain ⟨after, failed⟩ : ∃ after, Lower.compileTest .none {} Demo.pointDistance Demo.remade
      ({ loader := Demo.loader [] } : Session) = .error (.duplicateBinding "q") after :=
    exists_error_of_failure? (by decide +kernel)
  obtain ⟨_, duplicate, _⟩ := compileTest_names .none (Demo.loader []) {} Demo.pointDistance
    Demo.remade consistent
  exact ⟨graph, after, consistent, failed, duplicate "q" after failed⟩

end TestPlan
