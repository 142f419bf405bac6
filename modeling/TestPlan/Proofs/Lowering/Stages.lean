import TestPlan.Proofs.Lowering.Blame
import TestPlan.Proofs.Lowering.Finished

/-! The stages of a test that is compiled, and what holds of its plans when the roots are done. -/

namespace TestPlan

variable {ρ : Type} [ClassLoading ρ] {sharing : Sharing} {config : CompilerConfig}
  {graph : PlanGraph} {method : MethodReference} {parameters : Parameters} {loader : ρ}
  {test : CompiledTest} {after : Compilation ρ}

/-- What is said of a needed plan is said of the plan of its name in the graph. -/
theorem Needed.exists_get? {roots : List Plan} {name : String} {said : Plan → Prop}
    (linked : ∀ {plan other : Plan}, plan.Linked other → (said plan ↔ said other))
    (consistent : PlanGraph.ofRoots sharing roots = .ok graph)
    (found : ∃ plan, Needed roots plan ∧ plan.name = name ∧ said plan) :
    ∃ node, graph.get? name = some node ∧ said node := by
  obtain ⟨plan, needed, rfl, holds⟩ := found
  obtain ⟨node, found, same⟩ := needed.get? consistent
  exact ⟨node, found, (linked same).mpr holds⟩

section Outermost

variable {roots : List Plan} {session : Compilation ρ} {name : String} {node : Plan}
  (honest : Honest roots session) (outermost : session.active = [])
  (consistent : PlanGraph.ofRoots sharing roots = .ok graph) (found : graph.get? name = some node)
  (compiled : session.bindings.isCompiled name = true)

include honest outermost consistent found compiled

omit [ClassLoading ρ]

/-- When nothing is being compiled, compiled names are those of finished plans and of literals. -/
theorem Honest.of_isCompiled (said : Plan → Prop)
    (linked : ∀ {plan other : Plan}, plan.Linked other → (said plan ↔ said other))
    (finished : ∀ plan, Finished session.bindings session.terminated plan → said plan)
    (leaf : ∀ plan, plan.isLeaf = true → said plan) : said node := by
  have completed : name ∈ session.bindings.completed →
      ∃ plan, Needed roots plan ∧ plan.name = name ∧ said plan := fun member => by
    obtain ⟨plan, needed, named, done⟩ := honest.completed name member
    exact ⟨plan, needed, named, finished plan done⟩
  have holds : ∃ plan, Needed roots plan ∧ plan.name = name ∧ said plan := by
    rw [Bindings.isCompiled, Bool.or_eq_true, List.contains_iff_mem] at compiled
    rcases compiled with member | bound
    · exact completed member
    rcases honest.bound name bound with active | member | ⟨plan, needed, named, literal⟩
    · rw [outermost] at active
      cases active
    · exact completed member
    · exact ⟨plan, needed, named, leaf plan literal⟩
  -- The graph has one plan of the name, which is linked to the one that has been compiled.
  obtain ⟨node', found', holds⟩ := Needed.exists_get? linked consistent holds
  rw [found] at found'
  cases found'
  exact holds

/-- When nothing is being compiled, no plan of a compiled name makes its value twice. -/
theorem Honest.not_producesTwice : ¬ node.ProducesTwice :=
  honest.of_isCompiled outermost consistent found compiled (¬ ·.ProducesTwice)
    (fun linked => not_congr linked.producesTwice) (fun _ finished => finished.once)
    fun _ leaf => Plan.not_producesTwice_of_roles? (Plan.roles?_of_isLeaf leaf).1

/-- While the test is running, no plan of a compiled name is a call under test. -/
theorem Honest.not_isTestCall (running : session.terminated = false) : ¬ node.isTestCall = true :=
  honest.of_isCompiled outermost consistent found compiled (¬ ·.isTestCall = true)
    (fun linked => by rw [linked.roles?.2])
    (fun _ finished call => by
      rw [finished.terminated call] at running
      cases running)
    fun _ leaf call => by
      rw [(Plan.roles?_of_isLeaf leaf).2] at call
      cases call

end Outermost

/-- A compilation that goes on after all roots have been compiled stays prepared. -/
theorem Prepared.grown {setting : Setting ρ} {own : Origin → Prop} {session later : Compilation ρ}
    {origins more : List Origin} (prepared : Prepared setting session origins)
    (grown : Grown setting own session origins later more) : Prepared setting later more where
  traced := grown.traced
  consistent := prepared.consistent
  outermost := grown.keeps.active.trans prepared.outermost
  roots root member := grown.keeps.isCompiled (prepared.roots root member)

/--
When a test has been compiled, its roots have been compiled first. Then the operands of the call
under test have been read, and then the call has been appended.
-/
theorem Lower.compileTest_stages
    (consistent : PlanGraph.ofRoots sharing parameters.roots = .ok graph)
    (compiled : compileTest sharing config method parameters { loader } = .ok test after) :
    test = after.compiled ∧ ∃ prepared origins middle others,
      Prepared ⟨config, loader, parameters.roots⟩ prepared origins ∧
      Honest parameters.roots prepared ∧ Keeps prepared after ∧
      Prepared ⟨config, loader, parameters.roots⟩ middle others ∧
      Ended ⟨config, loader, parameters.roots⟩ (parameters.testCall method) middle after := by
  have alike : Setting.Consistent ⟨config, loader, parameters.roots⟩ :=
    Setting.consistent_of_formed consistent
  obtain ⟨rfl, prepared, prepares, calls⟩ := compileTest_ok compiled
  -- The call is appended only to a test that is running, so the roots have left it running.
  obtain ⟨running, ends⟩ := lowerTestCall_ended alike (List.subset_append_left _ _) calls
  obtain ⟨origins, traced, kept, roots⟩ :=
    (forM_compiling alike parameters.roots (List.Subset.refl _)).compiles .initial prepares running
  obtain ⟨middle, others, grown, ended⟩ := ends traced
  have acts : Acts parameters.roots [] [] "" .neither
      (compileParameters (ρ := ρ) config parameters) :=
    forM_compile_acts consistent "" _ (List.Subset.refl _)
  have acted := acts _ (.initial loader) rfl
  rw [prepares] at acted
  have moved := lowerTestCall_ensures config (parameters.testCall method) prepared traced.orderly
  rw [calls] at moved
  have ready : Prepared ⟨config, loader, parameters.roots⟩ prepared origins :=
    ⟨traced, alike, kept.active, roots⟩
  exact ⟨rfl, prepared, origins, middle, others, ready, acted.honest, moved.1.keeps,
    ready.grown grown, ended⟩

end TestPlan
