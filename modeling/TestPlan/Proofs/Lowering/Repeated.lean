import Mathlib.Data.List.Induction
import TestPlan.Proofs.Lowering.Attempts
import TestPlan.Proofs.Plan.Exact

/-!
Calls to compile plans may fail, and the compilation may go on: what has been compiled to the end is
in the test once, and what the calls that fail have appended of their own comes on top.
-/

namespace TestPlan

variable {ρ : Type} [ClassLoading ρ] {setting : Setting ρ} {nobody : String}
  {session after : Compilation ρ} {abandoned : List String} {origins : List Origin} {plan : Plan}
  {plans : List Plan}

/-! ### One call -/

/-- A plan without steps is settled without a statement. -/
theorem Settled.of_idle {built : CompiledTest} (idle : plan.Idle)
    (absent : ∀ origin ∈ origins, origin.plan? ≠ some plan.name) :
    Settled setting built origins plan := by
  have none : ∀ origin : Origin, origin.plan? = some plan.name →
      positionsOf origins origin = [] := fun origin named =>
    positionsOf_eq_nil_iff.mpr fun member => absent origin member named
  have count : plan.stepCount = 0 := by
    rcases idle with kind | kind <;> simp [Plan.stepCount, kind]
  have leaf : plan.isLeaf = false := by
    rcases idle with kind | kind <;> simp [Plan.isLeaf, kind]
  constructor
  · intro index inside
    rw [count] at inside
    exact absurd inside (Nat.not_lt_zero index)
  · exact fun index member => absurd rfl (absent _ member)
  · intro first _ _ position there
    rw [none _ rfl] at there
    cases there
  · rcases idle with kind | kind <;> rw [kind] <;> exact List.forall_mem_nil _
  · exact fun member => absurd rfl (absent _ member)
  · intro isLeaf
    rw [leaf] at isLeaf
    cases isLeaf
  · intro constant
    rw [Plan.constant?_of_isLeaf leaf] at constant
    cases constant
  · rcases idle with kind | kind <;> exact .inr (by simp [Plan.isStepwise, kind])

/-- Nothing is appended to a complete test, and only plans without steps are compiled. -/
theorem Accounted.complete (accounted : Accounted setting nobody abandoned session origins)
    (complete : session.terminated = true) (keeps : Keeps session after)
    (marked : Marked setting.roots session after) :
    Accounted setting nobody abandoned after origins := by
  obtain ⟨complete', statements, bound⟩ := keeps.frozen complete
  constructor
  · rw [accounted.length, TestCase.size, TestCase.size, statements]
  · intro origin member
    rcases accounted.met origin member with
      ⟨same, plan, needed, concluded⟩ | ⟨name, named, met⟩
    · exact .inl ⟨same, plan, needed, concluded.mono keeps.toKept fun _ => complete'⟩
    · exact .inr ⟨name, named, met.imp_left fun met => met.mono keeps⟩
  · intro name compiled known outside covered
    rw [keeps.active] at outside
    by_cases before : session.bindings.isCompiled name = true
    · obtain ⟨plan, needed, rfl, fulfilled⟩ :=
        accounted.fulfilled name before known outside covered
      exact ⟨plan, needed, rfl, fulfilled.mono keeps.toKept fun _ => complete'⟩
    -- A plan that was not compiled before has got no value, but it has been recorded.
    have recorded : name ∈ after.bindings.completed := by
      rcases Bool.or_eq_true_iff.mp compiled with recorded | found
      · exact List.contains_iff_mem.mp recorded
      · rw [Bindings.isBound, Bindings.get?, bound] at found
        exact absurd (Bool.or_eq_true_iff.mpr (.inr found)) before
    rcases marked.completed name recorded with old | fresh
    · exact absurd (Bool.or_eq_true_iff.mpr (.inl (List.contains_iff_mem.mpr old))) before
    obtain ⟨plan, needed, rfl, idle⟩ := fresh.idle complete
    refine ⟨plan, needed, rfl, .settled (.of_idle idle fun origin member named => ?_)⟩
    rcases accounted.met origin member with ⟨rfl, -⟩ | ⟨name, named', (compiled | active) | none⟩
    · cases named
    · cases named.symm.trans named'
      exact before compiled
    · cases named.symm.trans named'
      exact outside active
    · cases named.symm.trans named'
      exact known none
  · rw [keeps.active]
    exact accounted.active
  · intro name member
    have hidden := accounted.abandoned name member
    exact hidden.mono marked hidden.absent

/-- A root is accounted for whenever it is compiled, whether it succeeds or fails. -/
theorem Lower.compile_advances (named : setting.Named nobody) (root : plan ∈ setting.roots)
    (accounted : Accounted setting nobody abandoned session origins) (orderly : Orderly session)
    (loads : Loads setting.loader session.loader) :
    match compile setting.config plan session with
    | .ok _ after => ∃ more,
        Advances setting nobody abandoned session origins abandoned after more ∧
          Owned nobody origins more
    | .error _ after => ∃ abandoned' more,
        Advances setting nobody abandoned session origins abandoned' after more := by
  by_cases running : session.terminated = false
  · have standing : Standing setting nobody abandoned session origins :=
      { accounted with orderly, running, loads }
    cases ran : compile setting.config plan session with
    | ok result after => exact compile_accounted named root standing ran
    | error error after =>
      exact compile_fails named root _ _ _ _ _ standing (List.nil_subset _) ran
  have complete : session.terminated = true := by simpa using running
  have marks : Marks setting.roots (compile (ρ := ρ) setting.config plan) :=
    once_marks (.root root) fun read member => operand_marks read ((Needed.root root).read member)
  have keeps := compile_keeps setting.config plan orderly
  cases ran : compile setting.config plan session with
  | ok result after =>
    rw [ran] at keeps
    exact ⟨origins, ⟨accounted.complete complete keeps (marks.of_ok ran), keeps,
      List.prefix_refl _, fun _ => .inl⟩, [], by simp, List.forall_mem_nil _⟩
  | error error after =>
    rw [ran] at keeps
    exact ⟨abandoned, origins, accounted.complete complete keeps (marks.of_error ran), keeps,
      List.prefix_refl _, fun _ => .inl⟩

/-! ### Calls in a row -/

/-- Moves only load classes. -/
theorem Moves.loads (moves : Moves session after) : Loads session.loader after.loader := by
  induction moves with
  | refl session => exact .refl _
  | one move => cases move with
    | load loads => exact loads
    | @append owner _ _ _ => cases owner <;> exact .refl _
    | @appendBoth _ _ _ owner => cases owner <;> exact .refl _
    | _ => exact .refl _
  | trans _ _ first second => exact first.trans second
  | within _ ih => exact ih

namespace Setting

/-- The compilation after calls to compile plans, each of which may have failed. -/
def attempt (setting : Setting ρ) (plans : List Plan) : Compilation ρ :=
  Compilation.answerAll setting.config { loader := setting.loader } (plans.map .plan)

/-- A call that fails, with the compilations before and after it. -/
inductive Fault (setting : Setting ρ) (plans : List Plan) : Compilation ρ → Compilation ρ → Prop
  | mk {before rest : List Plan} {plan : Plan} {error : CompileError} {after : Compilation ρ} :
      plans = before ++ plan :: rest →
      Lower.compile setting.config plan (setting.attempt before) = .error error after →
        Fault setting plans (setting.attempt before) after

/-- A plan that has got its value in a call that has failed. -/
def Abandons (setting : Setting ρ) (plans : List Plan) (name : String) : Prop :=
  ∃ start stop, setting.Fault plans start stop ∧ start.bindings.isBound name = false ∧
    stop.bindings.isBound name = true

/-- A position at which a call that has failed has left a statement. -/
def Strays (setting : Setting ρ) (plans : List Plan) (position : Nat) : Prop :=
  ∃ start stop, setting.Fault plans start stop ∧ start.test.size ≤ position ∧
    position < stop.test.size

/-- A call that has failed has failed when more calls follow. -/
theorem Fault.mono {start stop : Compilation ρ} (fault : setting.Fault plans start stop)
    (rest : List Plan) : setting.Fault (plans ++ rest) start stop := by
  obtain ⟨split, failed⟩ := fault
  exact .mk (by rw [split, List.append_assoc, List.cons_append]) failed

/-- A call is made after those before it. -/
theorem attempt_concat : setting.attempt (plans ++ [plan])
    = (setting.attempt plans).answer setting.config (.plan plan) := by
  rw [attempt, List.map_append, Compilation.answerAll, List.foldl_append]
  rfl

/-- The compilation after a call that succeeds. -/
theorem attempt_of_ok {result : Unit}
    (ran : Lower.compile setting.config plan (setting.attempt plans) = .ok result after) :
    setting.attempt (plans ++ [plan]) = after := by
  rw [attempt_concat, Compilation.answer, Request.compile, ran]

/-- The compilation after a call that fails. -/
theorem attempt_of_error {error : CompileError}
    (failed : Lower.compile setting.config plan (setting.attempt plans) = .error error after) :
    setting.attempt (plans ++ [plan]) = after := by
  rw [attempt_concat, Compilation.answer, Request.compile, failed]

/-- Calls only make moves. -/
theorem attempt_moves (plans : List Plan) :
    Moves { loader := setting.loader } (setting.attempt plans) :=
  Compilation.answerAll_moves _ (.initial setting.loader) _

/-- Calls leave the compilation orderly. -/
theorem attempt_orderly (plans : List Plan) : Orderly (setting.attempt plans) :=
  (attempt_moves plans).orderly (.initial setting.loader)

/-- More calls keep all there is. -/
theorem attempt_keeps (plans rest : List Plan) :
    Keeps (setting.attempt plans) (setting.attempt (plans ++ rest)) := by
  have moves := Compilation.answerAll_moves setting.config (setting.attempt_orderly plans)
    (rest.map .plan)
  have split : setting.attempt (plans ++ rest)
      = (setting.attempt plans).answerAll setting.config (rest.map .plan) := by
    rw [attempt, List.map_append, Compilation.answerAll, List.foldl_append]
    rfl
  exact split ▸ moves.keeps

/-- Only plans that are needed are recorded as compiled. -/
theorem attempt_recorded (inside : plans ⊆ setting.roots) :
    ∀ name ∈ (setting.attempt plans).bindings.completed,
      ∃ plan, Needed setting.roots plan ∧ plan.name = name := by
  induction plans using List.reverseRecOn with
  | nil => nofun
  | append_singleton plans plan ih =>
    rw [List.append_subset] at inside
    intro name member
    rw [attempt_concat] at member
    have recorded := Compilation.answer_recorded setting.config (setting.attempt plans) (.plan plan)
    rcases recorded.completed name member with before | ⟨found, needed, named, -⟩
    · exact ih inside.1 name before
    · exact ⟨found, needed.trans fun _ root => .root (inside.2 root), named⟩

end Setting

/--
An account of calls: what is abandoned has got its value in a call that has failed, and what is
nobody's has been appended by such a call.
-/
structure Recounted (setting : Setting ρ) (nobody : String) (plans : List Plan)
    (abandoned : List String) (origins : List Origin) : Prop where
  accounted : Accounted setting nobody abandoned (setting.attempt plans) origins
  abandons : ∀ name ∈ abandoned, setting.Abandons plans name
  strays : ∀ position origin, origins[position]? = some origin → origin.plan? = some nobody →
    setting.Strays plans position

namespace Recounted

/-- Before the first call there is nothing to be accounted for. -/
theorem nil : Recounted setting nobody [] [] [] where
  accounted := {
    length := rfl
    met := nofun
    fulfilled := nofun
    active := nofun
    abandoned := nofun }
  abandons := nofun
  strays := nofun

/-- One more call is accounted for, whether it succeeds or fails. -/
theorem concat (recounted : Recounted setting nobody plans abandoned origins)
    (named : setting.Named nobody) (root : plan ∈ setting.roots) :
    ∃ abandoned' more, Recounted setting nobody (plans ++ [plan]) abandoned' more := by
  have advanced := Lower.compile_advances named root recounted.accounted
    (setting.attempt_orderly plans) (setting.attempt_moves plans).loads
  have old : ∀ name ∈ abandoned, setting.Abandons (plans ++ [plan]) name := by
    intro name member
    obtain ⟨start, stop, fault, got⟩ := recounted.abandons name member
    exact ⟨start, stop, fault.mono _, got⟩
  have old_stray : ∀ (added : List Origin) position origin, position < origins.length →
      (origins ++ added)[position]? = some origin → origin.plan? = some nobody →
        setting.Strays (plans ++ [plan]) position := by
    intro added position origin inside there stray
    rw [List.getElem?_append_left inside] at there
    obtain ⟨start, stop, fault, window⟩ := recounted.strays position origin there stray
    exact ⟨start, stop, fault.mono _, window⟩
  cases ran : Lower.compile setting.config plan (setting.attempt plans) with
  | ok result after =>
    rw [ran] at advanced
    obtain ⟨_, advances, added, rfl, known⟩ := advanced
    refine ⟨abandoned, origins ++ added, Setting.attempt_of_ok ran ▸ advances.accounted, old,
      fun position origin there stray => ?_⟩
    by_cases inside : position < origins.length
    · exact old_stray added position origin inside there stray
    · -- What a call that succeeds has appended is not nobody's.
      rw [List.getElem?_append_right (Nat.not_lt.mp inside)] at there
      exact absurd stray (known origin (List.mem_of_getElem? there))
  | error error after =>
    rw [ran] at advanced
    obtain ⟨abandoned', _, advances⟩ := advanced
    obtain ⟨added, rfl⟩ := advances.origins
    have fault : setting.Fault (plans ++ [plan]) (setting.attempt plans) after := .mk rfl ran
    refine ⟨abandoned', _, Setting.attempt_of_error ran ▸ advances.accounted,
      fun name member => ?_, fun position origin there stray => ?_⟩
    · rcases advances.abandoned name member with before | unbound
      · exact old name before
      · exact ⟨_, _, fault, unbound, (advances.accounted.abandoned name member).bound⟩
    by_cases inside : position < origins.length
    · exact old_stray added position origin inside there stray
    · refine ⟨_, _, fault, ?_, ?_⟩
      · rw [← recounted.accounted.length]
        exact Nat.not_lt.mp inside
      · rw [← advances.accounted.length]
        exact (List.getElem?_eq_some_iff.mp there).1

/-- Calls in a row are accounted for. -/
theorem of_calls (named : setting.Named nobody) (inside : plans ⊆ setting.roots) :
    ∃ abandoned origins, Recounted setting nobody plans abandoned origins := by
  -- The induction is on the calls, the last one at the end.
  induction plans using List.reverseRecOn with
  | nil => exact ⟨[], [], .nil⟩
  | append_singleton plans plan ih =>
    rw [List.append_subset] at inside
    obtain ⟨_, _, recounted⟩ := ih inside.1
    exact recounted.concat named (inside.2 List.mem_cons_self)

/-- A plan that is compiled is fulfilled, unless it has been abandoned. -/
theorem fulfilled_of_isCompiled (recounted : Recounted setting nobody plans abandoned origins)
    {name : String} (known : name ≠ nobody) (kept : name ∉ abandoned)
    (compiled : (setting.attempt plans).bindings.isCompiled name = true) :
    ∃ plan, Needed setting.roots plan ∧ plan.name = name ∧
      Fulfilled setting (setting.attempt plans) origins plan := by
  -- Between calls nothing is being compiled.
  have idle : (setting.attempt plans).active = [] := (setting.attempt_moves plans).keeps.active
  exact recounted.accounted.fulfilled name compiled known (by simp [idle]) kept

end Recounted

/-! ### What calls leave -/

/-- Whether an origin is of a plan; the call under test is of a plan that is such a call. -/
def Origin.IsOf (origin : Origin) (plan : Plan) : Prop :=
  origin.plan? = some plan.name ∨ origin = .call ∧ plan.isTestCall = true

/-- Where the statements come from that calls have left, some of which may have failed. -/
structure Attempted (setting : Setting ρ) (nobody : String) (plans : List Plan)
    (origins : List Origin) : Prop where
  length : origins.length = (setting.attempt plans).test.size
  /-- What does not come from a fulfilled plan was left by a call that has failed. -/
  covers : ∀ position origin, origins[position]? = some origin →
    (∃ plan, Needed setting.roots plan ∧ origin.IsOf plan ∧
      Fulfilled setting (setting.attempt plans) origins plan) ∨
    origin.plan? = some nobody ∧ setting.Strays plans position
  /-- Plans are recorded only when they have been compiled to the end. -/
  recorded : ∀ name ∈ (setting.attempt plans).bindings.completed,
    ∃ plan, Needed setting.roots plan ∧ plan.name = name ∧
      Fulfilled setting (setting.attempt plans) origins plan
  /-- A plan is fulfilled when a call has succeeded, unless one before has failed inside it. -/
  succeeded : ∀ before plan rest result after, plans = before ++ plan :: rest →
    Lower.compile setting.config plan (setting.attempt before) = .ok result after →
      (∃ lowered, Needed setting.roots lowered ∧ plan.Linked lowered ∧
        Fulfilled setting (setting.attempt plans) origins lowered) ∨
      setting.Abandons before plan.name

namespace Recounted

/-- What is abandoned in the end had been abandoned when a call for it succeeded. -/
theorem abandons_of_ok (recounted : Recounted setting nobody plans abandoned origins)
    {before rest : List Plan} {result : Unit} (split : plans = before ++ plan :: rest)
    (ran : Lower.compile setting.config plan (setting.attempt before) = .ok result after)
    (member : plan.name ∈ abandoned) : setting.Abandons before plan.name := by
  obtain ⟨_, _, fault, unbound, bound⟩ := recounted.abandons plan.name member
  obtain @⟨early, late, other, error, stop, split', failed⟩ := fault
  rcases List.append_eq_append_iff.mp (split.symm.trans split') with
    ⟨between, rfl, tail⟩ | ⟨between, rfl, tail⟩
  · cases between with
    | nil =>
      -- The two calls are one and the same, which has not failed.
      cases tail
      rw [List.append_nil, ran] at failed
      cases failed
    | cons first between =>
      cases tail
      -- Once the plan is compiled, either it has a value or it is recorded for good.
      have compiled : (setting.attempt (before ++ plan :: between)).bindings.isCompiled plan.name
          = true := by
        have kept := setting.attempt_keeps (before ++ [plan]) between
        rw [Setting.attempt_of_ok ran, List.append_assoc, List.singleton_append] at kept
        exact kept.isCompiled (Lower.isCompiled_of_once ran)
      rw [Bindings.isCompiled, unbound, Bool.or_false, List.contains_iff_mem] at compiled
      have kept := setting.attempt_keeps (before ++ plan :: between) (other :: late)
      rw [← split'] at kept
      exact absurd (kept.completed.subset compiled)
        (recounted.accounted.abandoned plan.name member).uncompleted
  · cases between with
    | nil =>
      cases tail
      rw [List.append_nil] at ran
      rw [ran] at failed
      cases failed
    | cons first between =>
      cases tail
      exact ⟨_, _, .mk rfl failed, unbound, bound⟩

/-- An account of calls says where the statements come from that they have left. -/
theorem attempted (recounted : Recounted setting nobody plans abandoned origins)
    {sharing : Sharing} {graph : PlanGraph}
    (consistent : PlanGraph.ofRoots sharing setting.roots = .ok graph)
    (lacks : setting.Lacks nobody) (inside : plans ⊆ setting.roots) :
    Attempted setting nobody plans origins where
  length := recounted.accounted.length
  covers position origin there := by
    rcases recounted.accounted.met origin (List.mem_of_getElem? there) with
      ⟨same, plan, needed, concluded⟩ | ⟨name, named, met⟩
    · obtain ⟨_, kind, _⟩ := concluded.prescribed
      refine .inl ⟨plan, needed, .inr ⟨same, ?_⟩, .called concluded⟩
      rw [Plan.isTestCall, kind]
    by_cases known : name = nobody
    · subst known
      exact .inr ⟨named, recounted.strays position origin there named⟩
    -- What has statements of its own has not been abandoned.
    have kept : name ∉ abandoned := fun hidden =>
      (recounted.accounted.abandoned name hidden).absent origin (List.mem_of_getElem? there) named
    have idle : (setting.attempt plans).active = [] := (setting.attempt_moves plans).keeps.active
    have compiled := (met.resolve_right known).resolve_right (by simp [idle])
    obtain ⟨plan, needed, rfl, fulfilled⟩ :=
      recounted.fulfilled_of_isCompiled known kept compiled
    exact .inl ⟨plan, needed, .inl named, fulfilled⟩
  recorded name member := by
    obtain ⟨plan, needed, rfl⟩ := setting.attempt_recorded inside name member
    refine recounted.fulfilled_of_isCompiled (lacks plan needed) (fun hidden => ?_)
      (Bool.or_eq_true_iff.mpr (.inl (List.contains_iff_mem.mpr member)))
    exact (recounted.accounted.abandoned _ hidden).uncompleted member
  succeeded before plan rest result after split ran := by
    have needed : Needed setting.roots plan := .root (inside (by simp [split]))
    by_cases hidden : plan.name ∈ abandoned
    · exact .inr (recounted.abandons_of_ok split ran hidden)
    have compiled : (setting.attempt plans).bindings.isCompiled plan.name = true := by
      have kept := setting.attempt_keeps (before ++ [plan]) rest
      rw [Setting.attempt_of_ok ran, List.append_assoc, List.singleton_append, ← split] at kept
      exact kept.isCompiled (Lower.isCompiled_of_once ran)
    obtain ⟨lowered, needed', named, fulfilled⟩ :=
      recounted.fulfilled_of_isCompiled (lacks plan needed) hidden compiled
    exact .inl ⟨lowered, needed',
      needed.reachable.linked consistent needed'.reachable named.symm, fulfilled⟩

end Recounted

omit [ClassLoading ρ] in
/-- When the plans form a graph, there is a name that no needed plan has. -/
theorem Setting.exists_lacks {sharing : Sharing} {graph : PlanGraph}
    (consistent : PlanGraph.ofRoots sharing setting.roots = .ok graph) :
    ∃ nobody, setting.Lacks nobody := by
  obtain ⟨nobody, fresh⟩ := Infinite.exists_notMem_finset (graph.nodes.map Plan.name).toFinset
  refine ⟨nobody, fun plan needed named => fresh ?_⟩
  obtain ⟨node, found, -⟩ := needed.get? consistent
  have same : node.name = plan.name := by simpa using List.find?_some found
  exact List.mem_toFinset.mpr
    (List.mem_map.mpr ⟨node, List.mem_of_find?_eq_some found, same.trans named⟩)

/--
After calls to compile plans of which those of one name are equal, some of which may have failed,
every statement comes from a plan that is fulfilled, or was left by a call that has failed. A plan
for which a call has succeeded is fulfilled: its steps have the statements that their rules
prescribe and no others, or the call under test that it asks for comes last, and once. The exception
is a plan that has got its value in a call before which has failed.
-/
theorem Setting.attempt_fulfils (sharing : Sharing) (setting : Setting ρ) {graph : PlanGraph}
    (consistent : PlanGraph.ofRoots sharing setting.roots = .ok graph) {plans : List Plan}
    (inside : plans ⊆ setting.roots) :
    ∃ nobody origins, setting.Lacks nobody ∧ Attempted setting nobody plans origins := by
  obtain ⟨nobody, lacks⟩ := Setting.exists_lacks consistent
  obtain ⟨abandoned, origins, recounted⟩ :=
    Recounted.of_calls ⟨⟨sharing, graph, consistent⟩, lacks⟩ inside
  exact ⟨nobody, origins, lacks, recounted.attempted consistent lacks inside⟩

namespace Demo

/-- A distance that is measured after the settings have been reset. -/
def measured : Plan :=
  .mk "m" (.actions [.staticMethodCall settingsReset [],
    .externalMethodCall pointDistance (some (pointAt "q" 1 2)) [pointAt "q" 1 2]])

/-- The settings with a distance as their level. -/
def levelled : Plan :=
  .mk "l" (.actions [.staticFieldSetter settingsLevel measured])

/-- A point that is asked for a method that its class does not have. -/
def vanishing : Plan :=
  .mk "v" (.actions [.constructorCall pointConstructor [int "v.x" 3, int "v.y" 4],
    .methodCall ⟨point, "vanish", [], .void, false⟩ []])

/-- Plans one of which is nested too deep to be compiled, and one of which cannot be compiled. -/
def attempts : Setting Loader where
  config := { maxDepth := some 2 }
  loader := loader []
  roots := [levelled, measured, vanishing]

/-- The number of statements that reset the settings. -/
def resets (test : TestCase) : Nat :=
  test.statements.countP fun
    | .method handle _ _ _ => handle.name == settingsReset.name
    | _ => false

end Demo

namespace Setting

/-- Two calls fail, and the same plans are compiled again, or a part of them. -/
theorem attempt_fulfils_again :
    ∃ (graph : PlanGraph) (nobody : String) (origins : List Origin),
      PlanGraph.ofRoots .none Demo.attempts.roots = .ok graph ∧
      [Demo.levelled, Demo.measured, Demo.vanishing, Demo.vanishing] ⊆ Demo.attempts.roots ∧
      Demo.attempts.Lacks nobody ∧
      Attempted Demo.attempts nobody
        [Demo.levelled, Demo.measured, Demo.vanishing, Demo.vanishing] origins := by
  have consistent : ∃ graph, PlanGraph.ofRoots .none Demo.attempts.roots = .ok graph := by
    have succeeds : (PlanGraph.ofRoots .none Demo.attempts.roots).isOk = true := by decide +kernel
    cases built : PlanGraph.ofRoots .none Demo.attempts.roots with
    | error _ => rw [built] at succeeds; cases succeeds
    | ok graph => exact ⟨graph, rfl⟩
  obtain ⟨graph, built⟩ := consistent
  have inside : [Demo.levelled, Demo.measured, Demo.vanishing, Demo.vanishing]
      ⊆ Demo.attempts.roots := by
    simp [Demo.attempts]
  obtain ⟨nobody, origins, lacks, attempted⟩ := attempt_fulfils .none Demo.attempts built inside
  exact ⟨graph, nobody, origins, built, inside, lacks, attempted⟩

/--
A plan that is compiled after a call that has failed inside it resets the settings once more, and a
plan that has failed counts as compiled though its last step has no statement.
-/
theorem attempt_repeats :
    (∃ after, Lower.compile Demo.attempts.config Demo.measured
        (Demo.attempts.attempt [Demo.levelled]) = .ok () after ∧ Demo.resets after.test = 2) ∧
      ∃ after, Lower.compile Demo.attempts.config Demo.vanishing
          (Demo.attempts.attempt [Demo.vanishing]) = .ok () after ∧
        ∀ origins, ¬ Fulfilled Demo.attempts after origins Demo.vanishing := by
  constructor
  · obtain ⟨_, after, ran⟩ : ∃ result after, Lower.compile Demo.attempts.config Demo.measured
        (Demo.attempts.attempt [Demo.levelled]) = .ok result after :=
      exists_ok_of_run' (by decide +kernel)
    refine ⟨after, ran, ?_⟩
    rw [← attempt_of_ok ran]
    decide +kernel
  · obtain ⟨_, after, ran⟩ : ∃ result after, Lower.compile Demo.attempts.config Demo.vanishing
        (Demo.attempts.attempt [Demo.vanishing]) = .ok result after :=
      exists_ok_of_run' (by decide +kernel)
    refine ⟨after, ran, fun origins fulfilled => ?_⟩
    have none : after.test.statements.all fun
        | .method _ _ _ _ => false
        | _ => true := by
      rw [← attempt_of_ok ran]
      decide +kernel
    cases fulfilled with
    | called concluded =>
      obtain ⟨_, kind, _⟩ := concluded.prescribed
      cases kind
    | settled settled =>
      -- The second step would have to be the call of a method.
      obtain ⟨step, there, prescribed⟩ := settled.steps 1 (by decide) _ (.refl _)
      cases there
      generalize positionsOf origins _ = positions at prescribed
      cases prescribed with
      | one lowers there =>
        cases lowers with
        | methodCall _ _ calls =>
          cases calls with
          | constructor isConstructor _ _ => cases isConstructor
          | method _ _ _ _ =>
            have other := List.all_eq_true.mp none _ (List.mem_of_getElem? there)
            cases other

end Setting

end TestPlan
