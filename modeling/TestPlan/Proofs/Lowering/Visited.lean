import TestPlan.Proofs.Lowering.Terminal
import TestPlan.Proofs.Plan.Exact

/-!
Every operand of a plan is compiled with the plan, save for an object that is given to a
constructor: no constructor is called on an object, so what would make it is left out.
-/

namespace TestPlan

/-! ### Operands that are visited -/

/-- The operands of a call that are visited: all but a receiver that is given to a constructor. -/
def MethodReference.visits (method : MethodReference) (receiver : Option Plan)
    (args : List Plan) : List Plan :=
  if method.isConstructor then args else receiver.toList ++ args

/-- Whether a call gives a receiver to a constructor. -/
def MethodReference.drops (method : MethodReference) (receiver : Option Plan) : Bool :=
  method.isConstructor && receiver.isSome

namespace Action

/-- The operands of a direct step that are visited. -/
def visits : Action → List Plan
  | .externalMethodCall method receiver args => method.visits receiver args
  | step => step.operands

/-- Whether a direct step gives a receiver to a constructor. -/
def drops : Action → Bool
  | .externalMethodCall method receiver _ => method.drops receiver
  | _ => false

/-- The index or length that a direct step is told, which must be a literal. -/
def places : Action → List Plan
  | .arrayWrite index _ => [index]
  | .newArray _ length => [length]
  | _ => []

/-- An operand that is visited is read, or is an index or length. -/
theorem mem_visits {step : Action} {plan : Plan} (member : plan ∈ step.visits) :
    plan ∈ step.reads ∨ plan ∈ step.places := by
  cases step with
  | arrayWrite index value => exact (List.mem_cons.mp member).symm.imp id List.mem_singleton.mpr
  | newArray type length => exact .inr member
  | _ => exact .inl member

/-- Where no receiver is given to a constructor, all operands are visited. -/
theorem visits_of_drops {step : Action} (keeps : step.drops = false) :
    step.visits = step.operands := by
  cases step with
  | externalMethodCall method receiver args =>
    simp only [drops, MethodReference.drops] at keeps
    simp only [visits, MethodReference.visits, operands]
    cases isConstructor : method.isConstructor with
    | false => rfl
    | true =>
      -- A constructor that keeps all its operands has no receiver.
      cases receiver with
      | none => rfl
      | some plan => simp [isConstructor] at keeps
  | _ => rfl

end Action

namespace Plan

/-- The operands of a plan that are visited. -/
def visits (plan : Plan) : List Plan :=
  match plan.kind with
  | .actions steps => steps.flatMap Action.visits
  | kind => kind.operands

/-- Whether a step of a plan gives a receiver to a constructor. -/
def drops (plan : Plan) : Bool :=
  match plan.kind with
  | .actions steps => steps.any Action.drops
  | _ => false

/-- The indices and lengths that the direct steps of a plan are told. -/
def places (plan : Plan) : List Plan :=
  match plan.kind with
  | .actions steps => steps.flatMap Action.places
  | _ => []

variable {plan user other : Plan}

/-- An operand that is visited is read, or is an index or length. -/
theorem mem_visits (member : plan ∈ user.visits) :
    plan ∈ user.kind.reads ∨ plan ∈ user.places := by
  obtain ⟨name, kind⟩ := user
  cases kind with
  | actions steps =>
    obtain ⟨step, inside, member⟩ := List.mem_flatMap.mp member
    exact (Action.mem_visits member).imp (fun read => List.mem_flatMap.mpr ⟨step, inside, read⟩)
      fun place => List.mem_flatMap.mpr ⟨step, inside, place⟩
  | _ => exact .inl member

/-- Where no receiver is given to a constructor, all operands are visited. -/
theorem visits_of_drops (keeps : user.drops = false) : user.visits = user.operands := by
  obtain ⟨name, kind⟩ := user
  cases kind with
  | actions steps =>
    have each : ∀ step ∈ steps, step.visits = step.operands := fun step member =>
      step.visits_of_drops (by simpa using List.any_eq_false.mp keeps step member)
    exact List.flatMap_congr each
  | _ => rfl

/-- Literals and texts have no operands. -/
theorem isLeaf_of_mem_visits (member : plan ∈ user.visits) : user.isLeaf = false := by
  obtain ⟨name, kind⟩ := user
  cases kind with
  | primitive | text => cases member
  | _ => rfl

/-- Linked plans have linked indices and lengths. -/
theorem Linked.places (linked : user.Linked other) : LinkedAll user.places other.places := by
  rcases linked.eq_or_same with rfl | same
  · exact .refl _
  · obtain ⟨name, kind⟩ := user
    obtain ⟨name', kind'⟩ := other
    have twins : kind.Twins _ _ kind' := (same_iff_twins.mp same).2
    cases twins with
    | actions steps =>
      -- Equal plans have equal steps, and those have equal indices and lengths.
      refine LinkedAll.of_forall₂ Action.places (fun _ _ twins => ?_) steps
      cases twins with
      | arrayWrite both =>
        obtain _ | ⟨index, _⟩ := both
        exact .one index
      | newArray _ one =>
        obtain _ | ⟨length, _⟩ := one
        exact .one length
      | _ => exact .nil
    | _ => exact .nil

end Plan

/-! ### Plans that are reached -/

/-- The plans among some roots and, at any depth, among the visited operands of those. -/
inductive Visited (roots : List Plan) : Plan → Prop
  | root {plan : Plan} : plan ∈ roots → Visited roots plan
  | operand {user plan : Plan} : Visited roots user → plan ∈ user.visits → Visited roots plan

/-- Where no receiver is given to a constructor, all that is reachable is visited. -/
theorem Visited.of_reachable {roots : List Plan} {plan : Plan}
    (keeps : ∀ user, Reachable roots user → user.drops = false)
    (reachable : Reachable roots plan) : Visited roots plan := by
  induction reachable with
  | root member => exact .root member
  | operand reachable member ih =>
    exact .operand ih (Plan.visits_of_drops (keeps _ reachable) ▸ member)

/--
A test covers plans with some operands when all of these plans that are no constants are compiled,
and those have variables that are null or operands.
-/
structure CompiledTest.Covers (built : CompiledTest) (reached : Plan → Prop)
    (operands : Plan → List Plan) : Prop where
  compiled : ∀ plan, reached plan → plan.constant? = none →
    built.bindings.isCompiled plan.name = true
  null : ∀ plan, reached plan → plan.isNull = true → built.bindings.isBound plan.name = true
  used : ∀ user, reached user → ∀ plan ∈ operands user, plan.constant? = none →
    built.bindings.isBound plan.name = true

/-- A literal that stands for an index or length is a constant. -/
theorem Lower.isSome_of_literalIndex {plan : Plan} {place : Nat}
    (accepted : literalIndex plan = .ok place) : plan.constant?.isSome = true := by
  obtain ⟨name, kind⟩ := plan
  cases kind with
  -- Null is the only literal that is no constant, and it is no number either.
  | primitive value => cases value <;> first | rfl | cases accepted
  | _ => cases accepted

/-- The index or length of a step that has its statements is a constant. -/
theorem Setting.Prescribes.isSome_of_place {ρ : Type} [ClassLoading ρ] {setting : Setting ρ}
    {built : CompiledTest} {owner : String} {step : Action} {positions : List Nat} {place : Plan}
    (prescribed : setting.Prescribes built owner step positions) (member : place ∈ step.places) :
    place.constant?.isSome = true := by
  cases prescribed with
  | one lowers _ =>
    cases lowers with
    | arrayWrite _ accepted _ | newArray _ _ accepted _ =>
      cases List.mem_singleton.mp member
      exact Lower.isSome_of_literalIndex accepted
    | _ => cases member
  | initializer | arrayClass => cases member

/-- The indices and lengths of a plan that has all its statements are constants. -/
theorem Settled.isSome_of_place {ρ : Type} [ClassLoading ρ] {setting : Setting ρ}
    {built : CompiledTest} {origins : List Origin} {plan place : Plan}
    (settled : Settled setting built origins plan) (member : place ∈ plan.places) :
    place.constant?.isSome = true := by
  obtain ⟨name, kind⟩ := plan
  cases kind with
  | actions steps =>
    obtain ⟨step, inside, member⟩ := List.mem_flatMap.mp member
    obtain ⟨index, found⟩ := List.mem_iff_getElem?.mp inside
    obtain ⟨within, _⟩ := List.getElem?_eq_some_iff.mp found
    obtain ⟨step', found', prescribed⟩ := settled.steps index within built (.refl _)
    cases found.symm.trans found'
    exact prescribed.isSome_of_place member
  | _ => cases member

namespace Prepared

variable {ρ : Type} [ClassLoading ρ] {setting : Setting ρ} {session : Compilation ρ}
  {origins : List Origin} {sharing : Sharing} {graph : PlanGraph} {plan user : Plan}
  (prepared : Prepared setting session origins)
  (consistent : PlanGraph.ofRoots sharing setting.roots = .ok graph)

include prepared consistent

/-- An index or length is a constant, for its statement has been appended. -/
theorem isSome_of_place (needed : Needed setting.roots user) (member : plan ∈ user.places) :
    plan.constant?.isSome = true := by
  have steps : user.isLeaf = false := by
    obtain ⟨name, kind⟩ := user
    cases kind with
    | primitive | text => cases member
    | _ => rfl
  have compiled := prepared.isCompiled_of_needed needed (Plan.constant?_of_isLeaf steps)
  obtain ⟨lowered, needed', named, settled⟩ :=
    prepared.traced.settled user.name compiled (by simp [prepared.outermost])
  -- The plan that has been lowered for the user is equal to it, and so are their places.
  obtain ⟨node, found, linked⟩ := needed.get? consistent
  obtain ⟨node', found', linked'⟩ := needed'.get? consistent
  rw [named, found] at found'
  cases found'
  obtain ⟨place, inside, link⟩ := (linked'.symm.trans linked).places.exists_linked member
  have constant := settled.isSome_of_place inside
  rw [← Option.ne_none_iff_isSome]
  intro absent
  rw [link.alike.1.constant?_eq_none absent] at constant
  cases constant

/-- What is visited is needed, unless it is a constant. -/
theorem needed_of_visited (visited : Visited setting.roots plan) :
    plan.constant? = none → Needed setting.roots plan := by
  induction visited with
  | root member => exact fun _ => .root member
  | @operand user plan _ member ih =>
    intro absent
    have needed := ih (Plan.constant?_of_isLeaf (Plan.isLeaf_of_mem_visits member))
    rcases Plan.mem_visits member with read | place
    · exact needed.read read
    · -- Indices and lengths are constants, so this is none of them.
      have constant := prepared.isSome_of_place consistent needed place
      rw [absent] at constant
      cases constant

/-- When all roots have been compiled, what is visited is covered. -/
theorem covers : session.compiled.Covers (Visited setting.roots) Plan.visits where
  compiled _ visited absent :=
    prepared.isCompiled_of_needed (prepared.needed_of_visited consistent visited absent) absent
  null plan visited isNull := by
    obtain ⟨leaf, absent⟩ := Plan.isNull_iff.mp isNull
    have needed := prepared.needed_of_visited consistent visited absent
    exact prepared.isBound_of_isCompiled needed (prepared.isCompiled_of_needed needed absent) leaf
  used user visited plan member absent := by
    have steps := Plan.constant?_of_isLeaf (Plan.isLeaf_of_mem_visits member)
    have needed := prepared.needed_of_visited consistent visited steps
    have compiled := prepared.isCompiled_of_needed needed steps
    rcases Plan.mem_visits member with read | place
    · exact prepared.isBound_of_read needed compiled read absent
    · have constant := prepared.isSome_of_place consistent needed place
      rw [absent] at constant
      cases constant

end Prepared

/-! ### Whole tests -/

/-- A plan that has a variable keeps it. -/
theorem CompiledTest.Kept.isBound {built later : CompiledTest} (kept : built.Kept later)
    {name : String} (bound : built.bindings.isBound name = true) :
    later.bindings.isBound name = true := by
  obtain ⟨var, found⟩ := Option.isSome_iff_exists.mp bound
  exact Option.isSome_iff_exists.mpr ⟨var, kept.get? found⟩

/-- What is covered stays covered. -/
theorem CompiledTest.Covers.keep {ρ : Type} {session after : Compilation ρ}
    {reached : Plan → Prop} {operands : Plan → List Plan}
    (covers : session.compiled.Covers reached operands) (keeps : Keeps session after) :
    after.compiled.Covers reached operands where
  compiled plan there absent := keeps.isCompiled (covers.compiled plan there absent)
  null plan there isNull := keeps.toKept.isBound (covers.null plan there isNull)
  used user there plan member absent :=
    keeps.toKept.isBound (covers.used user there plan member absent)

/-- The operands that the call under test visits have variables. -/
theorem Setting.CallsOn.isBound {ρ : Type} [ClassLoading ρ] {setting : Setting ρ}
    {built : CompiledTest} {method : MethodReference} {receiver : Option Plan} {args : List Plan}
    {statement : Statement} (calls : setting.CallsOn built method receiver args statement) :
    ∀ plan ∈ method.visits receiver args, built.bindings.isBound plan.name = true := by
  have bound : ∀ {plans operands}, List.Forall₂ built.HeldBy plans operands →
      ∀ plan ∈ plans, built.bindings.isBound plan.name = true := fun held =>
    ((List.forall₂_and_left _ _).mp (held.imp fun _ _ stands =>
      ⟨stands.elim fun var own => Option.isSome_iff_exists.mpr ⟨var, own.1⟩, stands⟩)).1
  cases calls with
  | constructor isConstructor _ given =>
    rw [MethodReference.visits, if_pos isConstructor]
    exact bound given
  | method isMethod _ received given =>
    rw [MethodReference.visits, isMethod]
    exact List.forall_mem_append.mpr ⟨bound received, bound given⟩

/--
When a test has been compiled from plans of which those of one name are equal, every plan that is
visited from the roots is compiled unless it is a constant, and has a variable if it is null or an
operand of another plan or of the call under test. Where no receiver is given to a constructor,
these are all the plans that are reachable from the roots, with all their operands.
-/
theorem compileTest_covers {ρ : Type} [ClassLoading ρ] (sharing : Sharing) (loader : ρ)
    (config : CompilerConfig) (method : MethodReference) (parameters : Parameters)
    {graph : PlanGraph} (consistent : PlanGraph.ofRoots sharing parameters.roots = .ok graph)
    {test : CompiledTest} {after : Compilation ρ}
    (compiled : Lower.compileTest sharing config method parameters { loader } = .ok test after) :
    test.Covers (Visited parameters.roots) Plan.visits ∧
      (∀ plan ∈ method.visits parameters.receiver parameters.arguments,
        test.bindings.isBound plan.name = true) ∧
      ((∀ user, Reachable parameters.roots user → user.drops = false) →
        test.Covers (Reachable parameters.roots) Plan.operands) := by
  obtain ⟨rfl, prepared, _, middle, _, ready, _, keeps, ready', ended⟩ :=
    Lower.compileTest_stages consistent compiled
  have covers := (ready.covers consistent).keep keeps
  obtain ⟨_, _, calls⟩ := ended.callsOn ready' (List.subset_append_left _ _)
  refine ⟨covers, calls.isBound, fun keeps => ?_⟩
  have visited : ∀ plan, Reachable parameters.roots plan → Visited parameters.roots plan :=
    fun _ => .of_reachable keeps
  exact {
    compiled := fun plan there => covers.compiled plan (visited plan there)
    null := fun plan there => covers.null plan (visited plan there)
    used := fun user there plan member => covers.used user (visited user there) plan
      (Plan.visits_of_drops (keeps user there) ▸ member) }

/-- The distance of two points that share a coordinate. -/
def Demo.apart : Parameters where
  receiver := some (pointFrom "p" (int "x" 1) (int "y" 2))
  arguments := [pointFrom "q" (int "y" 2) (int "z" 3)]

/-- Of two points with three coordinates everything is compiled that is no constant. -/
theorem compileTest_covers_apart :
    ∃ (graph : PlanGraph) (test : CompiledTest) (after : Session),
      PlanGraph.ofRoots .none Demo.apart.roots = .ok graph ∧
      Lower.compileTest .none {} Demo.pointDistance Demo.apart { loader := Demo.loader [] }
        = .ok test after ∧
      (∀ user, Reachable Demo.apart.roots user → user.drops = false) ∧
      test.Covers (Reachable Demo.apart.roots) Plan.operands := by
  obtain ⟨graph, consistent⟩ : ∃ graph, PlanGraph.ofRoots .none Demo.apart.roots = .ok graph :=
    exists_ok_of_isOk (by decide +kernel)
  obtain ⟨test, after, ran⟩ : ∃ test after,
      Lower.compileTest .none {} Demo.pointDistance Demo.apart
        ({ loader := Demo.loader [] } : Session) = .ok test after :=
    exists_ok_of_run' (by decide +kernel)
  have keeps : ∀ user, Reachable Demo.apart.roots user → user.drops = false := by
    intro user reachable
    -- Only the points and their coordinates are reachable, and nothing is dropped by them.
    have member := reachable.mem_of_closed
      (Demo.apart.roots ++ [Demo.int "x" 1, Demo.int "y" 2, Demo.int "z" 3])
      (List.subset_append_left _ _) ?_
    · simp only [Demo.apart, Parameters.roots, Option.toList_some, List.cons_append,
        List.nil_append, List.mem_cons, List.not_mem_nil, or_false] at member
      rcases member with rfl | rfl | rfl | rfl | rfl <;> rfl
    · intro consumer member operand inside
      simp only [Demo.apart, Parameters.roots, Option.toList_some, List.cons_append,
        List.nil_append, List.mem_cons, List.not_mem_nil, or_false] at member
      rcases member with rfl | rfl | rfl | rfl | rfl <;>
        simp [Demo.pointFrom, Demo.int, Plan.operands, Plan.kind, PlanKind.operands,
          Action.operands, Demo.apart, Parameters.roots] at inside ⊢ <;> tauto
  obtain ⟨_, _, all⟩ := compileTest_covers _ _ _ _ _ consistent ran
  exact ⟨graph, test, after, consistent, ran, keeps, all keeps⟩

/-- A point whose constructor is called on another point, before the settings are reset. -/
def Demo.onPoint : Parameters where
  statics := [.mk "p" (.actions
    [.externalMethodCall pointConstructor (some (pointAt "q" 1 2)) [int "x" 3, int "y" 4]])]

/-- The point that a constructor is called on is left out of the test. -/
theorem compileTest_covers_dropped :
    ∃ (graph : PlanGraph) (test : CompiledTest) (after : Session),
      PlanGraph.ofRoots .none Demo.onPoint.roots = .ok graph ∧
      Lower.compileTest .none {} Demo.settingsReset Demo.onPoint { loader := Demo.loader [] }
        = .ok test after ∧
      Reachable Demo.onPoint.roots (Demo.pointAt "q" 1 2) ∧
      test.bindings.isCompiled "q" = false ∧
      ¬ test.Covers (Reachable Demo.onPoint.roots) Plan.operands := by
  obtain ⟨graph, consistent⟩ : ∃ graph, PlanGraph.ofRoots .none Demo.onPoint.roots = .ok graph :=
    exists_ok_of_isOk (by decide +kernel)
  obtain ⟨test, after, ran, absent⟩ : ∃ test after,
      Lower.compileTest .none {} Demo.settingsReset Demo.onPoint
        ({ loader := Demo.loader [] } : Session) = .ok test after ∧
      (!test.bindings.isCompiled "q") = true :=
    exists_ok_of_any_run' (by decide +kernel)
  rw [Bool.not_eq_true'] at absent
  have reachable : Reachable Demo.onPoint.roots (Demo.pointAt "q" 1 2) :=
    .operand (.root (List.mem_singleton_self _)) (List.mem_cons_self)
  refine ⟨graph, test, after, consistent, ran, reachable, absent, fun covers => ?_⟩
  have compiled := covers.compiled _ reachable rfl
  rw [show (Demo.pointAt "q" 1 2).name = "q" from rfl, absent] at compiled
  cases compiled

end TestPlan
