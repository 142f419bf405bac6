import TestPlan.Proofs.Plan.Consistent

/-! What the steps of a plan do with its value. -/

namespace TestPlan

/-- What a step does with the value of its plan. -/
inductive Role where
  /-- The step makes the value. -/
  | produces
  /-- The step works on the value, which must have been made. -/
  | uses
  | neither
  deriving DecidableEq

/-- What a direct step does with the value of its plan. -/
def Action.role : Action → Role
  | .constructorCall _ _
  | .externalConstructorCall _ _
  | .innerClassConstructorCall _ _ _
  | .defaultConstructorCall _
  | .enumValueCreation _ _
  | .externalMethodCall _ _ _
  | .fieldGetter _ _
  | .staticFieldGetter _
  | .newArray _ _
  | .newArrayWithInitializer _ _
  | .classConstantGetter _
  | .arrayClassConstantGetter _ => .produces
  | .arrayWrite _ _
  | .methodCall _ _
  | .fieldSetter _ _ => .uses
  | .staticMethodCall _ _
  | .staticFieldSetter _ _ => .neither

/-- What a reflective step does with the value of its plan. -/
def ReflectiveAction.role : ReflectiveAction → Role
  | .newInstance _
  | .newArray _ _
  | .arrayRead _ _ _
  | .getField _ _
  | .getStaticField _ => .produces
  | .arrayWrite _ _
  | .setField _ _ => .uses
  | .setStaticField _ _ => .neither

namespace Plan

/-- What the steps of a plan do with its value, one after the other, if it is made of steps. -/
def roles? (plan : Plan) : Option (List Role) :=
  match plan.kind with
  | .actions steps => some (steps.map Action.role)
  | .reflection steps => some (steps.map ReflectiveAction.role)
  | _ => none

/-- Whether a plan is a call under test. -/
def isTestCall (plan : Plan) : Bool :=
  match plan.kind with
  | .testCall _ => true
  | _ => false

/-- Two steps make the value of the plan. -/
def ProducesTwice (plan : Plan) : Prop :=
  ∃ roles, plan.roles? = some roles ∧ 2 ≤ roles.count .produces

/-- A step works on the value of the plan before any step makes it. -/
def UsesEarly (plan : Plan) : Prop :=
  ∃ before after, plan.roles? = some (before ++ .uses :: after) ∧ .produces ∉ before

/-- The plan is a call under test, or made of steps none of which makes its value. -/
def Valueless (plan : Plan) : Prop :=
  plan.isTestCall = true ∨ ∃ roles, plan.roles? = some roles ∧ .produces ∉ roles

section Kinds

variable {plan : Plan}

/-- A plan that is made of steps is no call under test. -/
theorem isTestCall_of_roles? {roles : List Role} (made : plan.roles? = some roles) :
    plan.isTestCall = false := by
  unfold roles? at made
  unfold isTestCall
  split <;> simp_all

/-- A call under test is not made of steps. -/
theorem roles?_of_isTestCall (call : plan.isTestCall = true) : plan.roles? = none := by
  unfold isTestCall at call
  unfold roles?
  split at call <;> simp_all

/-- A literal or text is neither made of steps nor a call under test. -/
theorem roles?_of_isLeaf (leaf : plan.isLeaf = true) :
    plan.roles? = none ∧ plan.isTestCall = false := by
  unfold isLeaf at leaf
  unfold roles? isTestCall
  split at leaf <;> simp_all

/-- A call under test is one of its kind. -/
theorem kind_of_isTestCall (isCall : plan.isTestCall = true) :
    ∃ call, plan.kind = .testCall call := by
  unfold isTestCall at isCall
  split at isCall
  · rename_i call kind
    exact ⟨call, kind⟩
  · cases isCall

/-- A call under test is no literal or text. -/
theorem isLeaf_of_isTestCall (call : plan.isTestCall = true) : plan.isLeaf = false := by
  rw [← Bool.not_eq_true]
  intro leaf
  rw [(roles?_of_isLeaf leaf).2] at call
  cases call

/-- A plan that is not made of steps does not make its value twice. -/
theorem not_producesTwice_of_roles? (none : plan.roles? = none) : ¬ plan.ProducesTwice := by
  rintro ⟨roles, made, _⟩
  rw [none] at made
  cases made

/-- A plan that makes its value twice is no literal or text. -/
theorem ProducesTwice.isLeaf (twice : plan.ProducesTwice) : plan.isLeaf = false := by
  rw [← Bool.not_eq_true]
  exact fun leaf => not_producesTwice_of_roles? (roles?_of_isLeaf leaf).1 twice

end Kinds

end Plan

/-! ### Equal plans -/

/-- Equal direct steps do the same with the value of their plan. -/
theorem Action.role_eq_of_same {step other : Action} (same : step.same other = true) :
    step.role = other.role := by
  unfold Action.same at same
  -- Equal steps are of one kind, and the kind decides.
  split at same <;> first | rfl | cases same

/-- Equal reflective steps do the same with the value of their plan. -/
theorem ReflectiveAction.role_eq_of_same {step other : ReflectiveAction}
    (same : step.same other = true) : step.role = other.role := by
  unfold ReflectiveAction.same at same
  split at same <;> first | rfl | cases same

/-- Steps that are related one by one do the same, if related steps do. -/
theorem map_role_of_forall₂ {β : Type} {related : β → β → Prop} {role : β → Role}
    {steps others : List β} (all : List.Forall₂ related steps others)
    (each : ∀ step other, related step other → role step = role other) :
    steps.map role = others.map role := by
  induction all with
  | nil => rfl
  | cons first _ ih => rw [List.map_cons, List.map_cons, each _ _ first, ih]

namespace Plan

/-- Equal plans are made of steps that do the same, or are calls under test together. -/
theorem roles?_of_same {plan other : Plan} (same : plan.same other = true) :
    plan.roles? = other.roles? ∧ plan.isTestCall = other.isTestCall := by
  obtain ⟨name, kind⟩ := plan
  obtain ⟨name', kind'⟩ := other
  simp only [Plan.same, Bool.and_eq_true] at same
  have same := same.2
  unfold PlanKind.same at same
  -- Equal plans are of one kind, and only two kinds are made of steps.
  split at same
  case h_1 =>
    have roles := map_role_of_forall₂ (forall₂_of_sameActions same)
      fun _ _ => Action.role_eq_of_same
    exact ⟨congrArg some roles, rfl⟩
  case h_2 =>
    have roles := map_role_of_forall₂ (forall₂_of_sameReflectiveActions same)
      fun _ _ => ReflectiveAction.role_eq_of_same
    exact ⟨congrArg some roles, rfl⟩
  case h_3 | h_4 | h_5 | h_6 | h_7 => exact ⟨rfl, rfl⟩
  case h_8 => cases same

/-- Linked plans are made of steps that do the same, or are calls under test together. -/
theorem Linked.roles? {plan other : Plan} (linked : plan.Linked other) :
    plan.roles? = other.roles? ∧ plan.isTestCall = other.isTestCall := by
  -- The induction is on the chain of equal plans.
  induction linked with
  | refl => exact ⟨rfl, rfl⟩
  | step same _ ih =>
    obtain ⟨roles, call⟩ := roles?_of_same same
    exact ⟨roles.trans ih.1, call.trans ih.2⟩

namespace Linked

variable {plan other : Plan} (linked : plan.Linked other)

include linked

/-- Linked plans make their value twice together. -/
theorem producesTwice : plan.ProducesTwice ↔ other.ProducesTwice := by
  rw [ProducesTwice, ProducesTwice, linked.roles?.1]

/-- Linked plans work on a missing value together. -/
theorem usesEarly : plan.UsesEarly ↔ other.UsesEarly := by
  rw [UsesEarly, UsesEarly, linked.roles?.1]

/-- Linked plans go without a value together. -/
theorem valueless : plan.Valueless ↔ other.Valueless := by
  rw [Valueless, Valueless, linked.roles?.1, linked.roles?.2]

end Linked

end Plan

end TestPlan
