import TestPlan.Proofs.Plan.Nesting
import TestPlan.Proofs.Plan.Twins

/-! Equality of plans goes both ways and may be continued; undefined numbers equal nothing. -/

namespace TestPlan

open List (Forall₂)

/-! ### Literals -/

/-- Whether a number is undefined, and so equal to no number. -/
def Binary32.isNaN (x : Binary32) : Bool :=
  FloatFormat.single.infinityBits < x.magnitude

/-- Whether a number is undefined, and so equal to no number. -/
def Binary64.isNaN (x : Binary64) : Bool :=
  FloatFormat.double.infinityBits < x.magnitude

/-- Whether a literal is an undefined number. -/
def Literal.isNaN : Literal → Bool
  | .float x => x.isNaN
  | .double x => x.isNaN
  | _ => false

section Numbers

variable {format : FloatFormat} {x y z : Bool × Nat}

/-- Numbers are equal when they are defined, of one magnitude, and of one sign unless zero. -/
theorem sameNumber_iff : sameNumber format x y = true ↔
    x.2 ≤ format.infinityBits ∧ x.2 = y.2 ∧ (x.1 = y.1 ∨ x.2 = 0) := by
  simp [sameNumber, and_assoc]

/-- Equality of numbers goes both ways. -/
theorem sameNumber_symm (same : sameNumber format x y = true) : sameNumber format y x = true := by
  obtain ⟨finite, magnitude, sign⟩ := sameNumber_iff.mp same
  exact sameNumber_iff.mpr ⟨magnitude ▸ finite, magnitude.symm, sign.imp Eq.symm (magnitude ▸ id)⟩

/-- Equality of numbers may be continued. -/
theorem sameNumber_trans (same : sameNumber format x y = true)
    (same' : sameNumber format y z = true) : sameNumber format x z = true := by
  obtain ⟨finite, magnitude, sign⟩ := sameNumber_iff.mp same
  obtain ⟨_, magnitude', sign'⟩ := sameNumber_iff.mp same'
  refine sameNumber_iff.mpr ⟨finite, magnitude.trans magnitude', ?_⟩
  -- A number that differs in sign from an equal one is zero, and so are all equal to it.
  rcases sign with sign | zero
  · exact sign'.imp sign.trans magnitude.trans
  · exact .inr zero

end Numbers

namespace Literal

variable {value other last : Literal}

/-- Equality of literals goes both ways. -/
theorem same_symm (same : value.same other = true) : other.same value = true := by
  unfold Literal.same at same
  split at same
  · exact sameNumber_symm same
  · exact sameNumber_symm same
  · rename_i floats doubles
    rw [beq_iff_eq] at same
    subst same
    unfold Literal.same
    -- A number is not compared with itself in this case.
    split
    · exact (floats _ _ rfl rfl).elim
    · exact (doubles _ _ rfl rfl).elim
    · exact beq_self_eq_true _

/-- Equality of literals may be continued. -/
theorem same_trans (same : value.same other = true) (same' : other.same last = true) :
    value.same last = true := by
  unfold Literal.same at same
  split at same
  · -- A number is equal to no literal but numbers of its type.
    cases last with
    | float z => exact sameNumber_trans same same'
    | _ => cases same'
  · cases last with
    | double z => exact sameNumber_trans same same'
    | _ => cases same'
  · rw [beq_iff_eq] at same
    exact same ▸ same'

/-- A literal equals itself unless it is an undefined number. -/
theorem same_refl (number : value.isNaN = false) : value.same value = true := by
  cases value with
  | float x =>
    exact sameNumber_iff.mpr ⟨by simpa [isNaN, Binary32.isNaN] using number, rfl, .inl rfl⟩
  | double x =>
    exact sameNumber_iff.mpr ⟨by simpa [isNaN, Binary64.isNaN] using number, rfl, .inl rfl⟩
  | _ => exact beq_self_eq_true _

end Literal

/-! ### Steps -/

/-- Lists of steps are equal when their steps are equal one by one. -/
theorem sameSteps_iff {β : Type} {same : β → β → Bool} {sameAll : List β → List β → Bool}
    (none : sameAll [] [] = true) (fewer : ∀ other rest, sameAll [] (other :: rest) = false)
    (more : ∀ step steps, sameAll (step :: steps) [] = false)
    (both : ∀ step steps other rest,
      sameAll (step :: steps) (other :: rest) = (same step other && sameAll steps rest))
    {steps others : List β} :
    sameAll steps others = true ↔ Forall₂ (same · · = true) steps others := by
  refine ⟨forall₂_of_sameSteps fewer more both, fun equal => ?_⟩
  induction equal with
  | nil => exact none
  | cons first _ ih => rw [both, first, ih, Bool.and_self]

/-- Lists of plans are equal when their plans are equal one by one. -/
theorem samePlans_iff {plans others : List Plan} :
    samePlans plans others = true ↔ Forall₂ (Plan.same · · = true) plans others := by
  apply sameSteps_iff <;> simp [samePlans]

/-- Optional plans are equal when both are absent, or present and equal. -/
theorem sameOptional_iff {plan other : Option Plan} :
    sameOptional plan other = true ↔ Forall₂ (Plan.same · · = true) plan.toList other.toList := by
  cases plan <;> cases other <;> simp [sameOptional]

/-- Direct steps are equal when they are twins with equal operands. -/
theorem Action.same_iff_twins {step other : Action} :
    step.same other = true ↔ step.Twins (Plan.same · · = true) other := by
  constructor
  · intro same
    -- There is one case for each pair of steps that may be equal, and one for all other pairs.
    unfold Action.same at same
    split at same
    case h_17 => exact .arrayClassConstantGetter (.cons same .nil)
    case h_18 => cases same
    all_goals simp only [Bool.and_eq_true, beq_iff_eq, samePlans_iff, sameOptional_iff] at same
    case h_1 => exact .arrayWrite (.cons same.1 (.cons same.2 .nil))
    case h_2 | h_3 | h_7 | h_9 | h_15 =>
      obtain ⟨rfl, args⟩ := same
      constructor
      exact args
    case h_4 =>
      obtain ⟨⟨rfl, outer⟩, args⟩ := same
      exact .innerClassConstructorCall _ (.cons outer args)
    case h_5 | h_11 | h_16 =>
      subst same
      constructor
    case h_6 =>
      obtain ⟨rfl, rfl⟩ := same
      constructor
    case h_8 =>
      obtain ⟨⟨rfl, receiver⟩, args⟩ := same
      exact .externalMethodCall _ receiver args
    case h_10 =>
      obtain ⟨receiver, rfl⟩ := same
      exact .fieldGetter _ (.cons receiver .nil)
    case h_12 | h_13 | h_14 =>
      obtain ⟨rfl, value⟩ := same
      constructor
      exact .cons value .nil
  · intro twins
    cases twins <;> simp_all [Action.same, samePlans_iff, sameOptional_iff]

/-- Reflective steps are equal when they are twins with equal operands. -/
theorem ReflectiveAction.same_iff_twins {step other : ReflectiveAction} :
    step.same other = true ↔ step.Twins (Plan.same · · = true) other := by
  constructor
  · intro same
    unfold ReflectiveAction.same at same
    split at same
    case h_9 => cases same
    all_goals simp only [Bool.and_eq_true, beq_iff_eq] at same
    case h_1 | h_8 =>
      subst same
      constructor
    case h_2 | h_5 | h_6 =>
      obtain ⟨rfl, operand⟩ := same
      constructor
      exact .cons operand .nil
    case h_3 => exact .arrayWrite (.cons same.1 (.cons same.2 .nil))
    case h_4 =>
      obtain ⟨⟨array, index⟩, rfl⟩ := same
      exact .arrayRead _ (.cons array (.cons index .nil))
    case h_7 =>
      obtain ⟨receiver, rfl⟩ := same
      exact .getField _ (.cons receiver .nil)
  · intro twins
    cases twins <;> simp_all [ReflectiveAction.same]

/-- Test calls are equal when they are twins with equal operands. -/
theorem TestCall.same_iff_twins {call other : TestCall} :
    call.same other = true ↔ call.Twins (Plan.same · · = true) other := by
  constructor
  · intro same
    obtain ⟨method, receiver, args⟩ := call
    obtain ⟨method', receiver', args'⟩ := other
    simp only [TestCall.same, Bool.and_eq_true, beq_iff_eq, samePlans_iff, sameOptional_iff] at same
    obtain ⟨⟨rfl, received⟩, given⟩ := same
    exact .mk _ received given
  · rintro ⟨method, received, given⟩
    simp only [TestCall.same, Bool.and_eq_true, beq_self_eq_true, samePlans_iff, sameOptional_iff]
    exact ⟨⟨trivial, received⟩, given⟩

/-- Kinds are equal when they are twins with equal literals and operands. -/
theorem PlanKind.same_iff_twins {kind other : PlanKind} :
    kind.same other = true ↔
      kind.Twins (Plan.same · · = true) (Literal.same · · = true) other := by
  have direct : ∀ {steps others : List Action}, sameActions steps others = true ↔
      Forall₂ (Action.same · · = true) steps others := by
    intro steps others
    apply sameSteps_iff <;> simp [sameActions]
  have reflective : ∀ {steps others : List ReflectiveAction},
      sameReflectiveActions steps others = true ↔
        Forall₂ (ReflectiveAction.same · · = true) steps others := by
    intro steps others
    apply sameSteps_iff <;> simp [sameReflectiveActions]
  constructor
  · intro same
    unfold PlanKind.same at same
    split at same
    case h_1 => exact .actions ((direct.mp same).imp fun _ _ => Action.same_iff_twins.mp)
    case h_2 =>
      exact .reflection ((reflective.mp same).imp fun _ _ => ReflectiveAction.same_iff_twins.mp)
    case h_3 => exact .testCall (TestCall.same_iff_twins.mp same)
    case h_4 => exact .primitive same
    case h_5 | h_6 | h_7 =>
      cases beq_iff_eq.mp same
      constructor
    case h_8 => cases same
  · intro twins
    cases twins with
    | actions steps =>
      simpa only [PlanKind.same, direct] using steps.imp fun _ _ => Action.same_iff_twins.mpr
    | reflection steps =>
      simpa only [PlanKind.same, reflective] using
        steps.imp fun _ _ => ReflectiveAction.same_iff_twins.mpr
    | testCall call => simpa only [PlanKind.same] using TestCall.same_iff_twins.mpr call
    | primitive literal => simpa only [PlanKind.same] using literal
    | text | mock | unknown => simp [PlanKind.same]

/-! ### Plans -/

namespace Plan

variable {plan other last : Plan}

/-- Plans are equal when they have one name and kinds that are twins. -/
theorem same_iff_twins : plan.same other = true ↔ plan.name = other.name ∧
    plan.kind.Twins (Plan.same · · = true) (Literal.same · · = true) other.kind := by
  cases plan
  cases other
  simp only [Plan.same, Bool.and_eq_true, beq_iff_eq, PlanKind.same_iff_twins]
  rfl

/-- Equality of plans goes both ways. -/
theorem same_symm (same : plan.same other = true) : other.same plan = true := by
  -- The induction is on what a plan reads at any depth.
  induction plan using induction_operands generalizing other with
  | step plan ih =>
    obtain ⟨name, twins⟩ := same_iff_twins.mp same
    have exchanged : plan.kind.Twins (flip (Plan.same · · = true)) (flip (Literal.same · · = true))
        other.kind := twins.imp_mem (fun _ _ => Literal.same_symm) fun _ member _ => ih _ member
    exact same_iff_twins.mpr ⟨name.symm, exchanged.symm⟩

/-- Equality of plans may be continued. -/
theorem same_trans (same : plan.same other = true) (same' : other.same last = true) :
    plan.same last = true := by
  induction plan using induction_operands generalizing other last with
  | step plan ih =>
    obtain ⟨name, twins⟩ := same_iff_twins.mp same
    obtain ⟨name', twins'⟩ := same_iff_twins.mp same'
    -- An operand of the first plan and one of the last are both equal to one between.
    refine same_iff_twins.mpr ⟨name.trans name', (twins.comp twins').imp_mem ?_ ?_⟩
    · exact fun _ _ ⟨_, same, same'⟩ => Literal.same_trans same same'
    · exact fun _ member _ ⟨_, same, same'⟩ => ih _ member same same'

/-- Linked plans are equal, unless they are one plan. -/
theorem Linked.eq_or_same (linked : plan.Linked other) : plan = other ∨ plan.same other = true := by
  induction linked with
  | refl => exact .inl rfl
  | step same _ ih =>
    rcases ih with rfl | same'
    · exact .inr same
    · exact .inr (same_trans same same')

/-- Equal plans have operands that are equal one by one. -/
theorem forall₂_operands_of_same (same : plan.same other = true) :
    Forall₂ (Plan.same · · = true) plan.operands other.operands :=
  (same_iff_twins.mp same).2.operands

/-- Links go both ways. -/
theorem Linked.symm (linked : plan.Linked other) : other.Linked plan := by
  rcases linked.eq_or_same with rfl | same
  · exact .refl plan
  · exact .step (same_symm same) (.refl plan)

/-- Linked plans have linked operands. -/
theorem Linked.exists_operand (linked : plan.Linked other) {operand : Plan}
    (member : operand ∈ other.operands) : ∃ source ∈ plan.operands, source.Linked operand := by
  rcases linked.eq_or_same with rfl | same
  · exact ⟨operand, member, .refl operand⟩
  · obtain ⟨source, inside, same'⟩ := exists_of_forall₂ (forall₂_operands_of_same same) member
    exact ⟨source, inside, .step same' (.refl operand)⟩

end Plan

end TestPlan
