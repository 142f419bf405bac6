import Mathlib.Data.List.Forall2
import TestPlan.Lowering.Session

/-! The plans that compiling some roots needs, and what those of one name have in common. -/

namespace TestPlan

namespace Plan

/-- The constant that a plan of a literal or text stands for, unless it is null. -/
def constant? (plan : Plan) : Option Constant :=
  match plan.kind with
  | .primitive value => value.constant?
  | .text value => some (.text value)
  | _ => none

/-- Whether a plan is a literal or text. -/
def isLeaf (plan : Plan) : Bool :=
  match plan.kind with
  | .primitive _
  | .text _ => true
  | _ => false

/-- Whether a plan is null. -/
def isNull (plan : Plan) : Bool :=
  plan.isLeaf && plan.constant?.isNone

/-- Whether a plan is made of steps, if only of none. -/
def isStepwise (plan : Plan) : Bool :=
  match plan.kind with
  | .actions _
  | .reflection _ => true
  | _ => false

/-- The number of steps of a plan. -/
def stepCount (plan : Plan) : Nat :=
  match plan.kind with
  | .actions steps => steps.length
  | .reflection steps => steps.length
  | _ => 0

end Plan

/-- The operands whose values a step reads; literal indices and lengths are not among them. -/
def Action.reads : Action → List Plan
  | .arrayWrite _ value => [value]
  | .newArray _ _ => []
  | .externalMethodCall method receiver args =>
    if method.isConstructor then args else receiver.toList ++ args
  | step => step.operands

/-- The operands whose values a plan of a kind reads. -/
def PlanKind.reads : PlanKind → List Plan
  | .actions steps => steps.flatMap Action.reads
  | kind => kind.operands

/-- The plans that compiling some roots has to compile or to read. -/
inductive Needed (roots : List Plan) : Plan → Prop
  | root {plan : Plan} : plan ∈ roots → Needed roots plan
  | read {consumer plan : Plan} : Needed roots consumer → plan ∈ consumer.kind.reads →
      Needed roots plan

/-! ### Equal plans -/

/-- Two plans of one name that a compilation does not tell apart. -/
structure Plan.Alike (plan other : Plan) : Prop where
  name : plan.name = other.name
  isLeaf : plan.isLeaf = other.isLeaf
  isNull : plan.isNull = other.isNull
  stepCount : plan.stepCount = other.stepCount
  reads : plan.kind.reads.map Plan.name = other.kind.reads.map Plan.name

/-- Plans of which each is equal to the next one. -/
inductive Plan.Linked : Plan → Plan → Prop
  | refl (plan : Plan) : Linked plan plan
  | step {plan next other : Plan} : plan.same next = true → Linked next other → Linked plan other

/-- Lists of plans that are linked one by one. -/
inductive LinkedAll : List Plan → List Plan → Prop
  | nil : LinkedAll [] []
  | cons {plan other : Plan} {plans others : List Plan} : plan.Linked other →
      LinkedAll plans others → LinkedAll (plan :: plans) (other :: others)

namespace LinkedAll

/-- Plans are linked to themselves. -/
theorem refl (plans : List Plan) : LinkedAll plans plans := by
  induction plans with
  | nil => exact .nil
  | cons plan rest ih => exact .cons (.refl plan) ih

/-- Equal optional plans are linked. -/
theorem of_sameOptional {plan other : Option Plan} (same : sameOptional plan other = true) :
    LinkedAll plan.toList other.toList := by
  cases plan <;> cases other <;> simp [sameOptional] at same
  · exact .nil
  · exact .cons (.step same (.refl _)) .nil

/-- Lists that are linked may be put together. -/
theorem append {plans others plans' others' : List Plan} (first : LinkedAll plans others)
    (second : LinkedAll plans' others') : LinkedAll (plans ++ plans') (others ++ others') := by
  induction first with
  | nil => exact second
  | cons linked _ ih => exact .cons linked ih

/-- Equal plans are linked on their own. -/
theorem one {plan other : Plan} (same : plan.same other = true) : LinkedAll [plan] [other] :=
  .cons (.step same (.refl other)) .nil

/-- Steps that are related one by one read linked plans, if related steps do. -/
theorem of_forall₂ {β : Type} {related : β → β → Prop} (reads : β → List Plan)
    (each : ∀ step other, related step other → LinkedAll (reads step) (reads other))
    {steps others : List β} (all : List.Forall₂ related steps others) :
    LinkedAll (steps.flatMap reads) (others.flatMap reads) := by
  induction all with
  | nil => exact .nil
  | cons first _ ih => simpa only [List.flatMap_cons] using (each _ _ first).append ih

end LinkedAll

/-- Equal lists of steps are equal one by one. -/
theorem forall₂_of_sameSteps {β : Type} {same : β → β → Bool} {sameAll : List β → List β → Bool}
    (fewer : ∀ other rest, sameAll [] (other :: rest) = false)
    (more : ∀ step steps, sameAll (step :: steps) [] = false)
    (both : ∀ step steps other rest,
      sameAll (step :: steps) (other :: rest) = (same step other && sameAll steps rest))
    {steps others : List β} (equal : sameAll steps others = true) :
    List.Forall₂ (same · · = true) steps others := by
  -- The induction is on the steps, and lists of different lengths are never equal.
  induction steps generalizing others with
  | nil =>
    cases others with
    | nil => exact .nil
    | cons other rest =>
      rw [fewer] at equal
      cases equal
  | cons step steps ih =>
    cases others with
    | nil =>
      rw [more] at equal
      cases equal
    | cons other rest =>
      rw [both, Bool.and_eq_true] at equal
      exact .cons equal.1 (ih equal.2)

/-- Equal lists of plans are linked. -/
theorem LinkedAll.of_same {plans others : List Plan} (same : samePlans plans others = true) :
    LinkedAll plans others := by
  have equal : List.Forall₂ (Plan.same · · = true) plans others := by
    refine forall₂_of_sameSteps ?_ ?_ ?_ same <;> simp [samePlans]
  simpa only [List.flatMap_singleton'] using of_forall₂ ([·]) (fun _ _ => LinkedAll.one) equal

/-- Equal lists of direct steps are equal one by one. -/
theorem forall₂_of_sameActions {steps others : List Action}
    (same : sameActions steps others = true) :
    List.Forall₂ (Action.same · · = true) steps others := by
  refine forall₂_of_sameSteps ?_ ?_ ?_ same <;> simp [sameActions]

/-- Equal lists of reflective steps are equal one by one. -/
theorem forall₂_of_sameReflectiveActions {steps others : List ReflectiveAction}
    (same : sameReflectiveActions steps others = true) :
    List.Forall₂ (ReflectiveAction.same · · = true) steps others := by
  refine forall₂_of_sameSteps ?_ ?_ ?_ same <;> simp [sameReflectiveActions]

/-- Equal direct steps read equal plans. -/
theorem Action.linkedAll_reads {step other : Action} (same : step.same other = true) :
    LinkedAll step.reads other.reads := by
  -- There is one case for each pair of steps that may be equal, and one for all other pairs.
  unfold Action.same at same
  split at same
  case h_1 => exact .one (Bool.and_eq_true_iff.mp same).2
  case h_2 | h_3 | h_7 | h_9 | h_15 => exact .of_same (Bool.and_eq_true_iff.mp same).2
  case h_4 =>
    obtain ⟨both, args⟩ := Bool.and_eq_true_iff.mp same
    exact .append (.one (Bool.and_eq_true_iff.mp both).2) (.of_same args)
  case h_5 | h_6 | h_11 | h_14 | h_16 => exact .nil
  case h_8 =>
    simp only [Bool.and_eq_true, beq_iff_eq] at same
    obtain ⟨⟨rfl, receiver⟩, args⟩ := same
    simp only [reads]
    -- A constructor does not read the receiver.
    split
    · exact .of_same args
    · exact .append (.of_sameOptional receiver) (.of_same args)
  case h_10 => exact .one (Bool.and_eq_true_iff.mp same).1
  case h_12 | h_13 => exact .one (Bool.and_eq_true_iff.mp same).2
  case h_17 => exact .one same
  case h_18 => cases same

/-- Equal reflective steps read equal plans. -/
theorem ReflectiveAction.linkedAll_operands {step other : ReflectiveAction}
    (same : step.same other = true) : LinkedAll step.operands other.operands := by
  unfold ReflectiveAction.same at same
  split at same
  case h_1 | h_8 => exact .nil
  case h_2 | h_5 | h_6 => exact .one (Bool.and_eq_true_iff.mp same).2
  case h_3 =>
    obtain ⟨index, value⟩ := Bool.and_eq_true_iff.mp same
    exact .append (.one index) (.one value)
  case h_4 =>
    obtain ⟨array, index⟩ := Bool.and_eq_true_iff.mp (Bool.and_eq_true_iff.mp same).1
    exact .append (.one array) (.one index)
  case h_7 => exact .one (Bool.and_eq_true_iff.mp same).1
  case h_9 => cases same

/-- Equal test calls read equal plans. -/
theorem TestCall.linkedAll_operands {call other : TestCall} (same : call.same other = true) :
    LinkedAll call.operands other.operands := by
  cases call
  cases other
  simp only [TestCall.same, Bool.and_eq_true] at same
  exact .append (.of_sameOptional same.1.2) (.of_same same.2)

/-- Equal literals are null together. -/
theorem Literal.isSome_constant?_of_same {value other : Literal} (same : value.same other = true) :
    value.constant?.isSome = other.constant?.isSome := by
  unfold Literal.same at same
  split at same
  · rfl
  · rfl
  · rw [beq_iff_eq] at same
    rw [same]

namespace Plan

/-- Likeness may be continued. -/
theorem Alike.trans {plan next other : Plan} (first : plan.Alike next)
    (second : next.Alike other) : plan.Alike other where
  name := first.name.trans second.name
  isLeaf := first.isLeaf.trans second.isLeaf
  isNull := first.isNull.trans second.isNull
  stepCount := first.stepCount.trans second.stepCount
  reads := first.reads.trans second.reads

/-- Likeness goes both ways. -/
theorem Alike.symm {plan other : Plan} (alike : plan.Alike other) : other.Alike plan where
  name := alike.name.symm
  isLeaf := alike.isLeaf.symm
  isNull := alike.isNull.symm
  stepCount := alike.stepCount.symm
  reads := alike.reads.symm

/-- Equal plans have one name. -/
theorem name_eq_of_same {plan other : Plan} (same : plan.same other = true) :
    plan.name = other.name := by
  cases plan
  cases other
  simp only [Plan.same, Bool.and_eq_true, beq_iff_eq] at same
  exact same.1

/-- Linked plans have one name. -/
theorem Linked.name {plan other : Plan} (linked : plan.Linked other) :
    plan.name = other.name := by
  induction linked with
  | refl => rfl
  | step same _ ih => exact (name_eq_of_same same).trans ih

/-- Links may be continued. -/
theorem Linked.trans {plan next other : Plan} (first : plan.Linked next)
    (second : next.Linked other) : plan.Linked other := by
  induction first with
  | refl => exact second
  | step same _ ih => exact .step same (ih second)

end Plan

namespace LinkedAll

/-- Links of lists may be continued. -/
theorem trans {plans nexts others : List Plan} (first : LinkedAll plans nexts)
    (second : LinkedAll nexts others) : LinkedAll plans others := by
  induction first generalizing others with
  | nil => exact second
  | cons linked _ ih =>
    cases second with
    | cons linked' rest => exact .cons (linked.trans linked') (ih rest)

/-- Linked lists have the same names. -/
theorem map_name {plans others : List Plan} (linked : LinkedAll plans others) :
    plans.map Plan.name = others.map Plan.name := by
  induction linked with
  | nil => rfl
  | cons linked _ ih => rw [List.map_cons, List.map_cons, linked.name, ih]

/-- Every plan of a list has a plan that is linked to it. -/
theorem exists_linked {plans others : List Plan} (linked : LinkedAll plans others)
    {other : Plan} (member : other ∈ others) : ∃ plan ∈ plans, plan.Linked other := by
  induction linked with
  | nil => cases member
  | cons first _ ih =>
    -- The plan at the same place is the one that is linked.
    rcases List.mem_cons.mp member with rfl | later
    · exact ⟨_, List.mem_cons_self, first⟩
    · obtain ⟨plan, inside, linked⟩ := ih later
      exact ⟨plan, List.mem_cons_of_mem _ inside, linked⟩

/-- Every plan of a list has a plan that it is linked to. -/
theorem exists_linked' {plans others : List Plan} (linked : LinkedAll plans others)
    {plan : Plan} (member : plan ∈ plans) : ∃ other ∈ others, plan.Linked other := by
  induction linked with
  | nil => cases member
  | cons first _ ih =>
    rcases List.mem_cons.mp member with rfl | later
    · exact ⟨_, List.mem_cons_self, first⟩
    · obtain ⟨other, inside, linked⟩ := ih later
      exact ⟨other, List.mem_cons_of_mem _ inside, linked⟩

end LinkedAll

namespace Plan

/-- Equal plans are alike, and read equal plans. -/
theorem alike_of_same {plan other : Plan} (same : plan.same other = true) :
    plan.Alike other ∧ LinkedAll plan.kind.reads other.kind.reads := by
  obtain ⟨name, kind⟩ := plan
  obtain ⟨name', kind'⟩ := other
  simp only [Plan.same, Bool.and_eq_true, beq_iff_eq] at same
  obtain ⟨rfl, same⟩ := same
  -- The kinds agree, and so do the numbers of steps and what they read.
  suffices facts : (mk name kind).isLeaf = (mk name kind').isLeaf ∧
      (mk name kind).isNull = (mk name kind').isNull ∧
      (mk name kind).stepCount = (mk name kind').stepCount ∧
      LinkedAll kind.reads kind'.reads from
    ⟨⟨rfl, facts.1, facts.2.1, facts.2.2.1, facts.2.2.2.map_name⟩, facts.2.2.2⟩
  unfold PlanKind.same at same
  split at same
  case h_1 =>
    have equal := forall₂_of_sameActions same
    exact ⟨rfl, rfl, equal.length_eq,
      .of_forall₂ Action.reads (fun _ _ => Action.linkedAll_reads) equal⟩
  case h_2 =>
    have equal := forall₂_of_sameReflectiveActions same
    exact ⟨rfl, rfl, equal.length_eq,
      .of_forall₂ ReflectiveAction.operands (fun _ _ => ReflectiveAction.linkedAll_operands) equal⟩
  case h_3 => exact ⟨rfl, rfl, rfl, TestCall.linkedAll_operands same⟩
  case h_4 =>
    -- Literals are compared by value, and of those only nulls are equal to nulls.
    have null := Literal.isSome_constant?_of_same same
    exact ⟨rfl, by simp [isNull, isLeaf, constant?, kind, ← Option.not_isSome, null], rfl, .nil⟩
  case h_5 | h_6 | h_7 => exact ⟨rfl, rfl, rfl, .nil⟩
  case h_8 => cases same

/-- Linked plans are alike, and read linked plans. -/
theorem Linked.alike {plan other : Plan} (linked : plan.Linked other) :
    plan.Alike other ∧ LinkedAll plan.kind.reads other.kind.reads := by
  induction linked with
  | refl => exact ⟨⟨rfl, rfl, rfl, rfl, rfl⟩, .refl _⟩
  | step same _ ih =>
    -- The induction is on the chain, each link of which is an equality.
    obtain ⟨alike, reads⟩ := alike_of_same same
    exact ⟨alike.trans ih.1, reads.trans ih.2⟩

end Plan

/-! ### Literals and texts -/

namespace Plan

variable {plan : Plan}

/-- A constant is a literal or text. -/
theorem isLeaf_of_constant? (constant : plan.constant?.isSome = true) : plan.isLeaf = true := by
  unfold constant? at constant
  unfold isLeaf
  split at constant <;> simp_all

/-- A plan that is no literal or text is no constant. -/
theorem constant?_of_isLeaf (steps : plan.isLeaf = false) : plan.constant? = none := by
  rw [← Option.not_isSome_iff_eq_none]
  intro constant
  rw [isLeaf_of_constant? constant] at steps
  cases steps

/-- A null is a literal, and no constant. -/
theorem isNull_iff : plan.isNull = true ↔ plan.isLeaf = true ∧ plan.constant? = none := by
  rw [isNull, Bool.and_eq_true, Option.isNone_iff_eq_none]

/-- A literal or text has no steps. -/
theorem stepCount_of_isLeaf (leaf : plan.isLeaf = true) : plan.stepCount = 0 := by
  unfold isLeaf at leaf
  unfold stepCount
  split at leaf <;> simp_all

/-- A literal or text reads nothing. -/
theorem reads_of_isLeaf (leaf : plan.isLeaf = true) : plan.kind.reads = [] := by
  unfold isLeaf at leaf
  split at leaf <;> simp_all [PlanKind.reads, PlanKind.operands]

/-- Only plans that are alike to a constant are constants. -/
theorem Alike.constant?_eq_none {other : Plan} (alike : plan.Alike other)
    (absent : other.constant? = none) : plan.constant? = none := by
  by_cases leaf : plan.isLeaf = true
  · -- A leaf that is no constant is null, and so is one that is alike to it.
    have null : other.isNull = true := isNull_iff.mpr ⟨alike.isLeaf ▸ leaf, absent⟩
    exact (isNull_iff.mp (alike.isNull.trans null)).2
  · exact constant?_of_isLeaf (by simpa using leaf)

end Plan

/-! ### Operands that are read -/

/-- What a step reads is among its operands. -/
theorem Action.reads_subset (step : Action) : step.reads ⊆ step.operands := by
  intro plan read
  -- Only indices, lengths and the receivers of constructors are left out.
  unfold reads at read
  split at read
  · simp_all [operands]
  · cases read
  · split at read
    · exact List.mem_append_right _ read
    · exact read
  · exact read

/-- What a plan reads is among its operands. -/
theorem PlanKind.reads_subset (kind : PlanKind) : kind.reads ⊆ kind.operands := by
  intro plan read
  unfold reads at read
  split at read
  · obtain ⟨step, member, read⟩ := List.mem_flatMap.mp read
    exact List.mem_flatMap.mpr ⟨step, member, step.reads_subset read⟩
  · exact read

end TestPlan
