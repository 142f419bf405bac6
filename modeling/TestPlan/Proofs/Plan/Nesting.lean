import TestPlan.Proofs.Plan.Needed

/-! How deep plans nest, and why none has a plan inside that equals it. -/

namespace TestPlan

/-! ### Operands are smaller -/

/-- A step is larger than a plan that is its receiver or one of its arguments. -/
theorem Plan.sizeOf_lt_of_mem_append {plan : Plan} {receiver : Option Plan} {args : List Plan}
    (member : plan ∈ receiver.toList ++ args) : sizeOf plan < sizeOf receiver + sizeOf args := by
  rcases List.mem_append.mp member with received | given
  · cases Option.mem_toList.mp received
    simp only [Option.some.sizeOf_spec]
    omega
  · have smaller := List.sizeOf_lt_of_mem given
    omega

/-- A step is larger than either of its two operands. -/
theorem Plan.sizeOf_lt_of_mem_pair {plan first second : Plan} (member : plan ∈ [first, second]) :
    sizeOf plan < 1 + sizeOf first + sizeOf second := by
  rcases List.mem_cons.mp member with rfl | member
  · omega
  · cases List.mem_singleton.mp member
    omega

/-- A direct step is larger than its operands. -/
theorem Action.sizeOf_lt_of_mem {step : Action} {plan : Plan} (member : plan ∈ step.operands) :
    sizeOf plan < sizeOf step := by
  -- An operand is a field of the step, or in a list that is one.
  cases step with
  | constructorCall _ args | externalConstructorCall _ args | methodCall _ args
  | staticMethodCall _ args | newArrayWithInitializer _ args =>
    have smaller := List.sizeOf_lt_of_mem (show plan ∈ args from member)
    simp
    omega
  | externalMethodCall _ receiver args =>
    have smaller := Plan.sizeOf_lt_of_mem_append member
    simp
    omega
  | innerClassConstructorCall _ outer args =>
    rcases List.mem_cons.mp member with rfl | given
    · simp
      omega
    · have smaller := List.sizeOf_lt_of_mem given
      simp
      omega
  | arrayWrite index value =>
    have smaller := Plan.sizeOf_lt_of_mem_pair member
    simp
    omega
  | fieldGetter operand _ | fieldSetter _ operand | staticFieldSetter _ operand
  | newArray _ operand | arrayClassConstantGetter operand =>
    cases List.mem_singleton.mp member
    simp only [fieldGetter.sizeOf_spec, fieldSetter.sizeOf_spec, staticFieldSetter.sizeOf_spec,
      newArray.sizeOf_spec, arrayClassConstantGetter.sizeOf_spec]
    omega
  | defaultConstructorCall _ | enumValueCreation _ _ | staticFieldGetter _
  | classConstantGetter _ => cases member

/-- A reflective step is larger than its operands. -/
theorem ReflectiveAction.sizeOf_lt_of_mem {step : ReflectiveAction} {plan : Plan}
    (member : plan ∈ step.operands) : sizeOf plan < sizeOf step := by
  cases step with
  | newInstance _ | getStaticField _ => cases member
  | newArray _ operand | setField _ operand | setStaticField _ operand | getField operand _ =>
    cases List.mem_singleton.mp member
    simp only [newArray.sizeOf_spec, setField.sizeOf_spec, setStaticField.sizeOf_spec,
      getField.sizeOf_spec]
    omega
  | arrayWrite first second | arrayRead first second _ =>
    have smaller := Plan.sizeOf_lt_of_mem_pair member
    simp
    omega

namespace Plan

/-- A plan is larger than its operands. -/
theorem sizeOf_lt_of_operand {plan operand : Plan} (member : operand ∈ plan.operands) :
    sizeOf operand < sizeOf plan := by
  obtain ⟨name, kind⟩ := plan
  -- An operand belongs to a step, and the step is in the list of steps.
  cases kind with
  | actions steps =>
    obtain ⟨step, inside, member⟩ := List.mem_flatMap.mp member
    have inner := step.sizeOf_lt_of_mem member
    have outer := List.sizeOf_lt_of_mem inside
    simp
    omega
  | reflection steps =>
    obtain ⟨step, inside, member⟩ := List.mem_flatMap.mp member
    have inner := step.sizeOf_lt_of_mem member
    have outer := List.sizeOf_lt_of_mem inside
    simp
    omega
  | testCall call =>
    obtain ⟨method, receiver, args⟩ := call
    have smaller := sizeOf_lt_of_mem_append member
    simp
    omega
  | primitive _ | text _ | mock _ | unknown _ => cases member

/-- What holds of a plan when it holds of all its operands, holds of every plan. -/
theorem induction_operands {motive : Plan → Prop}
    (step : ∀ plan, (∀ operand ∈ plan.operands, motive operand) → motive plan) (plan : Plan) :
    motive plan :=
  step plan fun operand _ => induction_operands step operand
termination_by sizeOf plan
decreasing_by exact sizeOf_lt_of_operand ‹_›

/-- A plan is larger than what it reads. -/
theorem sizeOf_lt_of_read {plan read : Plan} (member : read ∈ plan.kind.reads) :
    sizeOf read < sizeOf plan :=
  sizeOf_lt_of_operand (plan.kind.reads_subset member)

/-- What holds of a plan when it holds of all that the plan reads, holds of every plan. -/
theorem induction_reads {motive : Plan → Prop}
    (step : ∀ plan, (∀ read ∈ plan.kind.reads, motive read) → motive plan) (plan : Plan) :
    motive plan :=
  step plan fun read _ => induction_reads step read
termination_by sizeOf plan
decreasing_by exact sizeOf_lt_of_read ‹_›

/-! ### Levels -/

/--
Plans one inside the other, from a plan inwards. Literals and texts inside a plan do not count,
and neither do operands that are not read, such as literal indices and lengths.
-/
inductive Nests : Plan → Nat → Prop
  | self (plan : Plan) : Nests plan 1
  | read {plan read : Plan} {levels : Nat} : read ∈ plan.kind.reads → read.isLeaf = false →
      Nests read levels → Nests plan (levels + 1)

end Plan

/-! ### Plans inside others -/

/-- What is needed for plans that are needed is needed. -/
theorem Needed.trans {roots plans : List Plan} {plan : Plan}
    (needed : ∀ root ∈ plans, Needed roots root) (inside : Needed plans plan) :
    Needed roots plan := by
  -- The induction is on the way inwards from one of the plans.
  induction inside with
  | root member => exact needed _ member
  | read _ read ih => exact ih.read read

/-- What a plan reads at any depth is smaller than the plan. -/
theorem Needed.sizeOf_lt {plan inner : Plan} (inside : Needed plan.kind.reads inner) :
    sizeOf inner < sizeOf plan := by
  induction inside with
  | root member => exact Plan.sizeOf_lt_of_read member
  | read _ read ih => exact Nat.lt_trans (Plan.sizeOf_lt_of_read read) ih

namespace Plan.Linked

variable {plan other inner : Plan}

/-- What is inside a plan is linked to something inside every plan that it is linked from. -/
theorem exists_inside (linked : plan.Linked other) (inside : Needed other.kind.reads inner) :
    ∃ found, Needed plan.kind.reads found ∧ found.Linked inner := by
  induction inside with
  | root member =>
    obtain ⟨found, read, linked⟩ := linked.alike.2.exists_linked member
    exact ⟨found, .root read, linked⟩
  | read _ member ih =>
    -- Linked consumers read linked plans.
    obtain ⟨consumer, inside, linked⟩ := ih
    obtain ⟨found, read, linked⟩ := linked.alike.2.exists_linked member
    exact ⟨found, inside.read read, linked⟩

/-- What is inside a plan is linked to something inside every plan that it is linked to. -/
theorem exists_inside' (linked : plan.Linked other) (inside : Needed plan.kind.reads inner) :
    ∃ found, Needed other.kind.reads found ∧ inner.Linked found := by
  induction inside with
  | root member =>
    obtain ⟨found, read, linked⟩ := linked.alike.2.exists_linked' member
    exact ⟨found, .root read, linked⟩
  | read _ member ih =>
    obtain ⟨consumer, inside, linked⟩ := ih
    obtain ⟨found, read, linked⟩ := linked.alike.2.exists_linked' member
    exact ⟨found, inside.read read, linked⟩

/-- A plan has no plan inside that is linked from the same plan. -/
theorem not_inside {node : Plan} (linked : node.Linked plan) (linked' : node.Linked inner) :
    ¬ Needed plan.kind.reads inner := by
  -- The inner plan would have such a plan inside as well, and so on without end.
  induction size : sizeOf plan using Nat.strongRecOn generalizing node plan inner with
  | ind _ ih =>
    intro inside
    obtain ⟨found, around, same⟩ := linked.exists_inside inside
    obtain ⟨next, inside', same'⟩ := linked'.exists_inside' around
    exact ih _ (size ▸ inside.sizeOf_lt) same same' rfl inside'

end Plan.Linked

end TestPlan
