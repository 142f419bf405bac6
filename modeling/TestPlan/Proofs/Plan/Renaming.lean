import TestPlan.Proofs.Plan.Comparable
import TestPlan.Proofs.Plan.Sameness

/-! Plans under other names: what is made of them is the same, but for the names. -/

namespace TestPlan

open List (Forall₂)

/-! ### Plans -/

section Definitions

variable (names : String → String)

mutual

/-- The plan with every name in it replaced, at any depth. -/
def Plan.rename : Plan → Plan
  | .mk name kind => .mk (names name) kind.rename

/-- The kind with every name in it replaced. -/
def PlanKind.rename : PlanKind → PlanKind
  | .actions steps => .actions (renameActions steps)
  | .reflection steps => .reflection (renameReflectiveActions steps)
  | .testCall call => .testCall call.rename
  | .primitive value => .primitive value
  | .text value => .text value
  | .mock type => .mock type
  | .unknown type => .unknown type

/-- The direct step with every name in it replaced. -/
def Action.rename : Action → Action
  | .arrayWrite index value => .arrayWrite index.rename value.rename
  | .constructorCall constructor args => .constructorCall constructor (renamePlans args)
  | .externalConstructorCall constructor args =>
    .externalConstructorCall constructor (renamePlans args)
  | .innerClassConstructorCall constructor outer args =>
    .innerClassConstructorCall constructor outer.rename (renamePlans args)
  | .defaultConstructorCall className => .defaultConstructorCall className
  | .enumValueCreation className name => .enumValueCreation className name
  | .methodCall method args => .methodCall method (renamePlans args)
  | .externalMethodCall method receiver args =>
    .externalMethodCall method (renameOptional receiver) (renamePlans args)
  | .staticMethodCall method args => .staticMethodCall method (renamePlans args)
  | .fieldGetter receiver field => .fieldGetter receiver.rename field
  | .staticFieldGetter field => .staticFieldGetter field
  | .fieldSetter field value => .fieldSetter field value.rename
  | .staticFieldSetter field value => .staticFieldSetter field value.rename
  | .newArray type length => .newArray type length.rename
  | .newArrayWithInitializer type elements => .newArrayWithInitializer type (renamePlans elements)
  | .classConstantGetter type => .classConstantGetter type
  | .arrayClassConstantGetter elementType => .arrayClassConstantGetter elementType.rename

/-- The reflective step with every name in it replaced. -/
def ReflectiveAction.rename : ReflectiveAction → ReflectiveAction
  | .newInstance type => .newInstance type
  | .newArray type length => .newArray type length.rename
  | .arrayWrite index value => .arrayWrite index.rename value.rename
  | .arrayRead array index elementType => .arrayRead array.rename index.rename elementType
  | .setField field value => .setField field value.rename
  | .setStaticField field value => .setStaticField field value.rename
  | .getField receiver field => .getField receiver.rename field
  | .getStaticField field => .getStaticField field

/-- The call with every name in it replaced. -/
def TestCall.rename : TestCall → TestCall
  | .mk method receiver args => .mk method (renameOptional receiver) (renamePlans args)

/-- Plans with every name in them replaced. -/
def renamePlans : List Plan → List Plan
  | [] => []
  | plan :: rest => plan.rename :: renamePlans rest

/-- A plan that may be absent with every name in it replaced. -/
def renameOptional : Option Plan → Option Plan
  | none => none
  | some plan => some plan.rename

/-- Direct steps with every name in them replaced. -/
def renameActions : List Action → List Action
  | [] => []
  | step :: rest => step.rename :: renameActions rest

/-- Reflective steps with every name in them replaced. -/
def renameReflectiveActions : List ReflectiveAction → List ReflectiveAction
  | [] => []
  | step :: rest => step.rename :: renameReflectiveActions rest

end

end Definitions

variable {names : String → String}

/-- A plan that is another one under other names. -/
def Plan.Renamed (names : String → String) (plan other : Plan) : Prop :=
  other = plan.rename names

/-- Plans are renamed one by one. -/
theorem renamePlans_eq (plans : List Plan) :
    renamePlans names plans = plans.map (Plan.rename names) := by
  induction plans with
  | nil => rfl
  | cons plan rest ih => rw [renamePlans, ih, List.map_cons]

/-- A plan that may be absent is renamed when it is there. -/
theorem renameOptional_eq (plan : Option Plan) :
    renameOptional names plan = plan.map (Plan.rename names) := by
  cases plan <;> rfl

/-- Plans and what they are renamed to are related one by one. -/
theorem forall₂_renamed (plans : List Plan) :
    Forall₂ (Plan.Renamed names) plans (plans.map (Plan.rename names)) := by
  rw [List.forall₂_map_right_iff]
  exact List.forall₂_same.mpr fun _ _ => rfl

/-- A direct step and what it is renamed to are twins. -/
theorem Action.twins_rename (names : String → String) (step : Action) :
    step.Twins (Plan.Renamed names) (step.rename names) := by
  -- What is read is renamed as a list, as an optional plan, or plan by plan.
  cases step with
  | constructorCall _ args | externalConstructorCall _ args | methodCall _ args
  | staticMethodCall _ args | newArrayWithInitializer _ args =>
    rw [rename, renamePlans_eq]
    constructor
    exact forall₂_renamed args
  | innerClassConstructorCall _ outer args =>
    rw [rename, renamePlans_eq]
    exact .innerClassConstructorCall _ (forall₂_renamed (outer :: args))
  | externalMethodCall _ receiver args =>
    rw [rename, renamePlans_eq, renameOptional_eq]
    refine .externalMethodCall _ ?_ (forall₂_renamed args)
    rw [Option.toList_map]
    exact forall₂_renamed receiver.toList
  | arrayWrite index value => exact .arrayWrite (forall₂_renamed [index, value])
  | fieldGetter plan _ | fieldSetter _ plan | staticFieldSetter _ plan | newArray _ plan
  | arrayClassConstantGetter plan =>
    constructor
    exact forall₂_renamed [plan]
  | defaultConstructorCall _ | enumValueCreation _ _ | staticFieldGetter _
  | classConstantGetter _ => constructor

/-- A reflective step and what it is renamed to are twins. -/
theorem ReflectiveAction.twins_rename (names : String → String) (step : ReflectiveAction) :
    step.Twins (Plan.Renamed names) (step.rename names) := by
  cases step with
  | newInstance _ | getStaticField _ => constructor
  | newArray _ plan | setField _ plan | setStaticField _ plan | getField plan _ =>
    constructor
    exact forall₂_renamed [plan]
  | arrayWrite first second | arrayRead first second _ =>
    constructor
    exact forall₂_renamed [first, second]

/-- A call and what it is renamed to are twins. -/
theorem TestCall.twins_rename (names : String → String) (call : TestCall) :
    call.Twins (Plan.Renamed names) (call.rename names) := by
  obtain ⟨method, receiver, args⟩ := call
  rw [rename, renamePlans_eq, renameOptional_eq]
  refine .mk _ ?_ (forall₂_renamed args)
  rw [Option.toList_map]
  exact forall₂_renamed receiver.toList

/-- A kind and what it is renamed to are twins with the same literals. -/
theorem PlanKind.twins_rename (names : String → String) (kind : PlanKind) :
    kind.Twins (Plan.Renamed names) Eq (kind.rename names) := by
  cases kind with
  | actions steps =>
    refine .actions ?_
    induction steps with
    | nil => exact .nil
    | cons step rest ih => exact .cons (step.twins_rename names) ih
  | reflection steps =>
    refine .reflection ?_
    induction steps with
    | nil => exact .nil
    | cons step rest ih => exact .cons (step.twins_rename names) ih
  | testCall call => exact .testCall (call.twins_rename names)
  | primitive value => exact .primitive rfl
  | text text => exact .text text
  | mock type => exact .mock type
  | unknown type => exact .unknown type

namespace Plan

/-- The name of a plan is replaced. -/
@[simp] theorem name_rename (plan : Plan) : (plan.rename names).name = names plan.name := by
  cases plan
  rfl

/-- The kind of a plan is renamed. -/
@[simp] theorem kind_rename (plan : Plan) : (plan.rename names).kind = plan.kind.rename names := by
  cases plan
  rfl

end Plan

/-- Plans that are renamed one by one are the renamed plans. -/
theorem eq_map_of_forall₂ {plans others : List Plan}
    (related : Forall₂ (Plan.Renamed names) plans others) :
    others = plans.map (Plan.rename names) := by
  induction related with
  | nil => rfl
  | cons same _ ih => rw [same, ih, List.map_cons]

/-- Renamed plans are shared where the plans are. -/
def Sharing.Renamed (names : String → String) (sharing sharing' : Sharing) : Prop :=
  ∀ meeting indexed plan, sharing'.shares meeting (indexed.rename names) (plan.rename names)
    = sharing.shares meeting indexed plan

/-! ### Equality -/

variable (injective : Function.Injective names)

include injective

/-- Renamed plans are equal when the plans are. -/
theorem Plan.same_rename_iff (plan other : Plan) :
    (plan.rename names).same (other.rename names) = true ↔ plan.same other = true := by
  -- The induction is on the plan, and its operands are renamed in the same way.
  induction plan using Plan.induction_operands generalizing other with
  | step plan ih =>
    rw [same_iff_twins, same_iff_twins, name_rename, name_rename, injective.eq_iff, kind_rename,
      kind_rename]
    refine and_congr_right fun _ => ⟨fun twins => ?_, fun twins => ?_⟩
    -- Between the kinds are their renamings, so that operands are related through those.
    · have between := ((plan.kind.twins_rename names).comp twins).comp
        (other.kind.twins_rename names).symm
      refine between.imp_mem ?_ ?_
      · rintro _ _ ⟨_, ⟨_, rfl, same⟩, rfl⟩
        exact same
      · rintro operand member _ ⟨_, ⟨_, rfl, same⟩, rfl⟩
        exact (ih operand member _).mp same
    · have renamed := twins.imp_mem (fun _ _ => id) fun operand member _ same =>
        (ih operand member _).mpr same
      have between := ((plan.kind.twins_rename names).symm.comp renamed).comp
        (other.kind.twins_rename names)
      refine between.imp_mem ?_ ?_
      · rintro _ _ ⟨_, ⟨_, rfl, same⟩, rfl⟩
        exact same
      · rintro _ _ _ ⟨_, ⟨_, rfl, same⟩, rfl⟩
        exact same

/-- Plans and what they are renamed to are of the same operands, and pass for others alike. -/
theorem Plan.comparable_renamed {sharing sharing' : Sharing}
    (shared : sharing.Renamed names sharing') :
    Comparable names (Plan.Renamed names) sharing sharing' where
  injective := injective
  name := by
    rintro plan _ rfl
    exact plan.name_rename
  operands := by
    rintro ⟨name, kind⟩ _ rfl
    exact (kind.twins_rename names).operands
  accepts := by
    rintro meeting plan _ other _ rfl rfl
    rw [Sharing.accepts, Sharing.accepts, shared,
      Bool.eq_iff_iff.mpr (same_rename_iff injective plan other)]

/-! ### Graphs -/

namespace PlanGraph

/-- The graph with every name in its plans replaced. -/
def rename (names : String → String) (graph : PlanGraph) : PlanGraph :=
  { graph with nodes := graph.nodes.map (Plan.rename names) }

omit injective in
/-- A graph of renamed plans with the same edges is the renamed graph. -/
theorem Matches.eq_rename {graph graph' : PlanGraph}
    (renamed : graph.Matches (Plan.Renamed names) graph') : graph' = graph.rename names := by
  obtain ⟨_, _⟩ := graph'
  obtain ⟨nodes, rfl, rfl⟩ := renamed
  obtain rfl := eq_map_of_forall₂ nodes
  rfl

/-- Renamed roots form the renamed graph, or are refused under another name. -/
theorem ofRoots_rename {sharing sharing' : Sharing} (shared : sharing.Renamed names sharing')
    (roots : List Plan) : ofRoots sharing' (roots.map (Plan.rename names))
      = match ofRoots sharing roots with
        | .ok graph => .ok (graph.rename names)
        | .error error => .error (error.map names) := by
  have answers := ofRoots_alike (Plan.comparable_renamed injective shared) (forall₂_renamed roots)
  generalize ofRoots sharing roots = formed,
    ofRoots sharing' (roots.map (Plan.rename names)) = formed' at answers ⊢
  cases answers with
  | ok renamed => exact congrArg _ renamed.eq_rename
  | error same => exact congrArg _ same

end PlanGraph

end TestPlan
