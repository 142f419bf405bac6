import Mathlib.Data.List.Forall2
import Mathlib.Logic.Relation
import TestPlan.Plan.Equality
import TestPlan.Proofs.Plan.Needed

/-! Steps and plans that agree in all but the plans they read, which are related one by one. -/

namespace TestPlan

open List (Forall₂)

/-- Direct steps that agree in all but their operands, which are related one by one. -/
inductive Action.Twins (related : Plan → Plan → Prop) : Action → Action → Prop
  | arrayWrite {index value index' value' : Plan} :
      Forall₂ related [index, value] [index', value'] →
        Twins related (.arrayWrite index value) (.arrayWrite index' value')
  | constructorCall (constructor : MethodReference) {args args' : List Plan} :
      Forall₂ related args args' →
        Twins related (.constructorCall constructor args) (.constructorCall constructor args')
  | externalConstructorCall (constructor : MethodReference) {args args' : List Plan} :
      Forall₂ related args args' →
        Twins related (.externalConstructorCall constructor args)
          (.externalConstructorCall constructor args')
  | innerClassConstructorCall (constructor : MethodReference) {outer outer' : Plan}
      {args args' : List Plan} : Forall₂ related (outer :: args) (outer' :: args') →
        Twins related (.innerClassConstructorCall constructor outer args)
          (.innerClassConstructorCall constructor outer' args')
  | defaultConstructorCall (className : String) :
      Twins related (.defaultConstructorCall className) (.defaultConstructorCall className)
  | enumValueCreation (className name : String) :
      Twins related (.enumValueCreation className name) (.enumValueCreation className name)
  | methodCall (method : MethodReference) {args args' : List Plan} :
      Forall₂ related args args' →
        Twins related (.methodCall method args) (.methodCall method args')
  | externalMethodCall (method : MethodReference) {receiver receiver' : Option Plan}
      {args args' : List Plan} : Forall₂ related receiver.toList receiver'.toList →
      Forall₂ related args args' →
        Twins related (.externalMethodCall method receiver args)
          (.externalMethodCall method receiver' args')
  | staticMethodCall (method : MethodReference) {args args' : List Plan} :
      Forall₂ related args args' →
        Twins related (.staticMethodCall method args) (.staticMethodCall method args')
  | fieldGetter (field : FieldReference) {receiver receiver' : Plan} :
      Forall₂ related [receiver] [receiver'] →
        Twins related (.fieldGetter receiver field) (.fieldGetter receiver' field)
  | staticFieldGetter (field : FieldReference) :
      Twins related (.staticFieldGetter field) (.staticFieldGetter field)
  | fieldSetter (field : FieldReference) {value value' : Plan} :
      Forall₂ related [value] [value'] →
        Twins related (.fieldSetter field value) (.fieldSetter field value')
  | staticFieldSetter (field : FieldReference) {value value' : Plan} :
      Forall₂ related [value] [value'] →
        Twins related (.staticFieldSetter field value) (.staticFieldSetter field value')
  | newArray (type : ValueType) {length length' : Plan} :
      Forall₂ related [length] [length'] →
        Twins related (.newArray type length) (.newArray type length')
  | newArrayWithInitializer (type : ValueType) {elements elements' : List Plan} :
      Forall₂ related elements elements' →
        Twins related (.newArrayWithInitializer type elements)
          (.newArrayWithInitializer type elements')
  | classConstantGetter (type : ValueType) :
      Twins related (.classConstantGetter type) (.classConstantGetter type)
  | arrayClassConstantGetter {elementType elementType' : Plan} :
      Forall₂ related [elementType] [elementType'] →
        Twins related (.arrayClassConstantGetter elementType)
          (.arrayClassConstantGetter elementType')

/-- Reflective steps that agree in all but their operands, which are related one by one. -/
inductive ReflectiveAction.Twins (related : Plan → Plan → Prop) :
    ReflectiveAction → ReflectiveAction → Prop
  | newInstance (type : ValueType) : Twins related (.newInstance type) (.newInstance type)
  | newArray (type : ValueType) {length length' : Plan} :
      Forall₂ related [length] [length'] →
        Twins related (.newArray type length) (.newArray type length')
  | arrayWrite {index value index' value' : Plan} :
      Forall₂ related [index, value] [index', value'] →
        Twins related (.arrayWrite index value) (.arrayWrite index' value')
  | arrayRead (elementType : ValueType) {array index array' index' : Plan} :
      Forall₂ related [array, index] [array', index'] →
        Twins related (.arrayRead array index elementType) (.arrayRead array' index' elementType)
  | setField (field : FieldReference) {value value' : Plan} :
      Forall₂ related [value] [value'] →
        Twins related (.setField field value) (.setField field value')
  | setStaticField (field : FieldReference) {value value' : Plan} :
      Forall₂ related [value] [value'] →
        Twins related (.setStaticField field value) (.setStaticField field value')
  | getField (field : FieldReference) {receiver receiver' : Plan} :
      Forall₂ related [receiver] [receiver'] →
        Twins related (.getField receiver field) (.getField receiver' field)
  | getStaticField (field : FieldReference) :
      Twins related (.getStaticField field) (.getStaticField field)

/-- Calls of one method whose receivers and arguments are related one by one. -/
inductive TestCall.Twins (related : Plan → Plan → Prop) : TestCall → TestCall → Prop
  | mk (method : MethodReference) {receiver receiver' : Option Plan} {args args' : List Plan} :
      Forall₂ related receiver.toList receiver'.toList → Forall₂ related args args' →
        Twins related (.mk method receiver args) (.mk method receiver' args')

/-- Kinds of plans that agree in all but their literals and operands, which are related. -/
inductive PlanKind.Twins (related : Plan → Plan → Prop) (literals : Literal → Literal → Prop) :
    PlanKind → PlanKind → Prop
  | actions {steps steps' : List Action} : Forall₂ (Action.Twins related) steps steps' →
      Twins related literals (.actions steps) (.actions steps')
  | reflection {steps steps' : List ReflectiveAction} :
      Forall₂ (ReflectiveAction.Twins related) steps steps' →
        Twins related literals (.reflection steps) (.reflection steps')
  | testCall {call call' : TestCall} : call.Twins related call' →
      Twins related literals (.testCall call) (.testCall call')
  | primitive {value value' : Literal} : literals value value' →
      Twins related literals (.primitive value) (.primitive value')
  | text (text : String) : Twins related literals (.text text) (.text text)
  | mock (type : ValueType) : Twins related literals (.mock type) (.mock type)
  | unknown (type : ValueType) : Twins related literals (.unknown type) (.unknown type)

/-! ### Lists related one by one -/

section Lists

variable {α : Type} {related further : α → α → Prop} {items others : List α}

/-- What relates the items of two lists may be replaced. -/
theorem forall₂_imp_mem
    (stronger : ∀ item ∈ items, ∀ other, related item other → further item other)
    (twins : Forall₂ related items others) : Forall₂ further items others := by
  induction twins with
  | nil => exact .nil
  | cons first _ ih =>
    exact .cons (stronger _ List.mem_cons_self _ first)
      (ih fun item member => stronger item (List.mem_cons_of_mem _ member))

/-- Every item of a list has an item that is related to it. -/
theorem exists_of_forall₂ (all : Forall₂ related items others) {other : α}
    (member : other ∈ others) : ∃ item ∈ items, related item other := by
  induction all with
  | nil => cases member
  | cons first _ ih =>
    rcases List.mem_cons.mp member with rfl | later
    · exact ⟨_, List.mem_cons_self, first⟩
    · obtain ⟨item, inside, same⟩ := ih later
      exact ⟨item, List.mem_cons_of_mem _ inside, same⟩

/-- Lists that are related one after the other are related through the items between. -/
theorem forall₂_comp {β γ : Type} {related : α → β → Prop} {further : β → γ → Prop}
    {others : List β} {last : List γ} (first : Forall₂ related items others)
    (second : Forall₂ further others last) :
    Forall₂ (Relation.Comp related further) items last := by
  -- The first relation fixes the length, so the second one is taken apart along with it.
  induction first generalizing last with
  | nil =>
    cases second
    exact .nil
  | cons first _ ih =>
    obtain _ | ⟨second, rest⟩ := second
    exact .cons ⟨_, first, second⟩ (ih rest)

end Lists

/-- What is optional is the same when it is the same as a list. -/
theorem eq_of_toList {α : Type} {item item' : Option α} (same : item'.toList = item.toList) :
    item' = item := by
  -- Lists of one item and of none are of different lengths.
  cases item <;> cases item' <;> simp_all

/-! ### Steps -/

section Steps

variable {related further : Plan → Plan → Prop}

namespace Action.Twins

variable {step other last : Action}

/-- The operands of twins are related one by one. -/
theorem operands (twins : step.Twins related other) :
    Forall₂ related step.operands other.operands := by
  cases twins with
  | externalMethodCall _ received given => exact List.rel_append received given
  | defaultConstructorCall | enumValueCreation | staticFieldGetter | classConstantGetter =>
    exact .nil
  -- All other steps keep their operands in one list.
  | _ => assumption

/-- A step is its own twin when its operands are related to themselves. -/
theorem refl (same : ∀ plan ∈ step.operands, related plan plan) : step.Twins related step := by
  have inside : ∀ plans ⊆ step.operands, Forall₂ related plans plans := fun plans inside =>
    List.forall₂_same.mpr fun plan member => same plan (inside member)
  cases step with
  | externalMethodCall _ receiver args =>
    exact .externalMethodCall _ (inside _ (List.subset_append_left _ _))
      (inside _ (List.subset_append_right _ _))
  | _ => constructor <;> exact inside _ (List.Subset.refl _)

/-- What relates the operands of twins may be replaced. -/
theorem imp_mem (twins : step.Twins related other)
    (stronger : ∀ plan ∈ step.operands, ∀ plan', related plan plan' → further plan plan') :
    step.Twins further other := by
  cases twins with
  -- Receiver and arguments are related apart, and are both among the operands.
  | externalMethodCall _ received given =>
    exact .externalMethodCall _
      (forall₂_imp_mem (fun plan member => stronger plan (List.mem_append_left _ member)) received)
      (forall₂_imp_mem (fun plan member => stronger plan (List.mem_append_right _ member)) given)
  | _ => constructor <;> exact forall₂_imp_mem stronger ‹_›

/-- Twins may be exchanged. -/
theorem symm (twins : step.Twins related other) : other.Twins (flip related) step := by
  cases twins <;> constructor <;> exact List.Forall₂.flip ‹_›

/-- Twins of twins are related through the operands between. -/
theorem comp (first : step.Twins related other) (second : other.Twins further last) :
    step.Twins (Relation.Comp related further) last := by
  -- The second twin is of the sort of the first one, since there are no twins across sorts.
  cases first <;> cases second <;> constructor <;> exact forall₂_comp ‹_› ‹_›

/-- Twins with the same operands are the same. -/
theorem eq (twins : step.Twins Eq other) : other = step := by
  cases twins with
  | externalMethodCall _ received given =>
    rw [List.forall₂_eq_eq_eq] at received given
    rw [eq_of_toList received.symm, given]
  | _ => simp_all [List.forall₂_eq_eq_eq]

end Action.Twins

namespace ReflectiveAction.Twins

variable {step other last : ReflectiveAction}

/-- The operands of twins are related one by one. -/
theorem operands (twins : step.Twins related other) :
    Forall₂ related step.operands other.operands := by
  cases twins with
  | newInstance | getStaticField => exact .nil
  | _ => assumption

/-- A step is its own twin when its operands are related to themselves. -/
theorem refl (same : ∀ plan ∈ step.operands, related plan plan) : step.Twins related step := by
  cases step <;> constructor <;> exact List.forall₂_same.mpr same

/-- What relates the operands of twins may be replaced. -/
theorem imp_mem (twins : step.Twins related other)
    (stronger : ∀ plan ∈ step.operands, ∀ plan', related plan plan' → further plan plan') :
    step.Twins further other := by
  cases twins <;> constructor <;> exact forall₂_imp_mem stronger ‹_›

/-- Twins may be exchanged. -/
theorem symm (twins : step.Twins related other) : other.Twins (flip related) step := by
  cases twins <;> constructor <;> exact List.Forall₂.flip ‹_›

/-- Twins of twins are related through the operands between. -/
theorem comp (first : step.Twins related other) (second : other.Twins further last) :
    step.Twins (Relation.Comp related further) last := by
  cases first <;> cases second <;> constructor <;> exact forall₂_comp ‹_› ‹_›

/-- Twins with the same operands are the same. -/
theorem eq (twins : step.Twins Eq other) : other = step := by
  cases twins <;> simp_all

end ReflectiveAction.Twins

namespace TestCall.Twins

variable {call other last : TestCall}

/-- The operands of twins are related one by one. -/
theorem operands (twins : call.Twins related other) :
    Forall₂ related call.operands other.operands := by
  obtain ⟨_, received, given⟩ := twins
  exact List.rel_append received given

/-- A call is its own twin when its operands are related to themselves. -/
theorem refl (same : ∀ plan ∈ call.operands, related plan plan) : call.Twins related call := by
  obtain ⟨method, receiver, args⟩ := call
  exact .mk method
    (List.forall₂_same.mpr fun plan member => same plan (List.mem_append_left _ member))
    (List.forall₂_same.mpr fun plan member => same plan (List.mem_append_right _ member))

/-- What relates the operands of twins may be replaced. -/
theorem imp_mem (twins : call.Twins related other)
    (stronger : ∀ plan ∈ call.operands, ∀ plan', related plan plan' → further plan plan') :
    call.Twins further other := by
  obtain ⟨_, received, given⟩ := twins
  exact .mk _
    (forall₂_imp_mem (fun plan member => stronger plan (List.mem_append_left _ member)) received)
    (forall₂_imp_mem (fun plan member => stronger plan (List.mem_append_right _ member)) given)

/-- Twins may be exchanged. -/
theorem symm (twins : call.Twins related other) : other.Twins (flip related) call := by
  obtain ⟨_, received, given⟩ := twins
  exact .mk _ received.flip given.flip

/-- Twins of twins are related through the operands between. -/
theorem comp (first : call.Twins related other) (second : other.Twins further last) :
    call.Twins (Relation.Comp related further) last := by
  obtain ⟨_, received, given⟩ := first
  obtain ⟨_, received', given'⟩ := second
  exact .mk _ (forall₂_comp received received') (forall₂_comp given given')

/-- Twins with the same operands are the same. -/
theorem eq (twins : call.Twins Eq other) : other = call := by
  obtain ⟨_, received, given⟩ := twins
  rw [List.forall₂_eq_eq_eq] at received given
  rw [eq_of_toList received.symm, given]

end TestCall.Twins

end Steps

/-! ### Kinds -/

namespace PlanKind.Twins

variable {related further : Plan → Plan → Prop} {literals others : Literal → Literal → Prop}
  {kind other last : PlanKind}

/-- The operands of twins are related one by one. -/
theorem operands (twins : kind.Twins related literals other) :
    Forall₂ related kind.operands other.operands := by
  cases twins with
  | actions steps => exact List.rel_flatMap steps fun _ _ twins => twins.operands
  | reflection steps => exact List.rel_flatMap steps fun _ _ twins => twins.operands
  | testCall call => exact call.operands
  | primitive | text | mock | unknown => exact .nil

/-- A kind is its own twin when its literal and its operands are related to themselves. -/
theorem refl (literal : ∀ value, kind = .primitive value → literals value value)
    (same : ∀ plan ∈ kind.operands, related plan plan) : kind.Twins related literals kind := by
  cases kind with
  | actions steps =>
    exact .actions (List.forall₂_same.mpr fun step inside =>
      .refl fun plan member => same plan (List.mem_flatMap.mpr ⟨step, inside, member⟩))
  | reflection steps =>
    exact .reflection (List.forall₂_same.mpr fun step inside =>
      .refl fun plan member => same plan (List.mem_flatMap.mpr ⟨step, inside, member⟩))
  | testCall call => exact .testCall (.refl same)
  | primitive value => exact .primitive (literal value rfl)
  | text text => exact .text text
  | mock type => exact .mock type
  | unknown type => exact .unknown type

/-- What relates the literals and operands of twins may be replaced. -/
theorem imp_mem (twins : kind.Twins related literals other)
    (weaker : ∀ value value', literals value value' → others value value')
    (stronger : ∀ plan ∈ kind.operands, ∀ plan', related plan plan' → further plan plan') :
    kind.Twins further others other := by
  cases twins with
  | actions steps =>
    exact .actions (forall₂_imp_mem (fun step inside _ twins => twins.imp_mem fun plan member =>
      stronger plan (List.mem_flatMap.mpr ⟨step, inside, member⟩)) steps)
  | reflection steps =>
    exact .reflection (forall₂_imp_mem (fun step inside _ twins => twins.imp_mem fun plan member =>
      stronger plan (List.mem_flatMap.mpr ⟨step, inside, member⟩)) steps)
  | testCall call => exact .testCall (call.imp_mem stronger)
  | primitive literal => exact .primitive (weaker _ _ literal)
  | text text => exact .text text
  | mock type => exact .mock type
  | unknown type => exact .unknown type

/-- Twins may be exchanged. -/
theorem symm (twins : kind.Twins related literals other) :
    other.Twins (flip related) (flip literals) kind := by
  cases twins with
  | actions steps => exact .actions (steps.imp fun _ _ twins => twins.symm).flip
  | reflection steps => exact .reflection (steps.imp fun _ _ twins => twins.symm).flip
  | testCall call => exact .testCall call.symm
  | primitive literal => exact .primitive literal
  | text text => exact .text text
  | mock type => exact .mock type
  | unknown type => exact .unknown type

/-- Twins of twins are related through the literals and operands between. -/
theorem comp (first : kind.Twins related literals other)
    (second : other.Twins further others last) :
    kind.Twins (Relation.Comp related further) (Relation.Comp literals others) last := by
  -- Each pair of steps has a step between, and so has each pair of their operands.
  cases first with
  | actions steps =>
    obtain ⟨steps'⟩ := second
    exact .actions ((forall₂_comp steps steps').imp fun _ _ ⟨_, twins, twins'⟩ =>
      twins.comp twins')
  | reflection steps =>
    obtain _ | ⟨steps'⟩ := second
    exact .reflection ((forall₂_comp steps steps').imp fun _ _ ⟨_, twins, twins'⟩ =>
      twins.comp twins')
  | testCall call =>
    obtain _ | _ | ⟨call'⟩ := second
    exact .testCall (call.comp call')
  | primitive literal =>
    obtain _ | _ | _ | ⟨literal'⟩ := second
    exact .primitive ⟨_, literal, literal'⟩
  | text text =>
    cases second
    exact .text text
  | mock type =>
    cases second
    exact .mock type
  | unknown type =>
    cases second
    exact .unknown type

/-- What relates the literals and operands of twins need only be replaced between the two. -/
theorem imp_inside (twins : kind.Twins related literals other)
    (weaker : ∀ value value', kind = .primitive value → other = .primitive value' →
      literals value value' → others value value')
    (stronger : ∀ plan ∈ kind.operands, ∀ plan' ∈ other.operands,
      related plan plan' → further plan plan') : kind.Twins further others other := by
  -- The operands of the second kind are inside the first one of the exchanged twins.
  have exchanged : other.Twins (fun plan' plan => related plan plan' ∧ plan' ∈ other.operands)
      (fun value' value => literals value value') kind :=
    twins.symm.imp_mem (fun _ _ => id) fun _ member _ same => ⟨same, member⟩
  have inside : kind.Twins further literals other :=
    exchanged.symm.imp_mem (fun _ _ => id) fun plan member plan' ⟨same, member'⟩ =>
      stronger plan member plan' member' same
  cases inside with
  | primitive literal => exact .primitive (weaker _ _ rfl rfl literal)
  | actions | reflection | testCall =>
    constructor
    assumption
  | text | mock | unknown => constructor

/-- Twins with the same literals and operands are the same. -/
theorem eq (twins : kind.Twins Eq Eq other) : other = kind := by
  cases twins with
  | actions steps =>
    have same := steps.imp fun _ _ twins => twins.eq.symm
    rw [List.forall₂_eq_eq_eq] at same
    rw [same]
  | reflection steps =>
    have same := steps.imp fun _ _ twins => twins.eq.symm
    rw [List.forall₂_eq_eq_eq] at same
    rw [same]
  | testCall call => rw [call.eq]
  | primitive same => rw [same]
  | text | mock | unknown => rfl

end PlanKind.Twins

/-- Plans of one name with the same literals and operands are the same. -/
theorem Plan.eq_of_twins {plan plan' : Plan} (name : plan'.name = plan.name)
    (twins : plan.kind.Twins Eq Eq plan'.kind) : plan' = plan := by
  obtain ⟨_, _⟩ := plan
  obtain ⟨_, _⟩ := plan'
  exact congrArg₂ Plan.mk name twins.eq

end TestPlan
