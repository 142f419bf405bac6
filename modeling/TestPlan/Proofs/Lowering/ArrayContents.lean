import Mathlib.Data.List.Sort
import TestPlan.Proofs.Lowering.Requests
import TestPlan.Proofs.Lowering.Stages
import TestPlan.Proofs.Lowering.Typed
import TestPlan.Proofs.Plan.Exact
import TestPlan.Proofs.TestCase.Elements

/-!
What is stored in the array of a plan: its elements and then what its steps write, in their order,
and nothing else, whatever other statements stand between.
-/

namespace TestPlan

/-! ### What steps store -/

/-- The elements that an array is made with: their places and their plans. -/
def Action.initialElements : Action → List (Except CompileError Nat × Plan)
  | .newArrayWithInitializer _ elements =>
    elements.zipIdx.map fun (element, place) => (.ok place, element)
  | _ => []

/-- The element that a step writes: its place, if the index is a literal, and its plan. -/
def Action.writtenElement? : Action → Option (Except CompileError Nat × Plan)
  | .arrayWrite index value => some (Lower.literalIndex index, value)
  | _ => none

/-- All elements that a step stores in the array of its plan. -/
def Action.storedElements (step : Action) : List (Except CompileError Nat × Plan) :=
  step.initialElements ++ step.writtenElement?.toList

/-- The length of the array that a step makes, if it makes one and the length is a literal. -/
def Action.arrayLength? : Action → Option (Except CompileError Nat)
  | .newArray _ length => some (Lower.literalIndex length)
  | .newArrayWithInitializer _ elements => some (.ok elements.length)
  | _ => none

/-- A step that makes an array makes the value of its plan. -/
theorem Action.role_of_arrayLength? {step : Action} {sized : Except CompileError Nat}
    (makes : step.arrayLength? = some sized) : step.role = .produces := by
  cases step with
  | newArray | newArrayWithInitializer => rfl
  | _ => cases makes

/-- A step that makes an array writes no element besides those that the array is made with. -/
theorem Action.writtenElement?_of_arrayLength? {step : Action} {sized : Except CompileError Nat}
    (makes : step.arrayLength? = some sized) : step.writtenElement? = none := by
  cases step with
  | newArray | newArrayWithInitializer => rfl
  | _ => cases makes

/-- Only a step that makes the value of its plan has elements to make it with. -/
theorem Action.initialElements_eq_nil {step : Action} (other : step.role ≠ .produces) :
    step.initialElements = [] := by
  cases step with
  | newArrayWithInitializer => exact absurd rfl other
  | _ => rfl

/-- After the step that makes the value of a plan, none of its steps makes it again. -/
theorem Plan.role_ne_of_later {plan : Plan} (once : ¬ plan.ProducesTwice) {creating : Action}
    {before later : List Action} (kind : plan.kind = .actions (before ++ creating :: later))
    (creates : creating.role = .produces) : ∀ step ∈ later, step.role ≠ .produces := by
  intro step member again
  apply once
  refine ⟨(before ++ creating :: later).map Action.role, by rw [roles?, kind], ?_⟩
  -- One step that makes the value is the first of these, and another one comes later.
  have more : 0 < (later.map Action.role).count .produces :=
    List.count_pos_iff.mpr (List.mem_map.mpr ⟨step, member, again⟩)
  rw [List.map_append, List.map_cons, creates, List.count_append, List.count_cons_self]
  omega

/-- When steps make no value, they store what they write. -/
theorem Action.flatMap_storedElements {steps : List Action}
    (others : ∀ step ∈ steps, step.role ≠ .produces) :
    steps.flatMap storedElements = steps.filterMap writtenElement? := by
  rw [List.filterMap_eq_flatMap_toList]
  apply List.flatMap_congr
  intro step member
  -- What a step stores besides what it writes are the elements that it makes an array with.
  rw [storedElements, initialElements_eq_nil (others step member), List.nil_append]

/--
An assignment stores an element at its place: what stands for the plan of the element, or for a
plan that is equal to it.
-/
structure CompiledTest.Places (built : CompiledTest) (element : Except CompileError Nat × Plan)
    (write : ElementWrite) : Prop where
  place : element.1 = .ok write.index
  stands : ∃ copy, element.2.Linked copy ∧ built.StandsFor write.position copy write.value

/-! ### Statements of steps -/

section Steps

variable {ρ : Type} [ClassLoading ρ] {setting : Setting ρ} {built : CompiledTest} {owner : String}
  {array : Var} {position : Nat} {statement : Statement}

/-- A statement that is no assignment to an element stores nothing in an array. -/
theorem CompiledTest.At.elementWriteAt?_eq_none (there : built.At position statement)
    (other : statement.elementWrite? array position = none) :
    built.test.elementWriteAt? array position = none := by
  rw [TestCase.elementWriteAt?, show built.test.statements[position]? = _ from there]
  exact other

/-- A call stores nothing in an array. -/
theorem Setting.Calls.elementWrite?_eq_none {method : MethodReference} {callee : Option Operand}
    {args : List Operand} {target : Option String}
    (calls : setting.Calls built method callee args target statement) :
    statement.elementWrite? array position = none := by
  cases calls <;> rfl

/-- The one statement of a step stores what the step does, in the array of its plan. -/
theorem Setting.Lowers.places {step : Action} (bound : built.bindings.get? owner = some array)
    (lowers : setting.Lowers built owner position step statement)
    (there : built.At position statement) :
    List.Forall₂ built.Places step.storedElements
      (built.test.elementWriteAt? array position).toList := by
  have nothing : statement.elementWrite? array position = none →
      (built.test.elementWriteAt? array position).toList = [] := fun other => by
    rw [there.elementWriteAt?_eq_none other]
    rfl
  cases lowers with
  | @arrayWrite index value array' place operand bound' literal stands =>
    -- The assignment is to the variable of the plan, so to the array.
    cases bound.symm.trans bound'
    have stored : built.test.elementWriteAt? array position = some ⟨position, place, operand⟩ :=
      TestCase.elementWriteAt?_eq_some_iff.mpr ⟨rfl, there⟩
    rw [stored]
    exact .cons ⟨literal, _, .refl _, stands⟩ .nil
  | constructorCall _ calls | externalConstructorCall _ calls | externalMethodCall _ _ calls
  | methodCall _ _ calls | staticMethodCall _ calls =>
    rw [nothing calls.elementWrite?_eq_none]
    exact .nil
  | _ =>
    rw [nothing rfl]
    exact .nil

/-- The assignments of an initializer store its elements, from one place on. -/
theorem Setting.Stores.places {place : Nat} {elements : List Plan} {positions : List Nat}
    (stores : Setting.Stores built array place elements positions) :
    List.Forall₂ built.Places
      ((elements.zipIdx place).map fun (element, place) => (.ok place, element))
      (positions.filterMap (built.test.elementWriteAt? array)) := by
  -- The induction is on the assignments, and each is to the next place.
  induction stores with
  | nil => exact .nil
  | @cons place position element elements operand positions stands there _ ih =>
    have stored : built.test.elementWriteAt? array position = some ⟨position, place, operand⟩ :=
      TestCase.elementWriteAt?_eq_some_iff.mpr ⟨rfl, there⟩
    rw [List.zipIdx_cons, List.map_cons, List.filterMap_cons_some stored]
    exact .cons ⟨rfl, _, .refl _, stands⟩ ih

/-- The statements of a step store what the step does, in the array of its plan. -/
theorem Setting.Prescribes.places {step : Action} {positions : List Nat}
    (bound : built.bindings.get? owner = some array)
    (prescribed : setting.Prescribes built owner step positions) :
    List.Forall₂ built.Places step.storedElements
      (positions.filterMap (built.test.elementWriteAt? array)) := by
  cases prescribed with
  | one lowers there =>
    have places := lowers.places bound there
    -- One statement stores one element or none, and the list of its position keeps the same.
    cases found : built.test.elementWriteAt? array _ with
    | none =>
      rw [found] at places
      rwa [List.filterMap_cons_none found]
    | some write =>
      rw [found] at places
      rwa [List.filterMap_cons_some found]
  | @initializer type elements _ _ _ _ _ _ owns there stores =>
    cases bound.symm.trans owns.bound
    -- The allocation stores nothing, and an initializer stores nothing besides its elements.
    have all : (Action.newArrayWithInitializer type elements).storedElements =
        (Action.newArrayWithInitializer type elements).initialElements := List.append_nil _
    rw [List.filterMap_cons_none (there.elementWriteAt?_eq_none rfl), all]
    exact stores.places
  | arrayClass _ _ _ _ _ _ there _ next =>
    -- The empty array that is asked for its class stays empty.
    rw [List.filterMap_cons_none (there.elementWriteAt?_eq_none rfl),
      List.filterMap_cons_none (next.elementWriteAt?_eq_none rfl)]
    exact .nil

/-- The statement that makes an array allocates it with the length that the step says. -/
theorem Setting.Prescribes.allocates {step : Action} {positions : List Nat}
    (bound : built.bindings.get? owner = some array)
    (prescribed : setting.Prescribes built owner step positions)
    {sized : Except CompileError Nat} (makes : step.arrayLength? = some sized) :
    ∃ position ∈ positions, ∃ length, sized = .ok length ∧
      built.At position (.newArray length array) := by
  cases prescribed with
  | one lowers there =>
    -- An array without an initializer is allocated with the length that is given as a literal.
    cases lowers with
    | newArray _ _ literal owns =>
      cases bound.symm.trans owns.bound
      cases makes
      exact ⟨_, List.mem_singleton_self _, _, literal, there⟩
    | _ => cases makes
  | initializer _ _ owns there _ =>
    cases bound.symm.trans owns.bound
    cases makes
    exact ⟨_, List.mem_cons_self, _, rfl, there⟩
  | arrayClass => cases makes

/-- An initializer stores its elements in the array of its plan only. -/
theorem Setting.Stores.eq_of_mem {other : Var} {place : Nat} {elements : List Plan}
    {positions : List Nat} (stores : Setting.Stores built array place elements positions)
    {write : ElementWrite} (member : position ∈ positions)
    (found : built.test.elementWriteAt? other position = some write) : other = array := by
  have there := (TestCase.elementWriteAt?_eq_some_iff.mp found).2
  -- The induction is on the assignments, all of which are to the one array.
  induction stores with
  | nil => cases member
  | cons _ here _ ih =>
    rcases List.mem_cons.mp member with rfl | later
    · cases there.symm.trans here
      rfl
    · exact ih later

/-- A step stores something only in the array of its plan. -/
theorem Setting.PrescribesStep.bound_of_write {plan : Plan} {index : Nat} {positions : List Nat}
    (prescribed : setting.PrescribesStep built plan index positions) {write : ElementWrite}
    (member : position ∈ positions)
    (found : built.test.elementWriteAt? array position = some write) :
    built.bindings.get? plan.name = some array := by
  have there := (TestCase.elementWriteAt?_eq_some_iff.mp found).2
  unfold PrescribesStep at prescribed
  split at prescribed
  · obtain ⟨_, _, prescribed⟩ := prescribed
    cases prescribed with
    | one lowers here =>
      cases List.mem_singleton.mp member
      cases here.symm.trans there
      -- Of the single statements only that of a write assigns an element.
      cases lowers with
      | arrayWrite bound => exact bound
      | constructorCall _ calls | externalConstructorCall _ calls | externalMethodCall _ _ calls
      | methodCall _ _ calls | staticMethodCall _ calls => cases calls
    | initializer _ _ owns here stores =>
      -- The allocation comes first, and is no assignment.
      rcases List.mem_cons.mp member with rfl | later
      · cases here.symm.trans there
      · cases stores.eq_of_mem later found
        exact owns.bound
    | arrayClass _ _ _ _ _ _ here _ next =>
      rcases List.mem_pair.mp member with rfl | rfl
      · cases here.symm.trans there
      · cases next.symm.trans there
  · obtain ⟨_, _, prescribed⟩ := prescribed
    -- Reflective steps store what they do through the helpers.
    cases prescribed with
    | one reflects here =>
      cases List.mem_singleton.mp member
      cases here.symm.trans there
      cases reflects
    | setStaticField _ _ _ null here | getStaticField _ _ _ null _ here =>
      rcases List.mem_pair.mp member with rfl | rfl
      · cases null.1.symm.trans there
      · cases here.symm.trans there
  · cases prescribed

end Steps

/-! ### Equal plans -/

section Equal

variable {plan other : Plan}

/-- Equal literals are the same integer, if they are integers. -/
theorem Literal.asInt?_eq_of_same {value value' : Literal} (same : value.same value' = true) :
    value.asInt? = value'.asInt? := by
  -- Floating-point numbers are no integers, and other literals are equal only to themselves.
  unfold Literal.same at same
  split at same
  · rfl
  · rfl
  · rw [beq_iff_eq.mp same]

/-- Equal plans are the same index, if they are indices. -/
theorem Lower.literalIndex_eq_of_same (same : plan.same other = true) :
    Lower.literalIndex plan = Lower.literalIndex other := by
  obtain ⟨name, kind⟩ := plan
  obtain ⟨name', kind'⟩ := other
  obtain ⟨named, twins⟩ := Plan.same_iff_twins.mp same
  cases named
  have twins : kind.Twins _ _ kind' := twins
  cases twins with
  | primitive equal =>
    simp only [Lower.literalIndex, Plan.kind, Plan.name, Literal.asInt?_eq_of_same equal]
  | actions | reflection | testCall | text | mock | unknown => rfl

/-- Elements at one place whose plans are linked. -/
def LinkedElements (element element' : Except CompileError Nat × Plan) : Prop :=
  element.1 = element'.1 ∧ element.2.Linked element'.2

/-- Plans that are equal one by one are linked as elements, from one place on. -/
theorem linkedElements_of_forall₂ {plans others : List Plan}
    (all : List.Forall₂ (Plan.same · · = true) plans others) (place : Nat) :
    List.Forall₂ LinkedElements
      ((plans.zipIdx place).map fun (element, place) => (.ok place, element))
      ((others.zipIdx place).map fun (element, place) => (.ok place, element)) := by
  induction all generalizing place with
  | nil => exact .nil
  | cons same _ ih => exact .cons ⟨rfl, .step same (.refl _)⟩ (ih (place + 1))

/-- Equal steps store linked plans at the same places. -/
theorem Action.Twins.storedElements {step step' : Action}
    (twins : step.Twins (Plan.same · · = true) step') :
    List.Forall₂ LinkedElements step.storedElements step'.storedElements := by
  cases twins with
  | arrayWrite both =>
    obtain _ | ⟨index, _ | ⟨value, _⟩⟩ := both
    exact .cons ⟨Lower.literalIndex_eq_of_same index, .step value (.refl _)⟩ .nil
  | newArrayWithInitializer _ all =>
    exact List.rel_append (linkedElements_of_forall₂ all 0) .nil
  | _ => exact .nil

/-- Equal steps make arrays of one length. -/
theorem Action.Twins.arrayLength? {step step' : Action}
    (twins : step.Twins (Plan.same · · = true) step') :
    step.arrayLength? = step'.arrayLength? := by
  cases twins with
  | newArray _ one =>
    obtain _ | ⟨length, _⟩ := one
    exact congrArg some (Lower.literalIndex_eq_of_same length)
  | newArrayWithInitializer _ all =>
    simp only [Action.arrayLength?, all.length_eq]
  | _ => rfl

/-- Steps that store linked plans at the same places, in arrays of one length. -/
structure Action.StoresAlike (step step' : Action) : Prop where
  elements : List.Forall₂ LinkedElements step.storedElements step'.storedElements
  length : step.arrayLength? = step'.arrayLength?

/-- An assignment that stores an element stores those that are equal to it. -/
theorem LinkedElements.places {built : CompiledTest} {write : ElementWrite}
    {element element' : Except CompileError Nat × Plan} (linked : LinkedElements element element')
    (places : built.Places element' write) : built.Places element write := by
  obtain ⟨copy, same, stands⟩ := places.stands
  exact ⟨linked.1.trans places.place, copy, linked.2.trans same, stands⟩

/-- Linked plans that are made of direct steps store alike, one step after the other. -/
theorem Plan.Linked.storesAlike (linked : plan.Linked other) {steps : List Action}
    (kind : plan.kind = .actions steps) : ∃ steps', other.kind = .actions steps' ∧
      List.Forall₂ Action.StoresAlike steps steps' := by
  rcases linked.eq_or_same with rfl | same
  · -- Every step stores what it stores itself.
    have alike : ∀ step ∈ steps, Action.StoresAlike step step := fun step _ =>
      ⟨List.forall₂_same.mpr fun _ _ => ⟨rfl, .refl _⟩, rfl⟩
    exact ⟨steps, kind, List.forall₂_same.mpr alike⟩
  · obtain ⟨name, kind₁⟩ := plan
    obtain ⟨name', kind'⟩ := other
    cases kind
    have twins : PlanKind.Twins _ _ (.actions steps) kind' := (Plan.same_iff_twins.mp same).2
    cases twins with
    | actions all =>
      exact ⟨_, rfl, all.imp fun _ _ twins => ⟨twins.storedElements, twins.arrayLength?⟩⟩

end Equal

/-! ### Faithful tests -/

/--
The array of a plan is allocated, and from then on exactly the given elements are stored in it, one
after the other, all of them by steps of the plan.
-/
structure CompiledTest.Fills (built : CompiledTest) (origins : List Origin) (owner : String)
    (array : Var) (length : Nat) (elements : List (Except CompileError Nat × Plan)) : Prop where
  /-- The array is allocated before anything is stored in it. -/
  allocated : ∃ position, built.At position (.newArray length array) ∧
    ∀ write ∈ built.test.elementWrites array, position < write.position
  stored : List.Forall₂ built.Places elements (built.test.elementWrites array)
  inside : ∀ write ∈ built.test.elementWrites array, write.index < length
  /-- No step of another plan stores anything in the array. -/
  own : ∀ write ∈ built.test.elementWrites array,
    ∃ index, origins[write.position]? = some (.step owner index)

/-- In increasing lists that have the same of what is kept, the same is kept. -/
theorem filterMap_eq_of_increasing {β : Type} {keep : Nat → Option β} {xs ys : List Nat}
    (increasing : xs.Pairwise (· < ·)) (increasing' : ys.Pairwise (· < ·))
    (same : ∀ x, (keep x).isSome = true → (x ∈ xs ↔ x ∈ ys)) :
    xs.filterMap keep = ys.filterMap keep := by
  -- What is not kept may be left out first, and then the lists are equal.
  have only : ∀ zs : List Nat, zs.filterMap keep =
      (zs.filter fun z => (keep z).isSome).filterMap keep := fun zs => by
    rw [List.filterMap_filter]
    congr 1
    funext z
    cases keep z <;> rfl
  have equal : (xs.filter fun x => (keep x).isSome) = ys.filter fun y => (keep y).isSome := by
    refine (increasing.filter _).eq_of_mem_iff (increasing'.filter _) fun x => ?_
    rw [List.mem_filter, List.mem_filter]
    exact and_congr_left (same x)
  rw [only xs, only ys, equal]

/-- Every item of a list stands at the place that counts those before it. -/
theorem forall₂_range {β : Type} (items : List β) :
    List.Forall₂ (fun item index => items[index]? = some item) items
      (List.range items.length) := by
  rw [List.forall₂_iff_get]
  refine ⟨List.length_range.symm, fun index inside _ => ?_⟩
  simp [inside]

/-- What is related to the item at an index of a list is at that index as well. -/
theorem exists_of_forall₂_getElem? {β γ : Type} {related : β → γ → Prop} {items : List β}
    {others : List γ} (all : List.Forall₂ related items others) {index : Nat} {item : β}
    (found : items[index]? = some item) :
    ∃ other, others[index]? = some other ∧ related item other := by
  obtain ⟨inside, rfl⟩ := List.getElem?_eq_some_iff.mp found
  have inside' : index < others.length := all.length_eq ▸ inside
  exact ⟨_, List.getElem?_eq_getElem inside', all.get inside inside'⟩

/-- The positions of an origin are in increasing order. -/
theorem positionsOf_increasing (origins : List Origin) (origin : Origin) :
    (positionsOf origins origin).Pairwise (· < ·) :=
  List.pairwise_lt_range.filter _

namespace Faithful

variable {ρ : Type} [ClassLoading ρ] {setting : Setting ρ} {call : TestCall}
  {built : CompiledTest} {origins : List Origin} {array : Var} {position : Nat}

/-- An assignment to an element of the array of a plan comes from a step of that plan. -/
theorem origin_of_write (faithful : Faithful setting call built origins)
    (apart : ∀ name name' var, built.bindings.get? name = some var →
      built.bindings.get? name' = some var → name = name')
    {owner : String} (bound : built.bindings.get? owner = some array) {write : ElementWrite}
    (found : built.test.elementWriteAt? array position = some write) :
    ∃ index, origins[position]? = some (.step owner index) := by
  have there := (TestCase.elementWriteAt?_eq_some_iff.mp found).2
  have inside : position < origins.length :=
    faithful.covers ▸ (List.getElem?_eq_some_iff.mp there).1
  obtain ⟨origin, here⟩ : ∃ origin, origins[position]? = some origin :=
    ⟨_, List.getElem?_eq_getElem inside⟩
  have member := List.mem_of_getElem? here
  cases origin with
  | step name index =>
    obtain ⟨plan, needed, rfl, within⟩ := (faithful.step_iff name index).mp member
    obtain ⟨lowered, _, named, count, each⟩ :=
      faithful.steps plan needed (Nat.zero_lt_of_lt within)
    -- The step stores something in the array, so the array is that of its plan.
    rw [← named] at here
    have own := (each index (count ▸ within)).bound_of_write (mem_positionsOf.mpr here) found
    cases apart _ _ _ own bound
    exact ⟨index, here⟩
  | leaf name =>
    -- A leaf has one statement, which makes a constant or null.
    obtain ⟨_, place, _, _, only, prescribed⟩ := faithful.leaves name member
    have same := mem_positionsOf.mpr here
    rw [only] at same
    cases List.mem_singleton.mp same
    obtain ⟨_, _, _, ⟨_, same⟩ | same⟩ := prescribed.makes there <;> cases same
  | call =>
    obtain ⟨before, rfl, absent⟩ := faithful.call_last
    -- The call is the last statement, and no assignment.
    have last : position = built.test.statements.length - 1 := by
      have size := faithful.covers
      rw [List.length_append, List.length_singleton] at size inside
      rcases Nat.lt_or_ge position before.length with less | more
      · rw [List.getElem?_append_left less] at here
        exact absurd (List.mem_of_getElem? here) absent
      · omega
    obtain ⟨method, receiver, args⟩ := call
    obtain ⟨_, _, statement, _, _, calls, final⟩ := faithful.last
    rw [← last] at final
    cases final.symm.trans there
    cases calls

variable {plan : Plan} {steps : List Action} (faithful : Faithful setting call built origins)
  (apart : ∀ name name' var, built.bindings.get? name = some var →
    built.bindings.get? name' = some var → name = name')
  (counts : ∀ other, Needed setting.roots other → other.name = plan.name →
    other.stepCount = plan.stepCount)
  (each : ∀ index < plan.stepCount, setting.PrescribesStep built plan index
    (positionsOf origins (.step plan.name index)))
  (kind : plan.kind = .actions steps) (bound : built.bindings.get? plan.name = some array)

include faithful apart counts bound in
/-- The assignments to the elements of the array of a plan are those of its steps, in order. -/
theorem elementWrites_eq : built.test.elementWrites array =
    (List.range plan.stepCount).flatMap fun index =>
      (positionsOf origins (.step plan.name index)).filterMap
        (built.test.elementWriteAt? array) := by
  rw [← List.filterMap_flatMap]
  apply filterMap_eq_of_increasing List.pairwise_lt_range
  · rw [List.pairwise_flatMap]
    -- Within a step and from one step to the next, positions increase.
    constructor
    · exact fun _ _ => positionsOf_increasing _ _
    · apply List.pairwise_lt_range.imp
      intro first second less
      exact faithful.in_order plan.name first second less
  · intro position isSome
    rw [List.mem_range, List.mem_flatMap]
    constructor
    · -- What stores something there comes from one of the steps.
      intro _
      obtain ⟨write, found⟩ := Option.isSome_iff_exists.mp isSome
      obtain ⟨index, here⟩ := faithful.origin_of_write apart bound found
      obtain ⟨other, needed, named, within⟩ :=
        (faithful.step_iff plan.name index).mp (List.mem_of_getElem? here)
      rw [counts other needed named] at within
      exact ⟨index, List.mem_range.mpr within, mem_positionsOf.mpr here⟩
    · intro listed
      obtain ⟨index, _, here⟩ := listed
      have inside := (List.getElem?_eq_some_iff.mp (mem_positionsOf.mp here)).1
      rw [faithful.covers] at inside
      exact inside

include each kind in
/-- The step at an index of a plan has its statements at the positions of its origin. -/
theorem prescribes {index : Nat} {step : Action} (found : steps[index]? = some step) :
    setting.Prescribes built plan.name step (positionsOf origins (.step plan.name index)) := by
  have inside : index < plan.stepCount := by
    rw [Plan.stepCount, kind]
    exact (List.getElem?_eq_some_iff.mp found).1
  have prescribed := each index inside
  rw [Setting.PrescribesStep, kind] at prescribed
  obtain ⟨step', found', prescribed⟩ := prescribed
  cases found.symm.trans found'
  exact prescribed

include faithful apart counts each kind bound in
/-- The assignments to the elements of the array of a plan store what its steps do, in order. -/
theorem places_elementWrites : List.Forall₂ built.Places (steps.flatMap Action.storedElements)
    (built.test.elementWrites array) := by
  rw [faithful.elementWrites_eq apart counts bound, Plan.stepCount, kind]
  exact List.rel_flatMap (forall₂_range steps) fun step index found =>
    (prescribes each kind found).places bound

include faithful each kind bound in
/-- A step before the one that allocates the array of its plan stores nothing. -/
theorem storedElements_eq_nil (coherent : built.test.Coherent) {length made index : Nat}
    (own : position ∈ positionsOf origins (.step plan.name made))
    (allocated : built.At position (.newArray length array)) (less : index < made) {step : Action}
    (found : steps[index]? = some step) : step.storedElements = [] := by
  have places := (prescribes each kind found).places bound
  -- Whatever it stored would be stored before the allocation.
  have nothing : (positionsOf origins (.step plan.name index)).filterMap
      (built.test.elementWriteAt? array) = [] := by
    rw [List.filterMap_eq_nil_iff]
    intro earlier here
    by_contra stores
    obtain ⟨write, stored⟩ := Option.ne_none_iff_exists'.mp stores
    obtain ⟨rfl, there⟩ := TestCase.elementWriteAt?_eq_some_iff.mp stored
    have after := (coherent.of_elementWrite allocated (TestCase.mem_elementWrites.mpr there)).1
    have before := faithful.in_order plan.name index made less _ here _ own
    exact Nat.lt_asymm before after
  rw [nothing] at places
  exact List.forall₂_nil_right_iff.mp places

include faithful each kind bound in
/-- Steps before the one that allocates the array of their plan store nothing. -/
theorem flatMap_storedElements_eq_nil (coherent : built.test.Coherent) {before rest : List Action}
    (alike : List.Forall₂ Action.StoresAlike (before ++ rest) steps) {length : Nat}
    (own : position ∈ positionsOf origins (.step plan.name before.length))
    (allocated : built.At position (.newArray length array)) :
    before.flatMap Action.storedElements = [] := by
  rw [List.flatMap_eq_nil_iff]
  intro step member
  obtain ⟨index, inside, rfl⟩ := List.getElem_of_mem member
  -- The step at the same index of the plan that was lowered is equal to this one.
  have there : (before ++ rest)[index]? = some before[index] := by
    rw [List.getElem?_append_left inside, List.getElem?_eq_getElem inside]
  obtain ⟨step', found, same⟩ := exists_of_forall₂_getElem? alike there
  have empty := storedElements_eq_nil faithful each kind bound coherent own allocated inside found
  have elements := same.elements
  rw [empty] at elements
  exact List.forall₂_nil_right_iff.mp elements

include faithful apart counts each kind bound in
/--
When one step of a plan makes an array, and no later step makes a value again, the array has the
elements that it is made with and those that later steps write.
-/
theorem fills (coherent : built.test.Coherent) {before later : List Action} {creating : Action}
    (alike : List.Forall₂ Action.StoresAlike (before ++ creating :: later) steps)
    (others : ∀ step ∈ later, step.role ≠ .produces) {sized : Except CompileError Nat}
    (makes : creating.arrayLength? = some sized) :
    ∃ length, sized = .ok length ∧ built.Fills origins plan.name array length
      (creating.initialElements ++ later.filterMap Action.writtenElement?) := by
  have there : (before ++ creating :: later)[before.length]? = some creating := by simp
  obtain ⟨creating', found, same⟩ := exists_of_forall₂_getElem? alike there
  obtain ⟨position, own, length, literal, allocated⟩ :=
    (prescribes each kind found).allocates bound (same.length ▸ makes)
  have nothing : before.flatMap Action.storedElements = [] :=
    flatMap_storedElements_eq_nil faithful each kind bound coherent alike own allocated
  -- All that the plan stores is what its array is made with and what is written later.
  have all : (before ++ creating :: later).flatMap Action.storedElements =
      creating.initialElements ++ later.filterMap Action.writtenElement? := by
    rw [List.flatMap_append, nothing, List.nil_append, List.flatMap_cons,
      Action.flatMap_storedElements others, Action.storedElements,
      Action.writtenElement?_of_arrayLength? makes, Option.toList_none, List.append_nil]
  have within : ∀ write ∈ built.test.elementWrites array,
      position < write.position ∧ write.index < length :=
    fun write member => coherent.of_elementWrite allocated member
  refine ⟨length, literal, ?_⟩
  constructor
  · exact ⟨position, allocated, fun write member => (within write member).1⟩
  · rw [← all]
    -- Equal steps store equal elements, and the steps of the plan store what is in the test.
    have linked : List.Forall₂ LinkedElements
        ((before ++ creating :: later).flatMap Action.storedElements)
        (steps.flatMap Action.storedElements) :=
      List.rel_flatMap alike fun _ _ same => same.elements
    have stored := faithful.places_elementWrites apart counts each kind bound
    apply (forall₂_comp linked stored).imp
    intro element write between
    obtain ⟨element', linked, places⟩ := between
    exact linked.places places
  · exact fun write member => (within write member).2
  · intro write member
    have there := TestCase.mem_elementWrites.mp member
    exact faithful.origin_of_write apart bound
      (TestCase.elementWriteAt?_eq_some_iff.mpr ⟨rfl, there⟩)

end Faithful

/--
In a test that is compiled from consistent plans, what is stored in the array of a plan is what
the step that makes the array gives as its elements, in the order of their places, and then what
each later step writes, in the order of the steps. All of it is stored after the allocation of the
array, inside of its length and by steps of that plan.
-/
theorem compileTest_arrays {ρ : Type} [ClassLoading ρ] (sharing : Sharing) (loader : ρ)
    (config : CompilerConfig) (method : MethodReference) (parameters : Parameters)
    {graph : PlanGraph} (consistent : PlanGraph.ofRoots sharing parameters.roots = .ok graph)
    {test : CompiledTest} {after : Compilation ρ}
    (compiled : Lower.compileTest sharing config method parameters { loader } = .ok test after) :
    ∃ origins, Faithful ⟨config, loader, parameters.roots⟩ (parameters.testCall method) test
        origins ∧
      ∀ (plan : Plan) (array : Var) (before later : List Action) (creating : Action)
        (sized : Except CompileError Nat), Reachable parameters.roots plan →
        test.bindings.get? plan.name = some array →
        plan.kind = .actions (before ++ creating :: later) → creating.arrayLength? = some sized →
          ∃ length, sized = .ok length ∧ test.Fills origins plan.name array length
            (creating.initialElements ++ later.filterMap Action.writtenElement?) := by
  obtain ⟨rfl, _, _, _, _, _, _, _, prepared, ended⟩ := Lower.compileTest_stages consistent compiled
  have faithful := prepared.faithful ended
  obtain ⟨_, sound⟩ := Lower.compileTest_sound compiled
  refine ⟨_, faithful, ?_⟩
  intro plan array before later creating sized reachable bound kind makes
  -- The plan has a variable, so a plan of its name has been lowered, and the two are equal.
  obtain ⟨_, _, other, _, needed, named, _⟩ := sound.typed plan.name array bound
  have linked : ∀ {needed : Plan}, Needed parameters.roots needed → needed.name = plan.name →
      plan.Linked needed :=
    fun needed named => reachable.linked consistent needed.reachable named.symm
  have count : 0 < other.stepCount := by
    rw [← (linked needed named).alike.1.stepCount, Plan.stepCount, kind]
    show 0 < (before ++ creating :: later).length
    simp
  obtain ⟨lowered, needed', named', _, each⟩ := faithful.steps other needed count
  have linked' := linked needed' (named'.trans named)
  obtain ⟨steps, kind', alike⟩ := linked'.storesAlike kind
  -- The plan in the graph makes its value once, and so does this one.
  obtain ⟨node, found, same⟩ := needed'.get? consistent
  rw [← linked'.name] at found
  have once : ¬ plan.ProducesTwice := by
    rw [linked'.producesTwice, ← same.producesTwice]
    exact Lower.compileTest_once consistent compiled bound found
  have counts : ∀ other, Needed parameters.roots other → other.name = lowered.name →
      other.stepCount = lowered.stepCount :=
    fun other needed named => (needed.alike consistent needed' named).stepCount
  rw [linked'.name] at bound ⊢
  exact faithful.fills sound.orderly.ordered.apart counts each kind' bound sound.orderly.coherent
    alike (Plan.role_ne_of_later once kind (Action.role_of_arrayLength? makes)) makes

/-- An array of one row that is made with a row and gets another one. -/
def Demo.rows : Parameters where
  statics := [.mk "rows" (.actions [
    .newArrayWithInitializer (.array intType) [intArray "first" [5, 6]],
    .arrayWrite (int "place" 0) (intArray "second" [7])])]

/-- Both rows are stored in the array, whatever is stored in the rows themselves. -/
theorem compileTest_arrays_rows :
    ∃ (graph : PlanGraph) (test : CompiledTest) (after : Session) (origins : List Origin)
      (array : Var), PlanGraph.ofRoots .none Demo.rows.roots = .ok graph ∧
      Lower.compileTest .none {} Demo.settingsReset Demo.rows { loader := Demo.loader [] }
        = .ok test after ∧
      test.bindings.get? "rows" = some array ∧ test.Fills origins "rows" array 1
        [(.ok 0, Demo.intArray "first" [5, 6]), (.ok 0, Demo.intArray "second" [7])] := by
  obtain ⟨graph, consistent⟩ : ∃ graph, PlanGraph.ofRoots .none Demo.rows.roots = .ok graph :=
    exists_ok_of_isOk (by decide +kernel)
  obtain ⟨test, after, ran, isBound⟩ : ∃ test after, Lower.compileTest .none {} Demo.settingsReset
      Demo.rows ({ loader := Demo.loader [] } : Session) = .ok test after ∧
        test.bindings.isBound "rows" = true :=
    exists_ok_of_any_run' (by decide +kernel)
  obtain ⟨array, bound⟩ := Option.isSome_iff_exists.mp isBound
  obtain ⟨origins, _, arrays⟩ := compileTest_arrays _ _ _ _ _ consistent ran
  -- The one root makes the array first, and what it does next is the only step after that.
  obtain ⟨_, ⟨⟩, fills⟩ := arrays _ array [] _ _ _ (.root (List.mem_singleton_self _)) bound rfl rfl
  exact ⟨graph, test, after, origins, array, consistent, ran, bound, fills⟩

end TestPlan
