import TestPlan.Proofs.Lowering.Faithful
import TestPlan.Proofs.Lowering.Shifted

/-!
Which operands the variable of a leaf takes the place of: those that stand for the leaf in the step
that their statement comes from.
-/

namespace TestPlan

open List (Forall₂)

/-! ### What the operands of a statement stand for -/

/-- The operands of a statement, in order. -/
def Statement.operands : Statement → List Operand
  | .constructor _ args _
  | .reflection _ args _ => args
  | .method _ callee args _ => callee.toList ++ args
  | .fieldRead _ owner _ => owner.toList
  | .assignment _ value => [value]
  | .constant _ _
  | .null _
  | .newArray _ _ => []

/--
For each statement of a step the plans that its operands stand for, in order. Operands that stand
for no plan, such as the variable of the owner, have no plan in their place.
-/
def Action.slots : Action → List (List (Option Plan))
  | .methodCall method args =>
    -- A constructor is not called on an object.
    [if method.isConstructor then args.map some else none :: args.map some]
  | .newArrayWithInitializer _ elements => [] :: elements.map fun element => [some element]
  | .arrayClassConstantGetter elementType => [[some elementType, none], [none]]
  | step => [step.reads.map some]

/-- For each statement that a reflective step may have the plans that its operands stand for. -/
def ReflectiveAction.slots : ReflectiveAction → List (List (Option Plan))
  | .newInstance _ => [[none]]
  -- Only the routine for all types is told the type of the elements.
  | .newArray _ length => [[some length], [none, some length]]
  | .arrayWrite index value => [[none, some index, some value]]
  | .arrayRead array index _ => [[some array, some index]]
  | .setField _ value => [[none, none, none, some value]]
  | .setStaticField _ value => [[], [none, none, none, some value]]
  | .getField receiver _ => [[some receiver, none, none]]
  | .getStaticField _ => [[], [none, none, none]]

/-- The plans that the operands of a call stand for. -/
def TestCall.slots : TestCall → List (Option Plan)
  | .mk method receiver args =>
    (if method.isConstructor then args else receiver.toList ++ args).map some

/--
The plans that the operands of the statement at a position stand for, told by the step, the literal
or the call that the statement comes from.
-/
inductive SlotsAt (roots : List Plan) (call : TestCall) (origins : List Origin) (position : Nat) :
    List (Option Plan) → Prop
  | action {name : String} {steps : List Action} {step : Action} {index place : Nat}
      {slots : List (Option Plan)} : Needed roots (.mk name (.actions steps)) →
      steps[index]? = some step →
      (positionsOf origins (.step name index))[place]? = some position →
      step.slots[place]? = some slots → SlotsAt roots call origins position slots
  | reflection {name : String} {steps : List ReflectiveAction} {step : ReflectiveAction}
      {index : Nat} {slots : List (Option Plan)} :
      Needed roots (.mk name (.reflection steps)) → steps[index]? = some step →
      position ∈ positionsOf origins (.step name index) →
      slots ∈ step.slots → SlotsAt roots call origins position slots
  | leaf {name : String} : origins[position]? = some (.leaf name) →
      SlotsAt roots call origins position []
  | call : origins[position]? = some .call → SlotsAt roots call origins position call.slots

/-! ### A test that a leaf leads -/

/-- A variable that is declared one later is not that of the leaf. -/
theorem Var.next_ne_leafVar (var : Var) : var.next ≠ leafVar := by
  intro same
  cases same

namespace CompiledTest

/-- A test in which the first variable is that of a leaf and of nothing else. -/
structure LedBy (leaf : Plan) (built : CompiledTest) : Prop where
  bound : built.bindings.get? leaf.name = some leafVar
  only : ∀ {name}, built.bindings.get? name = some leafVar → name = leaf.name
  defined : built.test.definedAt? leafVar = some 0
  apart : ∀ {position statement}, built.At (position + 1) statement →
    statement.defines ≠ some leafVar

/-- A test that goes on behind a leaf is led by the leaf. -/
theorem Behind.ledBy {leaf : Plan} {value : Constant} {built built' : CompiledTest}
    (behind : built.Behind leaf value built') : built'.LedBy leaf where
  bound := behind.bindings.get?_leaf
  only {name} found := by
    by_contra other
    rw [behind.bindings.get?_of_ne other] at found
    obtain ⟨var, _, same⟩ := Option.map_eq_some_iff.mp found
    exact var.next_ne_leafVar same
  defined := by
    obtain ⟨type, _, known⟩ := behind.test.info?_leafVar
    simp only [TestCase.definedAt?, known]
    rfl
  apart {position statement} there defines := by
    have related := behind.test.rel_statements position
    rw [there] at related
    generalize built.test.statements[position]? = before at related
    -- All other statements define variables that are declared one later.
    cases related with
    | some twins =>
      obtain ⟨_, twins⟩ := twins
      obtain ⟨var, _, same⟩ := Option.map_eq_some_iff.mp (twins.defines.symm.trans defines)
      exact var.next_ne_leafVar same

/--
An operand that suits a slot: it stands for the plan of the slot after the statement of the leaf,
and where there is no plan it is not the variable of the leaf.
-/
def Suits (built : CompiledTest) : Option Plan → Operand → Prop
  | some plan, operand => ∃ position, 0 < position ∧ built.StandsFor position plan operand
  | none, operand => operand ≠ .var leafVar

/-- An operand that stands for a plan suits the slot of this plan. -/
theorem StandsFor.suits {built : CompiledTest} {position : Nat} {plan : Plan} {operand : Operand}
    (stands : built.StandsFor position plan operand) (later : 0 < position) :
    built.Suits (some plan) operand :=
  ⟨position, later, stands⟩

/-- Operands that stand for plans suit the slots of these plans. -/
theorem StandForAll.suits {built : CompiledTest} {position : Nat} {plans : List Plan}
    {operands : List Operand} (all : built.StandForAll position plans operands)
    (later : 0 < position) : Forall₂ built.Suits (plans.map some) operands :=
  List.forall₂_map_left_iff.mpr (all.imp fun _ _ stands => stands.suits later)

/-- A statement at a position whose operands suit some slots. -/
def Suited (built : CompiledTest) (position : Nat) (slots : List (Option Plan)) : Prop :=
  ∃ statement, built.At position statement ∧
    Forall₂ built.Suits slots statement.operands

end CompiledTest

section Led

variable {leaf : Plan} {built : CompiledTest} (led : built.LedBy leaf)

include led

/-! ### Operands that suit a slot take each other's place for its plan -/

/-- An operand that suits a slot takes the place of another one for the plan of that slot. -/
theorem Replaced.of_suits {slot slot' : Option Plan} {operand operand' : Operand}
    (replaced : Replaced leaf slot operand operand')
    (suits : built.Suits slot' operand') : Replaced leaf slot' operand operand' := by
  cases replaced with
  | leaf _ linked constant =>
    cases slot' with
    | none => exact absurd rfl suits
    | some plan =>
      obtain ⟨_, _, stands⟩ := suits
      -- Only the leaf is bound to the variable that the operand reads.
      cases stands with
      | var bound => exact .leaf (led.only bound) linked constant
  | other operand =>
    refine .other operand fun plan given named => ?_
    cases given
    obtain ⟨position, later, stands⟩ := suits
    -- The leaf has got its variable first, so nothing else may stand for it.
    generalize replaced : operand.map Var.next = operand' at stands
    cases stands with
    | var bound =>
      rw [named, led.bound] at bound
      cases bound
      cases operand <;> cases replaced
    | constant _ absent =>
      obtain ⟨first, defined, before⟩ := absent leafVar (named ▸ led.bound)
      rw [led.defined] at defined
      cases defined
      exact absurd later (Nat.not_lt.mpr before)

/-- Operands that suit slots take the places of others for the plans of these slots. -/
theorem StandAll.of_suits {slots slots' : List (Option Plan)}
    {operands operands' : List Operand} (all : StandAll (Replaced leaf) slots operands operands')
    (suits : Forall₂ built.Suits slots' operands') :
    StandAll (Replaced leaf) slots' operands operands' := by
  induction all generalizing slots' with
  | nil =>
    cases suits
    exact .nil
  | cons replaced _ ih =>
    cases suits with
    | cons first rest => exact .cons (replaced.of_suits led first) (ih rest)

/-- A statement with operands that suit slots is behind the leaf for the plans of these slots. -/
theorem Statement.Behind.of_suits {slots slots' : List (Option Plan)}
    {statement statement' : Statement} (behind : statement.Behind leaf slots statement')
    (suits : Forall₂ built.Suits slots' statement'.operands) :
    statement.Behind leaf slots' statement' := by
  cases behind with
  | constructor handle result args => exact .constructor handle result (args.of_suits led suits)
  | reflection helper result args => exact .reflection helper result (args.of_suits led suits)
  | fieldRead field result owner => exact .fieldRead field result (owner.of_suits led suits)
  | method handle result callee args =>
    -- The slots of the object, if there is one, come before those of the arguments.
    rw [← List.take_append_drop _ slots']
    exact .method handle result
      (callee.of_suits led (List.forall₂_take_append _ _ _ suits))
      (args.of_suits led (List.forall₂_drop_append _ _ _ suits))
  | element array index value =>
    cases suits with
    | cons first rest =>
      cases rest
      exact .element array index (value.of_suits led first)
  | field field owner value =>
    cases suits with
    | cons first rest =>
      cases rest
      exact .field field owner (value.of_suits led first)
  | constant value result =>
    cases suits
    exact .constant value result
  | null result =>
    cases suits
    exact .null result
  | newArray length result =>
    cases suits
    exact .newArray length result

/-- The variable of another plan is not that of the leaf. -/
theorem CompiledTest.LedBy.suits_owner {owner : String} (other : owner ≠ leaf.name)
    {var : Var} (bound : built.bindings.get? owner = some var) :
    built.Suits none (.var var) := by
  rintro ⟨⟩
  exact other (led.only bound)

/-- A variable that a later statement defines is not that of the leaf. -/
theorem CompiledTest.LedBy.suits_defined {position : Nat} {statement : Statement} {var : Var}
    (later : 0 < position) (there : built.At position statement)
    (defines : statement.defines = some var) : built.Suits none (.var var) := by
  rintro ⟨⟩
  obtain ⟨before, rfl⟩ := Nat.exists_eq_add_one.mpr later
  exact led.apart there defines

end Led

/-! ### The operands of a step suit its slots -/

variable {ρ : Type} [ClassLoading ρ] {setting : Setting ρ} {leaf : Plan} {built : CompiledTest}
  {owner : String} {position : Nat}

namespace Setting

/-- The operands of a call suit the slots of the object and the arguments. -/
theorem Calls.suits {method : MethodReference} {callee : Option Operand} {args : List Operand}
    {target : Option String} {statement : Statement} {slots : List (Option Plan)}
    {plans : List Plan} (calls : setting.Calls built method callee args target statement)
    (received : method.isConstructor = false → Forall₂ built.Suits slots callee.toList)
    (supplied : Forall₂ built.Suits (plans.map some) args) :
    Forall₂ built.Suits
      (if method.isConstructor then plans.map some else slots ++ plans.map some)
      statement.operands := by
  cases calls with
  | constructor isConstructor =>
    rw [if_pos isConstructor]
    exact supplied
  | method isMethod =>
    rw [if_neg (by simp [isMethod])]
    exact List.rel_append (received isMethod) supplied

omit [ClassLoading ρ] in
/-- The elements that are stored suit their slots. -/
theorem Stores.suited {array : Var} {start : Nat} {elements : List Plan} {positions : List Nat}
    (stores : Stores built array start elements positions)
    (later : ∀ position ∈ positions, 0 < position) {place : Nat}
    (found : positions[place]? = some position) :
    ∃ element, elements[place]? = some element ∧ built.Suited position [some element] := by
  induction stores generalizing place with
  | nil => cases found
  | cons stands there _ ih =>
    cases place with
    | zero =>
      cases found
      exact ⟨_, rfl, _, there, .cons (stands.suits (later _ List.mem_cons_self)) .nil⟩
    | succ place => exact ih (fun _ member => later _ (List.mem_cons_of_mem _ member)) found

section Led

variable (led : built.LedBy leaf) (other : owner ≠ leaf.name)

include led other

/-- The operands of a direct step that has one statement suit its slots. -/
theorem Lowers.suits {step : Action} {statement : Statement}
    (lowers : setting.Lowers built owner position step statement) (later : 0 < position) :
    ∃ slots, step.slots = [slots] ∧ Forall₂ built.Suits slots statement.operands := by
  cases lowers with
  | arrayWrite _ _ value
  | fieldGetter _ _ value
  | fieldSetter _ _ value
  | staticFieldSetter _ value => exact ⟨_, rfl, .cons (value.suits later) .nil⟩
  | constructorCall supplied calls
  | externalConstructorCall supplied calls
  | staticMethodCall supplied calls =>
    have suits := calls.suits (fun _ => .nil) (supplied.suits later)
    rw [List.nil_append, ite_self] at suits
    exact ⟨_, rfl, suits⟩
  | methodCall bound supplied calls =>
    have suits := calls.suits (fun _ => .cons (led.suits_owner other bound) .nil)
      (supplied.suits later)
    exact ⟨_, rfl, suits⟩
  | externalMethodCall received supplied calls =>
    have suits := calls.suits (fun isMethod => (received isMethod).suits later)
      (supplied.suits later)
    rw [← List.map_append, ← apply_ite (List.map some)] at suits
    exact ⟨_, rfl, suits⟩
  | defaultConstructorCall | enumValueCreation | staticFieldGetter | newArray
  | classConstantGetter => exact ⟨_, rfl, .nil⟩

/-- The operands of a direct step suit its slots. -/
theorem Prescribes.suited {step : Action} {positions : List Nat}
    (prescribes : setting.Prescribes built owner step positions)
    (later : ∀ position ∈ positions, 0 < position) {place : Nat}
    (found : positions[place]? = some position) :
    ∃ slots, step.slots[place]? = some slots ∧ built.Suited position slots := by
  cases prescribes with
  | one lowers there =>
    obtain ⟨slots, only, suits⟩ := lowers.suits led other (later _ List.mem_cons_self)
    cases place with
    | zero =>
      cases found
      exact ⟨slots, by rw [only]; rfl, _, there, suits⟩
    | succ place => cases found
  | initializer _ _ _ there stores =>
    cases place with
    | zero =>
      cases found
      exact ⟨_, rfl, _, there, .nil⟩
    | succ place =>
      obtain ⟨element, member, suited⟩ :=
        stores.suited (fun _ inside => later _ (List.mem_cons_of_mem _ inside)) found
      exact ⟨_, by simp [Action.slots, member], suited⟩
  | arrayClass stands _ _ _ _ _ there _ there' =>
    have after := later _ List.mem_cons_self
    rcases place with _ | _ | place
    · cases found
      exact ⟨_, rfl, _, there, .cons (stands.suits after) (.cons nofun .nil)⟩
    · cases found
      exact ⟨_, rfl, _, there', .cons (led.suits_defined after there rfl) .nil⟩
    · cases found

/-- The operands of a reflective step that has one statement suit its slots. -/
theorem Reflects.suits {step : ReflectiveAction} {statement : Statement}
    (reflects : setting.Reflects built owner position step statement) (later : 0 < position) :
    ∃ slots ∈ step.slots, Forall₂ built.Suits slots statement.operands := by
  -- Names and types that are told to a routine are constants.
  cases reflects with
  | newInstance => exact ⟨_, List.mem_cons_self, .cons nofun .nil⟩
  | newArray _ _ length =>
    simp only [ReflectiveAction.slots, List.exists_mem_cons_iff, arrayArguments, Statement.operands]
    split
    · exact .inl (.cons (length.suits later) .nil)
    · exact .inr (.inl (.cons nofun (.cons (length.suits later) .nil)))
  | arrayWrite bound index value =>
    have given := Forall₂.cons (index.suits later) (.cons (value.suits later) .nil)
    exact ⟨_, List.mem_cons_self, .cons (led.suits_owner other bound) given⟩
  | arrayRead array index =>
    have given := Forall₂.cons (array.suits later) (.cons (index.suits later) .nil)
    exact ⟨_, List.mem_cons_self, given⟩
  | setField bound value _ locates =>
    obtain ⟨_, _, rfl⟩ := locates
    have given := Forall₂.cons (value.suits later) .nil
    exact ⟨_, List.mem_cons_self,
      .cons (led.suits_owner other bound) (.cons nofun (.cons nofun given))⟩
  | getField receiver _ _ locates =>
    obtain ⟨_, _, rfl⟩ := locates
    exact ⟨_, List.mem_cons_self, .cons (receiver.suits later) (.cons nofun (.cons nofun .nil))⟩

/-- The operands of a reflective step suit its slots. -/
theorem PrescribesReflective.suited {step : ReflectiveAction} {positions : List Nat}
    (prescribes : setting.PrescribesReflective built owner step positions)
    (later : ∀ position ∈ positions, 0 < position) (member : position ∈ positions) :
    ∃ slots ∈ step.slots, built.Suited position slots := by
  cases prescribes with
  | one reflects there =>
    obtain ⟨slots, inside, suits⟩ := reflects.suits led other (later _ List.mem_cons_self)
    cases List.mem_singleton.mp member
    exact ⟨slots, inside, _, there, suits⟩
  | setStaticField value _ locates null there =>
    obtain ⟨_, _, rfl⟩ := locates
    have after := later _ List.mem_cons_self
    rcases List.mem_pair.mp member with rfl | rfl
    · exact ⟨[], List.mem_cons_self, _, null.1, .nil⟩
    · exact ⟨_, List.mem_cons_of_mem _ List.mem_cons_self, _, there,
        .cons (led.suits_defined after null.1 rfl)
          (.cons nofun (.cons nofun (.cons (value.suits after) .nil)))⟩
  | getStaticField _ _ locates null _ there =>
    obtain ⟨_, _, rfl⟩ := locates
    have after := later _ List.mem_cons_self
    rcases List.mem_pair.mp member with rfl | rfl
    · exact ⟨[], List.mem_cons_self, _, null.1, .nil⟩
    · exact ⟨_, List.mem_cons_of_mem _ List.mem_cons_self, _, there,
        .cons (led.suits_defined after null.1 rfl) (.cons nofun (.cons nofun .nil))⟩

end Led

/-! ### The operands of a test suit the slots of where they come from -/

/-- The statement of a literal or text has no operands. -/
theorem PrescribesLeaf.suited {plan : Plan}
    (prescribes : setting.PrescribesLeaf built plan position) : built.Suited position [] := by
  cases prescribes with
  | literal _ _ _ _ there | text _ _ _ there | null _ _ _ there => exact ⟨_, there, .nil⟩

/-- The operands of the call under test suit its slots. -/
theorem PrescribesCall.suited {call : TestCall}
    (prescribes : setting.PrescribesCall built call position) (later : 0 < position) :
    built.Suited position call.slots := by
  obtain ⟨method, receiver, args⟩ := call
  obtain ⟨_, _, statement, received, supplied, calls, there⟩ := prescribes
  have suits := calls.suits (fun isMethod => (received isMethod).suits later)
    (supplied.suits later)
  rw [← List.map_append, ← apply_ite (List.map some)] at suits
  exact ⟨statement, there, suits⟩

end Setting

namespace Faithful

variable {call : TestCall} {origins : List Origin} (faithful : Faithful setting call built origins)
  (led : built.LedBy leaf) (root : leaf ∈ setting.roots) (constant : leaf.isLeaf = true)

include faithful led root constant

/-- The first statement of a test is that of the leaf that leads it. -/
theorem head_origin : origins[0]? = some (.leaf leaf.name) := by
  obtain ⟨plan, position, _, named, only, prescribed⟩ :=
    faithful.leaves leaf.name ((faithful.leaf_iff _).mpr ⟨leaf, rfl, .inl ⟨root, constant⟩⟩)
  have there : position ∈ positionsOf origins (.leaf leaf.name) := by rw [only]; simp
  -- The statement of the leaf defines its variable, which no later statement does.
  have owned : ∃ statement, built.At position statement ∧ statement.defines = some leafVar := by
    have same : ∀ {var}, built.bindings.get? plan.name = some var → some var = some leafVar :=
      fun bound => bound.symm.trans (named ▸ led.bound)
    cases prescribed with
    | literal _ _ _ owns there | text _ _ owns there | null _ _ owns there =>
      exact ⟨_, there, same owns.bound⟩
  obtain ⟨statement, found, defines⟩ := owned
  cases position with
  | zero => exact mem_positionsOf.mp there
  | succ position => exact absurd defines (led.apart found)

/-- Statements of steps come after that of the leaf. -/
theorem pos_of_step (name : String) (index : Nat) :
    ∀ position ∈ positionsOf origins (.step name index), 0 < position := by
  refine fun position member => Nat.pos_of_ne_zero fun first => ?_
  have same := mem_positionsOf.mp (first ▸ member)
  rw [faithful.head_origin led root constant] at same
  cases same

/-- A statement of a step has operands that suit the slots of the step. -/
theorem exists_slotsAt_of_step (consistent : setting.Consistent) {name : String} {index : Nat}
    (member : position ∈ positionsOf origins (.step name index)) :
    ∃ slots, SlotsAt setting.roots call origins position slots ∧ built.Suited position slots := by
  obtain ⟨plan, needed, rfl, inside⟩ := (faithful.step_iff name index).mp
    (List.mem_of_getElem? (mem_positionsOf.mp member))
  obtain ⟨lowered, needed', named, count, prescribed⟩ :=
    faithful.steps plan needed (Nat.zero_lt_of_lt inside)
  rw [← count] at inside
  rw [← named] at member
  have later := faithful.pos_of_step led root constant lowered.name index
  -- The leaf has no steps, so its name is that of another plan.
  have other : lowered.name ≠ leaf.name := by
    intro same
    rw [(consistent lowered leaf needed' (.root root) same).stepCount,
      Plan.stepCount_of_isLeaf constant] at inside
    exact Nat.not_lt_zero index inside
  have prescribed := prescribed index inside
  obtain ⟨name, kind⟩ := lowered
  cases kind with
  | actions steps =>
    obtain ⟨step, found, prescribes⟩ := prescribed
    obtain ⟨place, there⟩ := List.mem_iff_getElem?.mp member
    obtain ⟨slots, only, suited⟩ := prescribes.suited led other later there
    exact ⟨slots, .action needed' found there only, suited⟩
  | reflection steps =>
    obtain ⟨step, found, prescribes⟩ := prescribed
    obtain ⟨slots, only, suited⟩ := prescribes.suited led other later member
    exact ⟨slots, .reflection needed' found member only, suited⟩
  | primitive | text | testCall | mock | unknown => cases prescribed

/-- What follows the leaf has operands that suit the slots of where it comes from. -/
theorem exists_slotsAt (consistent : setting.Consistent) (later : 0 < position)
    (inside : position < built.test.statements.length) :
    ∃ slots, SlotsAt setting.roots call origins position slots ∧ built.Suited position slots := by
  obtain ⟨origin, found⟩ : ∃ origin, origins[position]? = some origin :=
    ⟨_, List.getElem?_eq_getElem (faithful.covers ▸ inside)⟩
  cases origin with
  | step name index =>
    exact faithful.exists_slotsAt_of_step led root constant consistent (mem_positionsOf.mpr found)
  | leaf name =>
    obtain ⟨_, first, _, _, only, prescribed⟩ :=
      faithful.leaves name (List.mem_of_getElem? found)
    have there := mem_positionsOf.mpr found
    rw [only] at there
    cases List.mem_singleton.mp there
    exact ⟨[], .leaf found, prescribed.suited⟩
  | call =>
    have last : position = built.test.statements.length - 1 := by
      obtain ⟨before, rfl, absent⟩ := faithful.call_last
      have length := faithful.covers
      rw [List.length_append, List.length_singleton] at length
      by_contra early
      rw [List.getElem?_append_left (by omega)] at found
      exact absent (List.mem_of_getElem? found)
    exact ⟨call.slots, .call found, Setting.PrescribesCall.suited (last ▸ faithful.last) later⟩

end Faithful

end TestPlan
