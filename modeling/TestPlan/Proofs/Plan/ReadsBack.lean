import TestPlan.Plan.Decoding
import TestPlan.Plan.Encoding
import TestPlan.Proofs.Config.Routines
import TestPlan.Proofs.Data.ReadsBack
import TestPlan.Proofs.Number.Widening
import TestPlan.Proofs.Plan.Exact

/-! Types, member references and plans read back from their data. -/

namespace TestPlan

open Datum

/-! ### Types -/

/-- A record of a tag and its content is taken apart, whichever of the two comes first. -/
theorem Datum.Reordered.tagged {tagName contentName tag : String} {content : Datum}
    {others : List (String × Datum)} {room : Nat} (distinct : tagName ≠ contentName)
    (reordered : Reordered (.record [(tagName, .text tag), (contentName, content)])
      (.record others))
    (complete : content.Complete) (fits : depthOfEntries others ≤ room) :
    ∃ found first, (Datum.record others).tagged? tagName contentName
        = some ⟨.text tag, some found, first⟩ ∧
      content.Reordered found ∧ found.depth ≤ room ∧ found.canBeHeld room = true := by
  obtain ⟨known, holds⟩ := reordered.holds [tagName, contentName] rfl
    (by simpa using distinct) (List.Subset.refl _) fits
  obtain ⟨tagHolds, contentHolds, -⟩ := List.forall_mem_cons.mp holds |>.imp_right
    List.forall_mem_cons.mp
  obtain ⟨_, tagGiven, ⟨⟩, -⟩ := tagHolds
  obtain ⟨found, given, same, small⟩ := contentHolds
  refine ⟨found, (others.map (·.1)).head? == some contentName, ?_, same, small, ?_⟩
  · simp only at tagGiven given
    simp [tagged?, known, tagGiven, given]
  · rw [canBeHeld, complete found same, decide_eq_true small]
    rfl

namespace ValueType

/-- A type that is told by a tag and its content reads back when every reading of both finds it. -/
theorem readsBack_of_tagged {tag : String} {content : Datum} {type : ValueType}
    (complete : content.Complete)
    (reads : ∀ held room datum found first,
      datum.tagged? "kind" "of" = some ⟨.text tag, some found, first⟩ →
      content.Reordered found → found.depth ≤ room → found.canBeHeld room = true →
      ValueType.read held (room + 1) datum = some type) (held : Bool) :
    ReadsBack (ValueType.read held) (.record [("kind", .text tag), ("of", content)]) type where
  readable reordered := by
    refine complete_record ?_ _ reordered
    simp only [List.forall_mem_cons]
    exact ⟨complete_text tag, complete, by simp⟩
  reads {other room} reordered fits := by
    obtain ⟨others, values, rfl, -, -⟩ := reordered.exists_record
    obtain ⟨inner, rfl⟩ := exists_inner_of_record fits
    obtain ⟨found, first, tagged, same, small, holdable⟩ :=
      reordered.tagged (by decide) complete (Nat.le_of_succ_le_succ fits)
    exact reads held inner _ found first tagged same small holdable

/-- A type reads back. -/
theorem readsBack (type : ValueType) (held : Bool) :
    ReadsBack (ValueType.read held) type.toDatum type := by
  induction type generalizing held with
  | void =>
    have complete : (record [("kind", .text "void")]).Complete :=
      complete_record (by simp)
    refine ⟨complete _, fun {other room} reordered fits => ?_⟩
    obtain ⟨_, rfl, ⟨⟩⟩ := reordered.exists_entry
    obtain ⟨inner, rfl⟩ := exists_inner_of_record fits
    rfl
  | primitive type =>
    refine readsBack_of_tagged (complete_text _)
      (fun held room datum found first tagged same _ holdable => ?_) held
    cases same
    simp [ValueType.read, tagged, holdable, unitVariant?, Primitive.read,
      Primitive.ofKeyword?_keyword]
  | object className =>
    refine readsBack_of_tagged (complete_text _)
      (fun held room datum found first tagged same _ holdable => ?_) held
    cases same
    simp [ValueType.read, tagged, holdable, unitVariant?, asText]
  | array component ih =>
    refine readsBack_of_tagged (ih held).complete
      (fun held room datum found first tagged same small holdable => ?_) held
    simp [ValueType.read, tagged, holdable, unitVariant?, (ih _).reads same small]

end ValueType

/-! ### Member references -/

/-- A field reference reads back. -/
theorem FieldReference.readsBack (field : FieldReference) (held : Bool) :
    ReadsBack (FieldReference.read held) field.toDatum field := by
  have type := field.type.readsBack held
  refine .record ["owner", "name", "type", "is_static"] rfl (by decide) ?_
    fun room fields others known holds => ?_
  · simp [type.complete]
  · simp only [List.forall_mem_cons] at holds
    obtain ⟨owner, name, typed, isStatic, -⟩ := holds
    simp [FieldReference.read, Datum.fields, fieldsBy, known, owner.text, name.text,
      typed.required type, isStatic.boolean]

/-- A list of types reads back. -/
theorem ValueType.readsBack_list (types : List ValueType) (held : Bool) :
    ReadsBack (ValueType.readList held) (.list (types.map ValueType.toDatum)) types :=
  .list (fun _ _ => rfl) fun type _ => type.readsBack held

/-- A method reference reads back. -/
theorem MethodReference.readsBack (method : MethodReference) (held : Bool) :
    ReadsBack (MethodReference.read held) method.toDatum method := by
  have params := ValueType.readsBack_list method.params held
  have returns := method.returns.readsBack held
  refine .record ["owner", "name", "params", "returns", "is_static"] rfl (by decide) ?_
    fun room fields others known holds => ?_
  · simp [params.complete, returns.complete]
  · simp only [List.forall_mem_cons] at holds
    obtain ⟨owner, name, taken, result, isStatic, -⟩ := holds
    simp [MethodReference.read, Datum.fields, fieldsBy, known, owner.text, name.text,
      taken.withDefault params, result.required returns, isStatic.boolean]

/-! ### Literals -/

/-- Whether a literal is not an infinite or undefined number. -/
def Literal.isFinite : Literal → Bool
  | .float value => value.isFinite
  | .double value => value.isFinite
  | _ => true

/-- A literal of a primitive type reads back when its value is read from plain data. -/
theorem Literal.readsBack_of_content {literal : Literal} {content : Datum} (type : Primitive)
    (complete : content.Complete) (plain : ∀ other, content.Reordered other → other = content)
    (content_ne : ∀ held, content.isUnit held = false)
    (reads : Literal.readAs content type = some literal) (held : Bool) :
    ReadsBack (Literal.read held) (.record [(type.keyword, content)]) literal where
  readable reordered := by
    refine complete_record ?_ _ reordered
    simpa using complete
  reads {other room} reordered fits := by
    obtain ⟨value, rfl, same⟩ := reordered.exists_entry
    obtain rfl := plain _ same
    obtain ⟨inner, rfl⟩ := exists_inner_of_record fits
    simp [Literal.read, unitVariant?, content_ne, variant?, Primitive.ofKeyword?_keyword, reads]

/-- A literal reads back when its value is read from an integer. -/
theorem Literal.readsBack_of_integer {literal : Literal} {value : Int} (type : Primitive)
    (reads : Literal.readAs (.integer value) type = some literal) (held : Bool) :
    ReadsBack (Literal.read held) (.record [(type.keyword, .integer value)]) literal :=
  readsBack_of_content type (by rintro _ ⟨⟩; rfl) (by rintro _ ⟨⟩; rfl) (fun _ => rfl) reads held

/-- A literal reads back when its value is read from a finite number. -/
theorem Literal.readsBack_of_real {literal : Literal} {value : Binary64} (type : Primitive)
    (finite : value.isFinite = true) (reads : Literal.readAs (.real value) type = some literal)
    (held : Bool) :
    ReadsBack (Literal.read held) (.record [(type.keyword, realDatum value)]) literal := by
  rw [realDatum, if_pos finite]
  exact readsBack_of_content type (by rintro _ ⟨⟩; rfl) (by rintro _ ⟨⟩; rfl) (fun _ => rfl)
    reads held

/-- A literal without an infinite or undefined number reads back. -/
theorem Literal.readsBack {literal : Literal} (finite : literal.isFinite = true) (held : Bool) :
    ReadsBack (Literal.read held) literal.toDatum literal := by
  cases literal with
  | null =>
    refine ⟨complete_text _ _, fun reordered _ => ?_⟩
    cases reordered
    exact if_pos rfl
  | boolean value =>
    exact readsBack_of_content .boolean (complete_boolean value) (by rintro _ ⟨⟩; rfl)
      (fun _ => rfl) rfl held
  | byte value =>
    refine readsBack_of_integer .byte ?_ held
    rw [readAs, asIntegerIn_integer value.minValue_le_toInt value.toInt_le]
    simp
  | char value =>
    refine readsBack_of_integer .char ?_ held
    have range := value.toNat_lt
    rw [readAs, asIntegerIn_integer (by omega) (by simp only [UInt16.size]; omega)]
    simp
  | short value =>
    refine readsBack_of_integer .short ?_ held
    rw [readAs, asIntegerIn_integer value.minValue_le_toInt value.toInt_le]
    simp
  | int value =>
    refine readsBack_of_integer .int ?_ held
    rw [readAs, asIntegerIn_integer value.minValue_le_toInt value.toInt_le]
    simp
  | long value =>
    refine readsBack_of_integer .long ?_ held
    rw [readAs, asIntegerIn_integer value.minValue_le_toInt value.toInt_le]
    simp
  | float value =>
    -- The number is written with 64 bits and comes back with the 32 it had.
    refine readsBack_of_real .float (Binary32.isFinite_widen finite) ?_ held
    simp [readAs, Binary32.read, Binary32.narrow_widen finite]
  | double value =>
    exact readsBack_of_real .double finite rfl held

/-! ### Steps -/

/-- The data of plans is that of each one. -/
theorem planData_eq_map (plans : List Plan) : planData plans = plans.map Plan.toDatum := by
  induction plans with
  | nil => rfl
  | cons plan rest ih => rw [planData, ih, List.map_cons]

/-- Plans read back together when each one does. -/
theorem readsBack_plans (plans : List Plan) {held : Bool}
    (each : ∀ plan ∈ plans, ReadsBack (Plan.read held) plan.toDatum plan) :
    ReadsBack (readPlans held) (.list (planData plans)) plans := by
  rw [planData_eq_map]
  exact .list (fun _ _ => rfl) each

/-- The data of an optional plan is that of an optional value. -/
theorem optionalDatum_eq (plan : Option Plan) :
    optionalDatum plan = ofOption Plan.toDatum plan := by
  cases plan <;> rfl

/-- An optional plan reads back when it does where it is present. -/
theorem readsBack_optional {plan : Option Plan} {held : Bool}
    (each : ∀ found ∈ plan, ReadsBack (Plan.read held) found.toDatum found) :
    ReadsBack (fun room => asOption (Plan.read held room)) (optionalDatum plan) plan := by
  rw [optionalDatum_eq]
  refine .option (fun found _ => ?_) each
  cases found
  rfl

section Parts

variable {α β γ δ : Type} {read : Nat → Datum → Option δ} {value : δ} {tag : String}
  {readFirst : Nat → Datum → Option α} {readSecond : Nat → Datum → Option β}
  {readThird : Nat → Datum → Option γ} {firstData secondData thirdData : Datum}
  {first : α} {second : β} {third : γ}

/-- A step of one part reads back when the part does. -/
theorem Datum.ReadsBack.onePart (name : String) (apart : ["op", name].Nodup)
    (back : firstData.ReadsBack readFirst first)
    (reads : ∀ room datum rest fields, datum.canBeHeld (room + 1) = true →
      datum.selfTagged? "op" = some (.text tag, rest) → rest.fields [name] = some fields →
      fields.required name (readFirst room) = some first → read (room + 1) datum = some value) :
    ReadsBack read (.record [("op", .text tag), (name, firstData)]) value := by
  refine .selfTagged [name] rfl apart (by simp [back.complete])
    fun room datum rest fields holdable tagged known holds => ?_
  have given := List.forall_mem_singleton.mp holds
  exact reads room datum rest fields holdable tagged known (given.required back)

/-- A step of two parts reads back when the parts do. -/
theorem Datum.ReadsBack.twoParts (name other : String) (apart : ["op", name, other].Nodup)
    (back : firstData.ReadsBack readFirst first)
    (otherBack : secondData.ReadsBack readSecond second)
    (reads : ∀ room datum rest fields, datum.canBeHeld (room + 1) = true →
      datum.selfTagged? "op" = some (.text tag, rest) → rest.fields [name, other] = some fields →
      fields.required name (readFirst room) = some first →
      fields.required other (readSecond room) = some second → read (room + 1) datum = some value) :
    ReadsBack read (.record [("op", .text tag), (name, firstData), (other, secondData)]) value := by
  refine .selfTagged [name, other] rfl apart (by simp [back.complete, otherBack.complete])
    fun room datum rest fields holdable tagged known holds => ?_
  obtain ⟨given, otherGiven, -⟩ := by simpa only [List.forall_mem_cons] using holds
  exact reads room datum rest fields holdable tagged known (given.required back)
    (otherGiven.required otherBack)

/-- A step of three parts reads back when the parts do. -/
theorem Datum.ReadsBack.threeParts (name other last : String)
    (apart : ["op", name, other, last].Nodup) (back : firstData.ReadsBack readFirst first)
    (otherBack : secondData.ReadsBack readSecond second)
    (lastBack : thirdData.ReadsBack readThird third)
    (reads : ∀ room datum rest fields, datum.canBeHeld (room + 1) = true →
      datum.selfTagged? "op" = some (.text tag, rest) →
      rest.fields [name, other, last] = some fields →
      fields.required name (readFirst room) = some first →
      fields.required other (readSecond room) = some second →
      fields.required last (readThird room) = some third → read (room + 1) datum = some value) :
    ReadsBack read (.record [("op", .text tag), (name, firstData), (other, secondData),
      (last, thirdData)]) value := by
  refine .selfTagged [name, other, last] rfl apart
    (by simp [back.complete, otherBack.complete, lastBack.complete])
    fun room datum rest fields holdable tagged known holds => ?_
  obtain ⟨given, otherGiven, lastGiven, -⟩ := by simpa only [List.forall_mem_cons] using holds
  exact reads room datum rest fields holdable tagged known (given.required back)
    (otherGiven.required otherBack) (lastGiven.required lastBack)

end Parts

/-- A direct step reads back when its operands do. -/
theorem Action.readsBack {step : Action} (held : Bool)
    (operands : ∀ operand ∈ step.operands, ReadsBack (Plan.read true) operand.toDatum operand) :
    ReadsBack (Action.read held) step.toDatum step := by
  cases step with
  | arrayWrite index value =>
    refine .twoParts "index" "value" (by decide) (operands index (by simp [Action.operands]))
      (operands value (by simp [Action.operands]))
      fun room datum rest fields holdable tagged known index value => ?_
    simp [Action.read, holdable, tagged, tagName?, known, index, value]
  | constructorCall constructor args =>
    have argsBack := readsBack_plans args fun arg member =>
      operands arg (by simp [Action.operands, member])
    refine .twoParts "constructor" "args" (by decide) (constructor.readsBack true) argsBack
      fun room datum rest fields holdable tagged known constructor args => ?_
    simp [Action.read, holdable, tagged, tagName?, known, constructor, args]
  | externalConstructorCall constructor args =>
    have argsBack := readsBack_plans args fun arg member =>
      operands arg (by simp [Action.operands, member])
    refine .twoParts "constructor" "args" (by decide) (constructor.readsBack true) argsBack
      fun room datum rest fields holdable tagged known constructor args => ?_
    simp [Action.read, holdable, tagged, tagName?, known, constructor, args]
  | innerClassConstructorCall constructor outer args =>
    have argsBack := readsBack_plans args fun arg member =>
      operands arg (by simp [Action.operands, member])
    refine .threeParts "constructor" "outer" "args" (by decide) (constructor.readsBack true)
      (operands outer (by simp [Action.operands])) argsBack
      fun room datum rest fields holdable tagged known constructor outer args => ?_
    simp [Action.read, holdable, tagged, tagName?, known, constructor, outer, args]
  | defaultConstructorCall className =>
    refine .onePart "class" (by decide) (.text className)
      fun room datum rest fields holdable tagged known className => ?_
    simp [Action.read, holdable, tagged, tagName?, known, className]
  | enumValueCreation className name =>
    refine .twoParts "class" "name" (by decide) (.text className) (.text name)
      fun room datum rest fields holdable tagged known className name => ?_
    simp [Action.read, holdable, tagged, tagName?, known, className, name]
  | methodCall method args =>
    have argsBack := readsBack_plans args fun arg member =>
      operands arg (by simp [Action.operands, member])
    refine .twoParts "method" "args" (by decide) (method.readsBack true) argsBack
      fun room datum rest fields holdable tagged known method args => ?_
    simp [Action.read, holdable, tagged, tagName?, known, method, args]
  | externalMethodCall method receiver args =>
    -- The receiver may be left out, so it is read in another way than the other parts.
    have methodBack := method.readsBack true
    have argsBack := readsBack_plans args fun arg member =>
      operands arg (by simp [Action.operands, member])
    have receiverBack := readsBack_optional fun found (member : found ∈ receiver) =>
      operands found (by simp [Action.operands, Option.mem_def.mp member])
    refine .selfTagged ["method", "instance", "args"] rfl (by decide)
      (by simp [methodBack.complete, argsBack.complete, receiverBack.complete])
      fun room datum rest fields holdable tagged known holds => ?_
    obtain ⟨called, object, passed, -⟩ := by simpa only [List.forall_mem_cons] using holds
    simp [Action.read, holdable, tagged, tagName?, known, called.required methodBack,
      object.withDefault receiverBack, passed.required argsBack]
  | staticMethodCall method args =>
    have argsBack := readsBack_plans args fun arg member =>
      operands arg (by simp [Action.operands, member])
    refine .twoParts "method" "args" (by decide) (method.readsBack true) argsBack
      fun room datum rest fields holdable tagged known method args => ?_
    simp [Action.read, holdable, tagged, tagName?, known, method, args]
  | fieldGetter receiver field =>
    refine .twoParts "instance" "field" (by decide) (operands receiver (by simp [Action.operands]))
      (field.readsBack true)
      fun room datum rest fields holdable tagged known receiver field => ?_
    simp [Action.read, holdable, tagged, tagName?, known, receiver, field]
  | staticFieldGetter field =>
    refine .onePart "field" (by decide) (field.readsBack true)
      fun room datum rest fields holdable tagged known field => ?_
    simp [Action.read, holdable, tagged, tagName?, known, field]
  | fieldSetter field value =>
    refine .twoParts "field" "value" (by decide) (field.readsBack true)
      (operands value (by simp [Action.operands]))
      fun room datum rest fields holdable tagged known field value => ?_
    simp [Action.read, holdable, tagged, tagName?, known, field, value]
  | staticFieldSetter field value =>
    refine .twoParts "field" "value" (by decide) (field.readsBack true)
      (operands value (by simp [Action.operands]))
      fun room datum rest fields holdable tagged known field value => ?_
    simp [Action.read, holdable, tagged, tagName?, known, field, value]
  | newArray type length =>
    refine .twoParts "type" "length" (by decide) (type.readsBack true)
      (operands length (by simp [Action.operands]))
      fun room datum rest fields holdable tagged known type length => ?_
    simp [Action.read, holdable, tagged, tagName?, known, type, length]
  | newArrayWithInitializer type elements =>
    have elementsBack := readsBack_plans elements fun element member =>
      operands element (by simp [Action.operands, member])
    refine .twoParts "type" "elements" (by decide) (type.readsBack true) elementsBack
      fun room datum rest fields holdable tagged known type elements => ?_
    simp [Action.read, holdable, tagged, tagName?, known, type, elements]
  | classConstantGetter type =>
    refine .onePart "type" (by decide) (type.readsBack true)
      fun room datum rest fields holdable tagged known type => ?_
    simp [Action.read, holdable, tagged, tagName?, known, type]
  | arrayClassConstantGetter elementType =>
    refine .onePart "element_type" (by decide) (operands elementType (by simp [Action.operands]))
      fun room datum rest fields holdable tagged known elementType => ?_
    simp [Action.read, holdable, tagged, tagName?, known, elementType]

/-- A reflective step reads back when its operands do. -/
theorem ReflectiveAction.readsBack {step : ReflectiveAction} (held : Bool)
    (operands : ∀ operand ∈ step.operands, ReadsBack (Plan.read true) operand.toDatum operand) :
    ReadsBack (ReflectiveAction.read held) step.toDatum step := by
  cases step with
  | newInstance type =>
    refine .onePart "type" (by decide) (type.readsBack true)
      fun room datum rest fields holdable tagged known type => ?_
    simp [ReflectiveAction.read, holdable, tagged, tagName?, known, type]
  | newArray type length =>
    refine .twoParts "type" "length" (by decide) (type.readsBack true)
      (operands length (by simp [ReflectiveAction.operands]))
      fun room datum rest fields holdable tagged known type length => ?_
    simp [ReflectiveAction.read, holdable, tagged, tagName?, known, type, length]
  | arrayWrite index value =>
    refine .twoParts "index" "value" (by decide)
      (operands index (by simp [ReflectiveAction.operands]))
      (operands value (by simp [ReflectiveAction.operands]))
      fun room datum rest fields holdable tagged known index value => ?_
    simp [ReflectiveAction.read, holdable, tagged, tagName?, known, index, value]
  | arrayRead array index elementType =>
    refine .threeParts "array" "index" "element_type" (by decide)
      (operands array (by simp [ReflectiveAction.operands]))
      (operands index (by simp [ReflectiveAction.operands])) (elementType.readsBack true)
      fun room datum rest fields holdable tagged known array index elementType => ?_
    simp [ReflectiveAction.read, holdable, tagged, tagName?, known, array, index, elementType]
  | setField field value =>
    refine .twoParts "field" "value" (by decide) (field.readsBack true)
      (operands value (by simp [ReflectiveAction.operands]))
      fun room datum rest fields holdable tagged known field value => ?_
    simp [ReflectiveAction.read, holdable, tagged, tagName?, known, field, value]
  | setStaticField field value =>
    refine .twoParts "field" "value" (by decide) (field.readsBack true)
      (operands value (by simp [ReflectiveAction.operands]))
      fun room datum rest fields holdable tagged known field value => ?_
    simp [ReflectiveAction.read, holdable, tagged, tagName?, known, field, value]
  | getField receiver field =>
    refine .twoParts "instance" "field" (by decide)
      (operands receiver (by simp [ReflectiveAction.operands])) (field.readsBack true)
      fun room datum rest fields holdable tagged known receiver field => ?_
    simp [ReflectiveAction.read, holdable, tagged, tagName?, known, receiver, field]
  | getStaticField field =>
    refine .onePart "field" (by decide) (field.readsBack true)
      fun room datum rest fields holdable tagged known field => ?_
    simp [ReflectiveAction.read, holdable, tagged, tagName?, known, field]

/-! ### Plans -/

/-- The data of direct steps is that of each one. -/
theorem actionData_eq_map (steps : List Action) : actionData steps = steps.map Action.toDatum := by
  induction steps with
  | nil => rfl
  | cons step rest ih => rw [actionData, ih, List.map_cons]

/-- The data of reflective steps is that of each one. -/
theorem reflectiveActionData_eq_map (steps : List ReflectiveAction) :
    reflectiveActionData steps = steps.map ReflectiveAction.toDatum := by
  induction steps with
  | nil => rfl
  | cons step rest ih => rw [reflectiveActionData, ih, List.map_cons]

/-- A test call reads back when its operands do. -/
theorem TestCall.readsBack {call : TestCall} (held : Bool)
    (operands : ∀ operand ∈ call.operands, ReadsBack (Plan.read held) operand.toDatum operand) :
    ReadsBack (TestCall.read held) call.toDatum call := by
  obtain ⟨method, receiver, args⟩ := call
  have methodBack := method.readsBack held
  have argsBack := readsBack_plans args fun arg member =>
    operands arg (by simp [TestCall.operands, member])
  have receiverBack := readsBack_optional fun found (member : found ∈ receiver) =>
    operands found (by simp [TestCall.operands, Option.mem_def.mp member])
  refine .record ["method", "instance", "args"] rfl (by decide)
    (by simp [methodBack.complete, argsBack.complete, receiverBack.complete])
    fun room fields others known holds => ?_
  obtain ⟨called, object, passed, -⟩ := by simpa only [List.forall_mem_cons] using holds
  simp [TestCall.read, Datum.fields, fieldsBy, known, called.required methodBack,
    object.withDefault receiverBack, passed.withDefault argsBack]

/-- A kind whose only entry reads back does so itself. -/
theorem PlanKind.readsBack_of_entry {kind : PlanKind} {name : String} {content : Datum}
    (held : Bool) (complete : content.Complete)
    (reads : ∀ room found, content.Reordered found → found.depth ≤ room →
      PlanKind.read held (room + 1) (.record [(name, found)]) = some kind) :
    ReadsBack (PlanKind.read held) (.record [(name, content)]) kind where
  readable reordered := by
    refine complete_record ?_ _ reordered
    simpa using complete
  reads {other room} reordered fits := by
    obtain ⟨found, rfl, same⟩ := reordered.exists_entry
    obtain ⟨inner, rfl⟩ := exists_inner_of_record fits
    have small := depthOfEntries_le_iff.mp (Nat.le_of_succ_le_succ fits)
    exact reads inner found same (small _ (List.mem_singleton_self _))

/-- The one part of a kind that has only a type reads back. -/
theorem readsBack_typePart (type : ValueType) (held : Bool) :
    ReadsBack (readTypePart held) (.record [("type", type.toDatum)]) type := by
  have typeBack := type.readsBack held
  refine .record ["type"] rfl (by decide) (by simp [typeBack.complete])
    fun room fields others known holds => ?_
  simp only [List.forall_mem_cons] at holds
  obtain ⟨typed, -⟩ := holds
  simp [readTypePart, Datum.fields, fieldsBy, known, typed.required typeBack]

/-- A kind reads back when its operands do and a number in it is finite. -/
theorem PlanKind.readsBack {kind : PlanKind} (held : Bool)
    (finite : ∀ literal, kind = .primitive literal → literal.isFinite = true)
    (operands : ∀ operand ∈ kind.operands, ∀ held,
      ReadsBack (Plan.read held) operand.toDatum operand) :
    ReadsBack (PlanKind.read held) kind.toDatum kind := by
  cases kind with
  | actions steps =>
    have each : ∀ step ∈ steps, ReadsBack (Action.read held) step.toDatum step := fun step member =>
      Action.readsBack held fun operand inside =>
        operands operand (List.mem_flatMap.mpr ⟨step, member, inside⟩) true
    have back : ReadsBack (readActions held) (.list (actionData steps)) steps := by
      rw [actionData_eq_map]
      exact .list (fun _ _ => rfl) each
    refine readsBack_of_entry held back.complete fun room found same fits => ?_
    simp [PlanKind.read, variant?, back.reads same fits]
  | reflection steps =>
    have each : ∀ step ∈ steps, ReadsBack (ReflectiveAction.read held) step.toDatum step :=
      fun step member => ReflectiveAction.readsBack held fun operand inside =>
        operands operand (List.mem_flatMap.mpr ⟨step, member, inside⟩) true
    have back : ReadsBack (readReflectiveActions held)
        (.list (reflectiveActionData steps)) steps := by
      rw [reflectiveActionData_eq_map]
      exact .list (fun _ _ => rfl) each
    refine readsBack_of_entry held back.complete fun room found same fits => ?_
    simp [PlanKind.read, variant?, back.reads same fits]
  | testCall call =>
    have back := call.readsBack held fun operand member => operands operand member held
    refine readsBack_of_entry held back.complete fun room found same fits => ?_
    simp [PlanKind.read, variant?, back.reads same fits]
  | primitive literal =>
    have back := Literal.readsBack (finite literal rfl) held
    refine readsBack_of_entry held back.complete fun room found same fits => ?_
    simp [PlanKind.read, variant?, back.reads same fits]
  | text value =>
    refine readsBack_of_entry held (complete_text value) fun room found same _ => ?_
    cases same
    simp [PlanKind.read, variant?, asText]
  | mock type | unknown type =>
    have back := readsBack_typePart type held
    refine readsBack_of_entry held back.complete fun room found same fits => ?_
    simp [PlanKind.read, variant?, back.reads same fits]

/-- Whether the numbers of the plans that some roots reach are all finite. -/
def FiniteLeaves (roots : List Plan) : Prop :=
  ∀ plan literal, Reachable roots plan → plan.kind = .primitive literal → literal.isFinite = true

/-- A plan reads back when all numbers in it, at any depth, are finite. -/
theorem Plan.readsBack {roots : List Plan} (finite : FiniteLeaves roots) {plan : Plan}
    (reachable : Reachable roots plan) (held : Bool) :
    ReadsBack (Plan.read held) plan.toDatum plan := by
  -- The induction is on what the plan reads at any depth.
  induction plan using Plan.induction_operands generalizing held with
  | step plan ih =>
    obtain ⟨name, kind⟩ := plan
    have kindBack : ReadsBack (PlanKind.read held) kind.toDatum kind :=
      kind.readsBack held (fun literal same => finite _ literal reachable same)
        fun operand member held => ih operand member (reachable.operand member) held
    refine .record ["name", "kind"] rfl (by decide) (by simp [kindBack.complete])
      fun room fields others known holds => ?_
    simp only [List.forall_mem_cons] at holds
    obtain ⟨named, made, -⟩ := holds
    simp [Plan.read, Datum.fields, fieldsBy, known, named.text, made.required kindBack]

/-- The parameters of a test read back when all numbers in their plans are finite. -/
theorem Parameters.readsBack {parameters : Parameters} (finite : FiniteLeaves parameters.roots)
    (held : Bool) : ReadsBack (Parameters.read held) parameters.toDatum parameters := by
  have each : ∀ plan ∈ parameters.roots, ReadsBack (Plan.read held) plan.toDatum plan :=
    fun plan member => Plan.readsBack finite (.root member) held
  have receiverBack := readsBack_optional fun plan (member : plan ∈ parameters.receiver) =>
    each plan (by simp [Parameters.roots, Option.mem_def.mp member])
  have argumentsBack := readsBack_plans parameters.arguments fun plan member =>
    each plan (by simp [Parameters.roots, member])
  have staticsBack := readsBack_plans parameters.statics fun plan member =>
    each plan (by simp [Parameters.roots, member])
  refine .record ["instance", "arguments", "statics"] rfl (by decide)
    (by simp [receiverBack.complete, argumentsBack.complete, staticsBack.complete])
    fun room fields others known holds => ?_
  simp only [List.forall_mem_cons] at holds
  obtain ⟨object, arguments, statics, -⟩ := holds
  simp [Parameters.read, Datum.fields, fieldsBy, known,
    object.withDefault receiverBack, arguments.withDefault argumentsBack,
    statics.withDefault staticsBack]

end TestPlan
