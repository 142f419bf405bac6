import TestPlan.Member.Descriptor
import TestPlan.Proofs.ValueType.Descriptor

/-! Method descriptors and what is read of them: what is accepted, and what is read again. -/

namespace TestPlan.MethodReference

variable {text : String} {close position : Nat}

/-- Whether a method may have a parameter of the type. -/
def Passable (type : ValueType) : Prop :=
  type ≠ .void ∧ type.WellFormed

/-- The descriptors of types, one after the other. -/
def descriptors (types : List ValueType) : String :=
  String.join (types.map ValueType.descriptor)

/-- The descriptor of the first type comes first. -/
theorem descriptors_cons (type : ValueType) (types : List ValueType) :
    descriptors (type :: types) = type.descriptor ++ descriptors types :=
  String.join_cons

/-- A character of the descriptors is one of a type's descriptor. -/
theorem mem_descriptors {char : Char} {types : List ValueType} :
    char ∈ (descriptors types).toList ↔ ∃ type ∈ types, char ∈ type.descriptor.toList := by
  rw [descriptors, String.toList_join, List.flatMap_map, List.mem_flatMap]

/-! ### The parameters -/

/-- Parameters that are found fill the text up to the closing parenthesis. -/
theorem parametersAt_finds {params : List ValueType} (before after : String)
    (found : parametersAt (before ++ after) close before.utf8ByteSize = .ok params)
    (within : before.utf8ByteSize ≤ close) :
    (∀ param ∈ params, Passable param) ∧ ∃ rest, after = descriptors params ++ rest ∧
      close = (before ++ descriptors params).utf8ByteSize := by
  generalize whole : before ++ after = text at found
  generalize here : before.utf8ByteSize = position at found within
  -- The induction is along the loop, and what stands before the position grows with each round.
  fun_induction parametersAt text close position generalizing before after params with
  | case1 => cases found
  | case2 => cases found
  | case3 position more type next read fits ih =>
    rw [ValueType.typeAt_eq_ok_iff, ValueType.scanAt_eq_ok_iff] at read
    obtain ⟨before', rest, same, here', rfl, formed⟩ := read
    -- The text has one beginning that ends at the position.
    obtain ⟨rfl, rfl⟩ := append_inj_of_size (whole.trans same) (here.trans here')
    simp only [Bool.or_eq_true, decide_eq_true_eq, not_or, Nat.not_lt] at fits
    cases tail : parametersAt text close (position + type.descriptor.utf8ByteSize) with
    | error =>
      rw [tail] at found
      cases found
    | ok others =>
      rw [tail] at found
      cases found
      obtain ⟨passable, rest', ended, ends⟩ := ih (before ++ type.descriptor) rest
        (by rw [String.append_assoc, whole]) (by rw [String.utf8ByteSize_append, here]) tail fits.2
      refine ⟨?_, rest', ?_, ?_⟩
      · rintro param (_ | ⟨_, later⟩)
        · exact ⟨fun isVoid => fits.1 (beq_iff_eq.mpr isVoid), formed⟩
        · exact passable param later
      · rw [descriptors_cons, String.append_assoc, ended]
      · rw [descriptors_cons, ← String.append_assoc, ends]
  | case4 position done =>
    cases found
    exact ⟨nofun, after, by simp [descriptors], by simp [descriptors]; omega⟩

/-- A parameter is passed on unless it reaches past the closing parenthesis. -/
theorem parametersAt_cons {type : ValueType} (passable : Passable type) (before rest : String)
    (more : before.utf8ByteSize < close) :
    parametersAt (before ++ (type.descriptor ++ rest)) close before.utf8ByteSize
      = if close < (before ++ type.descriptor).utf8ByteSize then
          .error (.malformedMethod (before ++ (type.descriptor ++ rest)))
        else (type :: ·) <$> parametersAt (before ++ (type.descriptor ++ rest)) close
          (before ++ type.descriptor).utf8ByteSize := by
  have read := ValueType.typeAt_eq_ok_iff.mpr (ValueType.scanAt_append before rest passable.2)
  have notVoid : type.isVoid = false := beq_eq_false_iff_ne.mpr passable.1
  rw [String.utf8ByteSize_append, parametersAt, if_pos more]
  split
  · cases read.symm.trans ‹_›
  · cases read.symm.trans ‹_›
    simp only [notVoid, Bool.false_or, decide_eq_true_eq]

/-- Parameters are found when they fill the text up to the closing parenthesis. -/
theorem parametersAt_append (params : List ValueType) (before after : String)
    (passable : ∀ param ∈ params, Passable param) :
    parametersAt (before ++ (descriptors params ++ after))
      (before ++ descriptors params).utf8ByteSize before.utf8ByteSize = .ok params := by
  induction params generalizing before with
  | nil => rw [parametersAt, if_neg (by simp [descriptors])]
  | cons param params ih =>
    have found := ih (before ++ param.descriptor) fun later mem => passable later (.tail _ mem)
    have some := ValueType.utf8ByteSize_descriptor_pos param
    simp only [descriptors_cons, String.append_assoc] at found ⊢
    rw [parametersAt_cons (passable param (.head _)), if_neg, found]
    · rfl
    -- The others follow, so the parameter ends at the parenthesis or before it.
    · simp only [String.utf8ByteSize_append]
      omega
    · simp only [String.utf8ByteSize_append]
      omega

/-- No descriptor begins with a closing parenthesis. -/
theorem byteAt?_descriptor_ne_close (before rest : String) (type : ValueType) :
    byteAt? (before ++ (type.descriptor ++ rest)) before.utf8ByteSize ≠ some ')' := by
  rw [ValueType.byteAt?_descriptor]
  cases type with
  | primitive type => cases type <;> decide
  | _ => simp [ValueType.letter]

/-- Parameters are refused when the closing parenthesis is inside one of them. -/
theorem parametersAt_inside (params : List ValueType) (before after : String)
    (passable : ∀ param ∈ params, Passable param)
    (closes : byteAt? (before ++ (descriptors params ++ after)) close = some ')')
    (inside : close < (before ++ descriptors params).utf8ByteSize)
    (within : before.utf8ByteSize ≤ close) :
    parametersAt (before ++ (descriptors params ++ after)) close before.utf8ByteSize
      = .error (.malformedMethod (before ++ (descriptors params ++ after))) := by
  induction params generalizing before with
  | nil => simp [descriptors] at inside; omega
  | cons param params ih =>
    have others := ih (before ++ param.descriptor) fun later mem => passable later (.tail _ mem)
    simp only [descriptors_cons, String.append_assoc] at others closes inside ⊢
    -- The parenthesis is not where the parameter begins, so the loop goes on to read it.
    have more : before.utf8ByteSize < close := by
      refine Nat.lt_of_le_of_ne within fun same => ?_
      subst same
      exact byteAt?_descriptor_ne_close _ _ _ closes
    rw [parametersAt_cons (passable param (.head _)) _ _ more]
    split
    · rfl
    · -- The parenthesis is past the parameter, and so inside one of the others.
      rename_i fits
      rw [others closes inside (Nat.not_lt.mp fits)]
      rfl

/-! ### The whole descriptor -/

/-- The descriptor by the descriptors of the parameters together. -/
theorem descriptor_eq (method : MethodReference) : method.descriptor
    = "(" ++ (descriptors method.params ++ (")" ++ method.returns.descriptor)) := by
  simp [descriptor, descriptors, String.append_assoc]

/-- The parameters stand between the opening parenthesis and the first closing one. -/
theorem close?_eq_some_iff : close? text = some close ↔ ∃ before after,
    text = "(" ++ (before ++ (")" ++ after)) ∧ ')' ∉ before.toList ∧
      close = ("(" ++ before).utf8ByteSize := by
  unfold close?
  constructor
  · intro found
    split at found
    · rename_i opens
      obtain ⟨rest, rfl⟩ := String.startsWith_char_iff_exists_append.mp opens
      obtain ⟨before, after, same, absent, rfl⟩ := indexOf?_eq_some_iff.mp found
      have heads := congrArg (·.toList.head?) same
      -- What stands before the closing parenthesis begins with the opening one.
      cases chars : before.toList with
      | nil => simp [chars] at heads
      | cons first others =>
        obtain rfl : before = String.singleton first ++ String.ofList others := by
          rw [← String.ofList_cons, ← chars, String.ofList_toList]
        obtain rfl : '(' = first := by simpa using heads
        rw [same, String.append_assoc]
        exact ⟨String.ofList others, after, rfl, fun mem => absent (by simp_all), rfl⟩
    · cases found
  · rintro ⟨before, after, rfl, absent, rfl⟩
    have opens : ("(" ++ (before ++ (")" ++ after))).startsWith '(' = true :=
      String.startsWith_char_iff_exists_append.mpr ⟨_, rfl⟩
    rw [if_pos opens, indexOf?_eq_some_iff]
    exact ⟨"(" ++ before, after, by rw [String.append_assoc]; rfl, by simpa using absent, rfl⟩

/-- What is read after something else was read. -/
theorem ok_of_bind {ε α β : Type} {first : Except ε α} {next : α → Except ε β} {result : β}
    (done : first >>= next = .ok result) :
    ∃ found, first = .ok found ∧ next found = .ok result := by
  cases first with
  | error => cases done
  | ok found => exact ⟨found, rfl, done⟩

/-- The result type is read past the closing parenthesis. -/
theorem utf8ByteSize_append_close (before : String) :
    (before ++ ")").utf8ByteSize = before.utf8ByteSize + 1 := by
  rw [String.utf8ByteSize_append]
  rfl

/-- A text whose types are read is made of their descriptors. -/
theorem typesOfDescriptor_finds {params : List ValueType} {returns : ValueType}
    (found : typesOfDescriptor text = .ok (params, returns)) :
    text = "(" ++ (descriptors params ++ (")" ++ returns.descriptor)) ∧
      (∀ param ∈ params, Passable param) ∧ returns.WellFormed := by
  unfold typesOfDescriptor at found
  cases closes : close? text with
  | none =>
    rw [closes] at found
    cases found
  | some close =>
    rw [closes] at found
    obtain ⟨before, after, rfl, absent, rfl⟩ := close?_eq_some_iff.mp closes
    obtain ⟨params', inside, found⟩ := ok_of_bind found
    obtain ⟨⟨returns', next⟩, last, found⟩ := ok_of_bind found
    simp only at found
    split at found
    · rename_i ended
      cases found
      obtain ⟨passable, rest, same, ends⟩ :=
        parametersAt_finds "(" _ inside (utf8ByteSize_le_append "(" before)
      -- Both end at the closing parenthesis, so the parameters are all that stands before it.
      have sizes : before.utf8ByteSize = (descriptors params).utf8ByteSize := by
        simp only [String.utf8ByteSize_append] at ends
        omega
      obtain ⟨rfl, rfl⟩ := append_inj_of_size same sizes
      have parts : "(" ++ (descriptors params ++ (")" ++ after))
          = "(" ++ descriptors params ++ ")" ++ after := by
        simp only [String.append_assoc]
      rw [← utf8ByteSize_append_close, ended, parts] at last
      obtain ⟨rfl, formed⟩ := ValueType.typeAt_to_end last
      exact ⟨rfl, passable, formed⟩
    · cases found

/-- The types of a method are read when no parameter has a closing parenthesis in it. -/
theorem typesOfDescriptor_append {params : List ValueType} {returns : ValueType}
    (passable : ∀ param ∈ params, Passable param) (formed : returns.WellFormed)
    (absent : ¬ ∃ param ∈ params, ')' ∈ param.descriptor.toList) :
    typesOfDescriptor ("(" ++ (descriptors params ++ (")" ++ returns.descriptor)))
      = .ok (params, returns) := by
  rw [← mem_descriptors] at absent
  have closes : close? ("(" ++ (descriptors params ++ (")" ++ returns.descriptor)))
      = some ("(" ++ descriptors params).utf8ByteSize :=
    close?_eq_some_iff.mpr ⟨_, _, rfl, absent, rfl⟩
  have inside : parametersAt _ _ 1 = _ :=
    parametersAt_append params "(" (")" ++ returns.descriptor) passable
  have last := ValueType.scanAt_append ("(" ++ descriptors params ++ ")") "" formed
  rw [← ValueType.typeAt_eq_ok_iff, ← String.utf8ByteSize_append, utf8ByteSize_append_close] at last
  simp only [String.append_empty, String.append_assoc] at last
  rw [typesOfDescriptor, closes]
  simp only [inside, last, bind, Except.bind]
  rfl

/-- The types of a method are refused when a parameter has a closing parenthesis in it. -/
theorem typesOfDescriptor_inside {params : List ValueType}
    (passable : ∀ param ∈ params, Passable param)
    (present : ∃ param ∈ params, ')' ∈ param.descriptor.toList) (after : String) :
    typesOfDescriptor ("(" ++ (descriptors params ++ (")" ++ after)))
      = .error (.malformedMethod ("(" ++ (descriptors params ++ (")" ++ after)))) := by
  rw [← mem_descriptors] at present
  -- The first closing parenthesis of the text is the first one inside the parameters.
  obtain ⟨first, others, split, absent⟩ := List.eq_append_cons_of_mem present
  have parts : descriptors params = String.ofList first ++ (")" ++ String.ofList others) := by
    rw [← String.toList_inj, split]
    simp
  have whole : "(" ++ (descriptors params ++ (")" ++ after))
      = "(" ++ String.ofList first ++ (")" ++ (String.ofList others ++ (")" ++ after))) := by
    simp only [parts, String.append_assoc]
  have closes : close? ("(" ++ (descriptors params ++ (")" ++ after)))
      = some ("(" ++ String.ofList first).utf8ByteSize :=
    close?_eq_some_iff.mpr ⟨_, _, by rw [whole, String.append_assoc], by simpa using absent, rfl⟩
  have there : byteAt? ("(" ++ (descriptors params ++ (")" ++ after)))
      ("(" ++ String.ofList first).utf8ByteSize = some ')' :=
    (byteAt?_eq_some_iff (by decide)).mpr ⟨_, _, whole, rfl⟩
  have before : ("(" ++ String.ofList first).utf8ByteSize
      < ("(" ++ descriptors params).utf8ByteSize := by
    have size : ")".utf8ByteSize = 1 := rfl
    simp only [parts, String.utf8ByteSize_append, size]
    omega
  have inside : parametersAt _ _ 1 = _ :=
    parametersAt_inside params "(" (")" ++ after) passable there before
      (utf8ByteSize_le_append "(" _)
  rw [typesOfDescriptor, closes]
  simp only [inside]
  rfl

/-- A type that is found ends inside the text. -/
theorem le_of_typeAt {type : ValueType} {next : Nat}
    (found : ValueType.typeAt text position = .ok (type, next)) : next ≤ text.utf8ByteSize := by
  rw [ValueType.typeAt_eq_ok_iff] at found
  obtain ⟨before, after, rfl, rfl, rfl, -⟩ := ValueType.scanAt_eq_ok_iff.mp found
  simp only [String.utf8ByteSize_append]
  omega

/-- A round of the loop over parameters, which goes on to a position from an earlier one. -/
def Round (text : String) (close next position : Nat) : Prop :=
  position < close ∧ ∃ type, ValueType.typeAt text position = .ok (type, next)

/-- There is no endless sequence of rounds, since each comes closer to the parenthesis. -/
theorem wellFounded_round (text : String) (close : Nat) : WellFounded (Round text close) := by
  have closer : ∀ {next position}, Round text close next position →
      close - next < close - position := by
    rintro next position ⟨before, type, found⟩
    have later := ValueType.lt_of_scanAt (ValueType.typeAt_eq_ok_iff.mp found)
    omega
  exact Subrelation.wf closer (measure fun position => close - position).wf

/--
An accepted text is the descriptor of the method that is read from it, whose types are well-formed
and whose parameters are not void.
Whatever the text is, the loop over its parameters comes to an end, each type that is found ends
inside the text, and the text is never cut inside a character or past its end.
-/
theorem ofDescriptor_sound (text : String) :
    (∀ owner name isStatic method, ofDescriptor owner name text isStatic = .ok method →
      method.descriptor = text ∧ (∀ param ∈ method.params, Passable param) ∧
        method.returns.WellFormed) ∧
    (∀ close, WellFounded (Round text close)) ∧
    (∀ position type next, ValueType.typeAt text position = .ok (type, next) →
      next ≤ text.utf8ByteSize) ∧
    ∀ position, ValueType.scanAt text position ≠ .error .misplaced := by
  refine ⟨fun owner name isStatic method accepted => ?_, wellFounded_round text,
    fun _ _ _ => le_of_typeAt, ValueType.scanAt_ne_misplaced text⟩
  obtain ⟨⟨params, returns⟩, read, made⟩ := ok_of_bind accepted
  cases made
  obtain ⟨rfl, passable, formed⟩ := typesOfDescriptor_finds read
  exact ⟨descriptor_eq _, passable, formed⟩

/-- A class name with a letter of two bytes is read as it stands. -/
theorem ofDescriptor_sound_beyond_ascii :
    ∃ method, ofDescriptor "demo/Map" "go" "(I[Ldemo/Straße;)V" false = .ok method ∧
      method.descriptor = "(I[Ldemo/Straße;)V" ∧ (∀ param ∈ method.params, Passable param) ∧
        method.returns.WellFormed := by
  have passable : ∀ param ∈ [.primitive .int, .array (.object "demo/Straße")], Passable param := by
    simp [Passable, ValueType.WellFormed]
  have formed : ValueType.void.WellFormed := trivial
  have read := typesOfDescriptor_append passable formed (by decide)
  have accepted : ofDescriptor "demo/Map" "go" "(I[Ldemo/Straße;)V" false = .ok _ :=
    congrArg (· >>= _) read
  exact ⟨_, accepted, (ofDescriptor_sound _).1 _ _ _ _ accepted⟩

/--
A method whose types are read from their own descriptors is read from its own descriptor, unless
the name of a class in a parameter has a closing parenthesis in it, which ends the parameters.
-/
theorem ofDescriptor_descriptor (method : MethodReference)
    (params : ∀ param ∈ method.params,
      param ≠ .void ∧ (ValueType.ofDescriptor param.descriptor).isOk = true)
    (returns : (ValueType.ofDescriptor method.returns.descriptor).isOk = true) :
    ofDescriptor method.owner method.name method.descriptor method.isStatic
      = if ∃ param ∈ method.params, ')' ∈ param.descriptor.toList then
          .error (.malformedMethod method.descriptor)
        else .ok method := by
  have passable : ∀ param ∈ method.params, Passable param := fun param mem =>
    ⟨(params param mem).1, ValueType.ofDescriptor_isOk_iff.mp (params param mem).2⟩
  have formed := ValueType.ofDescriptor_isOk_iff.mp returns
  rw [ofDescriptor, descriptor_eq]
  split
  · rename_i present
    rw [typesOfDescriptor_inside passable present]
    rfl
  · rename_i absent
    rw [typesOfDescriptor_append passable formed absent]
    rfl

/-- A closing parenthesis in the name of the result's class does no harm. -/
theorem ofDescriptor_descriptor_result_name :
    ofDescriptor "demo/Map" "go" "([Ldemo/Place;)La)b;" true
      = .ok ⟨"demo/Map", "go", [.array (.object "demo/Place")], .object "a)b", true⟩ := by
  have params : ∀ param ∈ [ValueType.array (.object "demo/Place")],
      param ≠ .void ∧ (ValueType.ofDescriptor param.descriptor).isOk = true := by
    simp [ValueType.ofDescriptor_isOk_iff, ValueType.WellFormed]
  have returns : (ValueType.ofDescriptor (ValueType.object "a)b").descriptor).isOk = true := by
    simp [ValueType.ofDescriptor_isOk_iff, ValueType.WellFormed]
  exact ofDescriptor_descriptor
    ⟨"demo/Map", "go", [.array (.object "demo/Place")], .object "a)b", true⟩ params returns

/-- A method with such a class in a parameter is not read from its own descriptor. -/
theorem ofDescriptor_descriptor_parameter_name :
    ¬ ∀ method : MethodReference,
      (∀ param ∈ method.params,
        param ≠ .void ∧ (ValueType.ofDescriptor param.descriptor).isOk = true) →
      (ValueType.ofDescriptor method.returns.descriptor).isOk = true →
        ofDescriptor method.owner method.name method.descriptor method.isStatic = .ok method := by
  intro all
  have read := all ⟨"demo/Config", "m", [.object "a)b"], .void, false⟩
    (by simp [ValueType.ofDescriptor_isOk_iff, ValueType.WellFormed])
    (by simp [ValueType.ofDescriptor_isOk_iff, ValueType.WellFormed])
  have passable : ∀ param ∈ [.object "a)b"], Passable param := by
    simp [Passable, ValueType.WellFormed]
  have refused := typesOfDescriptor_inside passable ⟨_, .head _, by decide⟩ "V"
  cases (congrArg (· >>= _) refused).symm.trans read

end TestPlan.MethodReference
