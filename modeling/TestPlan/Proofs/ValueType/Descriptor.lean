import TestPlan.ValueType.Descriptor

/-! A text is read as the type whose descriptor it is, and refused when it is that of none. -/

namespace TestPlan.ValueType

variable {text : String} {position : Nat} {type : ValueType}

/-! ### The letter of a descriptor -/

/-- The letter that a descriptor begins with. -/
def letter : ValueType → Char
  | .void => 'V'
  | .primitive type => type.code
  | .object _ => 'L'
  | .array _ => '['

/-- A descriptor is its letter and what follows. -/
theorem exists_descriptor_eq (type : ValueType) :
    ∃ rest, type.descriptor = String.singleton type.letter ++ rest := by
  cases type with
  | void => exact ⟨"", rfl⟩
  | primitive type => exact ⟨"", (String.append_empty).symm⟩
  | object className => exact ⟨className ++ ";", String.append_assoc⟩
  | array component => exact ⟨component.descriptor, rfl⟩

/-- Where a descriptor stands, there stands its letter. -/
theorem byteAt?_descriptor (before after : String) (type : ValueType) :
    byteAt? (before ++ (type.descriptor ++ after)) before.utf8ByteSize = some type.letter := by
  have ascii : type.letter.toNat < 128 := by
    cases type with
    | primitive type => cases type <;> decide
    | _ => simp [letter]
  obtain ⟨rest, same⟩ := type.exists_descriptor_eq
  rw [same, String.append_assoc]
  exact (byteAt?_eq_some_iff ascii).mpr ⟨before, rest ++ after, rfl, rfl⟩

/-- Types of the same descriptor have the same letter. -/
theorem letter_eq {other : ValueType} (same : type.descriptor = other.descriptor) :
    type.letter = other.letter := by
  have here := byteAt?_descriptor "" "" type
  rw [same, byteAt?_descriptor] at here
  exact (Option.some.inj here).symm

/-! ### Scanning a descriptor -/

/-- Where the descriptor of a well-formed type stands, that type is found. -/
theorem scanAt_append (before after : String) (formed : type.WellFormed) :
    scanAt (before ++ (type.descriptor ++ after)) before.utf8ByteSize
      = .ok (type, before.utf8ByteSize + type.descriptor.utf8ByteSize) := by
  -- In each case the letter of the descriptor leaves one branch of the scan.
  induction type generalizing before with
  | void =>
    have here : byteAt? _ _ = some 'V' := byteAt?_descriptor before after .void
    rw [scanAt]
    split
    case h_2 => rfl
    all_goals simp_all
  | primitive type =>
    have here : byteAt? _ _ = some type.code := byteAt?_descriptor before after (.primitive type)
    rw [scanAt]
    cases type <;> split <;> simp_all [Primitive.code] <;> rfl
  | object className =>
    have here : byteAt? _ _ = some 'L' := byteAt?_descriptor before after (.object className)
    rw [scanAt]
    split
    case h_3 => rw [classNameAt_descriptor before after formed.1 formed.2]; rfl
    all_goals simp_all
  | array component ih =>
    have here : byteAt? _ _ = some '[' := byteAt?_descriptor before after (.array component)
    -- Past the bracket the component is found, as the induction says.
    have inside := ih (before ++ "[") formed.2
    have same : before ++ "[" ++ (component.descriptor ++ after)
        = before ++ (descriptor (.array component) ++ after) := by
      simp [descriptor, String.append_assoc]
    have start : (before ++ "[").utf8ByteSize = before.utf8ByteSize + 1 :=
      String.utf8ByteSize_append
    have size : (descriptor (.array component)).utf8ByteSize
        = 1 + component.descriptor.utf8ByteSize :=
      String.utf8ByteSize_append
    rw [same, start, Nat.add_assoc, ← size] at inside
    -- A component that is void would be refused, but then the array is not well-formed.
    have notVoid : component.isVoid = false := beq_eq_false_iff_ne.mpr formed.1
    rw [scanAt]
    split
    case h_4 => simp only [inside, notVoid, Bool.false_eq_true, if_false]
    all_goals simp_all

/-- A type is found exactly where its descriptor stands. -/
theorem scanAt_eq_ok_iff {next : Nat} : scanAt text position = .ok (type, next) ↔
    ∃ before after, text = before ++ (type.descriptor ++ after) ∧
      position = before.utf8ByteSize ∧ next = position + type.descriptor.utf8ByteSize ∧
        type.WellFormed := by
  constructor
  · intro scanned
    rcases scanAt_finds text position with malformed | ⟨before, _, after, same, here, formed, found⟩
    · cases scanned.symm.trans malformed
    · cases scanned.symm.trans found
      exact ⟨before, after, same, here, rfl, formed⟩
  · rintro ⟨before, after, rfl, rfl, rfl, formed⟩
    exact scanAt_append before after formed

/-- A type that is found and reaches to the end is all that the text goes on with. -/
theorem typeAt_to_end {before after : String} (found : typeAt (before ++ after) before.utf8ByteSize
      = .ok (type, (before ++ after).utf8ByteSize)) :
    after = type.descriptor ∧ type.WellFormed := by
  rw [typeAt_eq_ok_iff, scanAt_eq_ok_iff] at found
  obtain ⟨_, rest, same, here, ends, formed⟩ := found
  obtain ⟨rfl, rfl⟩ := append_inj_of_size same here
  -- The descriptor is as long as all that is left, so nothing comes after it.
  have nothing : rest.utf8ByteSize = 0 := by
    simp only [String.utf8ByteSize_append] at ends
    omega
  rw [String.utf8ByteSize_eq_zero_iff] at nothing
  exact ⟨by rw [nothing, String.append_empty], formed⟩

/-! ### Whole texts -/

/-- Whether a text begins with the descriptor of a well-formed type and goes on with the rest. -/
def TypeThen (text rest : String) : Prop :=
  ∃ type : ValueType, type.WellFormed ∧ text = type.descriptor ++ rest

/-- A text that begins with a descriptor is read as its type unless it goes on. -/
theorem ofDescriptor_append (formed : type.WellFormed) (rest : String) :
    ofDescriptor (type.descriptor ++ rest)
      = if rest = "" then .ok type else .error (.trailingInput (type.descriptor ++ rest)) := by
  -- The scan begins with nothing before it, and its end tells whether there is a rest.
  have found : typeAt (type.descriptor ++ rest) 0 = .ok (type, type.descriptor.utf8ByteSize) :=
    typeAt_eq_ok_iff.mpr (by simpa using scanAt_append "" rest formed)
  have whole : type.descriptor.utf8ByteSize = (type.descriptor ++ rest).utf8ByteSize ↔
      rest = "" := by
    rw [String.utf8ByteSize_append, ← String.utf8ByteSize_eq_zero_iff]
    omega
  simp only [ofDescriptor, found, bind, Except.bind, whole]
  split <;> rfl

/-- A text that begins with no descriptor is malformed. -/
theorem ofDescriptor_of_not (none : ¬ ∃ rest, TypeThen text rest) :
    ofDescriptor text = .error (.malformedType text) := by
  rcases scanAt_finds text 0 with malformed | ⟨before, type, rest, rfl, here, formed, -⟩
  · rw [ofDescriptor, typeAt_of_malformed malformed]
    rfl
  · -- A type that is found at the start has nothing before it.
    obtain rfl : before = "" := String.utf8ByteSize_eq_zero_iff.mp here.symm
    exact absurd ⟨rest, type, formed, by simp⟩ none

/-- A text is read as a type when it is the type's descriptor. -/
theorem ofDescriptor_eq_ok_iff :
    ofDescriptor text = .ok type ↔ text = type.descriptor ∧ type.WellFormed := by
  constructor
  · intro read
    by_cases begins : ∃ rest, TypeThen text rest
    · obtain ⟨rest, found, formed, rfl⟩ := begins
      rw [ofDescriptor_append formed] at read
      split at read
      · rename_i ended
        cases read
        exact ⟨by rw [ended, String.append_empty], formed⟩
      · cases read
    · cases (ofDescriptor_of_not begins).symm.trans read
  · rintro ⟨rfl, formed⟩
    have read := ofDescriptor_append formed ""
    rwa [if_pos rfl, String.append_empty] at read

/-- Types are told apart by their descriptors. -/
theorem descriptor_inj {other : ValueType} (same : type.descriptor = other.descriptor) :
    type = other := by
  have letters := letter_eq same
  -- Only types of one form share a letter, and past it stands the name or the component.
  induction type generalizing other with
  | void =>
    cases other with
    | void => rfl
    | primitive second => cases second <;> cases letters
    | object | array => cases letters
  | primitive first =>
    cases other with
    | primitive second => cases first <;> cases second <;> first | rfl | cases letters
    | void | object | array => cases first <;> cases letters
  | object name =>
    cases other with
    | object second => simpa [descriptor] using same
    | primitive second => cases second <;> cases letters
    | void | array => cases letters
  | array component ih =>
    cases other with
    | array second =>
      have inside : component.descriptor = second.descriptor := by simpa [descriptor] using same
      rw [ih inside (letter_eq inside)]
    | primitive second => cases second <;> cases letters
    | void | object => cases letters

/-- The types whose own descriptors are accepted are the well-formed ones. -/
theorem ofDescriptor_isOk_iff : (ofDescriptor type.descriptor).isOk = true ↔ type.WellFormed := by
  constructor
  · intro accepted
    cases read : ofDescriptor type.descriptor with
    | error => rw [read] at accepted; cases accepted
    | ok found =>
      -- What is read from the descriptor of a type is the type itself.
      obtain ⟨same, formed⟩ := ofDescriptor_eq_ok_iff.mp read
      exact descriptor_inj same ▸ formed
  · intro formed
    rw [ofDescriptor_eq_ok_iff.mpr ⟨rfl, formed⟩]
    rfl

/--
A text is read as a type when it is the type's descriptor.
It is refused for its trailing input when such a descriptor ends inside it, and as malformed when
it begins with none.
No text is cut inside a character, at whatever position the scan begins.
-/
theorem ofDescriptor_exact (text : String) :
    (∀ type, ofDescriptor text = .ok type ↔ text = type.descriptor ∧ type.WellFormed) ∧
    (∀ error, ofDescriptor text = .error error ↔
      error = .trailingInput text ∧ (∃ rest, rest ≠ "" ∧ TypeThen text rest) ∨
      error = .malformedType text ∧ ¬ ∃ rest, TypeThen text rest) ∧
    ∀ position, scanAt text position ≠ .error .misplaced := by
  refine ⟨fun type => ofDescriptor_eq_ok_iff, fun error => ⟨fun refused => ?_, ?_⟩,
    scanAt_ne_misplaced text⟩
  · by_cases begins : ∃ rest, TypeThen text rest
    · obtain ⟨rest, found, formed, rfl⟩ := begins
      rw [ofDescriptor_append formed] at refused
      split at refused
      · cases refused
      · rename_i goesOn
        cases refused
        exact .inl ⟨rfl, rest, goesOn, found, formed, rfl⟩
    · cases (ofDescriptor_of_not begins).symm.trans refused
      exact .inr ⟨rfl, begins⟩
  · rintro (⟨rfl, rest, goesOn, type, formed, rfl⟩ | ⟨rfl, none⟩)
    · rw [ofDescriptor_append formed, if_neg goesOn]
    · exact ofDescriptor_of_not none

end TestPlan.ValueType
