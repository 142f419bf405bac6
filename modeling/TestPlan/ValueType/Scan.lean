import TestPlan.Text.Bytes
import TestPlan.ValueType.Basic

/-! Types at positions of a text, by descriptors of one letter, a class name or a component. -/

namespace TestPlan

/-- Why no type is found at a position of a text. -/
inductive ScanFault where
  /-- No descriptor begins there. -/
  | malformed
  /-- The text was to be cut inside a character or past its end. -/
  | misplaced
  deriving DecidableEq, Repr

/-- Cuts out the part of a text between two positions. -/
def cut (text : String) (start stop : Nat) : Except ScanFault String :=
  match part? text start stop with
  | some part => .ok part
  | none => .error .misplaced

/-- A part between others is cut out. -/
theorem cut_append (before part after : String) :
    cut (before ++ (part ++ after)) before.utf8ByteSize (before ++ part).utf8ByteSize
      = .ok part := by
  rw [cut, part?_eq_some_iff.mpr ⟨before, after, rfl, rfl, rfl⟩]

namespace ValueType

/-- The descriptor of a type. -/
def descriptor : ValueType → String
  | .void => "V"
  | .primitive type => type.code.toString
  | .object className => "L" ++ className ++ ";"
  | .array component => "[" ++ component.descriptor

/-- The class name that begins at a position, and the position past its closing semicolon. -/
def classNameAt (text : String) (start : Nat) : Except ScanFault (String × Nat) := do
  let rest ← cut text start text.utf8ByteSize
  match indexOf? rest ';' with
  | none
  | some 0 => throw .malformed
  | some length => return (← cut text start (start + length), start + length + 1)

/-- The type whose descriptor begins at a position, and the position past the descriptor. -/
def scanAt (text : String) (position : Nat) : Except ScanFault (ValueType × Nat) :=
  match _letter : byteAt? text position with
  | none => .error .malformed
  | some 'V' => .ok (.void, position + 1)
  | some 'L' => (fun (name, next) => (.object name, next)) <$> classNameAt text (position + 1)
  | some '[' =>
    match scanAt text (position + 1) with
    | .error fault => .error fault
    | .ok (component, next) =>
      if component.isVoid then .error .malformed else .ok (.array component, next)
  | some code =>
    match Primitive.ofCode? code with
    | some type => .ok (.primitive type, position + 1)
    | none => .error .malformed
termination_by text.utf8ByteSize - position
decreasing_by
  have := lt_of_byteAt? _letter
  omega

variable {text : String} {position next : Nat} {type : ValueType}

/-! ### What a scan finds -/

/-- Arrays have no void components, and class names are neither empty nor cut by a semicolon. -/
def WellFormed : ValueType → Prop
  | .void
  | .primitive _ => True
  | .object className => className ≠ "" ∧ ';' ∉ className.toList
  | .array component => component ≠ .void ∧ component.WellFormed

/-- A class name is read up to the first semicolon. -/
theorem classNameAt_eq_ok (before after : String) {name : String} (named : name ≠ "")
    (absent : ';' ∉ name.toList) :
    classNameAt (before ++ (name ++ (String.singleton ';' ++ after))) before.utf8ByteSize
      = .ok (name, before.utf8ByteSize + name.utf8ByteSize + 1) := by
  -- The rest of the text is cut off, and then the name up to the semicolon that is found in it.
  have rest := cut_append before (name ++ (String.singleton ';' ++ after)) ""
  have part := cut_append before name (String.singleton ';' ++ after)
  have closed := indexOf?_eq_some_iff.mpr
    ⟨name, after, (rfl : _ = name ++ (String.singleton ';' ++ after)), absent, rfl⟩
  rw [String.append_empty] at rest
  rw [String.utf8ByteSize_append] at part
  -- A semicolon at once would be refused, but the name has a character before it.
  have positive : name.utf8ByteSize ≠ 0 := by simpa using named
  simp only [classNameAt, rest, closed, part, bind, Except.bind]
  rfl

/-- After its letter, a class is read up to its semicolon. -/
theorem classNameAt_descriptor (before after : String) {name : String} (named : name ≠ "")
    (absent : ';' ∉ name.toList) :
    classNameAt (before ++ (descriptor (.object name) ++ after)) (before.utf8ByteSize + 1)
      = .ok (name, before.utf8ByteSize + (descriptor (.object name)).utf8ByteSize) := by
  have letter : "L".utf8ByteSize = 1 := rfl
  have semicolon : ";".utf8ByteSize = 1 := rfl
  have found := classNameAt_eq_ok (before ++ "L") after named absent
  rw [String.utf8ByteSize_append, letter] at found
  rw [descriptor, String.append_assoc, String.append_assoc, ← String.append_assoc,
    String.utf8ByteSize_append, String.utf8ByteSize_append, letter, semicolon, ← Nat.add_assoc,
    ← Nat.add_assoc]
  exact found

/-- What follows a beginning is malformed, or begins with a class name and a semicolon. -/
theorem classNameAt_append (before rest : String) :
    classNameAt (before ++ rest) before.utf8ByteSize = .error .malformed ∨
      ∃ name after, rest = name ++ (String.singleton ';' ++ after) ∧ name ≠ "" ∧
        ';' ∉ name.toList := by
  have whole := cut_append before rest ""
  rw [String.append_empty] at whole
  cases closed : indexOf? rest ';' with
  | none => exact .inl (by simp only [classNameAt, whole, closed, bind, Except.bind]; rfl)
  | some length =>
    obtain ⟨name, after, rfl, absent, rfl⟩ := indexOf?_eq_some_iff.mp closed
    -- The name is what stands before the first semicolon, and nothing may not stand there.
    by_cases empty : name.utf8ByteSize = 0
    · exact .inl (by simp only [classNameAt, whole, closed, empty, bind, Except.bind]; rfl)
    · exact .inr ⟨name, after, rfl, fun none => empty (by simp [none]), absent⟩

/-- At a position there is no type, or the descriptor of a type that is found. -/
theorem scanAt_finds (text : String) (position : Nat) :
    scanAt text position = .error .malformed ∨ ∃ before type after,
      text = before ++ (descriptor type ++ after) ∧ position = before.utf8ByteSize ∧
        type.WellFormed ∧
          scanAt text position = .ok (type, position + type.descriptor.utf8ByteSize) := by
  -- The induction is along the scan, and each letter splits the text where it stands.
  fun_induction scanAt text position with
  | case1 => exact .inl rfl
  | case2 position letter =>
    obtain ⟨before, rest, rfl, rfl⟩ := (byteAt?_eq_some_iff (by decide)).mp letter
    exact .inr ⟨before, .void, rest, rfl, rfl, trivial, rfl⟩
  | case3 position letter =>
    obtain ⟨before, rest, rfl, rfl⟩ := (byteAt?_eq_some_iff (by decide)).mp letter
    have start : before.utf8ByteSize + 1 = (before ++ "L").utf8ByteSize := by
      rw [String.utf8ByteSize_append]
      rfl
    rcases classNameAt_append (before ++ "L") rest with
      refused | ⟨name, after, rfl, named, absent⟩
    · rw [← start, String.append_assoc] at refused
      exact .inl (congrArg (_ <$> ·) refused)
    · have same : String.singleton 'L' ++ (name ++ (String.singleton ';' ++ after))
          = descriptor (.object name) ++ after := by
        simp [descriptor, String.append_assoc]
      refine .inr ⟨before, .object name, after, by rw [same], rfl, ⟨named, absent⟩, ?_⟩
      rw [same, classNameAt_descriptor before after named absent]
      rfl
  | case4 position letter fault refused ih =>
    rcases ih with malformed | ⟨_, _, _, _, _, _, found⟩
    · exact .inl (refused ▸ malformed)
    · cases refused.symm.trans found
  | case5 => exact .inl rfl
  | case6 position letter component stop inside notVoid ih =>
    obtain ⟨before, rest, rfl, rfl⟩ := (byteAt?_eq_some_iff (by decide)).mp letter
    rcases ih with malformed | ⟨before', type', after, same, here, formed, found⟩
    · cases inside.symm.trans malformed
    · cases inside.symm.trans found
      -- What was found past the bracket is found in what the text goes on with there.
      have start : (before ++ String.singleton '[').utf8ByteSize = before'.utf8ByteSize := by
        rw [← here, String.utf8ByteSize_append]
        rfl
      rw [← String.append_assoc] at same
      obtain ⟨rfl, rfl⟩ := append_inj_of_size same start
      refine .inr ⟨before, .array component, after, ?_, rfl, ⟨?_, formed⟩, ?_⟩
      · simp [descriptor, String.append_assoc]
      · exact fun isVoid => notVoid (beq_iff_eq.mpr isVoid)
      · rw [descriptor, String.utf8ByteSize_append, ← Nat.add_assoc]
        rfl
  | case7 position code notVoid notClass notArray letter type known =>
    have coded := Primitive.code_of_ofCode? known
    subst coded
    obtain ⟨before, rest, rfl, rfl⟩ := (byteAt?_eq_some_iff (by cases type <;> decide)).mp letter
    refine .inr ⟨before, .primitive type, rest, rfl, rfl, trivial, ?_⟩
    cases type <;> rfl
  | case8 => exact .inl rfl

/-- The text is never cut inside a character or past its end. -/
theorem scanAt_ne_misplaced (text : String) (position : Nat) :
    scanAt text position ≠ .error .misplaced := by
  rcases scanAt_finds text position with malformed | ⟨_, _, _, _, _, _, found⟩
  · exact malformed ▸ nofun
  · exact found ▸ nofun

/-- Every descriptor has a letter. -/
theorem utf8ByteSize_descriptor_pos (type : ValueType) : 0 < type.descriptor.utf8ByteSize := by
  cases type with
  | void => decide
  | primitive type => cases type <;> decide
  | object className =>
    rw [descriptor, String.utf8ByteSize_append]
    exact Nat.lt_add_left _ (by decide)
  | array component =>
    rw [descriptor, String.utf8ByteSize_append]
    exact Nat.lt_add_right _ (by decide)

/-- Scanning a type goes on to a later position. -/
theorem lt_of_scanAt (scanned : scanAt text position = .ok (type, next)) : position < next := by
  rcases scanAt_finds text position with malformed | ⟨_, _, _, _, _, _, found⟩
  · cases scanned.symm.trans malformed
  · cases scanned.symm.trans found
    exact Nat.lt_add_of_pos_right (utf8ByteSize_descriptor_pos _)

end ValueType

end TestPlan
