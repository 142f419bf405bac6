/-! Texts by their bytes: what stands at a position, and the part between two positions. -/

namespace TestPlan

/-- The byte at a position, as the character of its code. -/
def byteAt? (text : String) (position : Nat) : Option Char :=
  text.toByteArray[position]?.map Char.ofUInt8

/-- The part of a text between two positions, neither of them inside a character or past the end. -/
def part? (text : String) (start stop : Nat) : Option String :=
  if valid : String.Pos.Raw.IsValid text ⟨start⟩ ∧ String.Pos.Raw.IsValid text ⟨stop⟩ ∧
      start ≤ stop then
    let first : text.Pos := ⟨⟨start⟩, valid.1⟩
    let last : text.Pos := ⟨⟨stop⟩, valid.2.1⟩
    some (text.slice first last valid.2.2).copy
  else none

/-- The position of the first occurrence of a character. -/
def indexOf? (text : String) (char : Char) : Option Nat :=
  (text.find? char).map (·.offset.byteIdx)

variable {text part : String} {char : Char} {position start stop : Nat}

/-! ### Positions between characters -/

/-- The end of a beginning is a position between characters. -/
theorem isValid_append (before after : String) :
    String.Pos.Raw.IsValid (before ++ after) ⟨before.utf8ByteSize⟩ :=
  String.Pos.Raw.isValid_iff_exists_append.mpr ⟨before, after, rfl, rfl⟩

/-- A beginning is no longer than the text. -/
theorem utf8ByteSize_le_append (before after : String) :
    before.utf8ByteSize ≤ (before ++ after).utf8ByteSize := by
  rw [String.utf8ByteSize_append]
  exact Nat.le_add_right _ _

/-- A text has only one beginning of each size. -/
theorem append_inj_of_size {before after before' after' : String}
    (same : before ++ after = before' ++ after')
    (sizes : before.utf8ByteSize = before'.utf8ByteSize) : before = before' ∧ after = after' := by
  have first : String.Pos.Splits ⟨_, isValid_append before after⟩ before after := ⟨rfl, rfl⟩
  have second : String.Pos.Splits ⟨_, isValid_append before after⟩ before' after' :=
    ⟨same, congrArg String.Pos.Raw.mk sizes⟩
  exact first.eq second

/-- A part is what is left when something is taken off before it and after it. -/
theorem part?_eq_some_iff : part? text start stop = some part ↔ ∃ before after,
    text = before ++ (part ++ after) ∧ start = before.utf8ByteSize ∧
      stop = (before ++ part).utf8ByteSize := by
  unfold part?
  constructor
  · intro found
    -- What is cut out at two positions is what the splits of the text there leave between them.
    split at found
    · rename_i valid
      obtain ⟨before, after, first, last⟩ :=
        String.copy_slice_eq_iff_splits.mp ⟨valid.2.2, Option.some.inj found⟩
      exact ⟨before, after, first.eq_append,
        congrArg String.Pos.Raw.byteIdx first.offset_eq_rawEndPos,
        congrArg String.Pos.Raw.byteIdx last.offset_eq_rawEndPos⟩
    · cases found
  · rintro ⟨before, after, rfl, rfl, rfl⟩
    have first := isValid_append before (part ++ after)
    have last := isValid_append (before ++ part) after
    rw [String.append_assoc] at last
    rw [dif_pos ⟨first, last, utf8ByteSize_le_append before part⟩]
    obtain ⟨_, found⟩ := String.copy_slice_eq_iff_splits.mpr ⟨before, after,
      (⟨rfl, rfl⟩ : String.Pos.Splits ⟨_, first⟩ before (part ++ after)),
      (⟨String.append_assoc.symm, rfl⟩ : String.Pos.Splits ⟨_, last⟩ (before ++ part) after)⟩
    exact congrArg some found

/-- The first occurrence of a character follows a beginning that does not have it. -/
theorem indexOf?_eq_some_iff : indexOf? text char = some position ↔ ∃ before after,
    text = before ++ (String.singleton char ++ after) ∧ char ∉ before.toList ∧
      position = before.utf8ByteSize := by
  rw [indexOf?, Option.map_eq_some_iff]
  -- The search gives a position of the text, of which only the number is kept.
  constructor
  · rintro ⟨found, first, rfl⟩
    obtain ⟨before, after, splits, absent⟩ := String.find?_char_eq_some_iff_splits.mp first
    exact ⟨before, after, splits.eq_append, absent,
      congrArg String.Pos.Raw.byteIdx splits.offset_eq_rawEndPos⟩
  · rintro ⟨before, after, rfl, absent, rfl⟩
    exact ⟨⟨_, isValid_append before _⟩, String.find?_char_eq_some_iff_splits.mpr
      ⟨before, after, ⟨rfl, rfl⟩, absent⟩, rfl⟩

/-! ### Bytes -/

/-- A byte stands inside the text. -/
theorem lt_of_byteAt? (found : byteAt? text position = some char) :
    position < text.utf8ByteSize := by
  obtain ⟨byte, there, -⟩ := Option.map_eq_some_iff.mp found
  exact (getElem?_eq_some_iff.mp there).1

/-- Where a character follows a beginning, there stands the first byte of its encoding. -/
theorem byteAt?_append (before after : String) (char : Char) :
    byteAt? (before ++ (String.singleton char ++ after)) before.utf8ByteSize
      = (String.utf8EncodeChar char).head?.map Char.ofUInt8 := by
  obtain ⟨byte, rest, encoded⟩ :=
    List.exists_cons_of_ne_nil (String.utf8EncodeChar_ne_nil : String.utf8EncodeChar char ≠ [])
  -- The bytes of the text are those of the beginning, of the character and of what follows.
  have bytes : (before ++ (String.singleton char ++ after)).toByteArray
      = before.toByteArray ++ ((byte :: rest).toByteArray ++ after.toByteArray) := by
    rw [String.toByteArray_append, String.toByteArray_append, String.toByteArray_singleton,
      List.utf8Encode, List.flatMap_singleton, encoded]
  have there : (before ++ (String.singleton char ++ after)).toByteArray[before.toByteArray.size]?
      = some byte := by
    rw [bytes, getElem?_eq_some_iff]
    refine ⟨?_, ?_⟩
    · simp only [ByteArray.size_append, List.size_toByteArray, List.length_cons]
      omega
    · rw [ByteArray.getElem_append_right (Nat.le_refl _)]
      simp [ByteArray.getElem_append_left, List.size_toByteArray]
  rw [byteAt?, ← String.size_toByteArray, there, encoded]
  rfl

/-- Only the encoding of a character of one byte begins with the code of such a character. -/
theorem head?_utf8EncodeChar_eq_iff (ascii : char.toNat < 128) (other : Char) :
    (String.utf8EncodeChar other).head?.map Char.ofUInt8 = some char ↔ other = char := by
  have code : ∀ byte : UInt8, Char.ofUInt8 byte = char ↔ byte.toNat = char.toNat := fun _ =>
    Char.toNat_inj.symm
  rw [← Char.toNat_inj, String.utf8EncodeChar, show other.val.toNat = other.toNat from rfl]
  -- The first byte of a longer encoding tells its length, and is no code of one byte.
  split
  · simp only [List.head?_cons, Option.map_some, Option.some.injEq, code, UInt8.toNat_ofNat']
    omega
  · split
    · simp only [List.head?_cons, Option.map_some, Option.some.injEq, code, UInt8.toNat_ofNat']
      omega
    · split
      · simp only [List.head?_cons, Option.map_some, Option.some.injEq, code, UInt8.toNat_ofNat']
        omega
      · simp only [List.head?_cons, Option.map_some, Option.some.injEq, code, UInt8.toNat_ofNat']
        omega

/-- A byte that is the code of a character stands where the text goes on with that character. -/
theorem byteAt?_eq_some_iff (ascii : char.toNat < 128) :
    byteAt? text position = some char ↔ ∃ before after,
      text = before ++ (String.singleton char ++ after) ∧ position = before.utf8ByteSize := by
  constructor
  · intro found
    have inside := lt_of_byteAt? found
    obtain ⟨byte, there, rfl⟩ := Option.map_eq_some_iff.mp found
    -- A byte below 128 is the first byte of a character, so the text may be cut before it.
    have first : byte.IsUTF8FirstByte := by
      have low : ∀ code < 128, code &&& 128 = 0 := by decide
      exact .inl (UInt8.toNat_inj.mp (low byte.toNat ascii))
    have valid : String.Pos.Raw.IsValid text ⟨position⟩ :=
      String.Pos.Raw.isValid_iff_isUTF8FirstByte.mpr
        (.inr ⟨inside, by rwa [String.getUTF8Byte, (getElem?_eq_some_iff.mp there).2]⟩)
    obtain ⟨before, rest, rfl, ends⟩ := String.Pos.Raw.isValid_iff_exists_append.mp valid
    obtain rfl : position = before.utf8ByteSize := congrArg String.Pos.Raw.byteIdx ends
    -- A byte stands at the position, so the text goes on with a character there.
    obtain ⟨next, after, same⟩ := List.exists_cons_of_ne_nil
      (show rest.toList ≠ [] from fun ended => by simp_all)
    obtain rfl : rest = String.singleton next ++ String.ofList after := by
      rw [← String.ofList_cons, ← same, String.ofList_toList]
    rw [byteAt?_append, head?_utf8EncodeChar_eq_iff ascii] at found
    exact ⟨before, String.ofList after, by rw [found], rfl⟩
  · rintro ⟨before, after, rfl, rfl⟩
    rw [byteAt?_append, (head?_utf8EncodeChar_eq_iff ascii char).mpr rfl]

end TestPlan
