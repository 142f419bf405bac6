import Mathlib.Algebra.Order.Ring.Int
import Mathlib.Data.List.Forall2
import TestPlan.Data.Json.Printer
import TestPlan.Data.Json.Reader

/-! Data without real numbers is read back from the JSON text that is written for it. -/

namespace TestPlan.Json

/-! ### Blanks -/

/-- Blanks before a text are skipped. -/
theorem skipBlanks_append {blanks : List Char} (blank : ∀ c ∈ blanks, isBlank c = true)
    (input : List Char) : skipBlanks (blanks ++ input) = skipBlanks input := by
  rw [skipBlanks, skipBlanks, List.dropWhile_append_of_pos blank]

/-- A text that starts with something else than a blank is left as it is. -/
theorem skipBlanks_cons {c : Char} (solid : isBlank c = false) (rest : List Char) :
    skipBlanks (c :: rest) = c :: rest := by
  rw [skipBlanks, List.dropWhile_cons_of_neg (by simp [solid])]

/-! ### Texts -/

/-- The element as which a character is read where it stands escaped. -/
inductive UnitOf : TextUnit → Char → Prop
  | char (c : Char) : UnitOf (.char c) c
  | code {n : Nat} : n < 32 → UnitOf (.code n) (.ofNat n)

/-- The escape of a control character spells its number. -/
theorem hex_control {n : Nat} (control : n < 32) :
    ∃ a b c d, (hex 4 n).toList = [a, b, c, d] ∧ Digits.natural? 16 [a, b, c, d] = some n := by
  have spelled : ∀ n < 32, (hex 4 n).toList.length = 4 ∧
      Digits.natural? 16 (hex 4 n).toList = some n := by
    decide +kernel
  obtain ⟨four, found⟩ := spelled n control
  obtain ⟨a, b, c, d, written⟩ := List.length_eq_four.mp four
  exact ⟨a, b, c, d, written, written ▸ found⟩

/-- A character that needs no escape is read as it is. -/
theorem scanText_plain {c : Char} (quote : c ≠ '"') (escape : c ≠ '\\') (control : ¬c.toNat < 32)
    (rest : List Char) :
    scanText (c :: rest) = (scanText rest).map fun (units, rest) => (.char c :: units, rest) := by
  rw [scanText]
  · cases scanText rest <;> simp [escape, control]
  · simp [quote]
  · simp [escape]
  · simp [escape]

/-- An escape of one letter is read as the character it stands for. -/
theorem scanText_short {letter c : Char} (short : shortEscape? letter = some c)
    (rest : List Char) : scanText ('\\' :: letter :: rest)
      = (scanText rest).map fun (units, rest) => (.char c :: units, rest) := by
  have apart : letter ≠ 'u' := by
    rintro rfl
    cases short
  rw [scanText]
  · cases scanText rest <;> simp [short]
  · simp [apart]

/-- An escape of four digits is read as the number they spell. -/
theorem scanText_code {a b c d : Char} {n : Nat}
    (spelled : Digits.natural? 16 [a, b, c, d] = some n) (rest : List Char) :
    scanText ('\\' :: 'u' :: a :: b :: c :: d :: rest)
      = (scanText rest).map fun (units, rest) => (.code n :: units, rest) := by
  rw [scanText]
  cases scanText rest <;> simp [spelled]

/-- An escaped character is read as one element that stands for it. -/
theorem scanText_escape (c : Char) : ∃ unit, UnitOf unit c ∧ ∀ rest,
    scanText ((escape c).toList ++ rest)
      = (scanText rest).map fun (units, rest) => (unit :: units, rest) := by
  unfold escape
  split
  case h_8 quote escape _ _ _ _ _ =>
    split
    · rename_i control
      obtain ⟨a, b, c', d, written, spelled⟩ := hex_control control
      refine ⟨.code c.toNat, ?_, fun rest => ?_⟩
      · have unit := UnitOf.code control
        rwa [Char.ofNat_toNat] at unit
      · rw [String.toList_append, written]
        exact scanText_code spelled rest
    · rename_i control
      refine ⟨_, .char c, fun rest => ?_⟩
      rw [Char.toString_eq_singleton, String.toList_singleton]
      exact scanText_plain quote escape control rest
  -- The other cases are the characters with an escape of one letter.
  all_goals exact ⟨_, .char _, fun rest => scanText_short rfl rest⟩

/-- The escaped characters of a text are read up to the closing quote. -/
theorem scanText_escapes (text rest : List Char) : ∃ units, List.Forall₂ UnitOf units text ∧
    scanText ((String.join (text.map escape)).toList ++ '"' :: rest) = some (units, rest) := by
  induction text with
  | nil => exact ⟨[], .nil, by simp [scanText]⟩
  | cons c later ih =>
    obtain ⟨unit, stands, scans⟩ := scanText_escape c
    obtain ⟨units, others, rests⟩ := ih
    refine ⟨unit :: units, .cons stands others, ?_⟩
    rw [List.map_cons, String.join_cons, String.toList_append, List.append_assoc, scans, rests]
    rfl

/-- A control character is no half of a pair, whatever element comes after it. -/
theorem joinUnits_code {n : Nat} (control : n < 32) (units : List TextUnit) :
    joinUnits (.code n :: units) = (Char.ofNat n :: ·) <$> joinUnits units := by
  have first : ¬(0xD800 ≤ n ∧ n < 0xDC00) := by omega
  have second : ¬(0xDC00 ≤ n ∧ n < 0xE000) := by omega
  have alone : ¬(0xD800 ≤ n ∧ n < 0xE000) := by omega
  match units with
  | .code low :: rest => rw [joinUnits, if_neg first, if_neg second]
  | .char c :: rest => simp only [joinUnits, if_neg alone]
  | [] => simp only [joinUnits, if_neg alone]

/-- Elements that stand for characters spell them. -/
theorem joinUnits_of_units {units : List TextUnit} {text : List Char}
    (stand : List.Forall₂ UnitOf units text) : joinUnits units = some text := by
  induction stand with
  | nil => rfl
  | cons stands _ ih =>
    cases stands with
    | char => simp [joinUnits, ih]
    | code control => simp [joinUnits_code control, ih]

/-- The characters between the quotes of a text. -/
def escaped (text : String) : List Char :=
  (String.join (text.toList.map escape)).toList

/-- The quoted form of a text. -/
theorem toList_quote (text : String) : (quote text).toList = '"' :: (escaped text ++ ['"']) := by
  simp [quote, escaped]

/-- What is quoted is read as the text it spells. -/
theorem scanText_quote (text : String) (rest : List Char) : ∃ units, spell? units = some text ∧
    scanText (escaped text ++ '"' :: rest) = some (units, rest) := by
  obtain ⟨units, stand, scans⟩ := scanText_escapes text.toList rest
  exact ⟨units, by simp [spell?, joinUnits_of_units stand], scans⟩

/-! ### Integers -/

/-- What may follow a number: nothing that would continue it. -/
def Ends (rest : List Char) : Prop :=
  ∀ c ∈ rest.head?, c.isDigit = false ∧ c ≠ '.' ∧ c ≠ 'e' ∧ c ≠ 'E'

/-- Digits are read up to where the number ends. -/
theorem scanDigits_append {digits rest : List Char} (all : ∀ c ∈ digits, c.isDigit = true)
    (ends : Ends rest) : scanDigits (digits ++ rest) = (digits.map digit, rest) := by
  have stop : rest.takeWhile Char.isDigit = [] ∧ rest.dropWhile Char.isDigit = rest := by
    cases rest with
    | nil => exact ⟨rfl, rfl⟩
    | cons c _ =>
      have other := (ends c rfl).1
      exact ⟨List.takeWhile_cons_of_neg (by simp [other]),
        List.dropWhile_cons_of_neg (by simp [other])⟩
  rw [scanDigits, List.takeWhile_append_of_pos all, List.dropWhile_append_of_pos all, stop.1,
    stop.2, List.append_nil]

/-- The digits of a number are not empty. -/
theorem exists_cons_toDigits (n : Nat) : ∃ c rest, Nat.toDigits 10 n = c :: rest :=
  List.exists_cons_of_ne_nil Nat.toDigits_ne_nil

/-- Only zero is written with a leading zero. -/
theorem eq_zero_of_leading {n : Nat} {rest : List Char}
    (written : Nat.toDigits 10 n = '0' :: rest) : n = 0 := by
  induction n using Nat.strongRecOn generalizing rest with
  | ind n ih =>
    by_cases small : n < 10
    · rw [Nat.toDigits_of_lt_base small] at written
      have digits : ∀ n < 10, n.digitChar = '0' → n = 0 := by decide
      exact digits n small (List.cons.inj written).1
    · -- The first digit is also that of the number without its last digit.
      rw [Nat.toDigits_of_base_le (by omega) (by omega)] at written
      obtain ⟨c, later, split⟩ := exists_cons_toDigits (n / 10)
      rw [split, List.cons_append] at written
      have leading := (List.cons.inj written).1
      have zero := ih (n / 10) (by omega) (leading ▸ split)
      omega

/-- The digits of a number have its value. -/
theorem foldl_digits (n : Nat) :
    ((Nat.toDigits 10 n).map digit).foldl (fun value digit => value * 10 + digit) 0 = n := by
  have spelled := Nat.ofDigitChars_ten_toDigits (n := n)
  rw [Nat.ofDigitChars_eq_foldl] at spelled
  rw [List.foldl_map]
  simpa only [digit, Nat.mul_comm] using spelled

/-- What ends a number is neither a fraction nor an exponent. -/
theorem Ends.scan {rest : List Char} (ends : Ends rest) :
    scanFraction rest = some (none, rest) ∧ scanExponent rest = some (none, rest) := by
  match rest with
  | [] => exact ⟨rfl, rfl⟩
  | c :: later =>
    obtain ⟨-, point, small, large⟩ := ends c rfl
    constructor
    · unfold scanFraction
      split
      · rename_i same
        exact absurd (List.cons.inj same).1 point
      · rfl
    · unfold scanExponent
      split
      · rename_i same
        exact absurd (List.cons.inj same).1 small
      · rename_i same
        exact absurd (List.cons.inj same).1 large
      · rfl

/-- Only the digit zero has the value zero. -/
theorem eq_of_digit_eq_zero {c : Char} (decimal : c.isDigit = true) (zero : digit c = 0) :
    c = '0' := by
  have bounds : 48 ≤ c.val ∧ c.val ≤ 57 := by
    simpa [Char.isDigit] using decimal
  have least : '0'.toNat ≤ c.toNat := bounds.1
  apply Char.toNat_inj.mp
  rw [digit] at zero
  omega

/-- The digits of a number are not empty and start with zero only for zero itself. -/
theorem digits_cases (n : Nat) : ∃ first later, (Nat.toDigits 10 n).map digit = first :: later ∧
    (first = 0 → later = []) := by
  obtain ⟨c, later, split⟩ := exists_cons_toDigits n
  refine ⟨digit c, later.map digit, by rw [split, List.map_cons], fun zero => ?_⟩
  have decimal : c.isDigit = true :=
    Nat.isDigit_of_mem_toDigits (by omega) (by omega) (split ▸ List.mem_cons_self)
  obtain rfl := eq_of_digit_eq_zero decimal zero
  obtain rfl := eq_zero_of_leading split
  rw [Nat.toDigits_zero] at split
  rw [← (List.cons.inj split).2, List.map_nil]

/-- A natural number is read from its digits, with a sign or without one. -/
theorem scanNumber_digits (negative : Bool) (n : Nat) {rest : List Char} (ends : Ends rest) :
    scanNumber ((if negative then ['-'] else []) ++ (Nat.toDigits 10 n ++ rest))
      = some (numeralDatum ⟨negative, (Nat.toDigits 10 n).map digit, [], 0⟩ false, rest) := by
  have decimal : ∀ c ∈ Nat.toDigits 10 n, c.isDigit = true := fun c member =>
    Nat.isDigit_of_mem_toDigits (by omega) (by omega) member
  obtain ⟨first, later, shape, leading⟩ := digits_cases n
  obtain ⟨point, exponent⟩ := ends.scan
  unfold scanNumber
  split
  rename_i found input same
  -- The sign is told apart from the digits.
  have signed : found = negative ∧ input = Nat.toDigits 10 n ++ rest := by
    cases negative with
    | true => exact (Prod.mk.inj same).imp Eq.symm Eq.symm
    | false =>
      obtain ⟨c, later, split⟩ := exists_cons_toDigits n
      have apart : c ≠ '-' := by
        rintro rfl
        exact absurd (decimal '-' (split ▸ List.mem_cons_self)) (by decide)
      simpa [split, apart, eq_comm] using same
  obtain ⟨rfl, rfl⟩ := signed
  rw [scanDigits_append decimal ends, shape]
  cases first with
  | zero =>
    rw [leading rfl]
    simp [point, exponent]
  | succ => simp [point, exponent]

/-- The tree of a whole numeral of 64 bits is a natural number. -/
theorem numeralDatum_natural {n : Nat} (small : n < 2 ^ 64) :
    numeralDatum ⟨false, (Nat.toDigits 10 n).map digit, [], 0⟩ false = .integer n := by
  have value : Numeral.wholeValue ⟨false, (Nat.toDigits 10 n).map digit, [], 0⟩ = n :=
    foldl_digits n
  have fits : n < UInt64.size := small
  simp only [numeralDatum, value, decide_eq_true fits, Bool.not_false, Bool.and_self, if_true]

/-- The tree of a whole numeral of 64 bits with a sign is a negative number. -/
theorem numeralDatum_negative {n : Nat} (positive : 0 < n) (small : n ≤ 2 ^ 63) :
    numeralDatum ⟨true, (Nat.toDigits 10 n).map digit, [], 0⟩ false = .integer (-n) := by
  have value : Numeral.wholeValue ⟨true, (Nat.toDigits 10 n).map digit, [], 0⟩ = n :=
    foldl_digits n
  have fits : n ≤ Int64.minValue.toInt.natAbs := small
  simp only [numeralDatum, value, decide_eq_true fits, decide_eq_true positive, Bool.not_false,
    Bool.not_true, Bool.and_false, Bool.false_and, Bool.and_self, if_true, Bool.false_eq_true,
    if_false]

/-- The integers that are read as such: those of 64 bits, with a sign or without one. -/
def Fits (value : Int) : Prop :=
  -2 ^ 63 ≤ value ∧ value < 2 ^ 64

/-- The decimal form of a natural number. -/
theorem toList_ofNat (n : Nat) : (toString (Int.ofNat n)).toList = Nat.toDigits 10 n :=
  String.toList_ofList

/-- The decimal form of a negative number. -/
theorem toList_negSucc (n : Nat) :
    (toString (Int.negSucc n)).toList = '-' :: Nat.toDigits 10 (n + 1) :=
  (String.toList_append ..).trans (congrArg _ String.toList_ofList)

/-- An integer is read from its decimal form. -/
theorem scanNumber_integer {value : Int} (fits : Fits value) {rest : List Char}
    (ends : Ends rest) :
    scanNumber ((toString value).toList ++ rest) = some (.integer value, rest) := by
  obtain ⟨above, below⟩ := fits
  cases value with
  | ofNat n =>
    have small : n < 2 ^ 64 := by
      rw [Int.ofNat_eq_natCast] at below
      omega
    rw [toList_ofNat]
    refine (scanNumber_digits false n ends).trans ?_
    rw [numeralDatum_natural small]
    rfl
  | negSucc n =>
    rw [toList_negSucc]
    refine (scanNumber_digits true (n + 1) ends).trans ?_
    rw [numeralDatum_negative (by omega) (by omega)]
    rfl

/-! ### Values -/

/-- Data without real numbers, scalars of an open type, and integers of more than 64 bits. -/
inductive Plain : Datum → Prop
  | null : Plain .null
  | boolean (value : Bool) : Plain (.boolean value)
  | integer {value : Int} : Fits value → Plain (.integer value)
  | text (value : String) : Plain (.text value)
  | list {items : List Datum} : (∀ item ∈ items, Plain item) → Plain (.list items)
  | record {entries : List (String × Datum)} : (∀ entry ∈ entries, Plain entry.2) →
      Plain (.record entries)

/-- A layout that sets out values with nothing but blanks. -/
structure Layout.Spaces (layout : Layout) : Prop where
  lineStart : ∀ level, ∀ c ∈ (layout.lineStart level).toList, isBlank c = true
  afterName : ∃ blanks, layout.afterName.toList = ':' :: blanks ∧ ∀ c ∈ blanks, isBlank c = true

/-- Nothing is skipped on one line. -/
theorem Layout.spaces_compact : Layout.compact.Spaces where
  lineStart _ c member := by cases member
  afterName := ⟨[], rfl, by simp⟩

/-- Line breaks and indentation are skipped. -/
theorem Layout.spaces_indented : Layout.indented.Spaces where
  lineStart level c member := by
    simp only [Layout.indented, String.toList_append, String.toList_ofList, List.mem_append,
      List.mem_replicate] at member
    rcases member with line | ⟨-, rfl⟩
    · obtain rfl : c = '\n' := by simpa using line
      rfl
    · rfl
  afterName := ⟨[' '], rfl, by simp [isBlank]⟩

/-- Blanks before a value are skipped. -/
theorem scanValue_append {blanks : List Char} (blank : ∀ c ∈ blanks, isBlank c = true)
    (fuel : Nat) (input : List Char) : scanValue fuel (blanks ++ input) = scanValue fuel input := by
  cases fuel with
  | zero => simp only [scanValue]
  | succ => simp only [scanValue, skipBlanks_append blank]

/-- Blanks before the items of a list are skipped. -/
theorem scanItems_append {blanks : List Char} (blank : ∀ c ∈ blanks, isBlank c = true)
    (fuel : Nat) (input : List Char) : scanItems fuel (blanks ++ input) = scanItems fuel input := by
  cases fuel with
  | zero => simp only [scanItems]
  | succ => simp only [scanItems, scanValue_append blank]

/-- Blanks before the entries of a record are skipped. -/
theorem scanEntries_append {blanks : List Char} (blank : ∀ c ∈ blanks, isBlank c = true)
    (fuel : Nat) (input : List Char) :
    scanEntries fuel (blanks ++ input) = scanEntries fuel input := by
  cases fuel with
  | zero => simp only [scanEntries]
  | succ => simp only [scanEntries, expect, skipBlanks_append blank]

/-- No number starts with a blank. -/
theorem not_blank_of_number {c : Char} (first : c.isDigit = true ∨ c = '-') :
    isBlank c = false := by
  simp only [isBlank, Bool.or_eq_false_iff, beq_eq_false_iff_ne]
  refine ⟨⟨⟨?_, ?_⟩, ?_⟩, ?_⟩ <;> rintro rfl <;> simp at first

/-- The decimal form of an integer starts with a digit or a minus sign. -/
theorem exists_cons_toString (value : Int) : ∃ c rest,
    (toString value).toList = c :: rest ∧ (c.isDigit = true ∨ c = '-') := by
  cases value with
  | ofNat n =>
    obtain ⟨c, rest, split⟩ := exists_cons_toDigits n
    exact ⟨c, rest, (toList_ofNat n).trans split,
      .inl (Nat.isDigit_of_mem_toDigits (by omega) (by omega) (split ▸ List.mem_cons_self))⟩
  | negSucc n => exact ⟨'-', _, toList_negSucc n, .inr rfl⟩

/-- A value that starts like a number is read as one. -/
theorem scanValue_number {c : Char} (first : c.isDigit = true ∨ c = '-') (fuel : Nat)
    (rest : List Char) : scanValue (fuel + 1) (c :: rest) = scanNumber (c :: rest) := by
  have solid := not_blank_of_number first
  rw [scanValue, skipBlanks_cons solid]
  -- No other value starts with a digit or a minus sign.
  split
  all_goals first
    | rfl
    | rename_i same
      obtain ⟨rfl, -⟩ := List.cons.inj same
      simp at first

section Written

variable {layout : Layout} {level : Nat}

/-- A truth value as it is written. -/
theorem toList_boolean (value : Bool) : (render layout level (.boolean value)).toList
    = if value then ['t', 'r', 'u', 'e'] else ['f', 'a', 'l', 's', 'e'] := by
  cases value <;> simp [render]

/-- A list with items as it is written. -/
theorem toList_list (first : Datum) (later : List Datum) :
    (render layout level (.list (first :: later))).toList
      = '[' :: ((layout.lineStart (level + 1)).toList ++ ((render layout (level + 1) first).toList
        ++ ((renderItems layout (level + 1) later).toList
        ++ ((layout.lineStart level).toList ++ [']'])))) := by
  simp [render]

/-- The next item of a list as it is written. -/
theorem toList_items (first : Datum) (later : List Datum) :
    (renderItems layout level (first :: later)).toList
      = ',' :: ((layout.lineStart level).toList ++ ((render layout level first).toList
        ++ (renderItems layout level later).toList)) := by
  simp [renderItems]

/-- A record with entries as it is written. -/
theorem toList_record (name : String) (value : Datum) (later : List (String × Datum)) :
    (render layout level (.record ((name, value) :: later))).toList
      = '\x7b' :: ((layout.lineStart (level + 1)).toList ++ ((quote name).toList
        ++ (layout.afterName.toList ++ ((render layout (level + 1) value).toList
        ++ ((renderEntries layout (level + 1) later).toList
        ++ ((layout.lineStart level).toList ++ ['\x7d'])))))) := by
  simp [render]

/-- The next entry of a record as it is written. -/
theorem toList_entries (name : String) (value : Datum) (later : List (String × Datum)) :
    (renderEntries layout level ((name, value) :: later)).toList
      = ',' :: ((layout.lineStart level).toList ++ ((quote name).toList
        ++ (layout.afterName.toList ++ ((render layout level value).toList
        ++ (renderEntries layout level later).toList)))) := by
  simp [renderEntries]

/-- A written value starts neither with a blank nor like the end of a list. -/
theorem exists_cons_render (layout : Layout) (level : Nat) {datum : Datum} (plain : Plain datum) :
    ∃ c rest, (render layout level datum).toList = c :: rest ∧ isBlank c = false ∧ c ≠ ']' := by
  cases plain with
  | null => exact ⟨'n', ['u', 'l', 'l'], by simp [render], by decide, by decide⟩
  | boolean value =>
    cases value with
    | false => exact ⟨_, _, toList_boolean false, by decide, by decide⟩
    | true => exact ⟨_, _, toList_boolean true, by decide, by decide⟩
  | @integer value =>
    obtain ⟨c, rest, split, first⟩ := exists_cons_toString value
    refine ⟨c, rest, by rw [render, split], not_blank_of_number first, ?_⟩
    rintro rfl
    simp at first
  | text value => exact ⟨_, _, by rw [render, toList_quote], by decide, by decide⟩
  | @list items =>
    cases items with
    | nil => exact ⟨'[', [']'], by simp [render], by decide, by decide⟩
    | cons first later => exact ⟨_, _, toList_list first later, by decide, by decide⟩
  | @record entries =>
    cases entries with
    | nil => exact ⟨'\x7b', ['\x7d'], by simp [render], by decide, by decide⟩
    | cons first later => exact ⟨_, _, toList_record first.1 first.2 later, by decide, by decide⟩

/-- Whether a value is read from what is written for it, given more fuel than characters. -/
def Reads (layout : Layout) (datum : Datum) : Prop :=
  ∀ level fuel rest, Ends rest → (render layout level datum).toList.length < fuel →
    scanValue fuel ((render layout level datum).toList ++ rest) = some (datum, rest)

/-- A blank, a separator and a closing bracket end a number. -/
theorem ends_cons {c : Char} (outside : isBlank c = true ∨ c ∈ [',', ']', '\x7d'])
    (rest : List Char) : Ends (c :: rest) := by
  rintro _ ⟨⟩
  simp only [isBlank, Bool.or_eq_true, beq_iff_eq, List.mem_cons, List.not_mem_nil,
    or_false] at outside
  rcases outside with (((rfl | rfl) | rfl) | rfl) | rfl | rfl | rfl <;> decide

/-- A closing bracket ends a number, with blanks before it or without. -/
theorem ends_append {blanks : List Char} (blank : ∀ c ∈ blanks, isBlank c = true) {c : Char}
    (closing : c ∈ [',', ']', '\x7d']) (rest : List Char) : Ends (blanks ++ c :: rest) := by
  cases blanks with
  | nil => exact ends_cons (.inr closing) rest
  | cons first later => exact ends_cons (.inl (blank first List.mem_cons_self)) _

/-- A value before a closing bracket is the last item. -/
theorem scanItems_last {fuel : Nat} {input blanks tail : List Char} {item : Datum}
    (blank : ∀ c ∈ blanks, isBlank c = true)
    (value : scanValue fuel input = some (item, blanks ++ ']' :: tail)) :
    scanItems (fuel + 1) input = some ([item], tail) := by
  have closing : skipBlanks (blanks ++ ']' :: tail) = ']' :: tail := by
    rw [skipBlanks_append blank, skipBlanks_cons (by decide)]
  simp [scanItems, value, closing]

/-- A value before a separator is followed by the other items. -/
theorem scanItems_next {fuel : Nat} {input rest tail : List Char} {item : Datum}
    {items : List Datum} (value : scanValue fuel input = some (item, ',' :: rest))
    (others : scanItems fuel rest = some (items, tail)) :
    scanItems (fuel + 1) input = some (item :: items, tail) := by
  have separator : skipBlanks (',' :: rest) = ',' :: rest := skipBlanks_cons (by decide) rest
  simp [scanItems, value, separator, others]

/-- The items of a list are read up to its closing bracket. -/
theorem scanItems_render (spaces : layout.Spaces) {blanks : List Char}
    (blank : ∀ c ∈ blanks, isBlank c = true) (tail : List Char) (first : Datum)
    (later : List Datum) (each : ∀ item ∈ first :: later, Reads layout item) (fuel : Nat)
    (enough : (render layout level first).toList.length
      + (renderItems layout level later).toList.length + 1 < fuel) :
    scanItems fuel ((render layout level first).toList
        ++ ((renderItems layout level later).toList ++ (blanks ++ ']' :: tail)))
      = some (first :: later, tail) := by
  induction later generalizing first fuel with
  | nil =>
    obtain ⟨fuel, rfl⟩ := Nat.exists_eq_add_of_le' (Nat.zero_lt_of_lt enough)
    apply scanItems_last blank
    simp only [renderItems, String.toList_empty, List.nil_append]
    exact each first List.mem_cons_self level fuel _ (ends_append blank (by simp) tail) (by omega)
  | cons second later ih =>
    obtain ⟨fuel, rfl⟩ := Nat.exists_eq_add_of_le' (Nat.zero_lt_of_lt enough)
    rw [toList_items] at enough ⊢
    simp only [List.cons_append, List.append_assoc, List.length_cons, List.length_append]
      at enough ⊢
    refine scanItems_next (each first List.mem_cons_self level fuel _ ?_ (by omega)) ?_
    · exact ends_cons (.inr (by simp)) _
    · rw [scanItems_append (spaces.lineStart level)]
      exact ih second (fun item member => each item (List.mem_cons_of_mem _ member)) fuel
        (by omega)

/-- The start of an entry as the reader takes it apart. -/
theorem expect_quote (name : String) (rest : List Char) :
    expect '"' ((quote name).toList ++ rest)
      = some (escaped name ++ '"' :: rest) := by
  rw [toList_quote, List.cons_append, expect, skipBlanks_cons (by decide)]
  simp

/-- What stands between a name and its value is taken off. -/
theorem expect_afterName (spaces : layout.Spaces) (fuel : Nat) (rest : List Char) :
    ∃ input, expect ':' (layout.afterName.toList ++ rest) = some input ∧
      scanValue fuel input = scanValue fuel rest := by
  obtain ⟨blanks, shape, blank⟩ := spaces.afterName
  refine ⟨blanks ++ rest, ?_, scanValue_append blank fuel rest⟩
  rw [shape, List.cons_append, expect, skipBlanks_cons (by decide)]
  simp

/-- An entry before a closing brace is the last one. -/
theorem scanEntries_last (spaces : layout.Spaces) {fuel : Nat} {input blanks tail : List Char}
    (name : String) {datum : Datum} (blank : ∀ c ∈ blanks, isBlank c = true)
    (value : scanValue fuel input = some (datum, blanks ++ '\x7d' :: tail)) :
    scanEntries (fuel + 1) ((quote name).toList ++ (layout.afterName.toList ++ input))
      = some ([(some name, datum)], tail) := by
  have closing : skipBlanks (blanks ++ '\x7d' :: tail) = '\x7d' :: tail := by
    rw [skipBlanks_append blank, skipBlanks_cons (by decide)]
  obtain ⟨units, spelled, scanned⟩ := scanText_quote name (layout.afterName.toList ++ input)
  obtain ⟨start, expected, same⟩ := expect_afterName spaces fuel input
  simp [scanEntries, expect_quote, scanned, expected, same, value, closing, spelled]

/-- An entry before a separator is followed by the other ones. -/
theorem scanEntries_next (spaces : layout.Spaces) {fuel : Nat} {input rest tail : List Char}
    (name : String) {datum : Datum} {entries : List (Option String × Datum)}
    (value : scanValue fuel input = some (datum, ',' :: rest))
    (others : scanEntries fuel rest = some (entries, tail)) :
    scanEntries (fuel + 1) ((quote name).toList ++ (layout.afterName.toList ++ input))
      = some ((some name, datum) :: entries, tail) := by
  have separator : skipBlanks (',' :: rest) = ',' :: rest := skipBlanks_cons (by decide) rest
  obtain ⟨units, spelled, scanned⟩ := scanText_quote name (layout.afterName.toList ++ input)
  obtain ⟨start, expected, same⟩ := expect_afterName spaces fuel input
  simp [scanEntries, expect_quote, scanned, expected, same, value, separator, spelled, others]

/-- The entries of a record are read up to its closing brace. -/
theorem scanEntries_render (spaces : layout.Spaces) {blanks : List Char}
    (blank : ∀ c ∈ blanks, isBlank c = true) (tail : List Char) (first : String × Datum)
    (later : List (String × Datum)) (each : ∀ entry ∈ first :: later, Reads layout entry.2)
    (fuel : Nat)
    (enough : (render layout level first.2).toList.length
      + (renderEntries layout level later).toList.length + 1 < fuel) :
    scanEntries fuel ((quote first.1).toList ++ (layout.afterName.toList
        ++ ((render layout level first.2).toList
        ++ ((renderEntries layout level later).toList ++ (blanks ++ '\x7d' :: tail)))))
      = some ((first :: later).map fun entry => (some entry.1, entry.2), tail) := by
  induction later generalizing first fuel with
  | nil =>
    obtain ⟨fuel, rfl⟩ := Nat.exists_eq_add_of_le' (Nat.zero_lt_of_lt enough)
    apply scanEntries_last spaces first.1 blank
    simp only [renderEntries, String.toList_empty, List.nil_append]
    exact each first List.mem_cons_self level fuel _ (ends_append blank (by simp) tail) (by omega)
  | cons second later ih =>
    obtain ⟨fuel, rfl⟩ := Nat.exists_eq_add_of_le' (Nat.zero_lt_of_lt enough)
    rw [toList_entries] at enough ⊢
    simp only [List.cons_append, List.append_assoc, List.length_cons, List.length_append]
      at enough ⊢
    refine scanEntries_next spaces first.1
      (each first List.mem_cons_self level fuel _ ?_ (by omega)) ?_
    · exact ends_cons (.inr (by simp)) _
    · rw [scanEntries_append (spaces.lineStart level)]
      exact ih second (fun entry member => each entry (List.mem_cons_of_mem _ member)) fuel
        (by omega)

/-- Entries whose names can all be read make a record. -/
theorem recordOf_named (entries : List (String × Datum)) :
    recordOf (entries.map fun entry => (some entry.1, entry.2)) = .record entries := by
  have named : (entries.map fun entry => (some entry.1, entry.2)).mapM
      (fun entry : Option String × Datum => entry.1.map (·, entry.2)) = some entries := by
    rw [List.mapM_map]
    exact (List.mapM_pure (f := id)).trans (by rw [List.map_id]; rfl)
  rw [recordOf, named]

/-- A list that is not closed at once is read by its items. -/
theorem scanValue_list {fuel : Nat} {start body later rest : List Char} {c : Char}
    {items : List Datum} (blank : ∀ c ∈ start, isBlank c = true) (split : body = c :: later)
    (solid : isBlank c = false) (other : c ≠ ']')
    (found : scanItems fuel body = some (items, rest)) :
    scanValue (fuel + 1) ('[' :: (start ++ body)) = some (.list items, rest) := by
  subst split
  have inside : skipBlanks (start ++ c :: later) = c :: later := by
    rw [skipBlanks_append blank, skipBlanks_cons solid]
  rw [scanValue, skipBlanks_cons (by decide)]
  simp [inside, other, found]

/-- A record that starts with a name is read by its entries. -/
theorem scanValue_record {fuel : Nat} {start body later rest : List Char}
    {entries : List (Option String × Datum)} (blank : ∀ c ∈ start, isBlank c = true)
    (split : body = '"' :: later) (found : scanEntries fuel body = some (entries, rest)) :
    scanValue (fuel + 1) ('\x7b' :: (start ++ body)) = some (recordOf entries, rest) := by
  subst split
  have inside : skipBlanks (start ++ '"' :: later) = '"' :: later := by
    rw [skipBlanks_append blank, skipBlanks_cons (by decide)]
  rw [scanValue, skipBlanks_cons (by decide)]
  simp [inside, found]

/-- Plain data is read from what is written for it. -/
theorem reads_of_plain (spaces : layout.Spaces) {datum : Datum} (plain : Plain datum) :
    Reads layout datum := by
  -- The induction is on the data, with the reading of items and entries as lemmas.
  induction plain with
  | null =>
    intro level fuel rest _ enough
    obtain ⟨fuel, rfl⟩ := Nat.exists_eq_add_of_le' (Nat.zero_lt_of_lt enough)
    simp [render, scanValue, skipBlanks_cons, isBlank]
  | boolean value =>
    intro level fuel rest _ enough
    obtain ⟨fuel, rfl⟩ := Nat.exists_eq_add_of_le' (Nat.zero_lt_of_lt enough)
    rw [toList_boolean]
    cases value <;> simp [scanValue, skipBlanks_cons, isBlank]
  | @integer value fits =>
    intro level fuel rest ends enough
    obtain ⟨fuel, rfl⟩ := Nat.exists_eq_add_of_le' (Nat.zero_lt_of_lt enough)
    obtain ⟨c, later, split, first⟩ := exists_cons_toString value
    rw [render, split, List.cons_append, scanValue_number first, ← List.cons_append, ← split]
    exact scanNumber_integer fits ends
  | text value =>
    intro level fuel rest _ enough
    obtain ⟨fuel, rfl⟩ := Nat.exists_eq_add_of_le' (Nat.zero_lt_of_lt enough)
    obtain ⟨units, spelled, scanned⟩ := scanText_quote value rest
    rw [render, toList_quote]
    simp [scanValue, skipBlanks_cons, isBlank, scanned, spelled]
  | @list items plain ih =>
    intro level fuel rest _ enough
    obtain ⟨fuel, rfl⟩ := Nat.exists_eq_add_of_le' (Nat.zero_lt_of_lt enough)
    cases items with
    | nil => simp [render, scanValue, skipBlanks_cons, isBlank]
    | cons first later =>
      obtain ⟨c, body, split, solid, other⟩ :=
        exists_cons_render layout (level + 1) (plain first List.mem_cons_self)
      rw [toList_list] at enough ⊢
      simp only [List.length_cons, List.length_append, List.length_nil] at enough
      simp only [List.cons_append, List.append_assoc, List.nil_append]
      refine scanValue_list (spaces.lineStart _) (by rw [split, List.cons_append]) solid other ?_
      exact scanItems_render spaces (spaces.lineStart level) rest first later ih fuel (by omega)
  | @record entries _ ih =>
    intro level fuel rest _ enough
    obtain ⟨fuel, rfl⟩ := Nat.exists_eq_add_of_le' (Nat.zero_lt_of_lt enough)
    cases entries with
    | nil => simp [render, scanValue, skipBlanks_cons, isBlank]
    | cons first later =>
      rw [toList_record] at enough ⊢
      simp only [List.length_cons, List.length_append, List.length_nil] at enough
      simp only [List.cons_append, List.append_assoc, List.nil_append]
      rw [← recordOf_named]
      refine scanValue_record (spaces.lineStart _) (by rw [toList_quote, List.cons_append]) ?_
      exact scanEntries_render spaces (spaces.lineStart level) rest first later ih fuel (by omega)

/-- The text that is written for plain data denotes the data. -/
theorem parse_render (spaces : layout.Spaces) {datum : Datum} (plain : Plain datum) :
    parse (render layout 0 datum) = some datum := by
  have ends : Ends [] := by rintro _ ⟨⟩
  have found := reads_of_plain spaces plain 0 _ [] ends (Nat.lt_succ_self _)
  rw [List.append_nil] at found
  -- Nothing is left behind the value.
  simp only [parse, found, Option.bind_eq_bind, Option.bind_some]
  rfl

end Written

/-- Plain data is read back from its text on one line. -/
theorem parse_compact {datum : Datum} (plain : Plain datum) :
    parse (compact datum) = some datum :=
  parse_render Layout.spaces_compact plain

/-- Plain data is read back from its indented text. -/
theorem parse_indented {datum : Datum} (plain : Plain datum) :
    parse (indented datum) = some datum :=
  parse_render Layout.spaces_indented plain

end TestPlan.Json
