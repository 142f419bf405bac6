/-! Numbers spelled by runs of digits. -/

namespace TestPlan.Digits

/-- The value of a digit in a base, where letters are digits from ten on. -/
def value? (base : Nat) (c : Char) : Option Nat :=
  let value :=
    if '0' ≤ c ∧ c ≤ '9' then c.toNat - '0'.toNat
    else if 'a' ≤ c ∧ c ≤ 'z' then c.toNat - 'a'.toNat + 10
    else if 'A' ≤ c ∧ c ≤ 'Z' then c.toNat - 'A'.toNat + 10
    else base
  if value < base then some value else none

/-- The natural number that a nonempty run of digits stands for. -/
def natural? (base : Nat) : List Char → Option Nat
  | [] => none
  | digits => digits.foldlM (fun value c => (value * base + ·) <$> value? base c) 0

/-- The integer that a run of decimal digits stands for, before which a sign may stand. -/
def integer? (text : String) : Option Int :=
  match text.toList with
  | '-' :: digits => (-Int.ofNat ·) <$> natural? 10 digits
  | '+' :: digits => Int.ofNat <$> natural? 10 digits
  | digits => Int.ofNat <$> natural? 10 digits

end TestPlan.Digits
