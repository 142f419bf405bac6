import Mathlib.Data.Nat.Log
import Mathlib.Tactic.Positivity
import Mathlib.Tactic.Ring
import TestPlan.Number.Binary

/-! A finite 32-bit number widened to 64 bits keeps its value, and narrowing gives it back. -/

namespace TestPlan

/-! ### Rounding what needs no rounding -/

/-- A quotient without a remainder is not changed by rounding. -/
theorem roundHalfEven_mul (value : Nat) {denominator : Nat} (positive : 0 < denominator) :
    roundHalfEven (value * denominator) denominator = value := by
  have whole : value * denominator / denominator = value := Nat.mul_div_cancel _ positive
  have exact : value * denominator % denominator = 0 := Nat.mul_mod_left _ _
  -- Nothing is left over, and the denominator is no more than twice nothing.
  have below : ¬denominator < 0 := by omega
  have apart : (0 == denominator) = false := by
    simp only [beq_eq_false_iff_ne]
    omega
  simp [roundHalfEven, whole, exact, below, apart]

namespace FloatFormat

variable {format : FloatFormat}

/-- The units of a magnitude whose exponent field is empty are its bits. -/
theorem units_of_lt {bits : Nat} (small : bits < 2 ^ format.fractionBits) :
    format.units bits = bits := by
  simp [units, Nat.shiftRight_eq_div_pow, Nat.shiftLeft_eq, Nat.div_eq_of_lt small,
    Nat.mod_eq_of_lt small]

/-- The units of a magnitude given by a nonempty exponent field and a fraction. -/
theorem units_add (exponent : Nat) {fraction : Nat} (fits : fraction < 2 ^ format.fractionBits) :
    format.units ((exponent + 1) * 2 ^ format.fractionBits + fraction)
      = (2 ^ format.fractionBits + fraction) * 2 ^ exponent := by
  have split : ((exponent + 1) * 2 ^ format.fractionBits + fraction) / 2 ^ format.fractionBits
      = exponent + 1 := by
    rw [Nat.mul_comm, Nat.mul_add_div (Nat.two_pow_pos _), Nat.div_eq_of_lt fits, Nat.add_zero]
  have rest : ((exponent + 1) * 2 ^ format.fractionBits + fraction) % 2 ^ format.fractionBits
      = fraction := by
    rw [Nat.mul_comm, Nat.mul_add_mod, Nat.mod_eq_of_lt fits]
  simp [units, Nat.shiftRight_eq_div_pow, Nat.shiftLeft_eq, split, rest]

/-- A magnitude is either its fraction alone or has a nonempty exponent field. -/
theorem bits_cases (format : FloatFormat) (bits : Nat) :
    bits < 2 ^ format.fractionBits ∨ ∃ exponent fraction, fraction < 2 ^ format.fractionBits ∧
      bits = (exponent + 1) * 2 ^ format.fractionBits + fraction := by
  have parts := Nat.div_add_mod bits (2 ^ format.fractionBits)
  cases field : bits / 2 ^ format.fractionBits with
  | zero => exact .inl ((Nat.div_eq_zero_iff_lt (Nat.two_pow_pos _)).mp field)
  | succ exponent =>
    refine .inr ⟨exponent, _, Nat.mod_lt bits (Nat.two_pow_pos _), ?_⟩
    rw [field] at parts
    rw [Nat.mul_comm, parts]

/-- The binary logarithm of a significand with its highest bit set and then shifted. -/
theorem log2_significand {width fraction : Nat} (shift : Nat) (fits : fraction < 2 ^ width) :
    ((2 ^ width + fraction) * 2 ^ shift).log2 = width + shift := by
  rw [Nat.log2_eq_log_two]
  apply Nat.log_eq_of_pow_le_of_lt_pow
  · rw [Nat.pow_add]
    exact Nat.mul_le_mul_right _ (Nat.le_add_right _ _)
  · calc (2 ^ width + fraction) * 2 ^ shift
        < (2 ^ width + 2 ^ width) * 2 ^ shift :=
          Nat.mul_lt_mul_of_pos_right (by omega) (Nat.two_pow_pos _)
      _ = 2 ^ (width + shift + 1) := by ring

/-- Rounding a quotient that is the value of a finite magnitude gives this magnitude. -/
theorem roundRatio_of_units {bits numerator denominator : Nat}
    (finite : bits < format.infinityBits) (positive : 0 < denominator)
    (exact : numerator <<< format.leastShift = format.units bits * denominator) :
    format.roundRatio numerator denominator = bits := by
  have quotient : numerator <<< format.leastShift / denominator = format.units bits := by
    rw [exact, Nat.mul_div_cancel _ positive]
  unfold roundRatio
  simp only [quotient]
  rw [exact]
  rcases bits_cases format bits with small | ⟨exponent, fraction, fits, rfl⟩
  · -- Such a number has no more bits than the fraction field, so none are dropped.
    have kept : bits.log2 - format.fractionBits = 0 := by
      rcases Nat.eq_zero_or_pos bits with rfl | nonzero
      · simp
      · have short := (Nat.log2_lt (by omega)).mpr small
        omega
    rw [units_of_lt small, kept]
    simp only [Nat.shiftLeft_zero, Nat.zero_shiftLeft, Nat.zero_add]
    rw [roundHalfEven_mul _ positive, Nat.min_eq_left finite.le]
  · -- The bits that are dropped are those that the exponent shifted in.
    have dropped : ((2 ^ format.fractionBits + fraction) * 2 ^ exponent).log2
        - format.fractionBits = exponent := by
      rw [log2_significand exponent fits, Nat.add_sub_cancel_left]
    rw [units_add exponent fits, dropped, Nat.shiftLeft_eq, Nat.shiftLeft_eq, Nat.mul_assoc,
      Nat.mul_comm (2 ^ exponent), roundHalfEven_mul _ (by positivity), Nat.min_eq_left]
    · ring
    · calc exponent * 2 ^ format.fractionBits + (2 ^ format.fractionBits + fraction)
          = (exponent + 1) * 2 ^ format.fractionBits + fraction := by ring
        _ ≤ format.infinityBits := finite.le

/-- A short significand shifted within the range of exponents is the value of a magnitude. -/
theorem exists_units_eq (format : FloatFormat) {significand shift : Nat}
    (short : significand < 2 ^ (format.fractionBits + 1))
    (inRange : shift + 2 < 2 ^ format.exponentBits) :
    ∃ bits, bits < format.infinityBits ∧ format.units bits = significand * 2 ^ shift := by
  have infinity : format.infinityBits
      = (2 ^ format.exponentBits - 1) * 2 ^ format.fractionBits := by
    simp [infinityBits, Nat.shiftLeft_eq]
  by_cases small : significand * 2 ^ shift < 2 ^ format.fractionBits
  · refine ⟨_, ?_, units_of_lt small⟩
    rw [infinity]
    exact small.trans_le (Nat.le_mul_of_pos_left _ (by omega))
  · -- The significand fills the field after it is shifted up to its highest place.
    have nonzero : significand * 2 ^ shift ≠ 0 := by
      have := Nat.two_pow_pos format.fractionBits
      omega
    set value := significand * 2 ^ shift with valueEq
    have above : format.fractionBits ≤ value.log2 := by
      rw [Nat.le_log2 nonzero]
      omega
    have below : value.log2 ≤ format.fractionBits + shift := by
      have bound : value < 2 ^ (format.fractionBits + shift + 1) := by
        calc value < 2 ^ (format.fractionBits + 1) * 2 ^ shift :=
              Nat.mul_lt_mul_of_pos_right short (Nat.two_pow_pos _)
          _ = 2 ^ (format.fractionBits + shift + 1) := by ring
      have := (Nat.log2_lt nonzero).mpr bound
      omega
    obtain ⟨exponent, exponentEq⟩ := Nat.exists_eq_add_of_le above
    have divides : 2 ^ exponent ∣ value :=
      Dvd.dvd.mul_left (Nat.pow_dvd_pow 2 (by omega)) _
    obtain ⟨top, topEq⟩ := divides
    have lower : 2 ^ format.fractionBits * 2 ^ exponent ≤ top * 2 ^ exponent := by
      calc 2 ^ format.fractionBits * 2 ^ exponent = 2 ^ value.log2 := by
            rw [exponentEq, Nat.pow_add]
        _ ≤ value := Nat.log2_self_le nonzero
        _ = top * 2 ^ exponent := by rw [topEq, Nat.mul_comm]
    have upper : top * 2 ^ exponent < 2 ^ (format.fractionBits + 1) * 2 ^ exponent := by
      calc top * 2 ^ exponent = value := by rw [topEq, Nat.mul_comm]
        _ < 2 ^ (value.log2 + 1) := Nat.lt_log2_self
        _ = 2 ^ (format.fractionBits + 1) * 2 ^ exponent := by
            rw [exponentEq]
            ring
    have atLeast := Nat.le_of_mul_le_mul_right lower (Nat.two_pow_pos _)
    have atMost := Nat.lt_of_mul_lt_mul_right upper
    obtain ⟨fraction, rfl⟩ := Nat.exists_eq_add_of_le atLeast
    have fits : fraction < 2 ^ format.fractionBits := by
      rw [Nat.pow_succ] at atMost
      omega
    refine ⟨(exponent + 1) * 2 ^ format.fractionBits + fraction, ?_, ?_⟩
    · calc (exponent + 1) * 2 ^ format.fractionBits + fraction
          < (exponent + 2) * 2 ^ format.fractionBits := by
            rw [Nat.add_mul exponent 2, Nat.add_mul exponent 1]
            omega
        _ ≤ format.infinityBits := by
            rw [infinity]
            exact Nat.mul_le_mul_right _ (by omega)
    · rw [units_add exponent fits, topEq, Nat.mul_comm]

/-- A finite magnitude is a short significand shifted within the range of exponents. -/
theorem exists_significand {bits : Nat} (finite : bits < format.infinityBits) :
    ∃ significand shift, significand < 2 ^ (format.fractionBits + 1) ∧
      shift + 2 ≤ 2 ^ format.exponentBits ∧ format.units bits = significand * 2 ^ shift := by
  have infinity : format.infinityBits
      = (2 ^ format.exponentBits - 1) * 2 ^ format.fractionBits := by
    simp [infinityBits, Nat.shiftLeft_eq]
  rw [infinity] at finite
  rcases bits_cases format bits with small | ⟨exponent, fraction, fits, rfl⟩
  · refine ⟨bits, 0, small.trans (Nat.pow_lt_pow_right (by omega) (by omega)), ?_, ?_⟩
    · -- A format without any exponent has no finite numbers.
      have nonzero := Nat.pos_of_mul_pos_right (Nat.zero_lt_of_lt finite)
      omega
    · rw [units_of_lt small, Nat.pow_zero, Nat.mul_one]
  · refine ⟨2 ^ format.fractionBits + fraction, exponent, ?_, ?_, units_add exponent fits⟩
    · rw [Nat.pow_succ]
      omega
    · have bounded := Nat.lt_of_mul_lt_mul_right
        (Nat.lt_of_le_of_lt (Nat.le_add_right _ fraction) finite)
      omega

end FloatFormat

/-! ### Signs and magnitudes -/

namespace Binary32

/-- A number is put together again from its sign and its magnitude. -/
theorem ofMagnitude_magnitude (x : Binary32) : ofMagnitude x.isNegative x.magnitude = x := by
  have range : x.bits.toNat < 2 ^ 32 := x.bits.toNat_lt
  have joined : (if x.isNegative then 1 <<< 31 + x.magnitude else x.magnitude)
      = x.bits.toNat := by
    simp only [isNegative, magnitude, Nat.one_shiftLeft, decide_eq_true_eq]
    split <;> omega
  rw [ofMagnitude, joined, UInt32.ofNat_toNat]

/-- Numbers of one sign and one magnitude are the same. -/
theorem eq_of_magnitude {x y : Binary32} (signs : x.isNegative = y.isNegative)
    (magnitudes : x.magnitude = y.magnitude) : x = y := by
  rw [← ofMagnitude_magnitude x, signs, magnitudes, ofMagnitude_magnitude]

end Binary32

namespace Binary64

variable {bits : Nat}

/-- A number is put together again from its sign and its magnitude. -/
theorem ofMagnitude_magnitude (x : Binary64) : ofMagnitude x.isNegative x.magnitude = x := by
  have range : x.bits.toNat < 2 ^ 64 := x.bits.toNat_lt
  have joined : (if x.isNegative then 1 <<< 63 + x.magnitude else x.magnitude)
      = x.bits.toNat := by
    simp only [isNegative, magnitude, Nat.one_shiftLeft, decide_eq_true_eq]
    split <;> omega
  rw [ofMagnitude, joined, UInt64.ofNat_toNat]

/-- Numbers of one sign and one magnitude are the same. -/
theorem eq_of_magnitude {x y : Binary64} (signs : x.isNegative = y.isNegative)
    (magnitudes : x.magnitude = y.magnitude) : x = y := by
  rw [← ofMagnitude_magnitude x, signs, magnitudes, ofMagnitude_magnitude]

/-- The bits of a number that is made from a sign and a magnitude. -/
theorem toNat_ofMagnitude (negative : Bool) (small : bits < 2 ^ 63) :
    (ofMagnitude negative bits).bits.toNat = if negative then 2 ^ 63 + bits else bits := by
  rw [ofMagnitude, UInt64.toNat_ofNat_of_lt']
  · rw [Nat.one_shiftLeft]
  · rw [UInt64.size, Nat.one_shiftLeft]
    split <;> omega

/-- A number has the magnitude that it is made from. -/
theorem magnitude_ofMagnitude (negative : Bool) (small : bits < 2 ^ 63) :
    (ofMagnitude negative bits).magnitude = bits := by
  rw [magnitude, toNat_ofMagnitude negative small, Nat.one_shiftLeft]
  split <;> omega

/-- A number has the sign that it is made from. -/
theorem isNegative_ofMagnitude (negative : Bool) (small : bits < 2 ^ 63) :
    (ofMagnitude negative bits).isNegative = negative := by
  rw [isNegative, toNat_ofMagnitude negative small, Nat.one_shiftLeft]
  cases negative with
  | false => exact decide_eq_false (by simpa using small)
  | true => simp

end Binary64

/-! ### Widening -/

namespace FloatFormat

/-- The least positive numbers of the two formats are this power of two apart. -/
def stepRatio : Nat :=
  double.leastShift - single.leastShift

/-- The larger format counts in the smaller units. -/
theorem leastShift_double : double.leastShift = stepRatio + single.leastShift :=
  rfl

/-- Every finite magnitude of 32 bits has one of 64 bits, which counts it in smaller units. -/
theorem exists_double_of_single {bits : Nat} (finite : bits < single.infinityBits) :
    ∃ wide, wide < double.infinityBits ∧ double.units wide
      = single.units bits * 2 ^ stepRatio := by
  obtain ⟨significand, shift, short, inRange, unitsEq⟩ := exists_significand finite
  have wideShort : significand < 2 ^ (double.fractionBits + 1) :=
    short.trans (Nat.pow_lt_pow_right (by decide) (by decide))
  have wideRange : shift + stepRatio + 2 < 2 ^ double.exponentBits := by
    have gap : stepRatio = 925 := rfl
    simp only [single, double] at inRange ⊢
    omega
  obtain ⟨wide, wideFinite, wideEq⟩ := exists_units_eq double wideShort wideRange
  exact ⟨wide, wideFinite, by rw [wideEq, unitsEq, Nat.pow_add, Nat.mul_assoc]⟩

end FloatFormat

namespace Binary32

/-- Widening a finite number makes a finite one of the same sign and value. -/
theorem widen_of_isFinite {x : Binary32} (finite : x.isFinite = true) :
    ∃ wide, wide < FloatFormat.double.infinityBits ∧
      FloatFormat.double.units wide = FloatFormat.single.units x.magnitude
        * 2 ^ FloatFormat.stepRatio ∧
      x.widen = .ofMagnitude x.isNegative wide := by
  have bounded : x.magnitude < FloatFormat.single.infinityBits := by
    simpa [isFinite] using finite
  obtain ⟨wide, wideFinite, wideEq⟩ := FloatFormat.exists_double_of_single bounded
  refine ⟨wide, wideFinite, wideEq, ?_⟩
  have rounded : FloatFormat.double.roundRatio (FloatFormat.single.units x.magnitude)
      (1 <<< FloatFormat.single.leastShift) = wide := by
    apply FloatFormat.roundRatio_of_units wideFinite
    · rw [Nat.one_shiftLeft]
      exact Nat.two_pow_pos _
    · rw [wideEq, Nat.one_shiftLeft, Nat.shiftLeft_eq, FloatFormat.leastShift_double,
        Nat.pow_add, Nat.mul_assoc]
  rw [widen, if_pos finite, rounded]

/-- Widening a finite number makes a finite one. -/
theorem isFinite_widen {x : Binary32} (finite : x.isFinite = true) : x.widen.isFinite = true := by
  obtain ⟨wide, wideFinite, -, widened⟩ := widen_of_isFinite finite
  have small : wide < 2 ^ 63 := wideFinite.trans (by decide)
  rw [widened, Binary64.isFinite, Binary64.magnitude_ofMagnitude _ small]
  exact decide_eq_true wideFinite

/-- Narrowing a widened finite number gives the number back, bit by bit. -/
theorem narrow_widen {x : Binary32} (finite : x.isFinite = true) : x.widen.narrow = x := by
  have bounded : x.magnitude < FloatFormat.single.infinityBits := by
    simpa [isFinite] using finite
  obtain ⟨wide, wideFinite, wideEq, widened⟩ := widen_of_isFinite finite
  have small : wide < 2 ^ 63 := wideFinite.trans (by decide)
  have rounded : FloatFormat.single.roundRatio (FloatFormat.double.units wide)
      (1 <<< FloatFormat.double.leastShift) = x.magnitude := by
    apply FloatFormat.roundRatio_of_units bounded
    · rw [Nat.one_shiftLeft]
      exact Nat.two_pow_pos _
    · rw [wideEq, Nat.one_shiftLeft, Nat.shiftLeft_eq, FloatFormat.leastShift_double,
        Nat.pow_add, Nat.mul_assoc]
  rw [Binary64.narrow, if_pos (isFinite_widen finite), widened,
    Binary64.magnitude_ofMagnitude _ small, Binary64.isNegative_ofMagnitude _ small, rounded,
    ofMagnitude_magnitude]

end Binary32

end TestPlan
