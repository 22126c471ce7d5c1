/-
This file proves what floating point makes of a quotient of whole numbers. Whole numbers below 2 ^ 53 have an
exact image, also when binary zeros follow them, and so have their products as long as these are such numbers. The
quotient of two of them is rounded, but it is not rounded past a whole number: what is at most so many times the
divisor has a quotient of at most so many. That is what keeps a share in percent between 0 and 100.
-/

import Mathlib

namespace Community.Binary64

open Float.Model Float.Model.UnpackedFloat

/-! ### Shifting and rounding -/

theorem shiftRight_succ (extended : ExtendedMantissa) (count : Nat) :
    extended >>> (count + 1) = (extended >>> count).shiftRightOne := rfl

theorem mantissa_shiftRight (extended : ExtendedMantissa) (count : Nat) :
    (extended >>> count).mantissa = extended.mantissa / 2 ^ count := by
  induction count with
  | zero => exact (Nat.div_one _).symm
  | succ count inductionHypothesis =>
    rw [shiftRight_succ, Nat.pow_succ, ← Nat.div_div_eq_div_mul, ← inductionHypothesis]
    rfl

/-- Nothing is lost by a shift over zeros. -/
theorem shiftRight_exact (mantissa count : Nat) :
    (⟨mantissa * 2 ^ count, false, false⟩ : ExtendedMantissa) >>> count = ⟨mantissa, false, false⟩ := by
  induction count generalizing mantissa with
  | zero =>
    rw [Nat.pow_zero, Nat.mul_one]
    rfl
  | succ count inductionHypothesis =>
    have regrouped : mantissa * 2 ^ (count + 1) = mantissa * 2 * 2 ^ count := by ring
    rw [shiftRight_succ, regrouped, inductionHypothesis]
    simp [ExtendedMantissa.shiftRightOne]

theorem roundedMantissa_le (extended : ExtendedMantissa) :
    extended.roundedMantissa ≤ extended.mantissa + 1 := by
  obtain ⟨mantissa, round, sticky⟩ := extended
  cases round <;> cases sticky <;>
    simp only [ExtendedMantissa.roundedMantissa, ExtendedMantissa.accuracy,
      Accuracy.roundToNearestEven] <;>
    omega

theorem le_roundedMantissa (extended : ExtendedMantissa) :
    extended.mantissa ≤ extended.roundedMantissa := by
  obtain ⟨mantissa, round, sticky⟩ := extended
  cases round <;> cases sticky <;>
    simp only [ExtendedMantissa.roundedMantissa, ExtendedMantissa.accuracy,
      Accuracy.roundToNearestEven] <;>
    omega

theorem log2_mul_two_pow {number : Nat} (positive : 0 < number) (count : Nat) :
    (number * 2 ^ count).log2 = number.log2 + count := by
  rw [Nat.log2_eq_iff (Nat.mul_pos positive (Nat.two_pow_pos count)).ne']
  constructor
  · rw [Nat.pow_add]
    exact Nat.mul_le_mul_right _ (Nat.log2_self_le positive.ne')
  · have above : number * 2 ^ count < 2 ^ (number.log2 + 1) * 2 ^ count :=
      Nat.mul_lt_mul_of_pos_right Nat.lt_log2_self (Nat.two_pow_pos count)
    have regrouped : 2 ^ (number.log2 + 1) * 2 ^ count = 2 ^ (number.log2 + count + 1) := by ring
    rwa [regrouped] at above

/-- A number of more digits than fit is shifted until they do. -/
theorem shiftToTargetExponent_eq {mantissa shift : Nat} {exponent : Int} (accuracy : Accuracy)
    (digits : mantissa.log2 = 52 + shift) (normal : -1074 ≤ exponent + shift) :
    shiftToTargetExponent Format.binary64 mantissa exponent accuracy =
      (ExtendedMantissa.ofMantissaAndAccuracy mantissa accuracy >>> shift, exponent + shift) := by
  have target : Format.binary64.targetExponent (totalExponent mantissa exponent) =
      exponent + shift := by
    simp only [Format.targetExponent, totalExponent, digits, Format.mantissaBits,
      Format.minExponent]
    omega
  have amount : (exponent + shift - exponent).toNat = shift := by omega
  simp only [shiftToTargetExponent, shiftToExponent, target, amount]

/-- A rounded mantissa is brought to its digits, and then the number is final. -/
theorem roundWithAccuracy_eq {sign : Sign} {mantissa shift result carry : Nat} {exponent : Int}
    {accuracy : Accuracy} (digits : mantissa.log2 = 52 + shift) (normal : -1074 ≤ exponent + shift)
    (rounds : (ExtendedMantissa.ofMantissaAndAccuracy mantissa accuracy >>> shift).roundedMantissa =
      result * 2 ^ carry)
    (resultDigits : result.log2 = 52) (positive : 0 < result) :
    roundWithAccuracy Format.binary64 sign mantissa exponent accuracy =
      .finite sign result (exponent + shift + carry) positive := by
  have rest : (result * 2 ^ carry).log2 = 52 + carry := by
    rw [log2_mul_two_pow positive, resultDigits]
  unfold roundWithAccuracy
  rw [shiftToTargetExponent_eq accuracy digits normal]
  dsimp only
  rw [rounds, shiftToTargetExponent_eq .exact rest (by omega)]
  dsimp only [ExtendedMantissa.ofMantissaAndAccuracy]
  simp only [shiftRight_exact, positive.ne', dite_false]

/-- Zeros at the end of a mantissa go without a loss. -/
theorem roundWithAccuracy_exact {sign : Sign} {mantissa shift : Nat} {exponent : Int}
    (digits : mantissa.log2 = 52) (positive : 0 < mantissa) (normal : -1074 ≤ exponent + shift) :
    roundWithAccuracy Format.binary64 sign (mantissa * 2 ^ shift) exponent .exact =
      .finite sign mantissa (exponent + shift) positive := by
  have allDigits : (mantissa * 2 ^ shift).log2 = 52 + shift := by
    rw [log2_mul_two_pow positive, digits]
  have rounds : (ExtendedMantissa.ofMantissaAndAccuracy (mantissa * 2 ^ shift) .exact >>>
      shift).roundedMantissa = mantissa * 2 ^ 0 := by
    dsimp only [ExtendedMantissa.ofMantissaAndAccuracy]
    rw [shiftRight_exact, Nat.pow_zero, Nat.mul_one]
    rfl
  rw [roundWithAccuracy_eq allDigits normal rounds digits positive]
  simp

/-- A mantissa with one digit too many at most is not rounded past an even number that it does not exceed. -/
theorem roundedMantissa_mul_le {mantissa shift bound : Nat} {accuracy : Accuracy}
    (short : shift ≤ 1) (even : 2 ∣ bound) (atMost : mantissa ≤ bound)
    (below : accuracy ≠ .exact → mantissa < bound) :
    (ExtendedMantissa.ofMantissaAndAccuracy mantissa accuracy >>> shift).roundedMantissa * 2 ^ shift ≤
      bound := by
  obtain ⟨half, rfl⟩ := even
  have inexact (order : Ordering) (isInexact : accuracy = .inexact order) : mantissa < 2 * half :=
    below (by rw [isInexact]; nofun)
  obtain rfl | rfl : shift = 0 ∨ shift = 1 := by omega
  · change (ExtendedMantissa.ofMantissaAndAccuracy mantissa accuracy).roundedMantissa * 1 ≤ _
    rcases accuracy with _ | _ | _ | _ <;>
      simp only [ExtendedMantissa.ofMantissaAndAccuracy, ExtendedMantissa.roundedMantissa,
        ExtendedMantissa.accuracy, Accuracy.roundToNearestEven] <;>
      first | omega | (have strict := inexact _ rfl; omega)
  · change (ExtendedMantissa.ofMantissaAndAccuracy mantissa accuracy).shiftRightOne.roundedMantissa *
      2 ≤ _
    rcases accuracy with _ | _ | _ | _ <;>
      rcases Nat.mod_two_eq_zero_or_one mantissa with last | last <;>
      simp only [ExtendedMantissa.ofMantissaAndAccuracy, ExtendedMantissa.shiftRightOne, last,
        ExtendedMantissa.roundedMantissa, ExtendedMantissa.accuracy, Accuracy.roundToNearestEven,
        bne_self_eq_false, Bool.or_false, Bool.or_true, Nat.reduceBneDiff] <;>
      omega

/-! ### Whole numbers -/

theorem unpackSign_packComponents {format : Float.Model.Format} (sign : Sign)
    (exponent : BitVec format.exponentBits) (mantissa : BitVec format.mantissaBitsWithoutImplicit) :
    unpackSign (packComponents format sign exponent mantissa) = sign.toBitVec := by
  refine BitVec.eq_of_getLsbD_eq fun index within => ?_
  have first : index = 0 := by omega
  subst first
  simp [unpackSign, packComponents, BitVec.getLsbD_append, BitVec.getElem_append]

theorem ofBitVec_toBitVec (sign : Sign) : Sign.ofBitVec sign.toBitVec = sign := by
  cases sign <;> rfl

theorem implicit_append {mantissa : Nat} (least : 2 ^ 52 ≤ mantissa) (most : mantissa < 2 ^ 53) :
    (1#1 ++ BitVec.ofNat 52 mantissa).toNat = mantissa := by
  rw [BitVec.toNat_append, ← Nat.shiftLeft_add_eq_or_of_lt (BitVec.isLt _), BitVec.toNat_ofNat]
  rw [Nat.shiftLeft_eq]
  simp
  omega

/-- A number with all its digits is read as it was written, if it is neither too small nor too large. -/
theorem unpack_pack {sign : Sign} {mantissa : Nat} {exponent : Int} (positive : 0 < mantissa)
    (digits : mantissa.log2 = 52) (notSmall : -1074 ≤ exponent) (notLarge : exponent ≤ 971) :
    (Float.Model.pack (.finite sign mantissa exponent positive)).unpack =
      .finite sign mantissa exponent positive := by
  obtain ⟨least, most⟩ := (Nat.log2_eq_iff positive.ne').1 digits
  have biased : (exponent + (Format.binary64.exponentBias : Int) + ((52 : Nat) : Int)).toNat =
      (exponent + 1075).toNat := by
    simp only [Format.exponentBias]
    omega
  have packed : UnpackedFloat.pack Format.binary64 (.finite sign mantissa exponent positive) =
      packComponents Format.binary64 sign (BitVec.ofNat 11 (exponent + 1075).toNat)
        (BitVec.ofNat 52 mantissa) := by
    unfold UnpackedFloat.pack
    dsimp only
    rw [if_neg (by rw [biased]; omega), if_pos (by rw [digits]; rfl), biased]
  have read : (BitVec.ofNat 11 (exponent + 1075).toNat).toNat = (exponent + 1075).toNat := by
    rw [BitVec.toNat_ofNat, Nat.mod_eq_of_lt (by omega)]
  have notInfinite : BitVec.ofNat 11 (exponent + 1075).toNat ≠ -1#11 := by
    intro equal
    rw [equal] at read
    have : (-1#11 : BitVec 11).toNat = 2047 := rfl
    omega
  have notZero : BitVec.ofNat 11 (exponent + 1075).toNat ≠ 0#11 := by
    intro equal
    rw [equal] at read
    have : (0#11 : BitVec 11).toNat = 0 := rfl
    omega
  have unbiased : ((BitVec.ofNat 11 (exponent + 1075).toNat).toNat : Int) -
      (Format.binary64.exponentBias + ((52 : Nat) : Int)) = exponent := by
    rw [read]
    simp only [Format.exponentBias]
    omega
  unfold Float.Model.unpack Float.Model.pack
  dsimp only
  rw [packed]
  unfold UnpackedFloat.unpack
  simp only [unpackMantissa_packComponents, unpackExponent_packComponents,
    unpackSign_packComponents, ofBitVec_toBitVec, if_neg notInfinite, if_neg notZero, unbiased,
    implicit_append least most]

/-- The image of a whole number that is followed by so many binary zeros. -/
def scaled (number zeros : Nat) : UnpackedFloat :=
  if positive : 0 < number then
    .finite .positive (number * 2 ^ (52 - number.log2)) (number.log2 + zeros - 52)
      (Nat.mul_pos positive (Nat.two_pow_pos _))
  else .zero .positive

/-- The image of a whole number. -/
def whole (number : Nat) : UnpackedFloat :=
  scaled number 0

theorem scaled_eq {number : Nat} (positive : 0 < number) (zeros : Nat) :
    scaled number zeros = .finite .positive (number * 2 ^ (52 - number.log2)) (number.log2 + zeros - 52)
      (Nat.mul_pos positive (Nat.two_pow_pos _)) :=
  dif_pos positive

theorem whole_eq {number : Nat} (positive : 0 < number) :
    whole number = .finite .positive (number * 2 ^ (52 - number.log2)) (number.log2 - 52)
      (Nat.mul_pos positive (Nat.two_pow_pos _)) := by
  rw [whole, scaled_eq positive]
  congr 1

theorem scaled_zero (zeros : Nat) : scaled 0 zeros = .zero .positive := rfl

theorem log2_le {number : Nat} (small : number < 2 ^ 53) : number.log2 ≤ 52 := by
  rcases Nat.eq_zero_or_pos number with rfl | positive
  · decide
  · exact Nat.le_of_lt_succ ((Nat.log2_lt positive.ne').2 small)

theorem log2_digits {number : Nat} (positive : 0 < number) (small : number < 2 ^ 53) :
    (number * 2 ^ (52 - number.log2)).log2 = 52 := by
  rw [log2_mul_two_pow positive, Nat.add_sub_cancel' (log2_le small)]

theorem unpack_pack_scaled {number zeros : Nat} (small : number < 2 ^ 53) (few : zeros ≤ 900) :
    (Float.Model.pack (scaled number zeros)).unpack = scaled number zeros := by
  rcases Nat.eq_zero_or_pos number with rfl | positive
  · rw [scaled_zero]
    rfl
  · have digits := log2_le small
    rw [scaled_eq positive]
    exact unpack_pack _ (log2_digits positive small) (by omega) (by omega)

theorem unpack_pack_whole {number : Nat} (small : number < 2 ^ 53) :
    (Float.Model.pack (whole number)).unpack = whole number :=
  unpack_pack_scaled small (Nat.zero_le _)

theorem ofNat_eq_whole {number : Nat} (small : number < 2 ^ 53) :
    UnpackedFloat.ofNat Format.binary64 number = whole number := by
  rcases Nat.eq_zero_or_pos number with rfl | positive
  · rfl
  · have digits := log2_le small
    have target : Format.binary64.targetExponent (totalExponent number 0) = number.log2 - 52 := by
      simp only [Format.targetExponent, totalExponent, Format.mantissaBits, Format.minExponent]
      omega
    have amount : (0 - ((number.log2 : Int) - 52)).toNat = 52 - number.log2 := by omega
    have exponent : (0 : Int) - (52 - number.log2 : Nat) = number.log2 - 52 := by omega
    have above : compare (number : Int) 0 = .gt := Int.compare_eq_gt.2 (by omega)
    have final := @roundWithAccuracy_exact .positive _ 0 (number.log2 - 52)
      (log2_digits positive small) (Nat.mul_pos positive (Nat.two_pow_pos _)) (by omega)
    unfold UnpackedFloat.ofNat UnpackedFloat.ofInt UnpackedFloat.normalize
    rw [above]
    dsimp only [Int.toNat_natCast]
    unfold UnpackedFloat.round UnpackedFloat.decreaseExponent
    simp only [target, amount, exponent, Nat.shiftLeft_eq]
    rw [whole_eq positive]
    simpa using final

/-- A product is exact if only zeros follow its digits. -/
theorem mul_whole {left right product zeros : Nat} (equal : left * right = product * 2 ^ zeros)
    (small : product < 2 ^ 53) (leftSmall : left < 2 ^ 53) (rightSmall : right < 2 ^ 53) :
    UnpackedFloat.mul Format.binary64 (whole left) (whole right) = scaled product zeros := by
  rcases Nat.eq_zero_or_pos product with rfl | positive
  · rw [Nat.zero_mul, Nat.mul_eq_zero] at equal
    rcases equal with rfl | rfl
    · rcases Nat.eq_zero_or_pos right with rfl | rightPositive
      · rfl
      · rw [whole_eq rightPositive]
        rfl
    · rcases Nat.eq_zero_or_pos left with rfl | leftPositive
      · rfl
      · rw [whole_eq leftPositive]
        rfl
  have nonzero : 0 < left * right := equal ▸ Nat.mul_pos positive (Nat.two_pow_pos zeros)
  have leftPositive := Nat.pos_of_mul_pos_right nonzero
  have rightPositive := Nat.pos_of_mul_pos_left nonzero
  have atLeast : left.log2 + right.log2 ≤ product.log2 + zeros := by
    rw [← log2_mul_two_pow positive, ← equal, Nat.le_log2 nonzero.ne', Nat.pow_add]
    exact Nat.mul_le_mul (Nat.log2_self_le leftPositive.ne') (Nat.log2_self_le rightPositive.ne')
  have leftDigits := log2_le leftSmall
  have rightDigits := log2_le rightSmall
  have digits := log2_le small
  have regrouped : left * 2 ^ (52 - left.log2) * (right * 2 ^ (52 - right.log2)) =
      product * 2 ^ (52 - product.log2) * 2 ^ (52 + product.log2 + zeros - left.log2 - right.log2) := by
    rw [Nat.mul_mul_mul_comm, equal, Nat.mul_assoc product, Nat.mul_assoc product, ← Nat.pow_add, ← Nat.pow_add,
      ← Nat.pow_add]
    congr 2
    omega
  rw [whole_eq leftPositive, whole_eq rightPositive, scaled_eq positive]
  unfold UnpackedFloat.mul
  dsimp only
  rw [regrouped, roundWithAccuracy_exact (log2_digits positive small)
    (Nat.mul_pos positive (Nat.two_pow_pos _)) (by omega)]
  congr 1
  omega

/-- A whole number below 2 ^ 53 has an exact image. -/
theorem toModel_toFloat {number : Nat} (small : number < 2 ^ 53) :
    number.toFloat.toModel = Float.Model.pack (whole number) := by
  have scientific : number.toFloat.toModel =
      Float.Model.mul (Float.Model.ofUInt64 number.toUInt64) (Float.Model.ofUInt64 1) := by
    show (Float.ofScientific number false 0).toModel = _
    unfold Float.ofScientific
    rw [dif_pos (by omega)]
    rfl
  have image : number.toUInt64.toNat = number := by
    rw [Nat.toUInt64_eq, UInt64.toNat_ofNat', Nat.mod_eq_of_lt (by omega)]
  rw [scientific]
  unfold Float.Model.mul Float.Model.ofUInt64 UnpackedFloat.ofUInt64
  rw [image, ofNat_eq_whole small, show (1 : UInt64).toNat = 1 from rfl, ofNat_eq_whole (by omega),
    unpack_pack_whole small, unpack_pack_whole (by omega),
    @mul_whole number 1 number 0 (by rw [Nat.pow_zero]) small small (by omega)]
  rfl

theorem unpack_toFloat {number : Nat} (small : number < 2 ^ 53) :
    number.toFloat.toModel.unpack = whole number := by
  rw [toModel_toFloat small, unpack_pack_whole small]

theorem toModel_mul {left right product zeros : Nat} (equal : left * right = product * 2 ^ zeros)
    (small : product < 2 ^ 53) (leftSmall : left < 2 ^ 53) (rightSmall : right < 2 ^ 53) :
    (left.toFloat * right.toFloat).toModel = Float.Model.pack (scaled product zeros) := by
  show Float.Model.mul left.toFloat.toModel right.toFloat.toModel = _
  unfold Float.Model.mul
  rw [unpack_toFloat leftSmall, unpack_toFloat rightSmall, mul_whole equal small leftSmall rightSmall]

/-! ### Quotients -/

/-- The quotient of two mantissas has its digits, or one more. -/
theorem quotient_digits {left right : Nat} (leftDigits : left.log2 = 52) (rightDigits : right.log2 = 52)
    (leftPositive : 0 < left) (rightPositive : 0 < right) :
    2 ^ 52 ≤ left * 2 ^ 53 / right ∧ left * 2 ^ 53 / right < 2 ^ 54 := by
  obtain ⟨leftLeast, leftMost⟩ := (Nat.log2_eq_iff leftPositive.ne').1 leftDigits
  obtain ⟨rightLeast, rightMost⟩ := (Nat.log2_eq_iff rightPositive.ne').1 rightDigits
  constructor
  · rw [Nat.le_div_iff_mul_le rightPositive]
    omega
  · rw [Nat.div_lt_iff_lt_mul rightPositive]
    omega

/-- What rounding makes of a quotient of two mantissas: it has its digits, and so many binary places have been
given up. No even number that the quotient does not exceed is exceeded. -/
theorem roundWithAccuracy_quotient (sign : Sign) {mantissa : Nat} {exponent : Int}
    (accuracy : Accuracy) (least : 2 ^ 52 ≤ mantissa) (most : mantissa < 2 ^ 54)
    (normal : -1074 ≤ exponent) :
    ∃ (result count : Nat) (positive : 0 < result), result.log2 = 52 ∧ count ≤ 2 ∧
      roundWithAccuracy Format.binary64 sign mantissa exponent accuracy =
        .finite sign result (exponent + count) positive ∧
      ∀ bound, 2 ∣ bound → mantissa ≤ bound → (accuracy ≠ .exact → mantissa < bound) →
        result * 2 ^ count ≤ bound := by
  have nonzero : mantissa ≠ 0 := by omega
  obtain ⟨shift, digits, short⟩ : ∃ shift, mantissa.log2 = 52 + shift ∧ shift ≤ 1 := by
    have atLeast := (Nat.le_log2 nonzero).2 least
    have atMost := (Nat.log2_lt nonzero).2 most
    exact ⟨mantissa.log2 - 52, by omega, by omega⟩
  obtain ⟨shiftedLeast, shiftedMost⟩ : 2 ^ 52 ≤ mantissa / 2 ^ shift ∧ mantissa / 2 ^ shift < 2 ^ 53 := by
    obtain ⟨floor, ceiling⟩ := (Nat.log2_eq_iff nonzero).1 digits
    rw [Nat.le_div_iff_mul_le (Nat.two_pow_pos _), Nat.div_lt_iff_lt_mul (Nat.two_pow_pos _),
      ← Nat.pow_add, ← Nat.pow_add]
    exact ⟨floor, by rwa [show 53 + shift = 52 + shift + 1 by omega]⟩
  let extended := ExtendedMantissa.ofMantissaAndAccuracy mantissa accuracy >>> shift
  have mantissaShifted : extended.mantissa = mantissa / 2 ^ shift := by
    rw [mantissa_shiftRight]
    rcases accuracy with _ | _ | _ | _ <;> rfl
  have atLeast := le_roundedMantissa extended
  have atMost := roundedMantissa_le extended
  rw [mantissaShifted] at atLeast atMost
  have bounded (bound : Nat) (even : 2 ∣ bound) (atMost : mantissa ≤ bound)
      (below : accuracy ≠ .exact → mantissa < bound) : extended.roundedMantissa * 2 ^ shift ≤ bound :=
    roundedMantissa_mul_le short even atMost below
  -- rounding up may have given the digits one more, and then they are all zeros but the first
  obtain ⟨result, carry, rounds, resultDigits, resultPositive, carryShort⟩ : ∃ result carry,
      extended.roundedMantissa = result * 2 ^ carry ∧ result.log2 = 52 ∧ 0 < result ∧ carry ≤ 1 := by
    rcases Nat.lt_or_ge extended.roundedMantissa (2 ^ 53) with fits | overflows
    · refine ⟨extended.roundedMantissa, 0, by simp, ?_, by omega, by omega⟩
      exact (Nat.log2_eq_iff (by omega)).2 ⟨by omega, fits⟩
    · refine ⟨2 ^ 52, 1, by omega, ?_, by omega, by omega⟩
      exact Nat.log2_two_pow
  refine ⟨result, shift + carry, resultPositive, resultDigits, by omega, ?_, ?_⟩
  · rw [roundWithAccuracy_eq digits (by omega) rounds resultDigits resultPositive]
    congr 1
    push_cast
    ring
  · intro bound even atMost below
    have := bounded bound even atMost below
    rwa [rounds, Nat.mul_assoc, ← Nat.pow_add, Nat.add_comm carry] at this

/-- Two whole numbers are divided by dividing their mantissas, of which the one on the left is given 53 more
binary places. -/
theorem div_scaled_eq {left right : Nat} (zeros : Nat) (leftPositive : 0 < left) (rightPositive : 0 < right)
    (leftSmall : left < 2 ^ 53) (rightSmall : right < 2 ^ 53) :
    let leftMantissa := left * 2 ^ (52 - left.log2)
    let rightMantissa := right * 2 ^ (52 - right.log2)
    UnpackedFloat.div Format.binary64 (scaled left zeros) (whole right) =
      roundWithAccuracy Format.binary64 .positive (leftMantissa * 2 ^ 53 / rightMantissa)
        ((left.log2 : Int) + zeros - right.log2 - 53)
        (accuracyOfFraction (leftMantissa * 2 ^ 53 % rightMantissa) rightMantissa) := by
  intro leftMantissa rightMantissa
  have leftDigits : leftMantissa.log2 = 52 := log2_digits leftPositive leftSmall
  have rightDigits : rightMantissa.log2 = 52 := log2_digits rightPositive rightSmall
  have leftLimit := log2_le leftSmall
  have rightLimit := log2_le rightSmall
  have target : min ((left.log2 : Int) + zeros - 52 - (right.log2 - 52)) (Format.binary64.targetExponent
      (totalExponent leftMantissa (left.log2 + zeros - 52) -
        totalExponent rightMantissa (right.log2 - 52))) =
      (left.log2 : Int) + zeros - right.log2 - 53 := by
    simp only [Format.targetExponent, totalExponent, leftDigits, rightDigits, Format.mantissaBits,
      Format.minExponent]
    omega
  have amount : ((left.log2 : Int) + zeros - 52 - (right.log2 - 52) -
      (left.log2 + zeros - right.log2 - 53)).toNat = 53 := by omega
  rw [scaled_eq leftPositive, whole_eq rightPositive]
  unfold UnpackedFloat.div divCore
  dsimp only
  rw [target, amount, Nat.shiftLeft_eq]
  rfl

/-- An inequality between whole numbers, said of their mantissas. -/
theorem mantissa_le {left right bound zeros places : Nat} (leftLimit : left.log2 ≤ 52)
    (rightLimit : right.log2 ≤ 52) (placed : 53 + right.log2 = left.log2 + zeros + places) (atMost : left * 2 ^ zeros ≤ bound * right) :
    left * 2 ^ (52 - left.log2) * 2 ^ 53 ≤ bound * 2 ^ places * (right * 2 ^ (52 - right.log2)) := by
  have left_eq : left * 2 ^ (52 - left.log2) * 2 ^ 53 = left * 2 ^ zeros * 2 ^ (105 - left.log2 - zeros) := by
    rw [Nat.mul_assoc, Nat.mul_assoc, ← Nat.pow_add, ← Nat.pow_add]
    congr 2
    omega
  have right_eq : bound * 2 ^ places * (right * 2 ^ (52 - right.log2)) =
      bound * right * 2 ^ (105 - left.log2 - zeros) := by
    rw [Nat.mul_mul_mul_comm, ← Nat.pow_add]
    congr 2
    omega
  rw [left_eq, right_eq]
  exact Nat.mul_le_mul_right _ atMost

/-- The quotient of two whole numbers, and what it does not exceed. -/
theorem div_scaled {left right : Nat} (zeros : Nat) (leftPositive : 0 < left) (rightPositive : 0 < right)
    (leftSmall : left < 2 ^ 53) (rightSmall : right < 2 ^ 53) :
    ∃ (result count : Nat) (positive : 0 < result), result.log2 = 52 ∧ count ≤ 2 ∧
      UnpackedFloat.div Format.binary64 (scaled left zeros) (whole right) =
        .finite .positive result ((left.log2 : Int) + zeros - right.log2 - 53 + count) positive ∧
      ∀ bound places, 53 + right.log2 = left.log2 + zeros + places → 0 < places →
        left * 2 ^ zeros ≤ bound * right → result * 2 ^ count ≤ bound * 2 ^ places := by
  have leftLimit := log2_le leftSmall
  have rightLimit := log2_le rightSmall
  have rightMantissaPositive := Nat.mul_pos rightPositive (Nat.two_pow_pos (52 - right.log2))
  obtain ⟨least, most⟩ := quotient_digits (log2_digits leftPositive leftSmall)
    (log2_digits rightPositive rightSmall) (Nat.mul_pos leftPositive (Nat.two_pow_pos _))
    rightMantissaPositive
  obtain ⟨result, count, positive, digits, short, rounded, bounded⟩ :=
    roundWithAccuracy_quotient .positive
      (accuracyOfFraction (left * 2 ^ (52 - left.log2) * 2 ^ 53 % (right * 2 ^ (52 - right.log2)))
        (right * 2 ^ (52 - right.log2))) least most
      (show -1074 ≤ (left.log2 : Int) + zeros - right.log2 - 53 by omega)
  have divided := div_scaled_eq zeros leftPositive rightPositive leftSmall rightSmall
  refine ⟨result, count, positive, digits, short, divided.trans rounded, fun bound places placed some atMost => ?_⟩
  have mantissas := mantissa_le leftLimit rightLimit placed atMost
  apply bounded
  · exact Dvd.dvd.mul_left (dvd_pow_self 2 some.ne') _
  · exact Nat.div_le_of_le_mul (mantissas.trans_eq (Nat.mul_comm _ _))
  · intro inexact
    refine (Nat.div_lt_iff_lt_mul rightMantissaPositive).2 (lt_of_le_of_ne mantissas fun equal => ?_)
    apply inexact
    rw [equal, Nat.mul_mod_left]
    rfl

/-- When a number with all its digits is at most a whole number. -/
theorem finite_le_whole {result count places bound : Nat} {exponent : Int} (positive : 0 < result)
    (digits : result.log2 = 52) (small : bound < 2 ^ 53) (exponent_eq : exponent = count - places)
    (atMost : result * 2 ^ count ≤ bound * 2 ^ places) :
    (UnpackedFloat.finite .positive result exponent positive).le (whole bound) = true := by
  have boundPositive : 0 < bound := by
    rcases Nat.eq_zero_or_pos bound with rfl | found
    · have := Nat.mul_pos positive (Nat.two_pow_pos count)
      omega
    · exact found
  have boundLimit := log2_le small
  have nonzero := (Nat.mul_pos boundPositive (Nat.two_pow_pos places)).ne'
  have logarithms : (result * 2 ^ count).log2 ≤ (bound * 2 ^ places).log2 := by
    rw [Nat.le_log2 nonzero]
    exact (Nat.log2_self_le (Nat.mul_pos positive (Nat.two_pow_pos count)).ne').trans atMost
  rw [log2_mul_two_pow positive, log2_mul_two_pow boundPositive, digits] at logarithms
  rw [whole_eq boundPositive]
  simp only [UnpackedFloat.le, UnpackedFloat.compare, Option.any_some]
  rcases Int.lt_or_eq_of_le (show exponent ≤ bound.log2 - 52 by omega) with less | equal
  · rw [Int.compare_eq_lt.2 less]
    rfl
  · have places_eq : places = 52 - bound.log2 + count := by omega
    rw [places_eq, Nat.pow_add, ← Nat.mul_assoc] at atMost
    have mantissas := Nat.le_of_mul_le_mul_right atMost (Nat.two_pow_pos count)
    rw [Int.compare_eq_eq.2 equal, Ordering.eq_then, Nat.isLE_compare]
    exact mantissas

theorem le_iff {left right : Float} :
    left ≤ right ↔ left.toModel.unpack.le right.toModel.unpack = true :=
  decide_eq_true_iff

/-- No quotient is rounded past a whole number. -/
theorem div_le {dividend : Float} {left zeros right bound : Nat}
    (image : dividend.toModel = Float.Model.pack (scaled left zeros)) (few : zeros ≤ 900) (positive : 0 < right)
    (leftSmall : left < 2 ^ 53) (rightSmall : right < 2 ^ 53) (boundSmall : bound < 2 ^ 52)
    (atMost : left * 2 ^ zeros ≤ bound * right) :
    0 ≤ dividend / right.toFloat ∧ dividend / right.toFloat ≤ bound.toFloat := by
  have model : (dividend / right.toFloat).toModel =
      Float.Model.pack (UnpackedFloat.div Format.binary64 (scaled left zeros) (whole right)) := by
    show Float.Model.div dividend.toModel right.toFloat.toModel = _
    unfold Float.Model.div
    rw [image, unpack_pack_scaled leftSmall few, unpack_toFloat rightSmall]
  have nought : (0 : Float).toModel.unpack = .zero .positive := unpack_toFloat (by decide)
  rw [le_iff, le_iff, model, nought, unpack_toFloat (by omega)]
  rcases Nat.eq_zero_or_pos left with rfl | leftPositive
  · have vanishes : UnpackedFloat.div Format.binary64 (scaled 0 zeros) (whole right) = whole 0 := by
      rw [whole_eq positive]
      rfl
    rw [vanishes, unpack_pack_whole (by omega)]
    refine ⟨rfl, ?_⟩
    rcases Nat.eq_zero_or_pos bound with rfl | boundPositive
    · rfl
    · rw [whole_eq boundPositive]
      rfl
  · obtain ⟨result, count, resultPositive, digits, short, divided, bounded⟩ :=
      div_scaled zeros leftPositive positive leftSmall rightSmall
    have leftLimit := log2_le leftSmall
    have rightLimit := log2_le rightSmall
    -- the quotient is below 2 ^ 52, so its last places are behind the point
    have below : left.log2 + zeros < 53 + right.log2 := by
      have magnitude : left * 2 ^ zeros < 2 ^ 52 * 2 ^ (right.log2 + 1) :=
        Nat.lt_of_le_of_lt atMost (Nat.mul_lt_mul'' boundSmall Nat.lt_log2_self)
      rw [← log2_mul_two_pow leftPositive, Nat.log2_lt (Nat.mul_pos leftPositive (Nat.two_pow_pos _)).ne']
      refine magnitude.trans_eq ?_
      rw [← Nat.pow_add]
      congr 1
      omega
    obtain ⟨places, placed⟩ := Nat.exists_eq_add_of_lt below
    have quotient := bounded bound (places + 1) (by omega) (Nat.zero_lt_succ _) atMost
    rw [divided, unpack_pack resultPositive digits (by omega) (by omega)]
    exact ⟨rfl, finite_le_whole resultPositive digits (by omega) (by omega) quotient⟩

/-- A part is a share of the whole in percent. A hundred times a number is four times another one, so two zeros end
it that need no place. -/
theorem percent_mem {part total : Nat} (positive : 0 < total) (partLe : part ≤ total)
    (small : 100 * total ≤ 2 ^ 55) :
    0 ≤ part.toFloat * 100.0 / total.toFloat ∧ part.toFloat * 100.0 / total.toFloat ≤ 100 := by
  have hundred : (100.0 : Float) = (100 : Nat).toFloat := by decide +kernel
  have fourfold : part * 100 = part * 25 * 2 ^ 2 := by omega
  have image : (part.toFloat * 100.0).toModel = Float.Model.pack (scaled (part * 25) 2) := by
    rw [hundred]
    exact toModel_mul fourfold (by omega) (by omega) (by decide)
  have share : part * 25 * 2 ^ 2 ≤ 100 * total := by omega
  exact div_le image (by decide) positive (by omega) (by omega) (by decide) share

end Community.Binary64
