/-
This file shows which exact quantities numbers stand for, and that equality compares these.
-/

import Mathlib.Algebra.Order.Field.Power
import Mathlib.Algebra.Order.Ring.Rat
import Mathlib.Order.WithBot
import Mathlib.Tactic.Linarith
import Mathlib.Tactic.NormNum
import Mathlib.Tactic.Positivity
import EmacsSession.Value.Equality

namespace EmacsSession

namespace Double

variable {left right : Double}

/-- The quotient that a finite number stands for. -/
def quotient (number : Double) : ℚ :=
  (if number.isNegative then -1 else 1) * (number.significand * 2 ^ number.exponent)

theorem toRat_toDyadic (number : Double) : number.toDyadic.toRat = number.quotient := by
  rw [toDyadic, Dyadic.toRat_ofIntWithPrec_eq_mul_two_pow, neg_neg, quotient]
  split <;> simp

/-- The sign, the exponent and the fraction are all there is to a number. -/
theorem eq_of_fields (sign : left.isNegative = right.isNegative)
    (exponent : left.exponentBits = right.exponentBits)
    (fraction : left.fractionBits = right.fractionBits) : left = right := by
  obtain ⟨leftBits⟩ := left
  obtain ⟨rightBits⟩ := right
  have leftBound := leftBits.toNat_lt
  have rightBound := rightBits.toNat_lt
  simp only [isNegative, exponentBits, fractionBits] at sign exponent fraction
  rw [Bool.eq_iff_iff, beq_iff_eq, beq_iff_eq] at sign
  congr 1
  apply UInt64.toNat_inj.mp
  omega

theorem fractionBits_lt (number : Double) : number.fractionBits < 2 ^ 52 :=
  Nat.mod_lt _ (by decide)

/-- A magnitude on the grid of its bits is told by them: of two equal ones neither has the greater
exponent, for then the other significand would have more than fifty-three bits. -/
theorem exponent_le_of_magnitude_eq
    (same : (left.significand : ℚ) * 2 ^ left.exponent = right.significand * 2 ^ right.exponent) :
    max right.exponentBits 1 ≤ max left.exponentBits 1 := by
  by_contra greater
  obtain ⟨distance, apart⟩ := Nat.exists_eq_add_of_lt (Nat.lt_of_not_le greater)
  have shifted : (left.significand : ℚ) = (right.significand * 2 ^ (distance + 1) : ℕ) := by
    have exponents : right.exponent = left.exponent + (distance + 1 : ℕ) := by
      simp only [exponent, apart]
      omega
    rw [exponents, zpow_add₀ (by norm_num), zpow_natCast, mul_comm (2 ^ left.exponent : ℚ),
      ← mul_assoc] at same
    have cancelled := mul_right_cancel₀ (zpow_ne_zero _ (by norm_num)) same
    rw [cancelled]
    push_cast
    rfl
  have whole : left.significand = right.significand * 2 ^ (distance + 1) := by
    exact_mod_cast shifted
  have normal : right.significand = right.fractionBits + 0x10000000000000 := by
    rw [significand, if_neg]
    simp only [beq_iff_eq]
    omega
  have bounded : left.significand < 2 ^ 53 := by
    have fraction := fractionBits_lt left
    unfold significand
    split <;> omega
  have doubled : 2 ≤ 2 ^ (distance + 1) := Nat.le_self_pow (by omega) 2
  have large : 2 ^ 52 * 2 ≤ right.significand * 2 ^ (distance + 1) :=
    Nat.mul_le_mul (by omega) doubled
  omega

/-- Numbers of one magnitude differ in their signs only. -/
theorem fields_of_magnitude_eq
    (same : (left.significand : ℚ) * 2 ^ left.exponent = right.significand * 2 ^ right.exponent) :
    left.exponentBits = right.exponentBits ∧ left.fractionBits = right.fractionBits := by
  have exponents : max left.exponentBits 1 = max right.exponentBits 1 :=
    Nat.le_antisymm (exponent_le_of_magnitude_eq same.symm) (exponent_le_of_magnitude_eq same)
  have significands : left.significand = right.significand := by
    have sameExponent : left.exponent = right.exponent := by
      rw [exponent, exponent, exponents]
    rw [sameExponent] at same
    exact_mod_cast mul_right_cancel₀ (zpow_ne_zero _ (by norm_num)) same
  have leftFraction := fractionBits_lt left
  have rightFraction := fractionBits_lt right
  simp only [significand, beq_iff_eq] at significands
  split_ifs at significands <;> omega

/-- Only the zeros are two numbers of one quotient. -/
theorem eq_of_quotient_eq (sign : left.isNegative = right.isNegative)
    (same : left.quotient = right.quotient) : left = right := by
  have magnitude :
      (left.significand : ℚ) * 2 ^ left.exponent = right.significand * 2 ^ right.exponent := by
    rw [quotient, quotient, sign] at same
    exact mul_left_cancel₀ (by split <;> norm_num) same
  obtain ⟨exponent, fraction⟩ := fields_of_magnitude_eq magnitude
  exact eq_of_fields sign exponent fraction

/-- Numbers of one quotient whose signs differ are the two zeros. -/
theorem isZero_of_quotient_eq (negative : left.isNegative = true)
    (positive : right.isNegative = false) (same : left.quotient = right.quotient) :
    left.isZero = true ∧ right.isZero = true := by
  have leftMagnitude : (0 : ℚ) ≤ left.significand * 2 ^ left.exponent := by positivity
  have rightMagnitude : (0 : ℚ) ≤ right.significand * 2 ^ right.exponent := by positivity
  simp only [quotient, negative, positive, if_true, Bool.false_eq_true, if_false] at same
  have zero {number : Double} (isZero : (number.significand : ℚ) * 2 ^ number.exponent = 0) :
      number.isZero = true := by
    have significand : number.significand = 0 := by
      simpa [zpow_ne_zero] using isZero
    unfold Double.significand at significand
    split at significand <;> simp_all [Double.isZero]
  exact ⟨zero (by linarith), zero (by linarith)⟩

end Double

/-- Quotients, an infinity below all of them and one above. -/
abbrev Quantity := WithBot (WithTop ℚ)

/-- The quantity of a double. -/
def Double.quantity? (number : Double) : Option Quantity :=
  if number.isNaN then none
  else if number.isInfinite then some (if number.isNegative then ⊥ else ⊤)
  else some ((number.quotient : WithTop ℚ) : Quantity)

/-- The quantity of what a value is compared by. -/
def Number.quantity? : Number → Option Quantity
  | .finite value => some ((value.toRat : WithTop ℚ) : Quantity)
  | .infinity negative => some (if negative then ⊥ else ⊤)
  | .undefined => none

/-- The quantity that a value counts as, if it is a truth value, an integer or a float other than
the one that is no number. -/
def Value.quantity? : Value → Option Quantity
  | .truth value => some (((if value then 1 else 0 : ℚ) : WithTop ℚ) : Quantity)
  | .int value => some (((value : ℚ) : WithTop ℚ) : Quantity)
  | .float value => value.quantity?
  | _ => none

theorem Number.quantity?_inj {left right : Number} :
    left.quantity? = right.quantity? ↔ left = right := by
  refine ⟨fun same => ?_, fun same => same ▸ rfl⟩
  cases left with
  | undefined => cases right <;> simp_all [quantity?]
  | finite value =>
      cases right with
      | finite other => simpa [quantity?, Dyadic.toRat_inj] using same
      | infinity negative => cases negative <;> simp [quantity?] at same
      | undefined => simp [quantity?] at same
  | infinity negative =>
      cases right with
      | finite other => cases negative <;> simp [quantity?] at same
      | infinity other => cases negative <;> cases other <;> simp_all [quantity?]
      | undefined => simp [quantity?] at same

theorem Double.quantity?_toNumber (number : Double) :
    number.toNumber.quantity? = number.quantity? := by
  unfold Double.toNumber Double.quantity?
  split_ifs <;> simp_all [Number.quantity?, toRat_toDyadic]

/-- A double of a quantity is an infinity or has its quotient. -/
theorem Double.quantity?_cases {number : Double} {quantity : Quantity}
    (counts : number.quantity? = some quantity) :
    (number.isInfinite = true ∧ (if number.isNegative then ⊥ else ⊤) = quantity) ∨
      ((number.quotient : WithTop ℚ) : Quantity) = quantity := by
  unfold Double.quantity? at counts
  split_ifs at counts <;> simp_all

theorem Double.infinity_ne_quotient (negative : Bool) (quotient : ℚ) :
    (if negative then ⊥ else ⊤ : Quantity) ≠ ((quotient : WithTop ℚ) : Quantity) := by
  cases negative <;> simp [← WithBot.coe_top]

/-- Doubles of one quantity are the same, unless they are the two zeros. -/
theorem Double.eq_of_quantity?_eq {left right : Double} {quantity : Quantity}
    (sign : left.isNegative = right.isNegative) (leftCounts : left.quantity? = some quantity)
    (rightCounts : right.quantity? = some quantity) : left = right := by
  rcases quantity?_cases leftCounts with ⟨leftInfinite, rfl⟩ | rfl
  · rcases quantity?_cases rightCounts with ⟨rightInfinite, -⟩ | finite
    · simp only [isInfinite, Bool.and_eq_true, beq_iff_eq] at leftInfinite rightInfinite
      exact eq_of_fields sign (leftInfinite.1.trans rightInfinite.1.symm)
        (leftInfinite.2.trans rightInfinite.2.symm)
    · exact absurd finite.symm (infinity_ne_quotient _ _)
  · rcases quantity?_cases rightCounts with ⟨-, infinite⟩ | finite
    · exact absurd infinite (infinity_ne_quotient _ _)
    · exact eq_of_quotient_eq sign (by simpa using finite.symm)

/-- Equal doubles whose signs differ are the two zeros. -/
theorem Double.isZero_of_quantity?_eq {left right : Double} {quantity : Quantity}
    (negative : left.isNegative = true) (positive : right.isNegative = false)
    (leftCounts : left.quantity? = some quantity) (rightCounts : right.quantity? = some quantity) :
    left.isZero = true ∧ right.isZero = true := by
  rcases quantity?_cases leftCounts with ⟨-, rfl⟩ | rfl
  · rcases quantity?_cases rightCounts with ⟨-, infinite⟩ | finite
    · simp [negative, positive] at infinite
    · exact absurd finite.symm (infinity_ne_quotient _ _)
  · rcases quantity?_cases rightCounts with ⟨-, infinite⟩ | finite
    · exact absurd infinite (infinity_ne_quotient _ _)
    · exact isZero_of_quotient_eq negative positive (by simpa using finite.symm)

/-- The kinds of values that stand for numbers. -/
def Kind.numbers : List Kind :=
  [.truth, .int, .float]

namespace Value

variable {value left right : Value} {quantity other : Quantity}

theorem kind_mem_numbers (counts : value.quantity? = some quantity) :
    value.kind ∈ Kind.numbers := by
  cases value <;> simp_all [quantity?, Kind.numbers, kind]

theorem number_cases (isNumber : value.kind ∈ Kind.numbers) :
    (∃ flag, value = .truth flag) ∨ (∃ number, value = .int number) ∨
      ∃ number, value = .float number := by
  cases value <;> simp_all [kind, Kind.numbers]

/-- A number is compared by one real part, and this has its quantity. -/
theorem exists_number? (isNumber : value.kind ∈ Kind.numbers) :
    ∃ number : Number, value.number? = some (number, .finite .zero) ∧
      number.quantity? = value.quantity? := by
  have whole (number : Int) : (Dyadic.ofInt number).toRat = number := by
    simp [Dyadic.ofInt, Dyadic.toRat_ofIntWithPrec_eq_mul_two_pow]
  rcases number_cases isNumber with ⟨flag, rfl⟩ | ⟨number, rfl⟩ | ⟨number, rfl⟩
  · refine ⟨_, rfl, ?_⟩
    cases flag <;> simp [Number.quantity?, quantity?, whole]
  · exact ⟨_, rfl, by simp [Number.quantity?, quantity?, whole]⟩
  · exact ⟨_, rfl, Double.quantity?_toNumber number⟩

/-- Numbers are equal just where they have one exact quantity, whatever their kinds. -/
theorem same_iff_quantity? (isNumber : left.kind ∈ Kind.numbers)
    (otherIsNumber : right.kind ∈ Kind.numbers) :
    left.same right = true ↔
      ∃ quantity, left.quantity? = some quantity ∧ right.quantity? = some quantity := by
  have byNumber : left.same right = left.sameNumber right := by
    rcases number_cases isNumber with ⟨_, rfl⟩ | ⟨_, rfl⟩ | ⟨_, rfl⟩ <;>
      rcases number_cases otherIsNumber with ⟨_, rfl⟩ | ⟨_, rfl⟩ | ⟨_, rfl⟩ <;> simp only [same]
  obtain ⟨leftNumber, leftRead, leftQuantity⟩ := exists_number? isNumber
  obtain ⟨rightNumber, rightRead, rightQuantity⟩ := exists_number? otherIsNumber
  have zero : (Number.finite .zero).same (.finite .zero) = true := rfl
  calc left.same right = true
      ↔ leftNumber.same rightNumber = true := by
        simp only [byNumber, sameNumber, leftRead, rightRead, zero, Bool.and_true]
    _ ↔ leftNumber = rightNumber ∧ leftNumber ≠ .undefined := by simp [Number.same]
    _ ↔ ∃ quantity, leftNumber.quantity? = some quantity ∧
          rightNumber.quantity? = some quantity := by
        rw [← Number.quantity?_inj]
        cases leftNumber <;> simp [Number.quantity?, eq_comm]
    _ ↔ _ := by rw [leftQuantity, rightQuantity]

theorem same_iff_of_quantity? (leftCounts : left.quantity? = some quantity)
    (rightCounts : right.quantity? = some other) :
    left.same right = true ↔ quantity = other := by
  rw [same_iff_quantity? (kind_mem_numbers leftCounts) (kind_mem_numbers rightCounts), leftCounts,
    rightCounts]
  simp [eq_comm]

end Value

end EmacsSession
