import Mathlib.Algebra.Ring.Nat
import Mathlib.Order.MinMax
import Mathlib.Tactic.SplitIfs
import RequestDispatch.Number.Binary

/-!
Rounding keeps the order of integers (`intRank_le`), though it does not keep different ones apart.
Integers with the same exponent are rounded to a multiple of the same power of two; where the
exponents differ, the rank at which the greater exponent begins lies between them.
-/

namespace RequestDispatch
namespace Layout

theorem div_le_roundQuotient (numerator denominator : Nat) :
    numerator / denominator ≤ roundQuotient numerator denominator := by
  simp only [roundQuotient]
  split_ifs <;> omega

theorem roundQuotient_le_succ (numerator denominator : Nat) :
    roundQuotient numerator denominator ≤ numerator / denominator + 1 := by
  simp only [roundQuotient]
  split_ifs <;> omega

theorem roundQuotient_mono {smaller greater : Nat} (denominator : Nat)
    (atMost : smaller ≤ greater) :
    roundQuotient smaller denominator ≤ roundQuotient greater denominator := by
  rcases Nat.lt_or_eq_of_le (Nat.div_le_div_right atMost : smaller / denominator ≤ _) with
    less | same
  · have next : smaller / denominator + 1 ≤ greater / denominator := less
    exact (roundQuotient_le_succ _ _).trans (next.trans (div_le_roundQuotient _ _))
  · -- With one quotient it is the remainder that decides.
    have remainders : smaller % denominator ≤ greater % denominator := by
      have first := Nat.div_add_mod smaller denominator
      have second := Nat.div_add_mod greater denominator
      rw [same] at first
      omega
    simp only [roundQuotient, same]
    split_ifs <;> omega

theorem roundQuotient_mul (value : Nat) {denominator : Nat} (positive : 0 < denominator) :
    roundQuotient (value * denominator) denominator = value := by
  simp [roundQuotient, positive]

theorem roundQuotient_le {numerator denominator bound : Nat} (positive : 0 < denominator)
    (atMost : numerator ≤ bound * denominator) : roundQuotient numerator denominator ≤ bound := by
  have rounded := roundQuotient_mono denominator atMost
  rwa [roundQuotient_mul bound positive] at rounded

theorem le_roundQuotient {numerator denominator bound : Nat} (positive : 0 < denominator)
    (atLeast : bound * denominator ≤ numerator) : bound ≤ roundQuotient numerator denominator := by
  have rounded := roundQuotient_mono denominator atLeast
  rwa [roundQuotient_mul bound positive] at rounded

def unitExponent (layout : Layout) (value : Nat) : Int :=
  max ((value.log2 : Int) - layout.fractionBits) layout.leastExponent

/-- How many times the power of two goes into an integer, rounded. -/
def mantissaAt (exponent : Int) (value : Nat) : Nat :=
  if 0 ≤ exponent then roundQuotient value (2 ^ exponent.toNat)
  else value * 2 ^ (-exponent).toNat

theorem nearestRank_eq (layout : Layout) {value : Nat} (positive : value ≠ 0) :
    layout.nearestRank value 1 =
      min layout.topRank ((layout.unitExponent value - layout.leastExponent).toNat *
        2 ^ layout.fractionBits + mantissaAt (layout.unitExponent value) value) := by
  have log : quotientLog value 1 = value.log2 := by
    have zero : Nat.log2 1 = 0 := by decide
    simp [quotientLog, zero, Nat.log2_self_le positive]
  have whole (numerator : Nat) : roundQuotient numerator 1 = numerator := by
    simpa using roundQuotient_mul numerator Nat.one_pos
  simp only [nearestRank, if_neg positive, log, whole, Nat.one_mul, Nat.pow_eq, mantissaAt,
    unitExponent]
  rfl

theorem mantissa_mono (exponent : Int) {smaller greater : Nat} (atMost : smaller ≤ greater) :
    mantissaAt exponent smaller ≤ mantissaAt exponent greater := by
  simp only [mantissaAt]
  split
  · exact roundQuotient_mono _ atMost
  · exact Nat.mul_le_mul_right _ atMost

variable {layout : Layout} {smaller greater value : Nat}

theorem mantissa_le (layout : Layout) (value : Nat) :
    mantissaAt (layout.unitExponent value) value ≤ 2 * 2 ^ layout.fractionBits := by
  have bound : value < 2 ^ (value.log2 + 1) := Nat.lt_log2_self
  have enough : (value.log2 : Int) - layout.fractionBits ≤ layout.unitExponent value :=
    le_max_left _ _
  generalize layout.unitExponent value = exponent at enough
  rw [← Nat.pow_succ', mantissaAt]
  split
  · apply roundQuotient_le (Nat.two_pow_pos _)
    rw [← Nat.pow_add]
    exact bound.le.trans (Nat.pow_le_pow_right Nat.two_pos (by omega))
  · calc value * 2 ^ (-exponent).toNat
        ≤ 2 ^ (value.log2 + 1) * 2 ^ (-exponent).toNat := Nat.mul_le_mul_right _ bound.le
      _ = 2 ^ (value.log2 + 1 + (-exponent).toNat) := (Nat.pow_add _ _ _).symm
      _ ≤ 2 ^ (layout.fractionBits + 1) := Nat.pow_le_pow_right Nat.two_pos (by omega)

/-- Above the least exponent the mantissa fills the fraction and one bit more. -/
theorem le_mantissa (positive : value ≠ 0)
    (above : layout.leastExponent < layout.unitExponent value) :
    2 ^ layout.fractionBits ≤ mantissaAt (layout.unitExponent value) value := by
  have bound : 2 ^ value.log2 ≤ value := Nat.log2_self_le positive
  have exponent : layout.unitExponent value = value.log2 - layout.fractionBits := by
    rw [unitExponent] at above ⊢
    omega
  rw [exponent, mantissaAt]
  split
  · apply le_roundQuotient (Nat.two_pow_pos _)
    rw [← Nat.pow_add]
    exact (Nat.pow_le_pow_right Nat.two_pos (by omega)).trans bound
  · calc 2 ^ layout.fractionBits
        ≤ 2 ^ (value.log2 + (-((value.log2 : Int) - layout.fractionBits)).toNat) :=
          Nat.pow_le_pow_right Nat.two_pos (by omega)
      _ = 2 ^ value.log2 * 2 ^ (-((value.log2 : Int) - layout.fractionBits)).toNat :=
          Nat.pow_add _ _ _
      _ ≤ value * 2 ^ (-((value.log2 : Int) - layout.fractionBits)).toNat :=
          Nat.mul_le_mul_right _ bound

theorem unitExponent_mono (positive : smaller ≠ 0) (atMost : smaller ≤ greater) :
    layout.unitExponent smaller ≤ layout.unitExponent greater := by
  have logs : smaller.log2 ≤ greater.log2 := by
    rw [Nat.le_log2 (by omega)]
    exact (Nat.log2_self_le positive).trans atMost
  simp only [unitExponent]
  omega

theorem nearestRank_mono (atMost : smaller ≤ greater) :
    layout.nearestRank smaller 1 ≤ layout.nearestRank greater 1 := by
  by_cases positive : smaller = 0
  · rw [positive]
    exact Nat.zero_le _
  have alsoPositive : greater ≠ 0 := by omega
  rw [nearestRank_eq layout positive, nearestRank_eq layout alsoPositive]
  apply min_le_min_left
  have exponents : layout.unitExponent smaller ≤ layout.unitExponent greater :=
    unitExponent_mono positive atMost
  rcases exponents.lt_or_eq with less | same
  · have least : layout.leastExponent ≤ layout.unitExponent smaller := le_max_right _ _
    have upper := mantissa_le layout smaller
    have lower := le_mantissa alsoPositive (least.trans_lt less)
    have steps : (layout.unitExponent smaller - layout.leastExponent).toNat + 1 ≤
        (layout.unitExponent greater - layout.leastExponent).toNat := by omega
    have scaled := Nat.mul_le_mul_right (2 ^ layout.fractionBits) steps
    rw [Nat.add_mul, Nat.one_mul] at scaled
    omega
  · rw [same]
    exact Nat.add_le_add_left (mantissa_mono _ atMost) _

/-- The place of an integer in the order of the layout. -/
def intRank (layout : Layout) (value : Int) : Int :=
  if value < 0 then -(layout.nearestRank value.natAbs 1 : Int)
  else layout.nearestRank value.natAbs 1

theorem intRank_le {smaller greater : Int} (atMost : smaller ≤ greater) :
    layout.intRank smaller ≤ layout.intRank greater := by
  simp only [intRank]
  split_ifs with below alsoBelow alsoBelow
  · have larger : greater.natAbs ≤ smaller.natAbs := by omega
    exact Int.neg_le_neg (Int.ofNat_le.2 (nearestRank_mono larger))
  · omega
  · omega
  · have larger : smaller.natAbs ≤ greater.natAbs := by omega
    exact Int.ofNat_le.2 (nearestRank_mono larger)

end Layout

theorem Binary.signedRank_ofInt (layout : Layout) (value : Int) :
    (ofInt value : Binary layout).signedRank? = some (layout.intRank value) := by
  simp [ofInt, ofQuotient, signedRank?, Layout.intRank]

end RequestDispatch
