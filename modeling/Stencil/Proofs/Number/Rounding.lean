import Mathlib.Data.Nat.Log
import Mathlib.Tactic.Positivity
import Stencil.Number.Binary64

/-!
# Rounding keeps the order

A ratio is rounded in two steps, to a binade and to a multiple of its unit.
Within a binade, rounding to the nearest multiple is monotone; a smaller ratio
of a lower binade is rounded up to the next power of two at most, and no ratio
of a higher one is rounded below it.  The nearest double therefore never goes
down when an integer goes up, although different integers may share it.
-/

namespace Stencil.Binary64

/-! ## Nearest quotients -/

theorem le_nearest_div (numerator denominator : Nat) :
    numerator / denominator ≤ nearest numerator denominator := by
  grind [nearest]

theorem nearest_le_div_succ (numerator denominator : Nat) :
    nearest numerator denominator ≤ numerator / denominator + 1 := by
  grind [nearest]

theorem le_nearest
    {least numerator denominator : Nat}
    (positive : 0 < denominator)
    (enough : least * denominator ≤ numerator) :
    least ≤ nearest numerator denominator :=
  ((Nat.le_div_iff_mul_le positive).mpr enough).trans
    (le_nearest_div numerator denominator)

theorem nearest_le
    {greatest numerator denominator : Nat}
    (positive : 0 < denominator)
    (below : numerator < greatest * denominator) :
    nearest numerator denominator ≤ greatest :=
  (nearest_le_div_succ numerator denominator).trans
    ((Nat.div_lt_iff_lt_mul positive).mpr below)

theorem nearest_mono
    {numerator other : Nat} (denominator : Nat)
    (ascends : numerator ≤ other) :
    nearest numerator denominator ≤ nearest other denominator := by
  have quotients := Nat.div_le_div_right (c := denominator) ascends
  rcases quotients.lt_or_eq with differ | agree
  · calc
      nearest numerator denominator ≤ numerator / denominator + 1 :=
        nearest_le_div_succ numerator denominator
      _ ≤ other / denominator := differ
      _ ≤ nearest other denominator := le_nearest_div other denominator
  · have remainders : numerator % denominator ≤ other % denominator := by
      have first := Nat.div_add_mod numerator denominator
      have second := Nat.div_add_mod other denominator
      rw [agree] at first
      omega
    grind [nearest]

/-! ## Binades -/

/-- The power of two by which a ratio is cut to a significand. -/
def unitShift (numerator denominator : Nat) : Nat :=
  Nat.log2 (numerator / denominator) - 52

variable {numerator other denominator : Nat}

theorem unitShift_mono (denominator : Nat) (ascends : numerator ≤ other) :
    unitShift numerator denominator ≤ unitShift other denominator := by
  have quotients := Nat.div_le_div_right (c := denominator) ascends
  rw [unitShift, unitShift, Nat.log2_eq_log_two, Nat.log2_eq_log_two]
  exact Nat.sub_le_sub_right (Nat.log_mono_right quotients) 52

theorem lt_mul_unitShift (positive : 0 < denominator) :
    numerator < 2 ^ 53 * (denominator * 2 ^ unitShift numerator denominator) := by
  have quotient : numerator / denominator < 2 ^ (53 + unitShift numerator denominator) := by
    refine Nat.lt_log2_self.trans_le (Nat.pow_le_pow_right Nat.two_pos ?_)
    unfold unitShift
    omega
  have numerators := (Nat.div_lt_iff_lt_mul positive).mp quotient
  rwa [pow_add, mul_assoc, mul_comm _ denominator] at numerators

theorem mul_unitShift_le
    (positive : 0 < denominator)
    (shifted : 0 < unitShift numerator denominator) :
    2 ^ 52 * (denominator * 2 ^ unitShift numerator denominator) ≤ numerator := by
  have exponent :
      52 + unitShift numerator denominator = Nat.log2 (numerator / denominator) := by
    unfold unitShift at shifted ⊢
    omega
  have quotient : 2 ^ (52 + unitShift numerator denominator) ≤ numerator / denominator := by
    rw [exponent]
    refine Nat.log2_self_le fun vanishes => ?_
    simp [unitShift, vanishes] at shifted
  have numerators := (Nat.le_div_iff_mul_le positive).mp quotient
  rwa [pow_add, mul_assoc, mul_comm _ denominator] at numerators

/-- A magnitude counts the units of its binade behind those of the binades below. -/
def spread (numerator denominator : Nat) : Nat :=
  unitShift numerator denominator * 2 ^ 52 +
    nearest numerator (denominator * 2 ^ unitShift numerator denominator)

theorem roundedMagnitude_eq_spread (positive : 0 < denominator) :
    roundedMagnitude numerator denominator =
      spread (numerator * Nat.pow 2 1074) denominator := by
  have counted {shift significand : Nat} (unshifted : significand < 2 ^ 52 → shift = 0) :
      (if significand < 2 ^ 52 then significand
        else (shift + 1) * 2 ^ 52 + (significand - 2 ^ 52)) =
        shift * 2 ^ 52 + significand := by
    split <;> omega
  unfold roundedMagnitude
  generalize numerator * Nat.pow 2 1074 = units
  refine counted fun small => ?_
  by_contra shifted
  have enough := mul_unitShift_le positive (Nat.pos_of_ne_zero shifted)
  exact absurd (le_nearest (by positivity) enough) (Nat.not_le_of_lt small)

theorem spread_mono (positive : 0 < denominator) (ascends : numerator ≤ other) :
    spread numerator denominator ≤ spread other denominator := by
  rcases (unitShift_mono denominator ascends).lt_or_eq with differ | agree
  · have unit (shift : Nat) : 0 < denominator * 2 ^ shift := by positivity
    have upper : nearest numerator (denominator * 2 ^ unitShift numerator denominator) ≤ 2 ^ 53 :=
      nearest_le (unit _) (lt_mul_unitShift positive)
    have lower : 2 ^ 52 ≤ nearest other (denominator * 2 ^ unitShift other denominator) :=
      le_nearest (unit _) (mul_unitShift_le positive (Nat.zero_lt_of_lt differ))
    unfold spread
    omega
  · unfold spread
    rw [agree]
    exact Nat.add_le_add_left (nearest_mono _ ascends) _

/-- Rounding never takes a greater ratio to a smaller magnitude. -/
theorem roundedMagnitude_mono (positive : 0 < denominator) (ascends : numerator ≤ other) :
    roundedMagnitude numerator denominator ≤ roundedMagnitude other denominator := by
  rw [roundedMagnitude_eq_spread positive, roundedMagnitude_eq_spread positive]
  exact spread_mono positive (Nat.mul_le_mul_right _ ascends)

/-! ## Integers as doubles -/

theorem eq_of_negative_eq_of_magnitude_eq
    {left right : Binary64}
    (signs : left.negative = right.negative) (magnitudes : left.magnitude = right.magnitude) :
    left = right := by
  cases left
  cases right
  cases signs
  cases magnitudes
  rfl

theorem negative_ofInt (value : Int) : (ofInt value).negative = decide (value < 0) := by
  simp only [ofInt, ofRatio?]
  split <;> rfl

theorem magnitude_ofInt (value : Int) :
    (ofInt value).magnitude =
      min (roundedMagnitude value.natAbs 1) (infiniteMagnitude - 1) := by
  simp only [ofInt, ofRatio?]
  split
  case isTrue finite =>
    exact (min_eq_left (Nat.le_sub_one_of_lt finite)).symm
  case isFalse infinite =>
    exact (min_eq_right (Nat.sub_le_of_le_add (Nat.le_succ_of_le (not_lt.mp infinite)))).symm

theorem magnitude_ofInt_mono {value next : Int} (ascends : value.natAbs ≤ next.natAbs) :
    (ofInt value).magnitude ≤ (ofInt next).magnitude := by
  rw [magnitude_ofInt, magnitude_ofInt]
  exact min_le_min_right _ (roundedMagnitude_mono Nat.one_pos ascends)

theorem rank_ofInt (value : Int) :
    (ofInt value).rank =
      if value < 0 then -((ofInt value).magnitude : Int) else (ofInt value).magnitude := by
  simp only [rank, negative_ofInt, decide_eq_true_eq]

/-- The double nearest to an integer never goes down when the integer goes up. -/
theorem rank_ofInt_mono {value next : Int} (ascends : value ≤ next) :
    (ofInt value).rank ≤ (ofInt next).rank := by
  rw [rank_ofInt, rank_ofInt]
  rcases lt_or_ge next 0 with nextBelow | nextAbove
  · have magnitudes : (ofInt next).magnitude ≤ (ofInt value).magnitude :=
      magnitude_ofInt_mono (by omega)
    rw [if_pos nextBelow, if_pos (ascends.trans_lt nextBelow)]
    omega
  · rw [if_neg nextAbove.not_gt]
    split
    case isTrue below => omega
    case isFalse above =>
      exact_mod_cast magnitude_ofInt_mono (by omega)

/-- The doubles of natural numbers ascend with them, unless they are the same. -/
theorem rank_ofInt_lt_iff {value next : Nat} :
    (ofInt value).rank < (ofInt next).rank ↔ value < next ∧ ofInt value ≠ ofInt next := by
  constructor
  · intro ascends
    constructor
    · by_contra behind
      have descends : (ofInt next).rank ≤ (ofInt value).rank := rank_ofInt_mono (by omega)
      omega
    · exact fun same => absurd ascends (by simp [same])
  · rintro ⟨ascends, differ⟩
    have ranks : (ofInt value).rank ≤ (ofInt next).rank := rank_ofInt_mono (by omega)
    refine ranks.lt_of_ne fun level => differ ?_
    -- Natural numbers have no sign, so the rank is the magnitude.
    rw [rank_ofInt, rank_ofInt, if_neg (by omega), if_neg (by omega)] at level
    have unsigned (natural : Nat) : (ofInt natural).negative = false := by
      simp [negative_ofInt]
    exact eq_of_negative_eq_of_magnitude_eq
      ((unsigned value).trans (unsigned next).symm) (by exact_mod_cast level)

end Stencil.Binary64
