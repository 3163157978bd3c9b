import Journal.Decimal.Binary64
import Mathlib.Algebra.Order.Field.Power
import Mathlib.Data.Rat.Cast.Order
import Mathlib.Tactic.FieldSimp
import Mathlib.Tactic.GCongr
import Mathlib.Tactic.Linarith
import Mathlib.Tactic.NormNum
import Mathlib.Tactic.Positivity
import Mathlib.Tactic.Ring
/-!
Bounds on rounded numbers. A quotient is rounded to a number that is at most half a unit of its last place
larger, and it stays finite below the midpoint between the greatest finite number and the next power of two.
-/
namespace Journal.Binary64

def size : Binary64 → ℚ
  | .finite _ m e => m * 2 ^ e
  | _ => 0

def limit : ℚ := (2 ^ 53 - 1 / 2) * 2 ^ (971 : ℤ)

theorem roundDiv_bound (n : Nat) {d : Nat} (positive : 0 < d) : (roundDiv n d : ℚ) ≤ n / d + 1 / 2 := by
  have whole : 2 * d * roundDiv n d ≤ 2 * n + d := by
    have parts := Nat.div_add_mod n d
    unfold roundDiv
    simp only
    split
    · have : d * (n / d) ≤ n := by omega
      calc 2 * d * (n / d) = 2 * (d * (n / d)) := by ring
        _ ≤ 2 * n + d := by omega
    · have up : 2 * d * (n / d + 1) ≤ 2 * n + d := by
        calc 2 * d * (n / d + 1) = 2 * (d * (n / d)) + 2 * d := by ring
          _ ≤ 2 * n + d := by omega
      split
      · exact up
      · split
        · refine Nat.le_trans (Nat.mul_le_mul_left _ (Nat.le_succ _)) up
        · exact up
  have cast : (2 * d * roundDiv n d : ℚ) ≤ 2 * n + d := by exact_mod_cast whole
  have d0 : (0 : ℚ) < d := by exact_mod_cast positive
  rw [div_add_div _ _ (ne_of_gt d0) two_ne_zero, le_div_iff₀ (by positivity)]
  linarith

theorem ratio_den_pos (num : Nat) {den : Nat} (positive : 0 < den) (e : Int) : 0 < (ratio num den e).2 :=
  Nat.mul_pos positive (Nat.pow_pos (by decide))

theorem zpow_parts {b : ℚ} (nonzero : b ≠ 0) (e : Int) : b ^ e = b ^ e.toNat / b ^ (-e).toNat := by
  rw [← zpow_natCast, ← zpow_natCast, ← zpow_sub₀ nonzero]
  congr 1
  omega

theorem ratio_quotient (num den : Nat) (e : Int) :
    ((ratio num den e).1 : ℚ) / (ratio num den e).2 = num / den * 2 ^ e := by
  simp only [ratio, Nat.cast_mul, Nat.cast_pow, Nat.cast_ofNat]
  rw [zpow_parts two_ne_zero e, mul_div_mul_comm]

theorem exponentOf_bound {num den : Nat} (some : 0 < num) (positive : 0 < den) :
    exponentOf num den = leastExponent ∨ (2 : ℚ) ^ 52 * 2 ^ exponentOf num den ≤ num / den := by
  have d0 : (0 : ℚ) < den := by exact_mod_cast positive
  have lower : (2 : ℚ) ^ 52 * 2 ^ ((num.log2 : Int) - den.log2 - 52 - 1) ≤ num / den := by
    have above : ((2 ^ num.log2 : Nat) : ℚ) ≤ num := by exact_mod_cast Nat.log2_self_le (by omega)
    have below : (den : ℚ) ≤ ((2 ^ (den.log2 + 1) : Nat) : ℚ) := by exact_mod_cast Nat.le_of_lt Nat.lt_log2_self
    rw [le_div_iff₀ d0]
    calc (2 : ℚ) ^ 52 * 2 ^ ((num.log2 : Int) - den.log2 - 52 - 1) * den
        ≤ 2 ^ 52 * 2 ^ ((num.log2 : Int) - den.log2 - 52 - 1) * ((2 ^ (den.log2 + 1) : Nat) : ℚ) := by gcongr
      _ = ((2 ^ num.log2 : Nat) : ℚ) := by
          push_cast
          rw [← zpow_natCast, ← zpow_natCast, ← zpow_natCast, ← zpow_add₀ two_ne_zero, ← zpow_add₀ two_ne_zero]
          congr 1
          push_cast
          ring
      _ ≤ num := above
  unfold exponentOf
  simp only
  split
  · rcases max_choice ((num.log2 : Int) - den.log2 - 52 - 1) leastExponent with taken | least
    · exact .inr (by rw [taken]; exact lower)
    · exact .inl least
  · rename_i enough
    rcases max_choice ((num.log2 : Int) - den.log2 - 52) leastExponent with taken | least
    · refine .inr ?_
      rw [taken]
      have shifted := ratio_quotient num den (-((num.log2 : Int) - den.log2 - 52))
      have d1 : (0 : ℚ) < (ratio num den (-((num.log2 : Int) - den.log2 - 52))).2 := by
        exact_mod_cast ratio_den_pos num positive _
      have full : (2 : ℚ) ^ 52 ≤ num / den * 2 ^ (-((num.log2 : Int) - den.log2 - 52)) := by
        rw [← shifted, le_div_iff₀ d1]
        exact_mod_cast Nat.le_of_not_lt enough
      rw [zpow_neg, ← div_eq_mul_inv, le_div_iff₀ (by positivity)] at full
      exact full
    · exact .inl least

theorem size_pack {negative : Bool} {significand : Nat} {exponent : Int}
    (finite : (pack negative significand exponent).isFinite = true) :
    (pack negative significand exponent).size = significand * 2 ^ exponent := by
  revert finite
  unfold pack
  split
  · rename_i full
    split
    · simp [isFinite]
    · intro _
      simp only [size, full]
      rw [zpow_add_one₀ two_ne_zero]
      push_cast
      ring
  · split
    · simp [isFinite]
    · intro _; rfl

theorem pack_finite {negative : Bool} {significand : Nat} {exponent : Int} (low : exponent ≤ greatestExponent)
    (strict : exponent = greatestExponent → significand ≠ 2 ^ 53) :
    (pack negative significand exponent).isFinite = true := by
  unfold pack
  split
  · rename_i full
    rw [if_neg]
    · rfl
    · intro top
      exact strict (Int.le_antisymm low top) full
  · rw [if_neg (Int.not_lt.mpr low)]
    rfl

theorem roundDiv_ratio_bound (num : Nat) {den : Nat} (positive : 0 < den) (e : Int) :
    (roundDiv (ratio num den (-e)).1 (ratio num den (-e)).2 : ℚ) ≤ num / den / 2 ^ e + 1 / 2 := by
  have bound := roundDiv_bound (ratio num den (-e)).1 (ratio_den_pos num positive (-e))
  rw [ratio_quotient, zpow_neg, ← div_eq_mul_inv] at bound
  exact bound

theorem ofRatio_finite (negative : Bool) {num den : Nat} (positive : 0 < den)
    (small : (num : ℚ) / den < limit) : (ofRatio negative num den).isFinite = true := by
  unfold ofRatio
  split
  · rfl
  rename_i nonzero
  have some : 0 < num := Nat.pos_of_ne_zero nonzero
  rcases exponentOf_bound some positive with least | full
  · refine pack_finite (by rw [least]; decide) fun top => ?_
    rw [least] at top
    exact absurd top (by decide)
  · have room : exponentOf num den ≤ greatestExponent := by
      have power : (2 : ℚ) ^ exponentOf num den < 2 ^ (972 : ℤ) := by
        have chain := lt_of_le_of_lt full small
        have step : (2 : ℚ) ^ (972 : ℤ) = 2 * 2 ^ (971 : ℤ) := by
          rw [show (972 : ℤ) = 971 + 1 by rfl, zpow_add_one₀ two_ne_zero]
          ring
        have unit : (0 : ℚ) < 2 ^ (971 : ℤ) := by positivity
        unfold limit at chain
        rw [step]
        clear step
        generalize (2 : ℚ) ^ (971 : ℤ) = top, (2 : ℚ) ^ exponentOf num den = last at *
        linarith
      have exponent := (zpow_lt_zpow_iff_right₀ (by norm_num : (1 : ℚ) < 2)).mp power
      have top : greatestExponent = 971 := rfl
      omega
    refine pack_finite room fun top whole => ?_
    change roundDiv (ratio num den (-exponentOf num den)).1 (ratio num den (-exponentOf num den)).2 = 2 ^ 53 at whole
    have bound := roundDiv_ratio_bound num positive (exponentOf num den)
    have unit : (0 : ℚ) < 2 ^ (971 : ℤ) := by positivity
    have below : (num : ℚ) / den / 2 ^ (971 : ℤ) < 2 ^ 53 - 1 / 2 := by
      rw [div_lt_iff₀ unit]
      exact small
    rw [whole, top, show greatestExponent = 971 by rfl] at bound
    generalize (num : ℚ) / den / 2 ^ (971 : ℤ) = scaled at *
    push_cast at bound
    linarith

theorem size_ofRatio {negative : Bool} {num den : Nat} (positive : 0 < den)
    (normal : (1 : ℚ) ≤ num / den) (finite : (ofRatio negative num den).isFinite = true) :
    (ofRatio negative num den).size ≤ num / den * (1 + 1 / 2 ^ 53) := by
  have nonzero : num ≠ 0 := by
    rintro rfl
    norm_num at normal
  unfold ofRatio at finite ⊢
  rw [if_neg nonzero] at finite ⊢
  simp only at finite ⊢
  rw [size_pack finite]
  have unit : (0 : ℚ) < 2 ^ exponentOf num den := by positivity
  have last : (2 : ℚ) ^ exponentOf num den ≤ num / den / 2 ^ 52 := by
    rcases exponentOf_bound (Nat.pos_of_ne_zero nonzero) positive with least | full
    · rw [least]
      have tiny : (2 : ℚ) ^ leastExponent ≤ 2 ^ (-52 : ℤ) := zpow_le_zpow_right₀ (by norm_num) (by decide)
      have last : (2 : ℚ) ^ (-52 : ℤ) = 1 / 2 ^ 52 := by norm_num
      rw [last] at tiny
      refine le_trans tiny ?_
      gcongr
    · rw [le_div_iff₀ (by positivity)]
      linarith
  calc (roundDiv (ratio num den (-exponentOf num den)).1 (ratio num den (-exponentOf num den)).2 : ℚ)
        * 2 ^ exponentOf num den
      ≤ (num / den / 2 ^ exponentOf num den + 1 / 2) * 2 ^ exponentOf num den := by
        gcongr
        exact roundDiv_ratio_bound num positive _
    _ = num / den + 2 ^ exponentOf num den / 2 := by
        rw [add_mul, div_mul_cancel₀ _ (ne_of_gt unit)]
        ring
    _ ≤ num / den * (1 + 1 / 2 ^ 53) := by
        have : (2 : ℚ) ^ 53 = 2 * 2 ^ 52 := by norm_num
        rw [this]
        rw [mul_add, mul_one, mul_one_div, div_mul_eq_div_div]
        have := div_le_div_of_nonneg_right last (by norm_num : (0 : ℚ) ≤ 2)
        have swap : (num / den / 2 ^ 52 / 2 : ℚ) = num / den / 2 / 2 ^ 52 := by ring
        linarith

theorem ofNat_finite {n : Nat} (small : (n : ℚ) < limit) : (ofNat n).isFinite = true :=
  ofRatio_finite false (by decide) (by simpa using small)

theorem size_ofNat {n : Nat} (some : 0 < n) (finite : (ofNat n).isFinite = true) :
    (ofNat n).size ≤ n * (1 + 1 / 2 ^ 53) := by
  have normal : (1 : ℚ) ≤ n / (1 : Nat) := by
    have : (1 : ℚ) ≤ n := by exact_mod_cast some
    simpa using this
  have bound := size_ofRatio (by decide) normal finite
  rwa [Nat.cast_one, div_one] at bound

theorem timesTen_finite {x : Binary64} {power : Nat} (finite : x.isFinite = true)
    (ten : (ofNat (10 ^ power)).isFinite = true) (small : x.size * (ofNat (10 ^ power)).size < limit) :
    (x.timesTen power).isFinite = true := by
  unfold timesTen
  cases x with
  | nan => simp [isFinite] at finite
  | infinite _ => simp [isFinite] at finite
  | finite s m e =>
    cases factor : ofNat (10 ^ power) with
    | nan => simp [factor, isFinite] at ten
    | infinite _ => simp [factor, isFinite] at ten
    | finite t p q =>
      rw [factor] at small
      refine ofRatio_finite s (ratio_den_pos (m * p) (by decide) (e + q)) ?_
      change ((ratio (m * p) 1 (e + q)).1 : ℚ) / ((ratio (m * p) 1 (e + q)).2 : ℚ) < limit
      rw [ratio_quotient]
      simp only [size] at small
      calc (((m * p : Nat) : ℚ) / ((1 : Nat) : ℚ)) * 2 ^ (e + q) = m * 2 ^ e * (p * 2 ^ q) := by
            rw [zpow_add₀ two_ne_zero]
            push_cast
            ring
        _ < limit := small

end Journal.Binary64
