import Journal.Decimal.Shortest
import Journal.Proofs.Decimal.Rounding
/-!
The shortest decimal of a positive number is positive and not above the numbers that round to it. The search ends
on a grid: the finest one it comes to is finer than the gap between neighbouring numbers.
-/
namespace Journal.Binary64

theorem scaled_le (n c : Nat) (e place : Int) :
    n * 2 ^ e.toNat * 10 ^ (-place).toNat ≤ c * 10 ^ place.toNat * 2 ^ (-e).toNat
      ↔ (n : ℚ) * 2 ^ e ≤ c * 10 ^ place := by
  have two : (0 : ℚ) < 2 ^ (-e).toNat := by positivity
  have ten : (0 : ℚ) < 10 ^ (-place).toNat := by positivity
  rw [zpow_parts two_ne_zero e, zpow_parts (by norm_num : (10 : ℚ) ≠ 0) place, mul_div_assoc', mul_div_assoc',
    div_le_div_iff₀ two ten]
  exact_mod_cast Iff.rfl

theorem scaled_lt (n c : Nat) (e place : Int) :
    c * 10 ^ place.toNat * 2 ^ (-e).toNat < n * 2 ^ e.toNat * 10 ^ (-place).toNat
      ↔ (c : ℚ) * 10 ^ place < n * 2 ^ e := by
  rw [← not_le, ← not_le, scaled_le]

theorem scaled_ge (n c : Nat) (e place : Int) :
    c * 10 ^ place.toNat * 2 ^ (-e).toNat ≤ n * 2 ^ e.toNat * 10 ^ (-place).toNat
      ↔ (c : ℚ) * 10 ^ place ≤ n * 2 ^ e := by
  have two : (0 : ℚ) < 2 ^ (-e).toNat := by positivity
  have ten : (0 : ℚ) < 10 ^ (-place).toNat := by positivity
  rw [zpow_parts two_ne_zero e, zpow_parts (by norm_num : (10 : ℚ) ≠ 0) place, mul_div_assoc', mul_div_assoc',
    div_le_div_iff₀ ten two]
  exact_mod_cast Iff.rfl

theorem scaled_gt (n c : Nat) (e place : Int) :
    n * 2 ^ e.toNat * 10 ^ (-place).toNat < c * 10 ^ place.toNat * 2 ^ (-e).toNat
      ↔ (n : ℚ) * 2 ^ e < c * 10 ^ place := by
  rw [← not_le, ← not_le, scaled_ge]

namespace Interval

variable {i : Interval} {tie : Tie} {e place : Int} {c : Nat}

theorem holds_high (holds : i.holds e place c = true) : (c : ℚ) * 10 ^ place ≤ i.high * 2 ^ e := by
  unfold Interval.holds at holds
  simp only at holds
  split at holds
  · rw [Bool.and_eq_true, decide_eq_true_iff, decide_eq_true_iff] at holds
    exact (scaled_ge i.high c e place).mp holds.2
  · rw [Bool.and_eq_true, decide_eq_true_iff, decide_eq_true_iff] at holds
    exact le_of_lt ((scaled_lt i.high c e place).mp holds.2)

theorem holds_between (low : (i.low : ℚ) * 2 ^ e < c * 10 ^ place) (high : (c : ℚ) * 10 ^ place < i.high * 2 ^ e) :
    i.holds e place c = true := by
  have above := (scaled_gt i.low c e place).mpr low
  have below := (scaled_lt i.high c e place).mpr high
  unfold Interval.holds
  simp only
  split
  · rw [Bool.and_eq_true, decide_eq_true_iff, decide_eq_true_iff]
    exact ⟨Nat.le_of_lt above, Nat.le_of_lt below⟩
  · rw [Bool.and_eq_true, decide_eq_true_iff, decide_eq_true_iff]
    exact ⟨above, below⟩

theorem onGrid_high (found : i.onGrid tie e place = some c) : 0 < c ∧ (c : ℚ) * 10 ^ place ≤ i.high * 2 ^ e := by
  unfold Interval.onGrid at found
  simp only at found
  split at found
  · rename_i below above
    rw [Bool.and_eq_true, decide_eq_true_iff] at below
    cases Option.some.inj found
    unfold nearer
    simp only
    split
    · exact ⟨below.2, holds_high below.1⟩
    · split
      · exact ⟨Nat.succ_pos _, holds_high above⟩
      · split
        · exact ⟨below.2, holds_high below.1⟩
        · exact ⟨Nat.succ_pos _, holds_high above⟩
  · rename_i below _
    rw [Bool.and_eq_true, decide_eq_true_iff] at below
    cases Option.some.inj found
    exact ⟨below.2, holds_high below.1⟩
  · rename_i above
    cases Option.some.inj found
    exact ⟨Nat.succ_pos _, holds_high above⟩
  · contradiction

theorem onGrid_fine (low : i.low < i.middle) (high : i.high = i.middle + 2)
    (fine : (10 : ℚ) ^ place < 2 * 2 ^ e) : i.onGrid tie e place ≠ none := by
  have two : (0 : ℚ) < 2 ^ e := by positivity
  have den : 0 < 10 ^ place.toNat * 2 ^ (-e).toNat := by positivity
  let c := i.middle * 2 ^ e.toNat * 10 ^ (-place).toNat / (10 ^ place.toNat * 2 ^ (-e).toNat)
  have floor : (c : ℚ) * 10 ^ place ≤ i.middle * 2 ^ e := by
    rw [← scaled_ge, mul_assoc]
    exact Nat.div_mul_le_self _ _
  have next : (i.middle : ℚ) * 2 ^ e < (c + 1 : Nat) * 10 ^ place := by
    rw [← scaled_gt, mul_assoc (c + 1)]
    exact Nat.lt_mul_of_div_lt (Nat.lt_succ_self _) den
  have after : i.holds e place (c + 1) = true := by
    refine holds_between (lt_trans ?_ next) ?_
    · gcongr
    · rw [high]
      push_cast
      linarith
  unfold Interval.onGrid
  simp only
  rw [show i.holds e place (i.middle * 2 ^ e.toNat * 10 ^ (-place).toNat / (10 ^ place.toNat * 2 ^ (-e).toNat) + 1)
    = true by exact after]
  split <;> simp_all

end Interval

def Decimal.size (d : Decimal) : ℚ := d.digits * 10 ^ d.exponent

theorem Decimal.trim_spec (limit : Nat) (d : Decimal) :
    (d.trim limit).size = d.size ∧ (0 < d.digits → 0 < (d.trim limit).digits) := by
  induction limit generalizing d with
  | zero => exact ⟨rfl, id⟩
  | succ limit ih =>
    unfold Decimal.trim
    split
    · rename_i zero
      obtain ⟨size, positive⟩ := ih ⟨d.digits / 10, d.exponent + 1⟩
      have whole : d.digits = d.digits / 10 * 10 := by omega
      constructor
      · rw [size]
        simp only [Decimal.size]
        rw [zpow_add_one₀ (by norm_num)]
        conv => rhs; rw [whole]
        push_cast
        ring
      · intro _
        refine positive ?_
        show 0 < d.digits / 10
        omega
    · exact ⟨rfl, id⟩

theorem trim_onGrid {i : Interval} {tie : Tie} {e place : Int} {c : Nat} (limit : Nat)
    (found : i.onGrid tie e place = some c) :
    0 < (Decimal.trim limit ⟨c, place⟩).digits ∧ (Decimal.trim limit ⟨c, place⟩).size ≤ i.high * 2 ^ e := by
  obtain ⟨positive, bound⟩ := Interval.onGrid_high found
  obtain ⟨size, kept⟩ := Decimal.trim_spec limit ⟨c, place⟩
  exact ⟨kept positive, by rw [size]; exact bound⟩

theorem searchGrids_spec {i : Interval} (tie : Tie) {e : Int} (low : i.low < i.middle) (high : i.high = i.middle + 2)
    (count : Nat) {place : Int} (fine : (10 : ℚ) ^ (place - count) < 2 * 2 ^ e) :
    0 < (searchGrids i tie e place (count + 1)).digits ∧
      (searchGrids i tie e place (count + 1)).size ≤ i.high * 2 ^ e := by
  induction count generalizing place with
  | zero =>
    unfold searchGrids
    split
    · rename_i c found
      exact trim_onGrid 20 found
    · rename_i missed
      refine absurd missed (Interval.onGrid_fine low high ?_)
      simpa using fine
  | succ count ih =>
    unfold searchGrids
    split
    · rename_i c found
      exact trim_onGrid 20 found
    · refine ih ?_
      rw [show place - 1 - (count : Int) = place - (count + 1 : Nat) by push_cast; ring]
      exact fine

theorem lt_pow_digitCount (n : Nat) : n < 10 ^ digitCount n :=
  (Nat.length_toDigits_le_iff (by decide) Nat.length_toDigits_pos).mp (Nat.le_refl _)

theorem pow_digitCount_le {n : Nat} (positive : 0 < n) : 10 ^ (digitCount n - 1) ≤ n := by
  by_cases one : digitCount n - 1 = 0
  · rw [one]
    exact positive
  · have longer : ¬ (Nat.toDigits 10 n).length ≤ digitCount n - 1 := by
      have : digitCount n = (Nat.toDigits 10 n).length := rfl
      omega
    rw [Nat.length_toDigits_le_iff (by decide) (Nat.pos_of_ne_zero one)] at longer
    exact Nat.le_of_not_lt longer

theorem leadingPlace_le {num den : Nat} (some : 0 < num) (positive : 0 < den) :
    (10 : ℚ) ^ leadingPlace num den ≤ num / den := by
  have d0 : (0 : ℚ) < den := by exact_mod_cast positive
  unfold leadingPlace
  split
  · rename_i large
    have whole := pow_digitCount_le (Nat.div_pos large positive)
    have count : 0 < digitCount (num / den) := Nat.length_toDigits_pos
    have scaled : 10 ^ (digitCount (num / den) - 1) * den ≤ num :=
      Nat.le_trans (Nat.mul_le_mul_right den whole) (Nat.div_mul_le_self num den)
    rw [show (digitCount (num / den) : Int) - 1 = (digitCount (num / den) - 1 : Nat) by omega, zpow_natCast,
      le_div_iff₀ d0]
    exact_mod_cast scaled
  · rename_i small
    have below := lt_pow_digitCount ((den + num - 1) / num - 1)
    have ceiling : den ≤ 10 ^ digitCount ((den + num - 1) / num - 1) * num := by
      have parts := Nat.div_add_mod (den + num - 1) num
      have rest := Nat.mod_lt (den + num - 1) some
      have step : (den + num - 1) / num ≤ 10 ^ digitCount ((den + num - 1) / num - 1) := by omega
      have product := Nat.mul_le_mul_right num step
      rw [Nat.mul_comm ((den + num - 1) / num) num] at product
      omega
    rw [zpow_neg, zpow_natCast, inv_eq_one_div, div_le_div_iff₀ (by positivity) d0, one_mul, mul_comm]
    exact_mod_cast ceiling

theorem shortest_spec (tie : Tie) {m : Nat} (e : Int) (some : m ≠ 0) (bits : m < 2 ^ 53) :
    0 < (shortest tie m e).digits ∧ (shortest tie m e).size ≤ (m + 1 / 2) * 2 ^ e := by
  have quarter : (2 : ℚ) ^ e = 4 * 2 ^ (e - 2) := by
    rw [zpow_sub₀ two_ne_zero]
    ring
  have num : 0 < (ratio m 1 e).1 := Nat.mul_pos (Nat.pos_of_ne_zero some) (Nat.pow_pos (by decide))
  have lead := leadingPlace_le num (ratio_den_pos m Nat.one_pos e)
  rw [ratio_quotient, Nat.cast_one, div_one] at lead
  have unit : (0 : ℚ) < 2 ^ (e - 2) := by positivity
  have fine : (10 : ℚ) ^ (leadingPlace (ratio m 1 e).1 (ratio m 1 e).2 - (17 : Nat)) < 2 * 2 ^ (e - 2) := by
    have small : (m : ℚ) < 2 ^ 53 := by exact_mod_cast bits
    rw [zpow_sub₀ (by norm_num), div_lt_iff₀ (by positivity), zpow_natCast]
    calc (10 : ℚ) ^ leadingPlace (ratio m 1 e).1 (ratio m 1 e).2 ≤ m * 2 ^ e := lead
      _ < 2 ^ 53 * 2 ^ e := by gcongr
      _ = 2 ^ 55 * 2 ^ (e - 2) := by rw [quarter]; ring
      _ ≤ 2 * 2 ^ (e - 2) * 10 ^ 17 := by linarith
  have positive : 0 < m := Nat.pos_of_ne_zero some
  have low : (intervalOf m e).low < (intervalOf m e).middle := by
    simp only [intervalOf]
    split <;> omega
  have found := searchGrids_spec tie low rfl 17 fine
  unfold shortest
  rw [if_neg some]
  refine ⟨found.1, le_trans found.2 (le_of_eq ?_)⟩
  rw [quarter]
  simp only [intervalOf]
  push_cast
  ring

end Journal.Binary64
