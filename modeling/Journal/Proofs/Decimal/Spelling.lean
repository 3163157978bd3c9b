import Journal.Decimal.Reader
import Journal.Proofs.Json.Numbers

/-!
Whole numbers by their spelling. What a number is read from is its own text exactly if the digits have no leading zero
and a sign stands before negative numbers only.
-/
namespace Journal.Decimal

open Json.Reader (Proper proper_toDigits)

theorem foldlM_digits (cs : List Char) (before n : Nat) :
    cs.foldlM (fun n c => do return n * 10 + (← digit? c)) before = some n ↔
      (∀ c ∈ cs, c.isDigit = true) ∧ n = Nat.ofDigitChars 10 cs before := by
  induction cs generalizing before with
  | nil =>
    rw [List.foldlM_nil, Option.pure_def, Option.some.injEq, eq_comm]
    exact (and_iff_right (List.forall_mem_nil _)).symm
  | cons c cs ih =>
    rw [List.foldlM_cons]
    by_cases digit : c.isDigit = true
    · have here : digit? c = some (c.toNat - 48) := if_pos digit
      have value : before * 10 + (c.toNat - 48) = 10 * before + (c.toNat - '0'.toNat) := by
        rw [Nat.mul_comm]
        rfl
      rw [here, Nat.ofDigitChars_cons, List.forall_mem_cons, and_iff_right digit, ← value]
      exact ih _
    · have here : digit? c = none := if_neg digit
      simp [here, digit]

theorem natural?_iff {cs : List Char} {n : Nat} :
    natural? 10 digit? cs = some n ↔ cs ≠ [] ∧ (∀ c ∈ cs, c.isDigit = true) ∧ n = Nat.ofDigitChars 10 cs 0 := by
  cases cs with
  | nil => simp [natural?]
  | cons c cs => exact (foldlM_digits (c :: cs) 0 n).trans (and_iff_right (List.cons_ne_nil c cs)).symm

theorem toDigits_digit {c : Char} (digit : c.isDigit = true) : Nat.toDigits 10 (c.toNat - '0'.toNat) = [c] := by
  have bounds := digit_char_bounds digit
  have small := digit_value_lt digit
  rw [Nat.toDigits_of_lt_base small, List.singleton_inj]
  apply Char.toNat_inj.mp
  rw [Nat.toNat_digitChar_of_lt_ten small]
  show 48 + (c.toNat - 48) = c.toNat
  omega

theorem toDigits_append_digits {cs : List Char} (digits : ∀ c ∈ cs, c.isDigit = true) {n : Nat} (positive : 0 < n) :
    Nat.toDigits 10 n ++ cs = Nat.toDigits 10 (Nat.ofDigitChars 10 cs n) := by
  induction cs generalizing n with
  | nil => rw [List.append_nil, Nat.ofDigitChars_nil]
  | cons c cs ih =>
    obtain ⟨digit, digits⟩ := List.forall_mem_cons.mp digits
    have small := digit_value_lt digit
    calc Nat.toDigits 10 n ++ c :: cs
        = Nat.toDigits 10 n ++ Nat.toDigits 10 (c.toNat - '0'.toNat) ++ cs := by
          rw [toDigits_digit digit, List.append_assoc, List.singleton_append]
      _ = Nat.toDigits 10 (10 * n + (c.toNat - '0'.toNat)) ++ cs := by
          rw [Nat.toDigits_append_toDigits (by decide) positive small]
      _ = Nat.toDigits 10 (Nat.ofDigitChars 10 (c :: cs) n) := by
          rw [ih digits (by omega), Nat.ofDigitChars_cons]

theorem toDigits_ofDigitChars {cs : List Char} (digits : ∀ c ∈ cs, c.isDigit = true) :
    Nat.toDigits 10 (Nat.ofDigitChars 10 cs 0) = cs ↔ Proper cs := by
  constructor
  · intro same
    exact same ▸ proper_toDigits _
  · rintro (rfl | ⟨c, later, rfl, nonzero⟩)
    · rfl
    · obtain ⟨digit, digits⟩ := List.forall_mem_cons.mp digits
      have bounds := digit_char_bounds digit
      have positive : 0 < c.toNat - '0'.toNat := by
        have other : c.toNat ≠ '0'.toNat := fun same => nonzero (Char.toNat_inj.mp same)
        have zero : '0'.toNat = 48 := rfl
        omega
      rw [Nat.ofDigitChars_cons, Nat.mul_zero, Nat.zero_add, ← toDigits_append_digits digits positive,
        toDigits_digit digit]
      rfl

/-- Whole numbers as they are written: a minus sign or none, and no leading zero. -/
def Plain : List Char → Prop
  | '-' :: ds => Proper ds ∧ ds ≠ ['0']
  | '+' :: _ => False
  | ds => Proper ds

theorem toString_natural (n : Nat) : (toString (n : Int)).toList = Nat.toDigits 10 n := by
  rw [Int.toString_eq_repr, Int.repr_eq_if, if_pos (Int.natCast_nonneg n), Int.toNat_natCast, Nat.toList_repr]

theorem toString_negative {n : Nat} (positive : 0 < n) : (toString (-(n : Int))).toList = '-' :: Nat.toDigits 10 n := by
  rw [Int.toString_eq_repr, Int.repr_eq_if, if_neg (by omega), Int.neg_neg, Int.toNat_natCast, String.toList_append,
    Nat.toList_repr]
  rfl

theorem plain_iff {cs : List Char} (minus : ∀ ds, cs ≠ '-' :: ds) (plus : ∀ ds, cs ≠ '+' :: ds) : Plain cs ↔ Proper cs := by
  unfold Plain
  split
  · exact absurd rfl (minus _)
  · exact absurd rfl (plus _)
  · rfl

theorem toString_minus {ds : List Char} (digits : ∀ c ∈ ds, c.isDigit = true) :
    (toString (-(Nat.ofDigitChars 10 ds 0 : Int))).toList = '-' :: ds ↔ Proper ds ∧ ds ≠ ['0'] := by
  have proper := toDigits_ofDigitChars digits
  rcases Nat.eq_zero_or_pos (Nat.ofDigitChars 10 ds 0) with zero | positive
  · rw [zero] at proper ⊢
    constructor
    · intro same
      cases same
    · rintro ⟨plain, nonzero⟩
      exact absurd (proper.mpr plain).symm nonzero
  · rw [toString_negative positive, List.cons.injEq, and_iff_right rfl, proper]
    refine (and_iff_left ?_).symm
    rintro rfl
    exact absurd positive (by decide)

theorem toString_signed {s : String} {n : Int} (reads : signed? s = some n) : toString n = s ↔ Plain s.toList := by
  rw [← String.toList_inj]
  obtain ⟨reads, -⟩ := Option.filter_eq_some_iff.mp reads
  generalize s.toList = cs at reads
  split at reads
  · obtain ⟨_, cast, rfl⟩ := Option.map_eq_some_iff.mp reads
    obtain ⟨k, found, same⟩ := Option.bind_eq_some_iff.mp cast
    cases Option.some.inj same
    obtain ⟨-, digits, rfl⟩ := natural?_iff.mp found
    exact toString_minus digits
  · obtain ⟨k, found, rfl⟩ := Option.map_eq_some_iff.mp reads
    constructor
    · intro same
      rw [Int.ofNat_eq_natCast, toString_natural] at same
      have digit := Json.Reader.toDigits_digits k '+' (same ▸ List.mem_cons_self)
      cases digit
    · exact False.elim
  · rename_i minus plus
    obtain ⟨k, found, rfl⟩ := Option.map_eq_some_iff.mp reads
    obtain ⟨-, digits, rfl⟩ := natural?_iff.mp found
    rw [Int.ofNat_eq_natCast, toString_natural, toDigits_ofDigitChars digits, plain_iff minus plus]

end Journal.Decimal
