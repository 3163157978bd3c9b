import Journal.Json.Scalar
import Journal.Json.Writer
import Journal.Proofs.Json.Gives
import Journal.Proofs.Text.Digits
import Journal.Proofs.Text.Utf8
/-!
Digits and whole numbers. A run of digits that fits into 64 bits is read to its end and keeps its value, so a
whole number between the least and the greatest integer is read back from its text.
-/
namespace Journal.Json.Reader

def Delimited (rest : Bytes) : Prop := ∀ b ∈ rest.head?, b = 44 ∨ b = 93 ∨ b = 125

def digitOf (c : Char) : Nat := c.toNat - 48

theorem digit_byte {c : Char} (digit : c.isDigit = true) :
    isDigit (UInt8.ofNat c.toNat) = true ∧ digitValue (UInt8.ofNat c.toNat) = digitOf c := by
  have bounds := digit_char_bounds digit
  have value : (UInt8.ofNat c.toNat).toNat = c.toNat := by
    rw [UInt8.toNat_ofNat']
    omega
  constructor
  · simp [isDigit, UInt8.le_iff_toNat_le, value, bounds]
  · rw [digitValue, value, digitOf]

theorem digits_bytes {cs : List Char} (digits : ∀ c ∈ cs, c.isDigit = true) :
    cs.flatMap String.utf8EncodeChar = cs.map fun c => UInt8.ofNat c.toNat := by
  induction cs with
  | nil => rfl
  | cons c cs ih =>
    have bounds := digit_char_bounds (digits c (by simp))
    rw [List.flatMap_cons, List.map_cons, Utf8.ascii_byte (by omega), ih fun c mem => digits c (by simp [mem])]
    rfl

theorem gives_digitsAhead {cs : List Char} (digits : ∀ c ∈ cs, c.isDigit = true) {rest : Bytes}
    (stops : ∀ b ∈ rest.head?, isDigit b = false) :
    Gives digitsAhead (cs.flatMap String.utf8EncodeChar ++ rest) (cs.map digitOf)
      (cs.flatMap String.utf8EncodeChar ++ rest) := by
  have run : (cs.flatMap String.utf8EncodeChar ++ rest).takeWhile isDigit = cs.flatMap String.utf8EncodeChar := by
    have all : ∀ b ∈ cs.flatMap String.utf8EncodeChar, isDigit b = true := by
      rw [digits_bytes digits]
      intro b mem
      obtain ⟨c, here, rfl⟩ := List.mem_map.mp mem
      exact (digit_byte (digits c here)).1
    have none : rest.takeWhile isDigit = [] := by
      cases rest with
      | nil => rfl
      | cons b rest => rw [List.takeWhile_cons, stops b rfl]; rfl
    rw [List.takeWhile_append_of_pos all, none, List.append_nil]
  intro place
  refine ⟨place, ?_⟩
  have values : (cs.flatMap String.utf8EncodeChar).map digitValue = cs.map digitOf := by
    rw [digits_bytes digits, List.map_map]
    exact List.map_congr_left fun c mem => (digit_byte (digits c mem)).2
  show EStateM.Result.ok _ _ = _
  rw [run, values]

theorem gives_skip_digits {cs : List Char} (digits : ∀ c ∈ cs, c.isDigit = true) (rest : Bytes) :
    Gives (skip (cs.map digitOf).length) (cs.flatMap String.utf8EncodeChar ++ rest) () rest := by
  have length : (cs.map digitOf).length = (cs.flatMap String.utf8EncodeChar).length := by
    rw [digits_bytes digits, List.length_map, List.length_map]
  rw [length]
  exact gives_skip _ rest

theorem le_ofDigitChars (cs : List Char) (n : Nat) : n ≤ Nat.ofDigitChars 10 cs n := by
  have power : 0 < 10 ^ cs.length := Nat.pow_pos (by decide)
  rw [Nat.ofDigitChars_eq_ofDigitChars_zero]
  exact Nat.le_trans (Nat.le_mul_of_pos_left n power) (Nat.le_add_right ..)

theorem accumulate_all {cs : List Char} {significand : Nat} (fits : Nat.ofDigitChars 10 cs significand ≤ greatestWord)
    (taken : Nat) :
    accumulate significand taken (cs.map digitOf) = (Nat.ofDigitChars 10 cs significand, taken + cs.length) := by
  induction cs generalizing significand taken with
  | nil => simp [accumulate]
  | cons c cs ih =>
    rw [Nat.ofDigitChars_cons, Nat.mul_comm] at fits
    change Nat.ofDigitChars 10 cs (significand * 10 + digitOf c) ≤ greatestWord at fits
    have here : ¬ greatestWord < significand * 10 + digitOf c := Nat.not_lt.mpr (Nat.le_trans (le_ofDigitChars ..) fits)
    rw [List.map_cons, accumulate, if_neg here, ih fits, Nat.ofDigitChars_cons, Nat.mul_comm 10, List.length_cons]
    congr 1
    omega

def Proper (cs : List Char) : Prop := cs = ['0'] ∨ ∃ c later, cs = c :: later ∧ c ≠ '0'

theorem proper_toDigits (n : Nat) : Proper (Nat.toDigits 10 n) := by
  induction n using Nat.base_induction 10 (by decide) with
  | single n small =>
    rw [Nat.toDigits_of_lt_base small]
    by_cases zero : n = 0
    · exact .inl (by rw [zero]; rfl)
    · exact .inr ⟨_, [], rfl, by simpa using zero⟩
  | digit n d small positive ih =>
    rw [← Nat.toDigits_append_toDigits (by decide) positive small]
    rcases ih with zero | ⟨c, later, eq, nonzero⟩
    · have none : n = 0 := by
        have value := Nat.ofDigitChars_toDigits (b := 10) (n := n) (by decide) (by decide)
        rw [zero] at value
        exact value.symm
      omega
    · exact .inr ⟨c, later ++ _, by rw [eq, List.cons_append], nonzero⟩

theorem gives_unsigned {positive : Bool} {cs : List Char} (digits : ∀ c ∈ cs, c.isDigit = true) (proper : Proper cs)
    (fits : Nat.ofDigitChars 10 cs 0 ≤ greatestWord) {rest after : Bytes} {n : Number}
    (stops : ∀ b ∈ rest.head?, isDigit b = false)
    (later : Gives (numberTail positive (Nat.ofDigitChars 10 cs 0)) rest n after) :
    Gives (unsigned positive) (cs.flatMap String.utf8EncodeChar ++ rest) n after := by
  refine (gives_digitsAhead digits stops).bind ?_
  rcases proper with rfl | ⟨c, cs, rfl, nonzero⟩
  · exact (gives_bump 48 rest).bind later
  · have all := accumulate_all fits 0
    have digit : digitOf c ≠ 0 := by
      have bounds := digit_char_bounds (digits c (by simp))
      intro zero
      have same : c.toNat = '0'.toNat := by
        unfold digitOf at zero
        show c.toNat = 48
        omega
      exact nonzero (Char.toNat_inj.mp same)
    rw [List.map_cons] at all ⊢
    split
    · contradiction
    · rename_i zero
      exact absurd (List.cons.inj zero).1 digit
    · rw [all]
      refine (gives_skip_digits digits rest).bind ?_
      simp only [List.length_cons, List.length_map, Nat.zero_add, if_true]
      exact later

theorem gives_numberTail_end {positive : Bool} {n : Nat} {rest : Bytes} (delimited : Delimited rest) :
    Gives (numberTail positive n) rest (wholeNumber positive n) rest := by
  refine (gives_peek_head rest).bind ?_
  cases rest with
  | nil => exact gives_pure _ []
  | cons b rest => rcases delimited b rfl with rfl | rfl | rfl <;> exact gives_pure _ _

theorem Delimited.stops {rest : Bytes} (delimited : Delimited rest) : ∀ b ∈ rest.head?, isDigit b = false := by
  intro b mem
  rcases delimited b mem with rfl | rfl | rfl <;> rfl

theorem toDigits_digits (n : Nat) : ∀ c ∈ Nat.toDigits 10 n, c.isDigit = true :=
  fun _ mem => Nat.isDigit_of_mem_toDigits (by decide) (by decide) mem

theorem gives_unsigned_natural (positive : Bool) {n : Nat} (fits : n ≤ greatestWord) {rest : Bytes}
    (delimited : Delimited rest) :
    Gives (unsigned positive) ((Nat.toDigits 10 n).flatMap String.utf8EncodeChar ++ rest)
      (wholeNumber positive n) rest := by
  have value : Nat.ofDigitChars 10 (Nat.toDigits 10 n) 0 = n := Nat.ofDigitChars_toDigits (by decide) (by decide)
  refine gives_unsigned (toDigits_digits n) (proper_toDigits n) (value.symm ▸ fits) delimited.stops ?_
  rw [value]
  exact gives_numberTail_end delimited

/-- The bytes begin like a number and are read as this number up to `after`. -/
structure Numeral (bytes : Bytes) (n : Number) (after : Bytes) : Prop where
  starts : ∃ b bs, bytes = b :: bs ∧ (b = 45 ∨ isDigit b = true)
  gives : Gives number bytes n after

theorem numeral_of_unsigned (negative : Bool) {cs : List Char} (digits : ∀ c ∈ cs, c.isDigit = true)
    (nonempty : cs ≠ []) {rest after : Bytes} {n : Number}
    (reads : Gives (unsigned (!negative)) (cs.flatMap String.utf8EncodeChar ++ rest) n after) :
    Numeral ((if negative then [45] else []) ++ (cs.flatMap String.utf8EncodeChar ++ rest)) n after := by
  cases negative with
  | true => exact ⟨⟨45, _, rfl, .inl rfl⟩, (gives_peek 45 _).bind ((gives_bump 45 _).bind reads)⟩
  | false =>
    cases cs with
    | nil => exact absurd rfl nonempty
    | cons c cs =>
      have bounds := digit_char_bounds (digits c (by simp))
      have digit := (digit_byte (digits c (by simp))).1
      rw [List.flatMap_cons, Utf8.ascii_byte (by omega)] at reads ⊢
      refine ⟨⟨_, _, rfl, .inr digit⟩, (gives_peek _ _).bind ?_⟩
      split
      · rename_i minus
        rw [Option.some.inj minus] at digit
        contradiction
      · exact reads

theorem numeral_integer {n : Int} (low : leastInteger ≤ n) (high : n ≤ greatestInteger) {rest : Bytes}
    (delimited : Delimited rest) :
    Numeral ((numberText (.integer n)).toList.flatMap String.utf8EncodeChar ++ rest) (.integer n) rest := by
  have least : leastInteger = -9223372036854775808 := by decide
  have greatest : greatestInteger = 18446744073709551615 := by decide
  have word : greatestWord = 18446744073709551615 := by decide
  rw [numberText, Int.toString_eq_repr, Int.repr_eq_if]
  split
  · rename_i positive
    have reads := gives_unsigned_natural true (n := n.toNat) (by omega) delimited
    have whole : wholeNumber true n.toNat = .integer n := by simp [wholeNumber, Int.max_eq_left positive]
    rw [whole] at reads
    rw [Nat.toList_repr]
    exact numeral_of_unsigned false (toDigits_digits _) Nat.toDigits_ne_nil reads
  · rename_i negative
    have reads := gives_unsigned_natural false (n := (-n).toNat) (by omega) delimited
    have whole : wholeNumber false (-n).toNat = .integer n := by
      have bounds : 0 < (-n).toNat ∧ (-n).toNat ≤ 2 ^ 63 := by omega
      simp only [wholeNumber, bounds, and_self, if_true, Bool.false_eq_true, if_false]
      congr 1
      omega
    rw [whole] at reads
    rw [String.toList_append, Nat.toList_repr, List.flatMap_append, List.append_assoc]
    exact numeral_of_unsigned true (toDigits_digits _) Nat.toDigits_ne_nil reads

end Journal.Json.Reader
