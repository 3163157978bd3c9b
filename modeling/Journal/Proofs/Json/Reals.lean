import Journal.Proofs.Decimal.Shortest
import Journal.Proofs.Json.Numbers
/-!
The text of a finite number is read as a number. What the reader makes of the digits need not be the number that
was written, but it is never out of range.
-/
namespace Journal.Json.Reader
open Binary64

/-- A decimal up to here stays finite in spite of the three roundings of the reader. -/
def safe : ℚ := (2 ^ 53 - 7 / 2) * 2 ^ (971 : ℤ)

theorem safe_lt_limit : safe < limit := by
  have unit : (0 : ℚ) < 2 ^ (971 : ℤ) := by positivity
  unfold safe limit
  gcongr
  norm_num

theorem limit_lt : limit < 10 ^ 309 := by
  have power : ((2 ^ 1024 : Nat) : ℚ) < (10 ^ 309 : Nat) := Nat.cast_lt.mpr (by decide +kernel)
  have unit : (0 : ℚ) < 2 ^ (971 : ℤ) := by positivity
  rw [Nat.cast_pow, Nat.cast_pow] at power
  refine lt_trans ?_ power
  have split : (2 : ℚ) ^ 1024 = 2 ^ 53 * 2 ^ (971 : ℤ) := by
    rw [← zpow_natCast, ← zpow_natCast, ← zpow_add₀ two_ne_zero]
    rfl
  unfold limit
  rw [Nat.cast_ofNat, split]
  gcongr
  norm_num

theorem safe_rounded_twice : safe * ((1 + 1 / 2 ^ 53) * (1 + 1 / 2 ^ 53)) < limit := by
  have unit : (0 : ℚ) < 2 ^ (971 : ℤ) := by positivity
  have factor : ((2 : ℚ) ^ 53 - 7 / 2) * ((1 + 1 / 2 ^ 53) * (1 + 1 / 2 ^ 53)) < 2 ^ 53 - 1 / 2 := by norm_num
  unfold safe limit
  calc ((2 : ℚ) ^ 53 - 7 / 2) * 2 ^ (971 : ℤ) * ((1 + 1 / 2 ^ 53) * (1 + 1 / 2 ^ 53))
      = ((2 : ℚ) ^ 53 - 7 / 2) * ((1 + 1 / 2 ^ 53) * (1 + 1 / 2 ^ 53)) * 2 ^ (971 : ℤ) := by ring
    _ < ((2 : ℚ) ^ 53 - 1 / 2) * 2 ^ (971 : ℤ) := by gcongr

theorem real?_of_negative (positive : Bool) (significand : Nat) {exponent : Int} (negative : exponent < 0) :
    (real? positive significand exponent).isSome = true := by
  unfold real?
  simp only [negative, if_true, Option.isSome_some]

theorem real?_of_safe (positive : Bool) {significand power : Nat} (small : (significand : ℚ) * 10 ^ power ≤ safe) :
    (real? positive significand power).isSome = true := by
  unfold real?
  simp only [Int.natAbs_natCast]
  rw [if_neg (by omega)]
  split
  · rfl
  rename_i nonzero
  have some : 0 < significand := by
    refine Nat.pos_of_ne_zero ?_
    rintro rfl
    exact nonzero rfl
  have one : (1 : ℚ) ≤ significand := by exact_mod_cast some
  have ten : (1 : ℚ) ≤ 10 ^ power := one_le_pow₀ (by norm_num)
  have power_small : ((10 ^ power : Nat) : ℚ) ≤ safe := by
    push_cast
    refine le_trans ?_ small
    exact le_mul_of_one_le_left (by positivity) one
  have significand_small : (significand : ℚ) ≤ safe := le_trans (le_mul_of_one_le_right (by positivity) ten) small
  have places : ¬ (308 : Int) < power := by
    intro many
    have large : (10 : ℚ) ^ 309 ≤ 10 ^ power := pow_le_pow_right₀ (by norm_num) (by omega)
    have past : safe < 10 ^ 309 := lt_trans safe_lt_limit limit_lt
    rw [Nat.cast_pow, Nat.cast_ofNat] at power_small
    exact absurd (le_trans large power_small) (not_le.mpr past)
  rw [if_neg places]
  have first := ofNat_finite (lt_of_le_of_lt significand_small safe_lt_limit)
  have second := ofNat_finite (lt_of_le_of_lt power_small safe_lt_limit)
  have sizes : (Binary64.ofNat significand).size * (Binary64.ofNat (10 ^ power)).size < limit := by
    have left := size_ofNat some first
    have right := size_ofNat (Nat.pow_pos (by decide)) second
    have nonneg : 0 ≤ (Binary64.ofNat (10 ^ power)).size := by
      unfold Binary64.size
      split <;> positivity
    calc (Binary64.ofNat significand).size * (Binary64.ofNat (10 ^ power)).size
        ≤ (significand * (1 + 1 / 2 ^ 53)) * ((10 ^ power : Nat) * (1 + 1 / 2 ^ 53)) := by gcongr
      _ = significand * 10 ^ power * ((1 + 1 / 2 ^ 53) * (1 + 1 / 2 ^ 53)) := by push_cast; ring
      _ ≤ safe * ((1 + 1 / 2 ^ 53) * (1 + 1 / 2 ^ 53)) := by gcongr
      _ < limit := safe_rounded_twice
  rw [if_pos (timesTen_finite first second sizes)]
  rfl

theorem gives_finishReal {positive : Bool} {significand : Nat} {exponent : Int}
    (found : (real? positive significand exponent).isSome = true) (rest : Bytes) :
    ∃ n, Gives (finishReal positive significand exponent) rest n rest := by
  obtain ⟨n, eq⟩ := Option.isSome_iff_exists.mp found
  refine ⟨n, ?_⟩
  simp only [finishReal, eq]
  exact gives_pure n rest

theorem accumulate_front (cs : List Char) (significand taken : Nat) :
    ∃ k ≤ cs.length, accumulate significand taken (cs.map digitOf)
        = (Nat.ofDigitChars 10 (cs.take k) significand, taken + k) ∧
      (k = 0 → ∀ c ∈ cs.head?, greatestWord < significand * 10 + digitOf c) := by
  induction cs generalizing significand taken with
  | nil => exact ⟨0, Nat.le_refl 0, rfl, by simp⟩
  | cons c cs ih =>
    by_cases full : greatestWord < significand * 10 + digitOf c
    · refine ⟨0, Nat.zero_le _, ?_, ?_⟩
      · simp [accumulate, full]
      · intro _ c' same
        cases Option.some.inj same
        exact full
    · obtain ⟨k, within, eq, _⟩ := ih (significand * 10 + digitOf c) (taken + 1)
      refine ⟨k + 1, Nat.succ_le_succ within, ?_, by omega⟩
      rw [List.map_cons, accumulate, if_neg full, eq, List.take_succ_cons, Nat.ofDigitChars_cons, Nat.mul_comm 10]
      congr 1
      omega

theorem ofDigitChars_take_le (cs : List Char) (k : Nat) :
    Nat.ofDigitChars 10 (cs.take k) 0 * 10 ^ (cs.length - k) ≤ Nat.ofDigitChars 10 cs 0 := by
  have split : Nat.ofDigitChars 10 cs 0
      = Nat.ofDigitChars 10 (cs.drop k) (Nat.ofDigitChars 10 (cs.take k) 0) := by
    rw [← Nat.ofDigitChars_append, List.take_append_drop]
  rw [split, Nat.ofDigitChars_eq_ofDigitChars_zero (l := cs.drop k), List.length_drop, Nat.mul_comm]
  exact Nat.le_add_right ..

theorem exponentOverflow_none {cs : List Char} {value : Nat} (fits : Nat.ofDigitChars 10 cs value ≤ 2 ^ 31 - 1)
    (taken : Nat) : exponentOverflow value taken (cs.map digitOf) = none := by
  induction cs generalizing value taken with
  | nil => rfl
  | cons c cs ih =>
    rw [Nat.ofDigitChars_cons, Nat.mul_comm] at fits
    change Nat.ofDigitChars 10 cs (value * 10 + digitOf c) ≤ 2 ^ 31 - 1 at fits
    have here : ¬ 2 ^ 31 - 1 < value * 10 + digitOf c := Nat.not_lt.mpr (Nat.le_trans (le_ofDigitChars ..) fits)
    rw [List.map_cons, exponentOverflow, if_neg here]
    exact ih fits _

theorem natOfDigits_map (cs : List Char) : natOfDigits (cs.map digitOf) = Nat.ofDigitChars 10 cs 0 := by
  rw [natOfDigits, List.foldl_map, Nat.ofDigitChars_eq_foldl]
  congr 1
  funext n c
  rw [Nat.mul_comm]
  rfl

theorem gives_fractionPart (positive : Bool) (significand : Nat) {cs : List Char}
    (digits : ∀ c ∈ cs, c.isDigit = true) (nonempty : cs ≠ []) (fits : significand * 10 + 9 ≤ greatestWord)
    {rest after : Bytes} (stops : ∀ b ∈ rest.head?, isDigit b = false)
    (later : ∀ k, 0 < k → k ≤ cs.length → ∃ n,
      Gives (exponentOrEnd positive (Nat.ofDigitChars 10 (cs.take k) significand) (-k)) rest n after) :
    ∃ n, Gives (fractionPart positive significand 0) (46 :: (cs.flatMap String.utf8EncodeChar ++ rest)) n after := by
  obtain ⟨k, within, eq, first⟩ := accumulate_front cs significand 0
  have positive_count : 0 < k := by
    refine Nat.pos_of_ne_zero fun zero => ?_
    cases cs with
    | nil => exact absurd rfl nonempty
    | cons c cs =>
      have bounds := digit_char_bounds (digits c (by simp))
      have full := first zero c rfl
      unfold digitOf at full
      omega
  obtain ⟨n, reads⟩ := later k positive_count within
  refine ⟨n, (gives_bump 46 _).bind ((gives_digitsAhead digits stops).bind ?_)⟩
  split
  · rename_i none
    exact absurd (List.map_eq_nil_iff.mp none) nonempty
  · rw [eq]
    refine (gives_skip_digits digits rest).bind ?_
    simpa using reads

theorem gives_exponentOrEnd_end {positive : Bool} {significand : Nat} {exponent : Int} {rest : Bytes}
    (found : (real? positive significand exponent).isSome = true) (delimited : Delimited rest) :
    ∃ n, Gives (exponentOrEnd positive significand exponent) rest n rest := by
  obtain ⟨n, reads⟩ := gives_finishReal found rest
  refine ⟨n, (gives_peek_head rest).bind ?_⟩
  cases rest with
  | nil => exact reads
  | cons b rest => rcases delimited b rfl with rfl | rfl | rfl <;> exact reads

theorem gives_exponentPart_up {positive : Bool} {significand : Nat} {exponent : Int} {cs : List Char}
    (digits : ∀ c ∈ cs, c.isDigit = true) (nonempty : cs ≠ []) (fits : Nat.ofDigitChars 10 cs 0 ≤ 2 ^ 31 - 1)
    {rest : Bytes} (delimited : Delimited rest)
    (found : (real? positive significand (exponent + (Nat.ofDigitChars 10 cs 0 : Nat))).isSome = true) :
    ∃ n, Gives (exponentPart positive significand exponent)
      (101 :: 43 :: (cs.flatMap String.utf8EncodeChar ++ rest)) n rest := by
  obtain ⟨n, reads⟩ := gives_finishReal found rest
  refine ⟨n, (gives_bump 101 _).bind ((gives_peek 43 _).bind ((gives_bump 43 _).bind
    ((gives_pure true _).bind ((gives_digitsAhead digits delimited.stops).bind ?_))))⟩
  split
  · rename_i none
    exact absurd (List.map_eq_nil_iff.mp none) nonempty
  · rw [exponentOverflow_none fits]
    refine (gives_skip_digits digits rest).bind ?_
    rw [natOfDigits_map]
    exact reads

theorem gives_exponentPart_down {positive : Bool} {significand : Nat} {exponent : Int} {cs : List Char}
    (digits : ∀ c ∈ cs, c.isDigit = true) (nonempty : cs ≠ []) (shift : 0 < Nat.ofDigitChars 10 cs 0)
    (low : exponent ≤ 0) {rest : Bytes} (delimited : Delimited rest) :
    ∃ n, Gives (exponentPart positive significand exponent)
      (101 :: 45 :: (cs.flatMap String.utf8EncodeChar ++ rest)) n rest := by
  have negative : exponent - (Nat.ofDigitChars 10 cs 0 : Nat) < 0 := by omega
  obtain ⟨n, reads⟩ := gives_finishReal (real?_of_negative positive significand negative) rest
  cases overflow : exponentOverflow 0 0 (cs.map digitOf) with
  | some taken =>
    refine ⟨.real (.zero (!positive)), (gives_bump 101 _).bind ((gives_peek 45 _).bind ((gives_bump 45 _).bind
      ((gives_pure false _).bind ((gives_digitsAhead digits delimited.stops).bind ?_))))⟩
    split
    · rename_i none
      exact absurd (List.map_eq_nil_iff.mp none) nonempty
    · simp only [overflow, Bool.false_eq_true, and_false, if_false]
      exact (gives_skip_digits digits rest).bind (gives_pure _ rest)
  | none =>
    refine ⟨n, (gives_bump 101 _).bind ((gives_peek 45 _).bind ((gives_bump 45 _).bind
      ((gives_pure false _).bind ((gives_digitsAhead digits delimited.stops).bind ?_))))⟩
    split
    · rename_i none
      exact absurd (List.map_eq_nil_iff.mp none) nonempty
    · rw [overflow]
      refine (gives_skip_digits digits rest).bind ?_
      rw [natOfDigits_map]
      exact reads

theorem gives_pointed (positive : Bool) {whole fraction : List Char} (wholeDigits : ∀ c ∈ whole, c.isDigit = true)
    (proper : Proper whole) (short : whole.length ≤ 16) (digits : ∀ c ∈ fraction, c.isDigit = true)
    (nonempty : fraction ≠ []) {rest : Bytes} (delimited : Delimited rest) :
    ∃ n, Gives (unsigned positive) (whole.flatMap String.utf8EncodeChar ++
      46 :: (fraction.flatMap String.utf8EncodeChar ++ rest)) n rest := by
  have bound : Nat.ofDigitChars 10 whole 0 < 10 ^ 16 := by
    have below := ofDigitChars_lt wholeDigits 0
    rw [Nat.zero_add, Nat.one_mul] at below
    exact Nat.lt_of_lt_of_le below (Nat.pow_le_pow_right (by decide) short)
  have word : greatestWord = 18446744073709551615 := by decide
  obtain ⟨n, reads⟩ := gives_fractionPart positive (Nat.ofDigitChars 10 whole 0) digits
    nonempty (by omega) delimited.stops
    fun k some _ => gives_exponentOrEnd_end (real?_of_negative positive _ (by omega)) delimited
  refine ⟨n, gives_unsigned wholeDigits proper (by omega) ?_ ((gives_peek 46 _).bind reads)⟩
  intro b same
  cases Option.some.inj same
  rfl

theorem gives_scientific (positive : Bool) {c : Char} {tail : List Char} (digits : ∀ d ∈ c :: tail, d.isDigit = true)
    (nonzero : c ≠ '0') (lead : Int) (room : lead ≤ 2 ^ 31 - 1)
    (found : 0 ≤ lead → ∀ k ≤ tail.length,
      (real? positive (Nat.ofDigitChars 10 ((c :: tail).take (k + 1)) 0) (lead - k)).isSome = true)
    {rest : Bytes} (delimited : Delimited rest) :
    ∃ n, Gives (unsigned positive) ([c].flatMap String.utf8EncodeChar ++
      ((if tail.isEmpty then [] else 46 :: tail.flatMap String.utf8EncodeChar) ++
        101 :: (if lead < 0 then 45 else 43) ::
          ((Nat.toDigits 10 lead.natAbs).flatMap String.utf8EncodeChar ++ rest))) n rest := by
  have shift : Nat.ofDigitChars 10 (Nat.toDigits 10 lead.natAbs) 0 = lead.natAbs :=
    Nat.ofDigitChars_toDigits (by decide) (by decide)
  have digit : ∀ d ∈ [c], d.isDigit = true := by
    intro d mem
    exact digits d (by simp_all)
  have part : ∀ k ≤ tail.length, ∃ n,
      Gives (exponentPart positive (Nat.ofDigitChars 10 ((c :: tail).take (k + 1)) 0) (-k))
        (101 :: (if lead < 0 then 45 else 43) ::
          ((Nat.toDigits 10 lead.natAbs).flatMap String.utf8EncodeChar ++ rest)) n rest := by
    intro k within
    split
    · exact gives_exponentPart_down (toDigits_digits _) Nat.toDigits_ne_nil (by omega) (by omega) delimited
    · rename_i up
      refine gives_exponentPart_up (toDigits_digits _) Nat.toDigits_ne_nil (by omega) delimited ?_
      rw [shift, show -(k : Int) + (lead.natAbs : Nat) = lead - k by omega]
      exact found (by omega) k within
  have first : Nat.ofDigitChars 10 [c] 0 < 10 := by simpa using ofDigitChars_lt digit 0
  have word : greatestWord = 18446744073709551615 := by decide
  have start : ∀ {next : Bytes} {n : Number}, (∀ b ∈ next.head?, isDigit b = false) →
      Gives (numberTail positive (Nat.ofDigitChars 10 [c] 0)) next n rest →
      Gives (unsigned positive) ([c].flatMap String.utf8EncodeChar ++ next) n rest :=
    fun stops later => gives_unsigned digit (.inr ⟨c, [], rfl, nonzero⟩) (by omega) stops later
  cases tail with
  | nil =>
    obtain ⟨n, reads⟩ := part 0 (Nat.le_refl _)
    refine ⟨n, start ?_ ((gives_peek 101 _).bind reads)⟩
    intro b same
    cases Option.some.inj same
    rfl
  | cons d tail =>
    have stops : ∀ b ∈ (101 :: (if lead < 0 then 45 else 43) ::
        ((Nat.toDigits 10 lead.natAbs).flatMap String.utf8EncodeChar ++ rest)).head?, isDigit b = false := by
      intro b same
      cases Option.some.inj same
      rfl
    obtain ⟨n, reads⟩ := gives_fractionPart positive (Nat.ofDigitChars 10 [c] 0)
      (fun x (mem : x ∈ d :: tail) => digits x (by simp_all)) (by simp) (by omega) stops fun k _ within => by
        obtain ⟨n, reads⟩ := part k within
        rw [List.take_succ_cons, Nat.ofDigitChars_cons] at reads
        exact ⟨n, (gives_peek 101 _).bind reads⟩
    refine ⟨n, start ?_ ((gives_peek 46 _).bind reads)⟩
    intro b same
    cases Option.some.inj same
    rfl

theorem pointed_parts {n : Nat} (some : 0 < n) {exponent : Int}
    (small : exponent + (Nat.toDigits 10 n).length - 1 ≤ 15) :
    ∃ whole fraction, (pointed (toString n) exponent ".0").toList = whole ++ '.' :: fraction ∧
      (∀ c ∈ whole, c.isDigit = true) ∧ Proper whole ∧ whole.length ≤ 16 ∧
      (∀ c ∈ fraction, c.isDigit = true) ∧ fraction ≠ [] := by
  have digits := toDigits_digits n
  have zeros : ∀ k, ∀ c ∈ List.replicate k '0', c.isDigit = true := by
    intro k c mem
    rw [List.eq_of_mem_replicate mem]
    rfl
  have leading : ∃ c later, Nat.toDigits 10 n = c :: later ∧ c ≠ '0' := by
    rcases proper_toDigits n with zero | head
    · have value := Nat.ofDigitChars_toDigits (b := 10) (n := n) (by decide) (by decide)
      rw [zero] at value
      have : n = 0 := value.symm
      omega
    · exact head
  obtain ⟨c, later, eq, nonzero⟩ := leading
  have length : (toString n).length = (Nat.toDigits 10 n).length := by
    rw [Nat.toString_eq_repr, ← String.length_toList, Nat.toList_repr]
  unfold pointed
  simp only [length]
  split
  · rename_i whole
    refine ⟨Nat.toDigits 10 n ++ List.replicate exponent.toNat '0', ['0'], ?_, ?_, ?_, ?_, ?_, ?_⟩
    · simp [Binary64.zeros]
    · intro d mem
      rcases List.mem_append.mp mem with left | right
      · exact digits d left
      · exact zeros _ d right
    · exact .inr ⟨c, later ++ _, by rw [eq, List.cons_append], nonzero⟩
    · rw [List.length_append, List.length_replicate]
      omega
    · simp
    · simp
  · rename_i part
    split
    · rename_i inside
      refine ⟨(Nat.toDigits 10 n).take (exponent + (Nat.toDigits 10 n).length).toNat,
        (Nat.toDigits 10 n).drop (exponent + (Nat.toDigits 10 n).length).toNat, ?_, ?_, ?_, ?_, ?_, ?_⟩
      · simp
      · exact fun d mem => digits d (List.mem_of_mem_take mem)
      · obtain ⟨place, split⟩ : ∃ place, (exponent + (Nat.toDigits 10 n).length).toNat = place + 1 :=
          ⟨(exponent + (Nat.toDigits 10 n).length).toNat - 1, by omega⟩
        rw [split, eq, List.take_succ_cons]
        exact .inr ⟨c, later.take place, rfl, nonzero⟩
      · rw [List.length_take]
        omega
      · exact fun d mem => digits d (List.mem_of_mem_drop mem)
      · rw [ne_eq, List.drop_eq_nil_iff]
        omega
    · refine ⟨['0'], List.replicate (-(exponent + (Nat.toDigits 10 n).length)).toNat '0' ++ Nat.toDigits 10 n,
        ?_, ?_, .inl rfl, by decide, ?_, ?_⟩
      · simp [Binary64.zeros]
      · simp
      · intro d mem
        rcases List.mem_append.mp mem with left | right
        · exact zeros _ d left
        · exact digits d right
      · simp

/-- Only the three greatest numbers come so close to the limit that the roundings have to be followed. -/
theorem real?_top : ∀ (positive : Bool) (j : Fin 3),
    (Nat.toDigits 10 (shortest .even (2 ^ 53 - 1 - j) 971).digits).length ≤ 17 ∧
    ∀ k : Fin 17, (real? positive
      (Nat.ofDigitChars 10 ((Nat.toDigits 10 (shortest .even (2 ^ 53 - 1 - j) 971).digits).take (k + 1)) 0)
      ((shortest .even (2 ^ 53 - 1 - j) 971).exponent
        + (Nat.toDigits 10 (shortest .even (2 ^ 53 - 1 - j) 971).digits).length - 1 - k)).isSome = true := by
  decide +kernel

theorem midpoint_le {m : Nat} {e : Int} (bits : m < 2 ^ 53) (range : e ≤ 971) :
    (m + 1 / 2 : ℚ) * 2 ^ e ≤ limit := by
  have significand : (m : ℚ) ≤ 2 ^ 53 - 1 := by
    have : (m + 1 : ℚ) ≤ 2 ^ 53 := by exact_mod_cast bits
    linarith
  have power : (2 : ℚ) ^ e ≤ 2 ^ (971 : ℤ) := zpow_le_zpow_right₀ (by norm_num) range
  exact mul_le_mul (by linarith only [significand]) power (by positivity) (by norm_num)

theorem midpoint_safe {m : Nat} {e : Int} (bits : m < 2 ^ 53) (range : e ≤ 971)
    (below : e ≠ 971 ∨ m < 2 ^ 53 - 3) : (m + 1 / 2 : ℚ) * 2 ^ e ≤ safe := by
  have unit : (0 : ℚ) < 2 ^ (971 : ℤ) := by positivity
  unfold safe
  rcases below with lower | fewer
  · have significand : (m : ℚ) < 2 ^ 53 := by exact_mod_cast bits
    have power : (2 : ℚ) ^ e ≤ 2 ^ (970 : ℤ) := zpow_le_zpow_right₀ (by norm_num) (by omega)
    have half : (2 : ℚ) ^ (971 : ℤ) = 2 ^ (970 : ℤ) * 2 := by
      rw [← zpow_add_one₀ two_ne_zero]
      rfl
    calc (m + 1 / 2 : ℚ) * 2 ^ e ≤ (2 ^ 53 + 1 / 2) * 2 ^ (970 : ℤ) := by gcongr
      _ ≤ (2 ^ 53 - 7 / 2) * 2 * 2 ^ (970 : ℤ) := by gcongr; norm_num
      _ = (2 ^ 53 - 7 / 2) * 2 ^ (971 : ℤ) := by rw [half]; ring
  · have significand : (m : ℚ) ≤ 2 ^ 53 - 4 := by
      have whole : m + 4 ≤ 2 ^ 53 := by omega
      have : (m + 4 : ℚ) ≤ 2 ^ 53 := by exact_mod_cast whole
      linarith
    have power : (2 : ℚ) ^ e ≤ 2 ^ (971 : ℤ) := zpow_le_zpow_right₀ (by norm_num) range
    exact mul_le_mul (by linarith only [significand]) power (by positivity) (by norm_num)

theorem real?_of_shortest (positive : Bool) {m : Nat} {e : Int} (some : m ≠ 0) (bits : m < 2 ^ 53) (range : e ≤ 971)
    {k : Nat} (within : k < (Nat.toDigits 10 (shortest .even m e).digits).length) :
    (real? positive (Nat.ofDigitChars 10 ((Nat.toDigits 10 (shortest .even m e).digits).take (k + 1)) 0)
      ((shortest .even m e).exponent + (Nat.toDigits 10 (shortest .even m e).digits).length - 1 - k)).isSome = true := by
  by_cases negative : (shortest .even m e).exponent + (Nat.toDigits 10 (shortest .even m e).digits).length - 1 - k < 0
  · exact real?_of_negative positive _ negative
  by_cases below : e ≠ 971 ∨ m < 2 ^ 53 - 3
  · obtain ⟨power, shift⟩ := Int.eq_ofNat_of_zero_le (Int.not_lt.mp negative)
    obtain ⟨_, size⟩ := shortest_spec .even e some bits
    rw [shift]
    refine real?_of_safe positive (le_trans ?_ (le_trans size (midpoint_safe bits range below)))
    have value : Nat.ofDigitChars 10 (Nat.toDigits 10 (shortest .even m e).digits) 0 = (shortest .even m e).digits :=
      Nat.ofDigitChars_toDigits (by decide) (by decide)
    have front := ofDigitChars_take_le (Nat.toDigits 10 (shortest .even m e).digits) (k + 1)
    rw [value] at front
    generalize Nat.ofDigitChars 10 ((Nat.toDigits 10 (shortest .even m e).digits).take (k + 1)) 0 = taken at *
    have cast : (taken : ℚ) * 10 ^ ((Nat.toDigits 10 (shortest .even m e).digits).length - (k + 1))
        ≤ (shortest .even m e).digits := by exact_mod_cast front
    calc (taken : ℚ) * 10 ^ power
        = taken * 10 ^ ((Nat.toDigits 10 (shortest .even m e).digits).length - (k + 1))
          * 10 ^ (shortest .even m e).exponent := by
          rw [mul_assoc, ← zpow_natCast, ← zpow_natCast, ← zpow_add₀ (by norm_num)]
          congr 2
          omega
      _ ≤ (shortest .even m e).digits * 10 ^ (shortest .even m e).exponent := by gcongr
      _ = (shortest .even m e).size := rfl
  · rw [not_or, not_not] at below
    obtain ⟨rfl, top⟩ := below
    obtain ⟨j, rfl⟩ : ∃ j : Fin 3, m = 2 ^ 53 - 1 - j :=
      ⟨⟨2 ^ 53 - 1 - m, by omega⟩, by simp only; omega⟩
    obtain ⟨length, all⟩ := real?_top positive j
    exact all ⟨k, Nat.lt_of_lt_of_le within length⟩

theorem lead_lt {m : Nat} {e : Int} (some : m ≠ 0) (bits : m < 2 ^ 53) (range : e ≤ 971) :
    (shortest .even m e).exponent + (Nat.toDigits 10 (shortest .even m e).digits).length - 1 < 309 := by
  obtain ⟨positive, size⟩ := shortest_spec .even e some bits
  have leading := pow_digitCount_le positive
  have count : 0 < (Nat.toDigits 10 (shortest .even m e).digits).length := Nat.length_toDigits_pos
  have cast : (10 : ℚ) ^ ((Nat.toDigits 10 (shortest .even m e).digits).length - 1) ≤ (shortest .even m e).digits := by
    exact_mod_cast leading
  have power : (10 : ℚ) ^ ((shortest .even m e).exponent + (Nat.toDigits 10 (shortest .even m e).digits).length - 1)
      < 10 ^ (309 : ℤ) := by
    calc (10 : ℚ) ^ ((shortest .even m e).exponent + (Nat.toDigits 10 (shortest .even m e).digits).length - 1)
        = 10 ^ ((Nat.toDigits 10 (shortest .even m e).digits).length - 1) * 10 ^ (shortest .even m e).exponent := by
          rw [← zpow_natCast, ← zpow_add₀ (by norm_num)]
          congr 1
          omega
      _ ≤ (shortest .even m e).digits * 10 ^ (shortest .even m e).exponent := by gcongr
      _ ≤ limit := le_trans size (midpoint_le bits range)
      _ < 10 ^ (309 : ℤ) := limit_lt
  exact (zpow_lt_zpow_iff_right₀ (by norm_num : (1 : ℚ) < 10)).mp power

theorem signText_bytes (negative : Bool) :
    (signText negative).toList.flatMap String.utf8EncodeChar = if negative then [45] else [] := by
  cases negative <;> decide

theorem fraction_bytes (tail : List Char) :
    (if (String.ofList tail).isEmpty then "" else "." ++ String.ofList tail).toList.flatMap String.utf8EncodeChar
      = if tail.isEmpty then [] else 46 :: tail.flatMap String.utf8EncodeChar := by
  have point : String.utf8EncodeChar '.' = [46] := by decide
  cases tail with
  | nil => rfl
  | cons c tail => simp [point]

theorem exponentSign_bytes (lead : Int) :
    (if lead < 0 then "-" else "+").toList.flatMap String.utf8EncodeChar = [if lead < 0 then 45 else 43] := by
  split <;> decide

theorem numeral_real (negative : Bool) {m : Nat} {e : Int} (bits : m < 2 ^ 53) (range : e ≤ 971) {rest : Bytes}
    (delimited : Delimited rest) :
    ∃ n, Numeral ((numberText (.real (.finite negative m e))).toList.flatMap String.utf8EncodeChar ++ rest) n rest := by
  have point : String.utf8EncodeChar '.' = [46] := by decide
  simp only [numberText, Binary64.isFinite, if_true, scientificText]
  split
  · rename_i zero
    have digits : ∀ c ∈ ['0'], c.isDigit = true := List.forall_mem_singleton.mpr rfl
    obtain ⟨n, reads⟩ := gives_pointed (!negative) digits (.inl rfl) (by decide) digits (List.cons_ne_nil _ _) delimited
    refine ⟨n, ?_⟩
    rw [String.toList_append, List.flatMap_append, signText_bytes, List.append_assoc]
    exact numeral_of_unsigned negative digits (List.cons_ne_nil _ _) reads
  · rename_i nonzero
    obtain ⟨some, _⟩ := shortest_spec .even e nonzero bits
    have length : (toString (shortest .even m e).digits).length
        = (Nat.toDigits 10 (shortest .even m e).digits).length := by
      rw [Nat.toString_eq_repr, ← String.length_toList, Nat.toList_repr]
    simp only [length]
    split
    · rename_i positional
      obtain ⟨whole, fraction, form, wholeDigits, proper, short, digits, nonempty⟩ := pointed_parts some positional.2
      obtain ⟨n, reads⟩ := gives_pointed (!negative) wholeDigits proper short digits nonempty delimited
      refine ⟨n, ?_⟩
      have head : whole ≠ [] := by
        rintro rfl
        rcases proper with zero | ⟨_, _, cons, _⟩
        · cases zero
        · cases cons
      rw [String.toList_append, form]
      simp only [List.flatMap_append, List.flatMap_cons, signText_bytes, point, List.append_assoc, List.cons_append,
        List.nil_append]
      exact numeral_of_unsigned negative wholeDigits head reads
    · rename_i placed
      have leading : ∃ c tail, Nat.toDigits 10 (shortest .even m e).digits = c :: tail ∧ c ≠ '0' := by
        rcases proper_toDigits (shortest .even m e).digits with zero | head
        · have value := Nat.ofDigitChars_toDigits (b := 10) (n := (shortest .even m e).digits) (by decide) (by decide)
          rw [zero] at value
          have : (shortest .even m e).digits = 0 := value.symm
          omega
        · exact head
      obtain ⟨c, tail, eq, first⟩ := leading
      have all := toDigits_digits (shortest .even m e).digits
      have found := fun k => real?_of_shortest (!negative) nonzero bits range (k := k)
      have room := lead_lt nonzero bits range
      rw [eq] at all found room
      obtain ⟨n, reads⟩ := gives_scientific (!negative) all first
        ((shortest .even m e).exponent + (c :: tail).length - 1) (by omega)
        (fun _ k within => found k (Nat.lt_succ_of_le within)) delimited
      refine ⟨n, ?_⟩
      have numeral := numeral_of_unsigned negative (fun d (mem : d ∈ [c]) => all d (by simp_all)) (by simp) reads
      have mark : String.utf8EncodeChar 'e' = [101] := by decide
      simp only [Nat.toString_eq_repr, String.toList_append, Nat.toList_repr, eq, List.flatMap_append, signText_bytes,
        String.toList_ofList, List.take_succ_cons, List.take_zero, List.drop_succ_cons, List.drop_zero]
      rw [fraction_bytes, exponentSign_bytes]
      simpa [mark] using numeral

end Journal.Json.Reader
