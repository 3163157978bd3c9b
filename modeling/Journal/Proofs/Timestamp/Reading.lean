import Journal.Proofs.Text.Digits
import Journal.Proofs.Timestamp

/-!
What is known of every timestamp that is read, whatever its text looks like. Its year has four digits, its offset is a
number of minutes that is less than a day, and a leap second ends its minute.
-/
namespace Journal.Timestamp

structure Told (t : Timestamp) : Prop where
  year : 0 ≤ t.date.year ∧ t.date.year ≤ 9999
  nanoseconds : t.nanoseconds < 2 * billion
  offset : -greatestOffset ≤ t.offset ∧ t.offset ≤ greatestOffset
  minutes : t.offset % 60 = 0
  leap : billion ≤ t.nanoseconds → t.seconds % 60 = 59

def Reads {α : Type} (P : α → Prop) (result : Except ReadError α) : Prop := ∀ a, result = .ok a → P a

variable {α β : Type} {P : α → Prop} {Q : β → Prop}

theorem reads_ok {a : α} (here : P a) : Reads P (.ok a) := by
  rintro _ ⟨⟩
  exact here

theorem reads_error (error : ReadError) : Reads P (.error error) := by
  rintro _ ⟨⟩

theorem Reads.bind {result : Except ReadError α} {f : α → Except ReadError β} (first : Reads P result)
    (second : ∀ a, P a → Reads Q (f a)) : Reads Q (result >>= f) := by
  cases result with
  | error error => exact reads_error error
  | ok a => exact second a (first a rfl)

theorem reads_after {result : Except ReadError α} {f : α → Except ReadError β} (second : ∀ a, Reads Q (f a)) :
    Reads Q (result >>= f) := by
  have anything : Reads (fun _ : α => True) result := fun _ _ => trivial
  exact anything.bind fun a _ => second a

theorem digit_le {c : Char} {d : Nat} (digit : digit? c = some d) : d ≤ 9 := by
  unfold digit? at digit
  split at digit <;> cases digit
  rename_i decimal
  have bounds := digit_char_bounds decimal
  show c.toNat - 48 ≤ 9
  omega

theorem reads_digits (count value : Nat) (s : List Char) :
    Reads (fun found => found.1 < (value + 1) * 10 ^ count) (digits count value s) := by
  induction count generalizing value s with
  | zero => exact reads_ok (by simp)
  | succ count ih =>
    cases s with
    | nil => exact reads_error _
    | cons c rest =>
      rw [digits]
      split
      · exact reads_error _
      · rename_i d digit
        have small := digit_le digit
        intro found given
        calc found.1 < (10 * value + d + 1) * 10 ^ count := ih _ _ found given
          _ ≤ ((value + 1) * 10) * 10 ^ count := Nat.mul_le_mul_right _ (by omega)
          _ = (value + 1) * 10 ^ (count + 1) := by rw [Nat.pow_succ', Nat.mul_assoc]

theorem fraction_lt {ds : List Char} (digits : ∀ c ∈ ds, c.isDigit = true) :
    Nat.ofDigitChars 10 (ds.take 9) 0 * 10 ^ (9 - (ds.take 9).length) < billion := by
  have short : (ds.take 9).length ≤ 9 := List.length_take_le ..
  have kept : ∀ c ∈ ds.take 9, c.isDigit = true := fun c member => digits c (List.mem_of_mem_take member)
  have value := ofDigitChars_lt kept 0
  calc Nat.ofDigitChars 10 (ds.take 9) 0 * 10 ^ (9 - (ds.take 9).length)
      < (0 + 1) * 10 ^ (ds.take 9).length * 10 ^ (9 - (ds.take 9).length) :=
        Nat.mul_lt_mul_of_pos_right value (Nat.pow_pos (by decide))
    _ = 10 ^ 9 := by rw [Nat.zero_add, Nat.one_mul, ← Nat.pow_add, Nat.add_sub_cancel' short]

theorem reads_readFraction (s : List Char) : Reads (fun found => found.1 < billion) (readFraction s) := by
  have nothing : 0 < billion := by decide
  unfold readFraction
  split
  · rename_i rest
    split
    · exact reads_error _
    · refine reads_ok ?_
      rw [← Nat.ofDigitChars_eq_foldl]
      exact fraction_lt (List.all_eq_true.mp (List.all_takeWhile ..))
  · exact reads_ok nothing

theorem reads_readDate (s : List Char) :
    Reads (fun found => found.1.isValid = true ∧ 0 ≤ found.1.year ∧ found.1.year ≤ 9999) (readDate s) := by
  refine (reads_digits 4 0 s).bind fun ⟨year, _⟩ small => ?_
  refine reads_after fun _ => reads_after fun ⟨month, _⟩ => reads_after fun _ => reads_after fun ⟨day, _⟩ => ?_
  dsimp only
  split
  · rename_i valid
    refine reads_ok ⟨valid, ?_⟩
    dsimp only at small ⊢
    omega
  · exact reads_error _

theorem reads_readTime (s : List Char) :
    Reads (fun found => found.1.1 < 86400 ∧ found.1.2 < 2 * billion ∧ (billion ≤ found.1.2 → found.1.1 % 60 = 59))
      (readTime s) := by
  refine reads_after fun ⟨hour, _⟩ => reads_after fun _ => reads_after fun ⟨minute, _⟩ => reads_after fun _ => ?_
  refine reads_after fun ⟨second, _⟩ => (reads_readFraction _).bind fun ⟨nanoseconds, _⟩ small => ?_
  dsimp only at small ⊢
  split
  · exact reads_error _
  · rename_i within
    split
    · refine reads_ok ?_
      dsimp only
      omega
    · refine reads_ok ?_
      dsimp only
      omega

theorem reads_readOffset (s : List Char) : Reads (fun found => found.1 % 60 = 0) (readOffset s) := by
  unfold readOffset
  split
  · exact reads_error _
  · split
    · exact reads_ok rfl
    · dsimp only
      split
      · exact reads_error _
      · refine reads_after fun ⟨hours, _⟩ => reads_after fun _ => reads_after fun ⟨minutes, _⟩ => reads_ok ?_
        dsimp only
        split <;> omega

theorem reads_ofChars (s : List Char) : Reads Told (ofChars s) := by
  refine (reads_readDate s).bind fun ⟨date, _⟩ ⟨valid, year⟩ => reads_after fun _ => ?_
  refine (reads_readTime _).bind fun ⟨⟨second, nanoseconds⟩, _⟩ ⟨day, small, leap⟩ => ?_
  refine (reads_readOffset _).bind fun ⟨offset, rest⟩ minutes => ?_
  dsimp only at *
  split
  · exact reads_error _
  · split
    · exact reads_error _
    · rename_i within
      refine reads_ok ?_
      have here : Timestamp.date ⟨date.toDay * 86400 + second - offset, nanoseconds, offset⟩ = date := by
        have days : (date.toDay * 86400 + second - offset + offset) / 86400 = date.toDay := by omega
        rw [Timestamp.date, localSeconds, days, Date.ofDay_toDay valid]
      have inside : -greatestOffset ≤ offset ∧ offset ≤ greatestOffset := by omega
      refine ⟨by rw [here]; exact year, small, inside, minutes, ?_⟩
      intro sixtieth
      have last := leap sixtieth
      dsimp only
      omega

theorem told_of_ofText {s : String} {t : Timestamp} (reads : ofText s = .ok t) : t.Told := by
  unfold ofText at reads
  split at reads
  · cases reads
  · exact reads_ofChars _ t reads

end Journal.Timestamp
