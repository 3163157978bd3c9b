import Journal.Proofs.Calendar
import Journal.Timestamp.Reader
/-!
The text of a timestamp is read again if it shows a year of four digits and an offset of less than a day. Then the
text loses the seconds of the offset, and nothing else.
-/
namespace Journal.Timestamp

theorem digits_read {cs : List Char} (all : ∀ c ∈ cs, c.isDigit = true) (value : Nat) (rest : List Char) :
    digits cs.length value (cs ++ rest) = .ok (Nat.ofDigitChars 10 cs value, rest) := by
  induction cs generalizing value with
  | nil => rfl
  | cons c cs ih =>
    have digit : digit? c = some (c.toNat - '0'.toNat) := by
      rw [digit?, if_pos (all c (by simp))]
    rw [List.length_cons, List.cons_append, digits, digit, Nat.ofDigitChars_cons]
    exact ih (fun d mem => all d (by simp [mem])) _

theorem padded_digits (width n : Nat) : ∀ c ∈ padded width n, c.isDigit = true := by
  intro c mem
  rcases List.mem_append.mp mem with zero | digit
  · rw [List.eq_of_mem_replicate zero]
    rfl
  · exact Nat.isDigit_of_mem_toDigits (by decide) (by decide) digit

theorem length_padded {width n : Nat} (positive : 0 < width) (fits : n < 10 ^ width) :
    (padded width n).length = width := by
  have short : (Nat.toDigits 10 n).length ≤ width := (Nat.length_toDigits_le_iff (by decide) positive).mpr fits
  simp only [padded, List.length_append, List.length_replicate]
  omega

theorem value_padded (width n : Nat) : Nat.ofDigitChars 10 (padded width n) 0 = n := by
  rw [padded, Nat.ofDigitChars_append, Nat.ofDigitChars_replicate_zero, Nat.mul_zero,
    Nat.ofDigitChars_toDigits (by decide) (by decide)]

theorem digits_padded (width : Nat) {n : Nat} (positive : 0 < width) (fits : n < 10 ^ width) (rest : List Char) :
    digits width 0 (padded width n ++ rest) = .ok (n, rest) := by
  have reads := digits_read (padded_digits width n) 0 rest
  rwa [length_padded positive fits, value_padded] at reads

theorem readHours_padded {n : Nat} (fits : n < 100) (rest : List Char) :
    readHours (padded 2 n ++ rest) = .ok (n, rest) := by
  have all := padded_digits 2 n
  have value := value_padded 2 n
  have length : (padded 2 n).length = 2 := length_padded (by decide) fits
  obtain ⟨a, tail, shape⟩ := List.exists_cons_of_length_pos (length ▸ Nat.two_pos)
  rw [shape, List.length_cons, Nat.succ_inj] at length
  obtain ⟨b, rfl⟩ := List.length_eq_one_iff.mp length
  rw [shape] at all value ⊢
  have first : digit? a = some (a.toNat - '0'.toNat) := by rw [digit?, if_pos (all a (by simp))]
  have second : digit? b = some (b.toNat - '0'.toNat) := by rw [digit?, if_pos (all b (by simp))]
  rw [Nat.ofDigitChars_cons, Nat.ofDigitChars_cons, Nat.ofDigitChars_nil, Nat.mul_zero, Nat.zero_add] at value
  simp only [readHours, List.cons_append, List.nil_append, pair, bind, Except.bind, first, second, value]
  rfl

theorem separator_read (accepted : List Char) {c : Char} (known : accepted.contains c = true) (rest : List Char) :
    separator accepted (c :: rest) = .ok rest := by
  rw [separator, if_pos known]

theorem readDate_chars {d : Date} (positive : 0 ≤ d.year) (small : d.year ≤ 9999) (valid : d.isValid = true)
    (rest : List Char) :
    readDate (yearChars d.year ++ '-' :: (padded 2 d.month ++ '-' :: (padded 2 d.day ++ rest))) = .ok (d, rest) := by
  have bounds : d.month ≤ 12 ∧ d.day ≤ 31 := by
    simp only [Date.isValid, Bool.and_eq_true, decide_eq_true_iff] at valid
    have month : Date.daysIn d.year d.month ≤ 31 := by
      unfold Date.daysIn
      split
      · split <;> omega
      all_goals omega
    omega
  have year : ((d.year.toNat : Nat) : Int) = d.year := Int.toNat_of_nonneg positive
  rw [yearChars, if_pos ⟨positive, small⟩]
  simp only [readDate, bind, Except.bind, digits_padded 4 (n := d.year.toNat) (by decide) (by omega),
    separator_read ['-'] (c := '-') rfl,
    digits_padded 2 (n := d.month) (by decide) (by omega),
    digits_padded 2 (n := d.day) (by decide) (by omega), year, valid, if_true]
  rfl

theorem readDate_signed {year : Int} (outside : ¬ (0 ≤ year ∧ year ≤ 9999)) (rest : List Char) :
    ∃ error, readDate (yearChars year ++ rest) = .error error := by
  refine ⟨.invalid, ?_⟩
  rw [yearChars, if_neg outside]
  split <;> rfl

theorem readFraction_none {rest : List Char} (other : ∀ c ∈ rest.head?, c ≠ '.') : readFraction rest = .ok (0, rest) := by
  cases rest with
  | nil => rfl
  | cons c rest =>
    have different := other c rfl
    unfold readFraction
    split
    · rename_i same
      exact absurd (List.cons.inj same).1 different
    · rfl

theorem readFraction_digits {width n : Nat} (positive : 0 < width) (short : width ≤ 9) (fits : n < 10 ^ width)
    {rest : List Char} (stops : ∀ c ∈ rest.head?, c.isDigit = false) :
    readFraction ('.' :: (padded width n ++ rest)) = .ok (n * 10 ^ (9 - width), rest) := by
  have length := length_padded positive fits
  have run : (padded width n ++ rest).takeWhile Char.isDigit = padded width n := by
    have none : rest.takeWhile Char.isDigit = [] := by
      cases rest with
      | nil => rfl
      | cons c rest => rw [List.takeWhile_cons, stops c rfl]; rfl
    rw [List.takeWhile_append_of_pos (padded_digits width n), none, List.append_nil]
  have kept : (padded width n).take 9 = padded width n := List.take_of_length_le (by omega)
  have value : (padded width n).foldl (fun n c => 10 * n + (c.toNat - '0'.toNat)) 0 = n := by
    rw [← Nat.ofDigitChars_eq_foldl, value_padded]
  have some : padded width n ≠ [] := List.ne_nil_of_length_pos (by omega)
  unfold readFraction
  simp only [run]
  rw [kept, value, length, List.drop_left' length]

theorem readFraction_chars {nanoseconds : Nat} (fits : nanoseconds < billion) {rest : List Char}
    (sign : ∀ c ∈ rest.head?, c = '+' ∨ c = '-') :
    readFraction (fractionChars nanoseconds ++ rest) = .ok (nanoseconds, rest) := by
  have stops : ∀ c ∈ rest.head?, c.isDigit = false := by
    intro c mem
    rcases sign c mem with rfl | rfl <;> rfl
  unfold billion at fits
  unfold fractionChars
  split
  · rename_i zero
    rw [zero]
    refine readFraction_none fun c mem => ?_
    rcases sign c mem with rfl | rfl <;> decide
  · split
    · rw [List.cons_append, readFraction_digits (by decide) (by decide) (by omega) stops]
      congr 2
      omega
    · split
      · rw [List.cons_append, readFraction_digits (by decide) (by decide) (by omega) stops]
        congr 2
        omega
      · rw [List.cons_append, readFraction_digits (by decide) (by decide) (by omega) stops]
        congr 2
        omega

theorem readTime_chars {hour minute second nanoseconds : Nat} (hours : hour < 24) (minutes : minute < 60)
    (seconds : second ≤ 60) (fits : nanoseconds < billion) {rest : List Char}
    (sign : ∀ c ∈ rest.head?, c = '+' ∨ c = '-') :
    readTime (padded 2 hour ++ ':' :: (padded 2 minute ++ ':' :: (padded 2 second ++
        (fractionChars nanoseconds ++ rest))))
      = .ok (if second = 60 then (hour * 3600 + minute * 60 + 59, nanoseconds + billion)
          else (hour * 3600 + minute * 60 + second, nanoseconds), rest) := by
  have within : ¬ (24 ≤ hour ∨ 60 ≤ minute ∨ 60 < second) := by omega
  simp only [readTime, bind, Except.bind, digits_padded 2 (n := hour) (by decide) (by omega),
    digits_padded 2 (n := minute) (by decide) (by omega),
    digits_padded 2 (n := second) (by decide) (by omega),
    separator_read [':'] (c := ':') rfl, readFraction_chars fits sign, within, if_false]
  split <;> rfl

def shownOffset (offset : Int) : Int :=
  if offset < 0 then -((offset.natAbs + 30) / 60 * 60 : Nat) else ((offset.natAbs + 30) / 60 * 60 : Nat)

theorem shownOffset_eq {offset : Int} (whole : offset % 60 = 0) : shownOffset offset = offset := by
  unfold shownOffset
  split <;> omega

theorem readOffset_chars {offset : Int} (day : offset.natAbs < 86400) :
    readOffset (offsetChars offset) = .ok (shownOffset offset, []) := by
  have hours : (offset.natAbs + 30) / 60 / 60 < 100 := by omega
  have minutes : (offset.natAbs + 30) / 60 % 60 < 100 := by omega
  have within : ¬ 60 ≤ (offset.natAbs + 30) / 60 % 60 := by omega
  have last := readHours_padded minutes []
  rw [List.append_nil] at last
  have sum : (offset.natAbs + 30) / 60 / 60 * 3600 + (offset.natAbs + 30) / 60 % 60 * 60
      = (offset.natAbs + 30) / 60 * 60 := by omega
  unfold offsetChars shownOffset
  split
  · simp [readOffset, bind, Except.bind, readHours_padded hours, separator_read [':'] (c := ':') rfl,
      readMinutes, last, within, sum, pure, Except.pure]
  · simp [readOffset, bind, Except.bind, readHours_padded hours, separator_read [':'] (c := ':') rfl,
      readMinutes, last, within, sum, pure, Except.pure]

/-- Nanoseconds since 1970; a leap second in the middle of a minute is at the same moment as the next second. -/
def moment (t : Timestamp) : Int := t.seconds * billion + t.nanoseconds

/-- The seconds of the offset are lost, and a leap second in the middle of a minute is the next second. -/
def readAs (t : Timestamp) : Timestamp :=
  if billion ≤ t.nanoseconds ∧ t.localSeconds % 60 ≠ 59 then
    ⟨t.localSeconds + 1 - shownOffset t.offset, t.nanoseconds - billion, shownOffset t.offset⟩
  else ⟨t.localSeconds - shownOffset t.offset, t.nanoseconds, shownOffset t.offset⟩

theorem readTime_text {t : Timestamp} (fits : t.nanoseconds < 2 * billion) {rest : List Char}
    (sign : ∀ c ∈ rest.head?, c = '+' ∨ c = '-') :
    readTime (padded 2 (t.secondOfDay / 3600) ++ ':' :: (padded 2 (t.secondOfDay / 60 % 60) ++
        ':' :: (padded 2 (t.secondOfDay % 60 + if billion ≤ t.nanoseconds then 1 else 0) ++
          (fractionChars (if billion ≤ t.nanoseconds then t.nanoseconds - billion else t.nanoseconds) ++ rest))))
      = .ok (if billion ≤ t.nanoseconds ∧ t.secondOfDay % 60 ≠ 59 then (t.secondOfDay + 1, t.nanoseconds - billion)
          else (t.secondOfDay, t.nanoseconds), rest) := by
  have day : t.secondOfDay < 86400 := by
    unfold secondOfDay
    omega
  have seconds : t.secondOfDay % 60 + (if billion ≤ t.nanoseconds then 1 else 0) ≤ 60 := by
    split <;> omega
  have nanoseconds : (if billion ≤ t.nanoseconds then t.nanoseconds - billion else t.nanoseconds) < billion := by
    split <;> omega
  rw [readTime_chars (by omega) (by omega) seconds nanoseconds sign]
  congr 2
  by_cases leap : billion ≤ t.nanoseconds
  · by_cases last : t.secondOfDay % 60 = 59
    · simp only [leap, last, if_true, ne_eq, not_true, and_false, if_false, Prod.mk.injEq]
      omega
    · have early : t.secondOfDay % 60 + 1 ≠ 60 := by omega
      simp only [leap, last, early, if_true, if_false, ne_eq, not_false_iff, and_self, Prod.mk.injEq, and_true]
      omega
  · have early : t.secondOfDay % 60 + 0 ≠ 60 := by omega
    simp only [leap, early, if_false, false_and, Prod.mk.injEq, and_true]
    omega

theorem ofChars_chars {t : Timestamp} (fits : t.nanoseconds < 2 * billion) (day : t.offset.natAbs < 86400)
    (positive : 0 ≤ t.date.year) (small : t.date.year ≤ 9999) :
    ofChars t.chars = if shownOffset t.offset < -greatestOffset ∨ greatestOffset < shownOffset t.offset
      then .error .outOfRange else .ok t.readAs := by
  have valid : t.date.isValid = true := Date.isValid_ofDay _
  have dayNumber : t.date.toDay = t.localSeconds / 86400 := Date.toDay_ofDay _
  have second : ((t.secondOfDay : Nat) : Int) = t.localSeconds % 86400 := Int.toNat_of_nonneg (by omega)
  have sign : ∀ c ∈ (offsetChars t.offset).head?, c = '+' ∨ c = '-' := by
    intro c mem
    unfold offsetChars at mem
    split at mem
    · exact .inr (Option.some.inj mem).symm
    · exact .inl (Option.some.inj mem).symm
  simp only [chars, List.append_assoc, List.cons_append]
  simp only [ofChars, bind, Except.bind, readDate_chars positive small valid,
    separator_read ['T', 't', ' '] (c := 'T') rfl, readTime_text fits sign, readOffset_chars day,
    List.isEmpty_nil, not_true, if_false, dayNumber]
  split
  · rfl
  · show Except.ok _ = Except.ok _
    congr 1
    unfold readAs
    by_cases leap : billion ≤ t.nanoseconds ∧ t.secondOfDay % 60 ≠ 59
    · have middle : billion ≤ t.nanoseconds ∧ t.localSeconds % 60 ≠ 59 := ⟨leap.1, by omega⟩
      rw [if_pos leap, if_pos middle]
      congr 1
      push_cast
      omega
    · have plain : ¬ (billion ≤ t.nanoseconds ∧ t.localSeconds % 60 ≠ 59) := by omega
      rw [if_neg leap, if_neg plain]
      congr 1
      omega

theorem length_le_utf8ByteSize (cs : List Char) : cs.length ≤ (String.ofList cs).utf8ByteSize := by
  induction cs with
  | nil => simp
  | cons c cs ih =>
    have split : String.ofList (c :: cs) = String.ofList [c] ++ String.ofList cs := by
      rw [← String.ofList_append]
      rfl
    have one : 0 < (String.ofList [c]).utf8ByteSize := by
      rw [Nat.pos_iff_ne_zero, ne_eq, String.utf8ByteSize_eq_zero_iff]
      simp
    rw [split, String.utf8ByteSize_append, List.length_cons]
    omega

theorem length_le_padded (width n : Nat) : width ≤ (padded width n).length := by
  simp only [padded, List.length_append, List.length_replicate]
  omega

theorem ofText_text (t : Timestamp) : ofText t.text = ofChars t.chars := by
  have long : 19 ≤ t.chars.length := by
    have year : 4 ≤ (yearChars t.date.year).length := by
      unfold yearChars
      split
      · exact length_le_padded 4 _
      · have := length_le_padded 4 t.date.year.natAbs
        rw [List.length_cons]
        omega
    have month := length_le_padded 2 t.date.month
    have day := length_le_padded 2 t.date.day
    have hour := length_le_padded 2 (t.secondOfDay / 3600)
    have minute := length_le_padded 2 (t.secondOfDay / 60 % 60)
    have second := length_le_padded 2 (t.secondOfDay % 60 + if billion ≤ t.nanoseconds then 1 else 0)
    simp only [chars, List.length_append, List.length_cons]
    omega
  have enough : ¬ t.text.utf8ByteSize < 19 := Nat.not_lt.mpr (Nat.le_trans long (length_le_utf8ByteSize _))
  rw [ofText, if_neg enough, text, String.toList_ofList]

theorem ofText_text_readAs {t : Timestamp} (fits : t.nanoseconds < 2 * billion) (inRange : t.offset.natAbs < 86370)
    (positive : 0 ≤ t.date.year) (small : t.date.year ≤ 9999) : ofText t.text = .ok t.readAs := by
  have greatest : greatestOffset = 86340 := rfl
  rw [ofText_text, ofChars_chars fits (by omega) positive small, if_neg]
  unfold shownOffset
  split <;> omega

/-- Years outside four digits and offsets that round to a whole day are the only ones that cannot be read. -/
theorem ofText_text_ok {t : Timestamp} (fits : t.nanoseconds < 2 * billion) (day : t.offset.natAbs < 86400) :
    (∃ t', ofText t.text = .ok t') ↔ (0 ≤ t.date.year ∧ t.date.year ≤ 9999) ∧ t.offset.natAbs < 86370 := by
  have greatest : greatestOffset = 86340 := rfl
  rw [ofText_text]
  constructor
  · rintro ⟨t', reads⟩
    by_cases shown : 0 ≤ t.date.year ∧ t.date.year ≤ 9999
    · refine ⟨shown, ?_⟩
      rw [ofChars_chars fits day shown.1 shown.2] at reads
      split at reads
      · contradiction
      · rename_i inRange
        unfold shownOffset at inRange
        split at inRange <;> omega
    · obtain ⟨error, fails⟩ := readDate_signed shown ('-' :: (padded 2 t.date.month ++ '-' :: (padded 2 t.date.day
        ++ 'T' :: (padded 2 (t.secondOfDay / 3600) ++ ':' :: (padded 2 (t.secondOfDay / 60 % 60) ++
        ':' :: (padded 2 (t.secondOfDay % 60 + if billion ≤ t.nanoseconds then 1 else 0) ++
          (fractionChars (if billion ≤ t.nanoseconds then t.nanoseconds - billion else t.nanoseconds)
            ++ offsetChars t.offset)))))))
      simp only [chars, List.append_assoc, List.cons_append, ofChars, bind, Except.bind, fails] at reads
      contradiction
  · rintro ⟨⟨positive, small⟩, inRange⟩
    exact ⟨t.readAs, by rw [← ofText_text, ofText_text_readAs fits inRange positive small]⟩

theorem readAs_eq {t : Timestamp} (minutes : t.offset % 60 = 0)
    (leap : billion ≤ t.nanoseconds → t.seconds % 60 = 59) : t.readAs = t := by
  have plain : ¬ (billion ≤ t.nanoseconds ∧ t.localSeconds % 60 ≠ 59) := by
    unfold localSeconds
    omega
  rw [readAs, if_neg plain, shownOffset_eq minutes]
  congr 1
  unfold localSeconds
  rw [Int.add_sub_cancel]

end Journal.Timestamp
