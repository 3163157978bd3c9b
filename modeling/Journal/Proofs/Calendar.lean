import Journal.Calendar
/-!
Days and dates correspond. The day of the era is split into centuries, groups of four years, years and the day of
the year; put together again, the parts give the same day, and every date that comes out exists. The other way round,
no two dates have one day, because a year starts after all days of the years before it.
-/
namespace Journal.Date

theorem ofDay_parts (days : Int) : ∃ (era : Int) (century quad year yearDay : Nat),
    century ≤ 3 ∧ quad ≤ 24 ∧ year ≤ 3 ∧ yearDay ≤ 365 ∧
    (yearDay = 365 → year = 3 ∧ (quad < 24 ∨ century = 3)) ∧
    days + epochDay = 146097 * era + 36524 * century + 1461 * quad + 365 * year + yearDay ∧
    ofDay days = ofYearDay (400 * era + (100 * century + 4 * quad + year : Nat)) yearDay := by
  refine ⟨_, _, _, _, _, ?_, ?_, ?_, ?_, ?_, ?_, rfl⟩ <;> omega

theorem toDay_ofYearDay {year : Int} {yearDay : Nat} (within : yearDay ≤ 365) :
    (ofYearDay year yearDay).toDay = 365 * year + year / 4 - year / 100 + year / 400 + yearDay - epochDay := by
  unfold ofYearDay
  simp only
  split
  · rename_i early
    have late : ¬ (5 * yearDay + 2) / 153 + 3 ≤ 2 := by omega
    simp only [toDay, if_neg late, daysBefore]
    omega
  · have early : (5 * yearDay + 2) / 153 - 9 ≤ 2 := by omega
    simp only [toDay, if_pos early, daysBefore]
    omega

theorem toDay_ofDay (days : Int) : (ofDay days).toDay = days := by
  obtain ⟨era, century, quad, year, yearDay, centuries, quads, years, within, _, sum, date⟩ := ofDay_parts days
  rw [date, toDay_ofYearDay within]
  omega

theorem isValid_ofDay (days : Int) : (ofDay days).isValid = true := by
  obtain ⟨era, century, quad, year, yearDay, centuries, quads, years, within, last, _, date⟩ := ofDay_parts days
  rw [date]
  unfold ofYearDay
  simp only
  have months : (5 * yearDay + 2) / 153 ≤ 11 := by omega
  split
  · rename_i early
    generalize monthEq : (5 * yearDay + 2) / 153 = month at *
    have bounds : daysBefore month ≤ yearDay ∧ yearDay < daysBefore (month + 1) := by
      simp only [daysBefore]
      omega
    simp only [isValid, Bool.and_eq_true, decide_eq_true_iff]
    refine ⟨⟨⟨by omega, by omega⟩, by omega⟩, ?_⟩
    have cases : month = 0 ∨ month = 1 ∨ month = 2 ∨ month = 3 ∨ month = 4 ∨ month = 5 ∨ month = 6 ∨ month = 7
        ∨ month = 8 ∨ month = 9 := by omega
    rcases cases with rfl | rfl | rfl | rfl | rfl | rfl | rfl | rfl | rfl | rfl <;>
      simp only [daysIn, daysBefore] at * <;> omega
  · rename_i late
    have cases : (5 * yearDay + 2) / 153 = 10 ∨ (5 * yearDay + 2) / 153 = 11 := by omega
    simp only [isValid, Bool.and_eq_true, decide_eq_true_iff]
    rcases cases with january | february
    · rw [january]
      refine ⟨⟨⟨by omega, by omega⟩, by omega⟩, ?_⟩
      simp only [daysIn, daysBefore]
      omega
    · rw [february]
      refine ⟨⟨⟨by omega, by omega⟩, by omega⟩, ?_⟩
      simp only [daysIn, daysBefore]
      split
      · omega
      · rename_i common
        have short : yearDay ≠ 365 := by
          intro leapDay
          obtain ⟨third, closes⟩ := last leapDay
          refine common ?_
          simp only [isLeap, Bool.and_eq_true, Bool.or_eq_true, decide_eq_true_iff]
          omega
        omega

theorem day_of_year {days : Int} (low : (ofDay days).year ≤ 9999) : days ≤ 2932896 := by
  obtain ⟨era, century, quad, year, yearDay, centuries, quads, years, within, -, sum, date⟩ := ofDay_parts days
  rw [date] at low
  unfold ofYearDay at low
  simp only at low
  unfold epochDay at sum
  split at low
  · simp only at low
    omega
  · simp only at low
    omega

theorem ofYearDay_daysBefore {year : Int} {month day : Nat} (first : 1 ≤ day)
    (last : daysBefore month + day ≤ daysBefore (month + 1)) :
    ofYearDay year (daysBefore month + day - 1) =
      if month < 10 then ⟨year, month + 3, day⟩ else ⟨year + 1, month - 9, day⟩ := by
  have found : (5 * (daysBefore month + day - 1) + 2) / 153 = month := by
    unfold daysBefore at *
    omega
  have back : daysBefore month + day - 1 - daysBefore month + 1 = day := by omega
  simp only [ofYearDay, found, back]

theorem ofYearDay_of_isValid {d : Date} (valid : d.isValid = true) : ∃ (year : Int) (yearDay : Nat),
    d = ofYearDay year yearDay ∧ yearDay ≤ 365 ∧ (yearDay = 365 → isLeap (year + 1) = true) := by
  obtain ⟨year, month, day⟩ := d
  simp only [isValid, Bool.and_eq_true, decide_eq_true_iff] at valid
  obtain ⟨⟨⟨low, high⟩, first⟩, last⟩ := valid
  by_cases early : month ≤ 2
  · have cases : month = 1 ∨ month = 2 := by omega
    rcases cases with rfl | rfl
    · have within : daysBefore 10 + day ≤ daysBefore 11 := by
        simp only [daysIn, daysBefore] at *
        omega
      refine ⟨year - 1, _, ((ofYearDay_daysBefore first within).trans ?_).symm, ?_, ?_⟩
      · simp
      all_goals simp only [daysBefore] at *; omega
    · have short : day ≤ 29 ∧ (day = 29 → isLeap year = true) := by
        simp only [daysIn] at last
        split at last
        · rename_i leap
          exact ⟨last, fun _ => leap⟩
        · exact ⟨by omega, fun long => by omega⟩
      have within : daysBefore 11 + day ≤ daysBefore 12 := by
        simp only [daysBefore]
        omega
      refine ⟨year - 1, _, ((ofYearDay_daysBefore first within).trans ?_).symm, ?_, ?_⟩
      · simp
      · simp only [daysBefore]
        omega
      · intro leapDay
        rw [Int.sub_add_cancel]
        refine short.2 ?_
        simp only [daysBefore] at leapDay
        omega
  · obtain ⟨m, rfl⟩ := Nat.exists_eq_add_of_le' (Nat.lt_of_not_le early)
    have within : daysBefore m + day ≤ daysBefore (m + 1) := by
      have cases : m = 0 ∨ m = 1 ∨ m = 2 ∨ m = 3 ∨ m = 4 ∨ m = 5 ∨ m = 6 ∨ m = 7 ∨ m = 8 ∨ m = 9 := by omega
      rcases cases with rfl | rfl | rfl | rfl | rfl | rfl | rfl | rfl | rfl | rfl <;>
        simp only [daysIn, daysBefore] at * <;> omega
    refine ⟨year, _, ((ofYearDay_daysBefore first within).trans (if_pos (by omega))).symm, ?_, ?_⟩
    all_goals unfold daysBefore at *; omega

theorem year_starts_later {year other : Int} (later : year < other) :
    365 * year + year / 4 - year / 100 + year / 400 + (if isLeap (year + 1) then 366 else 365) ≤
      365 * other + other / 4 - other / 100 + other / 400 := by
  have centuries : ∀ y : Int, y / 100 = y / 4 / 25 ∧ y / 400 = y / 4 / 25 / 4 := by omega
  rw [(centuries year).1, (centuries year).2, (centuries other).1, (centuries other).2]
  split
  · rename_i leap
    simp only [isLeap, Bool.and_eq_true, Bool.or_eq_true, decide_eq_true_iff] at leap
    omega
  · omega

theorem day_before_later_year {year other : Int} {yearDay otherDay : Nat} (later : year < other) (within : yearDay ≤ 365)
    (within' : otherDay ≤ 365) (leap : yearDay = 365 → isLeap (year + 1) = true) :
    (ofYearDay year yearDay).toDay < (ofYearDay other otherDay).toDay := by
  have starts := year_starts_later later
  rw [toDay_ofYearDay within, toDay_ofYearDay within']
  split at starts
  · omega
  · rename_i common
    have short : yearDay ≠ 365 := fun long => common (leap long)
    omega

theorem ofDay_toDay {d : Date} (valid : d.isValid = true) : ofDay d.toDay = d := by
  obtain ⟨year, yearDay, date, within, leap⟩ := ofYearDay_of_isValid valid
  obtain ⟨other, otherDay, date', within', leap'⟩ := ofYearDay_of_isValid (isValid_ofDay d.toDay)
  have same := toDay_ofDay d.toDay
  rw [date', date] at same
  have years : other = year := by
    rcases Int.lt_trichotomy other year with earlier | here | later
    · have := day_before_later_year earlier within' within leap'
      omega
    · exact here
    · have := day_before_later_year later within within' leap
      omega
  subst years
  rw [toDay_ofYearDay within, toDay_ofYearDay within'] at same
  have days : otherDay = yearDay := by omega
  rw [date', date, days]

end Journal.Date
