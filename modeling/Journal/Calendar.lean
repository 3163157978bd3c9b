/-!
The proleptic Gregorian calendar. Years start in March here, so that the leap day is the last day of a year;
400 years have 146097 days, a century 36524 or one more, four years 1461 or one less.
-/
namespace Journal

structure Date where
  year : Int
  month : Nat
  day : Nat
  deriving DecidableEq, Repr

namespace Date

/-- The day number of 1970-01-01 counted from 0000-03-01. -/
def epochDay : Int := 719468

def daysBefore (month : Nat) : Nat := (153 * month + 2) / 5

def ofYearDay (marchYear : Int) (yearDay : Nat) : Date :=
  let m := (5 * yearDay + 2) / 153
  let day := yearDay - daysBefore m + 1
  if m < 10 then ⟨marchYear, m + 3, day⟩ else ⟨marchYear + 1, m - 9, day⟩

def ofDay (days : Int) : Date :=
  let z := days + epochDay
  let era := z / 146097
  let inEra := (z % 146097).toNat
  let century := min (inEra / 36524) 3
  let inCentury := inEra - 36524 * century
  let quad := inCentury / 1461
  let inQuad := inCentury - 1461 * quad
  let year := min (inQuad / 365) 3
  ofYearDay (400 * era + (100 * century + 4 * quad + year : Nat)) (inQuad - 365 * year)

def toDay (d : Date) : Int :=
  let year := if d.month ≤ 2 then d.year - 1 else d.year
  let month := if d.month ≤ 2 then d.month + 9 else d.month - 3
  365 * year + year / 4 - year / 100 + year / 400 + (daysBefore month + d.day : Nat) - 1 - epochDay

def isLeap (year : Int) : Bool := year % 4 = 0 && (year % 100 ≠ 0 || year % 400 = 0)

def daysIn (year : Int) (month : Nat) : Nat :=
  match month with
  | 2 => if isLeap year then 29 else 28
  | 4 | 6 | 9 | 11 => 30
  | _ => 31

def isValid (d : Date) : Bool :=
  1 ≤ d.month && d.month ≤ 12 && 1 ≤ d.day && d.day ≤ daysIn d.year d.month

end Date
end Journal
