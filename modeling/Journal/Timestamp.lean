import Journal.Calendar
/-!
Instants with the zone offset of their writer, and their RFC 3339 text. A leap second is the second before it
with a billion or more nanoseconds. The text shows local time, 0, 3, 6 or 9 digits of a second, and the
offset rounded to the minute; years outside four digits carry a sign.
-/
namespace Journal

structure Timestamp where
  /-- Whole seconds since 1970-01-01T00:00:00Z. -/
  seconds : Int
  /-- Below 2000000000. -/
  nanoseconds : Nat
  /-- Seconds east of UTC. -/
  offset : Int
  deriving DecidableEq, Repr

namespace Timestamp

def billion : Nat := 1000000000

/-- The offset does not matter. -/
def sameInstant (a b : Timestamp) : Bool := a.seconds == b.seconds && a.nanoseconds == b.nanoseconds

def milliseconds (t : Timestamp) : Int := t.seconds * 1000 + (t.nanoseconds / 1000000 : Nat)

def ofMilliseconds (ms : Int) : Timestamp := ⟨ms / 1000, (ms % 1000).toNat * 1000000, 0⟩

def localSeconds (t : Timestamp) : Int := t.seconds + t.offset

def date (t : Timestamp) : Date := .ofDay (t.localSeconds / 86400)

def secondOfDay (t : Timestamp) : Nat := (t.localSeconds % 86400).toNat

def padded (width n : Nat) : List Char :=
  let ds := Nat.toDigits 10 n
  List.replicate (width - ds.length) '0' ++ ds

def yearChars (year : Int) : List Char :=
  if 0 ≤ year ∧ year ≤ 9999 then padded 4 year.toNat
  else (if year < 0 then '-' else '+') :: padded 4 year.natAbs

def fractionChars (nanoseconds : Nat) : List Char :=
  if nanoseconds = 0 then []
  else if nanoseconds % 1000000 = 0 then '.' :: padded 3 (nanoseconds / 1000000)
  else if nanoseconds % 1000 = 0 then '.' :: padded 6 (nanoseconds / 1000)
  else '.' :: padded 9 nanoseconds

/-- Half a minute rounds away from zero. -/
def offsetChars (offset : Int) : List Char :=
  let minutes := (offset.natAbs + 30) / 60
  (if offset < 0 then '-' else '+') :: (padded 2 (minutes / 60) ++ ':' :: padded 2 (minutes % 60))

def chars (t : Timestamp) : List Char :=
  let d := t.date
  let s := t.secondOfDay
  let leap := billion ≤ t.nanoseconds
  let second := s % 60 + (if leap then 1 else 0)
  let nanoseconds := if leap then t.nanoseconds - billion else t.nanoseconds
  yearChars d.year ++ '-' :: padded 2 d.month ++ '-' :: padded 2 d.day
    ++ 'T' :: padded 2 (s / 3600) ++ ':' :: padded 2 (s / 60 % 60) ++ ':' :: padded 2 second
    ++ fractionChars nanoseconds ++ offsetChars t.offset

def text (t : Timestamp) : String := String.ofList t.chars

end Timestamp
end Journal
