import Journal.Decimal.Binary64
/-!
The shortest decimal text of a binary number: of all decimals that round to the number it has the fewest
digits, and of those it is the nearest. Two layouts are built on it, one with exponents and one without; of two
decimals that are equally near, the one takes the even and the other the greater.
-/
namespace Journal.Binary64

structure Decimal where
  digits : Nat
  exponent : Int
  deriving DecidableEq, Repr

def digitCount (n : Nat) : Nat := (Nat.toDigits 10 n).length

def leadingPlace (num den : Nat) : Int :=
  if den ≤ num then (digitCount (num / den) : Int) - 1
  else -(digitCount ((den + num - 1) / num - 1) : Int)

/-- The numbers that round to `significand * 2 ^ exponent`, in quarters of its unit. -/
structure Interval where
  low : Nat
  middle : Nat
  high : Nat
  closed : Bool

def intervalOf (significand : Nat) (exponent : Int) : Interval where
  low := 4 * significand - (if significand = 2 ^ 52 ∧ leastExponent < exponent then 1 else 2)
  middle := 4 * significand
  high := 4 * significand + 2
  closed := significand % 2 = 0

def Interval.holds (i : Interval) (e place : Int) (c : Nat) : Bool :=
  let scale (n : Nat) : Nat := n * 2 ^ e.toNat * 10 ^ (-place).toNat
  let point := c * 10 ^ place.toNat * 2 ^ (-e).toNat
  if i.closed then scale i.low ≤ point && point ≤ scale i.high
  else scale i.low < point && point < scale i.high

inductive Tie where
  | even
  | greater
  deriving DecidableEq, Repr

def nearer (tie : Tie) (num den : Nat) : Nat :=
  let c := num / den
  let r := num % den
  if 2 * r < den then c
  else if den < 2 * r then c + 1
  else if tie = .even && c % 2 = 0 then c else c + 1

def Interval.onGrid (i : Interval) (tie : Tie) (e place : Int) : Option Nat :=
  let num := i.middle * 2 ^ e.toNat * 10 ^ (-place).toNat
  let den := 10 ^ place.toNat * 2 ^ (-e).toNat
  let c := num / den
  match i.holds e place c && 0 < c, i.holds e place (c + 1) with
  | true, true => some (nearer tie num den)
  | true, false => some c
  | false, true => some (c + 1)
  | false, false => none

def Decimal.trim : (limit : Nat) → Decimal → Decimal
  | 0, d => d
  | limit + 1, d =>
    if d.digits % 10 = 0 ∧ d.digits ≠ 0 then trim limit ⟨d.digits / 10, d.exponent + 1⟩ else d

def searchGrids (i : Interval) (tie : Tie) (e place : Int) : (count : Nat) → Decimal
  | 0 => ⟨i.middle * 2 ^ e.toNat / (10 ^ place.toNat * 2 ^ (-e).toNat), place⟩
  | count + 1 =>
    match i.onGrid tie e place with
    | some c => (Decimal.mk c place).trim 20
    | none => searchGrids i tie e (place - 1) count

def shortest (tie : Tie) (significand : Nat) (exponent : Int) : Decimal :=
  if significand = 0 then ⟨0, 0⟩
  else
    let (num, den) := ratio significand 1 exponent
    searchGrids (intervalOf significand exponent) tie (exponent - 2) (leadingPlace num den) 18

def zeros (n : Nat) : String := String.ofList (List.replicate n '0')

def pointed (digits : String) (exponent : Int) (whole : String) : String :=
  let place := exponent + digits.length
  if 0 ≤ exponent then digits ++ zeros exponent.toNat ++ whole
  else if 0 < place then
    String.ofList (digits.toList.take place.toNat) ++ "." ++ String.ofList (digits.toList.drop place.toNat)
  else "0." ++ zeros (-place).toNat ++ digits

def signText (negative : Bool) : String := if negative then "-" else ""

/-- Positional for leading places -5 to 15 with at least one decimal, else with a signed exponent. -/
def scientificText : Binary64 → String
  | .nan => "NaN"
  | .infinite s => signText s ++ "inf"
  | .finite s m e =>
    if m = 0 then signText s ++ "0.0"
    else
      let d := shortest .even m e
      let digits := toString d.digits
      let lead := d.exponent + digits.length - 1
      if -5 ≤ lead ∧ lead ≤ 15 then signText s ++ pointed digits d.exponent ".0"
      else
        let head := String.ofList (digits.toList.take 1)
        let tail := String.ofList (digits.toList.drop 1)
        signText s ++ head ++ (if tail.isEmpty then "" else "." ++ tail) ++ "e"
          ++ (if lead < 0 then "-" else "+") ++ toString lead.natAbs

def plainText : Binary64 → String
  | .nan => "NaN"
  | .infinite s => signText s ++ "inf"
  | .finite s m e =>
    if m = 0 then signText s ++ "0"
    else
      let d := shortest .greater m e
      signText s ++ pointed (toString d.digits) d.exponent ""

end Journal.Binary64
