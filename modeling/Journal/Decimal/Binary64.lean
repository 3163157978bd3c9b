import Journal.Power
/-!
Numbers of the 64-bit binary floating-point format, in exact arithmetic. A finite number is
`significand * 2 ^ exponent`; the exponent is at least -1074 and the significand is below `2 ^ 53`, and
at least `2 ^ 52` unless the exponent is -1074. Rounding goes to the nearest, a tie to the even significand.
-/
namespace Journal

inductive Binary64 where
  | nan
  | infinite (negative : Bool)
  | finite (negative : Bool) (significand : Nat) (exponent : Int)
  deriving DecidableEq, Repr

namespace Binary64

def leastExponent : Int := -1074

def greatestExponent : Int := 971

def zero (negative : Bool) : Binary64 := .finite negative 0 leastExponent

def roundDiv (num den : Nat) : Nat :=
  let q := num / den
  let r := num % den
  if 2 * r < den then q
  else if den < 2 * r then q + 1
  else if q % 2 = 0 then q else q + 1

def ratio (num den : Nat) (e : Int) : Nat × Nat := (num * 2 ^ e.toNat, den * 2 ^ (-e).toNat)

def pack (negative : Bool) (significand : Nat) (exponent : Int) : Binary64 :=
  if significand = 2 ^ 53 then
    if greatestExponent ≤ exponent then .infinite negative
    else .finite negative (2 ^ 52) (exponent + 1)
  else if greatestExponent < exponent then .infinite negative
  else .finite negative significand exponent

def exponentOf (num den : Nat) : Int :=
  let guess : Int := (num.log2 : Int) - den.log2 - 52
  let (n, d) := ratio num den (-guess)
  max (if n < 2 ^ 52 * d then guess - 1 else guess) leastExponent

def ofRatio (negative : Bool) (num den : Nat) : Binary64 :=
  if num = 0 then zero negative
  else
    let e := exponentOf num den
    let (n, d) := ratio num den (-e)
    pack negative (roundDiv n d) e

def ofNat (n : Nat) : Binary64 := ofRatio false n 1

def isZero : Binary64 → Bool
  | .finite _ 0 _ => true
  | _ => false

def isFinite : Binary64 → Bool
  | .finite .. => true
  | _ => false

def negate : Binary64 → Binary64
  | .nan => .nan
  | .infinite s => .infinite (!s)
  | .finite s m e => .finite (!s) m e

def timesTen (x : Binary64) (power : Nat) : Binary64 :=
  match x, ofNat (10 ^ power) with
  | .finite s m e, .finite _ p q => let (n, d) := ratio (m * p) 1 (e + q); ofRatio s n d
  | x, _ => x

def overTen (x : Binary64) (power : Nat) : Binary64 :=
  match x, ofNat (10 ^ power) with
  | .finite s m e, .finite _ p q => let (n, d) := ratio m p (e - q); ofRatio s n d
  | x, _ => x

/-- The number nearest to `digits * 10 ^ exponent`; beyond 400 places it is infinite or zero. -/
def ofDecimal (negative : Bool) (digits : Nat) (exponent : Int) : Binary64 :=
  let size : Int := (Nat.toDigits 10 digits).length + exponent
  if digits = 0 ∨ size < -400 then zero negative
  else if 400 < size then .infinite negative
  else ofRatio negative (digits * 10 ^ exponent.toNat) (10 ^ (-exponent).toNat)

end Binary64
end Journal
