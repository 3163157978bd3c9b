import Journal.Decimal.Binary64
/-!
Numbers read from text. A real number has digits before or after the point, an optional exponent and an
optional sign; infinity and not-a-number are spelled out in either letter case.
-/
namespace Journal

namespace Decimal

def digit? (c : Char) : Option Nat := if c.isDigit then some (c.toNat - 48) else none

def natural? (base : Nat) (digit? : Char → Option Nat) : List Char → Option Nat
  | [] => none
  | cs => cs.foldlM (fun n c => do return n * base + (← digit? c)) 0

def integer? (base : Nat) (digit? : Char → Option Nat) (cs : List Char) : Option Int :=
  let signed : Option Int :=
    match cs with
    | '-' :: ds => (natural? base digit? ds).map fun n => -(n : Int)
    | '+' :: ds => (natural? base digit? ds).map Int.ofNat
    | ds => (natural? base digit? ds).map Int.ofNat
  signed.filter fun n => decide (-2 ^ 63 ≤ n ∧ n < 2 ^ 63)

def word? (s : String) : Option Nat :=
  let ds := match s.toList with
    | '+' :: ds => ds
    | ds => ds
  (natural? 10 digit? ds).filter fun n => decide (n < 2 ^ 64)

def signed? (s : String) : Option Int := integer? 10 digit? s.toList

def exponent? : List Char → Option Int
  | '-' :: ds => (natural? 10 digit? ds).map fun n => -(n : Int)
  | '+' :: ds => (natural? 10 digit? ds).map Int.ofNat
  | ds => (natural? 10 digit? ds).map Int.ofNat

def isExponentMark (c : Char) : Bool := c = 'e' || c = 'E'

def finite? (negative : Bool) (cs : List Char) : Option Binary64 := do
  let mantissa := cs.takeWhile fun c => !isExponentMark c
  let exponent ←
    match cs.drop mantissa.length with
    | [] => some 0
    | _ :: ds => exponent? ds
  let whole := mantissa.takeWhile (· ≠ '.')
  let fraction := (mantissa.drop whole.length).drop 1
  let digits ← natural? 10 digit? (whole ++ fraction)
  some (.ofDecimal negative digits (exponent - fraction.length))

def magnitude? (negative : Bool) (cs : List Char) : Option Binary64 :=
  match String.ofList (cs.map Char.toLower) with
  | "inf" | "infinity" => some (.infinite negative)
  | "nan" => some .nan
  | _ => finite? negative cs

end Decimal

def Binary64.ofText? (s : String) : Option Binary64 :=
  match s.toList with
  | '-' :: cs => Decimal.magnitude? true cs
  | '+' :: cs => Decimal.magnitude? false cs
  | cs => Decimal.magnitude? false cs

end Journal
