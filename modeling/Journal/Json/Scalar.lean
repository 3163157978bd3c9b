import Journal.Json.Cursor
import Journal.Power
/-!
Words, numbers and strings of JSON text.

A number keeps its digits in 64 bits as long as they fit. A number that is no integer of 64 bits is its
leading digits, rounded, and then multiplied or divided by a rounded power of ten.
-/
namespace Journal.Json.Reader

def isDigit (b : UInt8) : Bool := 48 ≤ b && b ≤ 57

def digitValue (b : UInt8) : Nat := b.toNat - 48

def greatestWord : Nat := 2 ^ 64 - 1

def digitsAhead : Reader (List Nat) := fun c => .ok ((c.rest.takeWhile isDigit).map digitValue) c

def accumulate (significand taken : Nat) : List Nat → Nat × Nat
  | [] => (significand, taken)
  | d :: rest =>
    if greatestWord < significand * 10 + d then (significand, taken)
    else accumulate (significand * 10 + d) (taken + 1) rest

def divideByTens (x : Binary64) (places : Nat) : Binary64 :=
  if places ≤ 308 then x.overTen places
  else if x.isZero then x
  else divideByTens (x.overTen 308) (places - 308)
termination_by places

def real? (positive : Bool) (significand : Nat) (exponent : Int) : Option Number :=
  let x := Binary64.ofNat significand
  let signed (x : Binary64) : Number := .real (if positive then x else x.negate)
  if exponent < 0 then some (signed (divideByTens x exponent.natAbs))
  else if x.isZero then some (signed x)
  else if 308 < exponent then none
  else
    let y := x.timesTen exponent.natAbs
    if y.isFinite then some (signed y) else none

def finishReal (positive : Bool) (significand : Nat) (exponent : Int) : Reader Number :=
  match real? positive significand exponent with
  | some n => pure n
  | none => fail .numberOutOfRange

def exponentOverflow (value taken : Nat) : List Nat → Option Nat
  | [] => none
  | d :: rest =>
    if 2 ^ 31 - 1 < value * 10 + d then some (taken + 1) else exponentOverflow (value * 10 + d) (taken + 1) rest

def natOfDigits (ds : List Nat) : Nat := ds.foldl (fun n d => n * 10 + d) 0

def exponentPart (positive : Bool) (significand : Nat) (exponent : Int) : Reader Number := do
  bump
  let up ← do
    match ← peek with
    | some 43 => bump; pure true
    | some 45 => bump; pure false
    | _ => pure true
  match ← digitsAhead with
  | [] =>
    match ← peek with
    | none => fail .endInValue
    | some _ => bump; fail .invalidNumber
  | ds =>
    match exponentOverflow 0 0 ds with
    | some taken =>
      if significand ≠ 0 ∧ up then
        skip taken
        fail .numberOutOfRange
      else
        skip ds.length
        pure (.real (.zero (!positive)))
    | none =>
      skip ds.length
      let shift : Int := natOfDigits ds
      finishReal positive significand (if up then exponent + shift else exponent - shift)

def exponentOrEnd (positive : Bool) (significand : Nat) (exponent : Int) : Reader Number := do
  match ← peek with
  | some 101 | some 69 => exponentPart positive significand exponent
  | _ => finishReal positive significand exponent

def fractionPart (positive : Bool) (significand : Nat) (exponent : Int) : Reader Number := do
  bump
  match ← digitsAhead with
  | [] =>
    match ← peek with
    | none => failAhead .endInValue
    | some _ => failAhead .invalidNumber
  | ds =>
    let (significand, taken) := accumulate significand 0 ds
    skip ds.length
    exponentOrEnd positive significand (exponent - taken)

/-- A whole number: negative ones reach down to `-2 ^ 63`, and minus zero is a real number. -/
def wholeNumber (positive : Bool) (significand : Nat) : Number :=
  if positive then .integer significand
  else if 0 < significand ∧ significand ≤ 2 ^ 63 then .integer (-(significand : Int))
  else .real (Binary64.ofNat significand).negate

def numberTail (positive : Bool) (significand : Nat) : Reader Number := do
  match ← peek with
  | some 46 => fractionPart positive significand 0
  | some 101 | some 69 => exponentPart positive significand 0
  | _ => pure (wholeNumber positive significand)

def unsigned (positive : Bool) : Reader Number := do
  match ← digitsAhead with
  | [] =>
    match ← peek with
    | none => fail .endInValue
    | some _ => bump; fail .invalidNumber
  | 0 :: later =>
    bump
    if later.isEmpty then numberTail positive 0 else failAhead .invalidNumber
  | ds =>
    let (significand, taken) := accumulate 0 0 ds
    skip ds.length
    if taken = ds.length then numberTail positive significand
    else
      let exponent : Int := (ds.length - taken : Nat)
      match ← peek with
      | some 46 => fractionPart positive significand exponent
      | _ => exponentOrEnd positive significand exponent

def number : Reader Number := do
  match ← peek with
  | some 45 => bump; unsigned false
  | _ => unsigned true

def hexValue? (b : UInt8) : Option Nat :=
  if isDigit b then some (b.toNat - 48)
  else if 97 ≤ b && b ≤ 102 then some (b.toNat - 87)
  else if 65 ≤ b && b ≤ 70 then some (b.toNat - 55)
  else none

/-- Four hexadecimal digits; all four bytes are consumed before they are looked at. -/
def hexFour : Reader Nat := do
  match ← remaining with
  | a :: b :: c :: d :: _ =>
    pass 4
    match [a, b, c, d].mapM hexValue? with
    | some ds => pure (ds.foldl (fun n d => n * 16 + d) 0)
    | none => fail .invalidEscape
  | rest =>
    pass rest.length
    fail .endInString

def lowSurrogate (high : Nat) : Reader Char := do
  for expected in [92, 117] do
    match ← peek with
    | none => fail .endInString
    | some b =>
      bump
      if b ≠ expected then fail .endInHexEscape
  let low ← hexFour
  if low < 0xDC00 ∨ 0xDFFF < low then fail .loneSurrogate
  else pure (Char.ofNat (0x10000 + (high - 0xD800) * 0x400 + (low - 0xDC00)))

def codeUnit : Reader Char := do
  let unit ← hexFour
  if 0xDC00 ≤ unit ∧ unit ≤ 0xDFFF then fail .loneSurrogate
  else if 0xD800 ≤ unit ∧ unit ≤ 0xDBFF then lowSurrogate unit
  else pure (Char.ofNat unit)

def escapeValue? (b : UInt8) : Option UInt8 :=
  match b with
  | 34 => some 34
  | 92 => some 92
  | 47 => some 47
  | 98 => some 8
  | 102 => some 12
  | 110 => some 10
  | 114 => some 13
  | 116 => some 9
  | _ => none

def escape : Reader Bytes := do
  match ← peek with
  | none => fail .endInString
  | some b =>
    bump
    if b = 117 then return String.utf8EncodeChar (← codeUnit)
    match escapeValue? b with
    | some v => pure [v]
    | none => fail .invalidEscape

def stringBytes : (limit : Nat) → (done : Bytes) → Reader Bytes
  | 0, _ => fail .endInString
  | limit + 1, done => do
    match ← peek with
    | none => fail .endInString
    | some 34 => bump; pure done.reverse
    | some 92 => bump; let bs ← escape; stringBytes limit (bs.reverse ++ done)
    | some b =>
      bump
      if b < 32 then fail .controlCharacter else stringBytes limit (b :: done)

/-- A string after its opening quote. Bytes that are no UTF-8 are noticed only at its end. The first of them is
pointed at as if the string were written without escapes up to its end. -/
def stringTail : Reader String := fun start =>
  match stringBytes (start.rest.length + 1) [] start with
  | .error fault c => .error fault c
  | .ok bytes c =>
    match Utf8.decode bytes with
    | .ok s => .ok s c
    | .error offset =>
      .error ⟨.invalidCodePoint, some ⟨c.place.line, c.place.column - bytes.length + offset⟩⟩ c

def skipString : (limit : Nat) → Reader Unit
  | 0 => fail .endInString
  | limit + 1 => do
    match ← peek with
    | none => fail .endInString
    | some 34 => bump
    | some 92 =>
      bump
      match ← peek with
      | none => fail .endInString
      | some b =>
        bump
        if b = 117 then
          let _ ← hexFour
          skipString limit
        else if (escapeValue? b).isSome then skipString limit
        else fail .invalidEscape
    | some b => if b < 32 then fail .controlCharacter else bump; skipString limit

end Journal.Json.Reader
