import Journal.Timestamp
import Journal.Power
/-!
Reading RFC 3339 text. Year to second stand at fixed positions, so a text of fewer than 19 bytes ends too
early whatever it holds. A `T` or a `Z` may be in lower case and a space may stand for the `T`; digits of a
second after the ninth are dropped; second 60 is a leap second; a minus sign may be U+2212.
-/
namespace Journal.Timestamp

inductive ReadError where
  | tooShort
  | tooLong
  | outOfRange
  | invalid
  deriving DecidableEq, Repr

def ReadError.message : ReadError → String
  | .tooShort => "premature end of input"
  | .tooLong => "trailing input"
  | .outOfRange => "input is out of range"
  | .invalid => "input contains invalid characters"

def digit? (c : Char) : Option Nat := if c.isDigit then some (c.toNat - '0'.toNat) else none

def digits : (count : Nat) → (value : Nat) → List Char → Except ReadError (Nat × List Char)
  | 0, value, rest => .ok (value, rest)
  | _ + 1, _, [] => .error .tooShort
  | count + 1, value, c :: rest =>
    match digit? c with
    | none => .error .invalid
    | some d => digits count (10 * value + d) rest

def separator (accepted : List Char) : List Char → Except ReadError (List Char)
  | [] => .error .tooShort
  | c :: rest => if accepted.contains c then .ok rest else .error .invalid

def readDate (s : List Char) : Except ReadError (Date × List Char) := do
  let (year, s) ← digits 4 0 s
  let s ← separator ['-'] s
  let (month, s) ← digits 2 0 s
  let s ← separator ['-'] s
  let (day, s) ← digits 2 0 s
  let date : Date := ⟨year, month, day⟩
  if date.isValid then pure (date, s) else throw .outOfRange

def readFraction : List Char → Except ReadError (Nat × List Char)
  | '.' :: rest =>
    match rest.takeWhile Char.isDigit with
    | [] => .error (if rest.isEmpty then .tooShort else .invalid)
    | ds =>
      let kept := ds.take 9
      let value := kept.foldl (fun n c => 10 * n + (c.toNat - '0'.toNat)) 0
      .ok (value * 10 ^ (9 - kept.length), rest.drop ds.length)
  | s => .ok (0, s)

def readTime (s : List Char) : Except ReadError ((Nat × Nat) × List Char) := do
  let (hour, s) ← digits 2 0 s
  let s ← separator [':'] s
  let (minute, s) ← digits 2 0 s
  let s ← separator [':'] s
  let (second, s) ← digits 2 0 s
  let (nanoseconds, s) ← readFraction s
  if 24 ≤ hour ∨ 60 ≤ minute ∨ 60 < second then throw .outOfRange
  let whole := hour * 3600 + minute * 60
  if second = 60 then pure ((whole + 59, nanoseconds + billion), s)
  else pure ((whole + second, nanoseconds), s)

def pair : List Char → Except ReadError (Char × Char × List Char)
  | [] => .error .tooShort
  | [c] => .error (if c.utf8Size = 1 then .tooShort else .invalid)
  | a :: b :: rest => .ok (a, b, rest)

def readHours (s : List Char) : Except ReadError (Nat × List Char) := do
  let (a, b, s) ← pair s
  match digit? a, digit? b with
  | some x, some y => pure (10 * x + y, s)
  | _, _ => throw .invalid

def readMinutes (s : List Char) : Except ReadError (Nat × List Char) := do
  let (minutes, s) ← readHours s
  if 60 ≤ minutes then throw .outOfRange
  pure (minutes, s)

def readOffset : List Char → Except ReadError (Int × List Char)
  | [] => .error .tooShort
  | c :: s => do
    if c = 'Z' ∨ c = 'z' then return (0, s)
    let negative := c = '-' ∨ c = '\u2212'
    if ¬ negative ∧ c ≠ '+' then throw .invalid
    let (hours, s) ← readHours s
    let s ← separator [':'] s
    let (minutes, s) ← readMinutes s
    let size : Int := (hours * 3600 + minutes * 60 : Nat)
    pure (if negative then -size else size, s)

def greatestOffset : Int := 86340

def ofChars (s : List Char) : Except ReadError Timestamp := do
  let (date, s) ← readDate s
  let s ← separator ['T', 't', ' '] s
  let ((second, nanoseconds), s) ← readTime s
  let (offset, s) ← readOffset s
  if ¬ s.isEmpty then throw .tooLong
  if offset < -greatestOffset ∨ greatestOffset < offset then throw .outOfRange
  pure ⟨date.toDay * 86400 + second - offset, nanoseconds, offset⟩

def ofText (s : String) : Except ReadError Timestamp :=
  if s.utf8ByteSize < 19 then .error .tooShort else ofChars s.toList

end Journal.Timestamp
