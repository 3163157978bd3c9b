import Journal.Decimal.Shortest
import Journal.Json
import Journal.Text.Utf8
/-!
Compact JSON text. Members are written in the order in which the object holds them. In strings a quote, a
backslash and control characters are escaped; all other characters stand for themselves.
-/
namespace Journal.Json

def hexDigit (n : Nat) : Char := "0123456789abcdef".toList.getD n '0'

def shortEscape? (c : Char) : Option Char :=
  if c = '\x08' then some 'b'
  else if c = '\x0c' then some 'f'
  else if c = '\n' then some 'n'
  else if c = '\r' then some 'r'
  else if c = '\t' then some 't'
  else none

def escapedChar (c : Char) : List Char :=
  if c = '"' ∨ c = '\\' then ['\\', c]
  else if c.toNat < 0x20 then
    match shortEscape? c with
    | some e => ['\\', e]
    | none => ['\\', 'u', '0', '0', hexDigit (c.toNat / 16), hexDigit (c.toNat % 16)]
  else [c]

def stringChars (s : String) : List Char := '"' :: s.toList.flatMap escapedChar ++ ['"']

def numberText : Number → String
  | .integer n => toString n
  | .real x => if x.isFinite then x.scientificText else "null"

mutual

def chars : Json → List Char
  | .null => ['n', 'u', 'l', 'l']
  | .bool true => ['t', 'r', 'u', 'e']
  | .bool false => ['f', 'a', 'l', 's', 'e']
  | .number n => (numberText n).toList
  | .string s => stringChars s
  | .array [] => ['[', ']']
  | .array (item :: rest) => '[' :: (chars item ++ itemChars rest)
  | .object [] => ['\x7b', '\x7d']
  | .object ((name, value) :: rest) =>
    '\x7b' :: (stringChars name ++ ':' :: (chars value ++ memberChars rest))

def itemChars : List Json → List Char
  | [] => [']']
  | item :: rest => ',' :: (chars item ++ itemChars rest)

def memberChars : List (String × Json) → List Char
  | [] => ['\x7d']
  | (name, value) :: rest => ',' :: (stringChars name ++ ':' :: (chars value ++ memberChars rest))

end

def text (j : Json) : String := String.ofList j.chars

def bytes (j : Json) : Bytes := j.chars.flatMap String.utf8EncodeChar

end Journal.Json
