import Journal.Text.Visible
/-!
Text shown between double quotes in messages. A quote and a backslash are escaped, the common blanks
have short escapes, and every other hidden character is written as its code point in braces.
-/
namespace Journal.Text

def hexDigits (n : Nat) : List Char := (Nat.toDigits 16 n)

def codePoint (c : Char) : List Char := ['\\', 'u', '\x7b'] ++ hexDigits c.toNat ++ ['\x7d']

def quotedChar (c : Char) : List Char :=
  if c = '\x00' then ['\\', '0']
  else if c = '\t' then ['\\', 't']
  else if c = '\n' then ['\\', 'n']
  else if c = '\r' then ['\\', 'r']
  else if c = '"' then ['\\', '"']
  else if c = '\\' then ['\\', '\\']
  else if isHidden c then codePoint c
  else [c]

def quoted (s : String) : String := "\"" ++ String.ofList (s.toList.flatMap quotedChar) ++ "\""

end Journal.Text
