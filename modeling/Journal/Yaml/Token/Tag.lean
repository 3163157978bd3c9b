import Journal.Yaml.Token.Scalar
/-!
Anchors, tags and directives. In a tag and in what a handle stands for, a percent sign with two hexadecimal
digits is a byte.
-/
namespace Journal.Yaml.Lex

def word (accepted : Char → Bool) : (limit : Nat) → (done : List Char) → Lex String
  | 0, done => pure (String.ofList done.reverse)
  | limit + 1, done => do
    let c ← peek
    if accepted c then
      skip
      word accepted limit (c :: done)
    else return String.ofList done.reverse

def takeWord (accepted : Char → Bool) : Lex String := do word accepted (← limit) []

def skipBlanks : Lex Unit := do
  let _ ← takeWord isBlank

def isAnchorChar (c : Char) : Bool := !isSpace c && !isFlow c && c ≠ '\ufeff'

def anchorName : Lex String := do
  noteKey
  disallowKey
  skip
  let name ← takeWord isAnchorChar
  if name.isEmpty then failure
  return name

def isUriChar (c : Char) : Bool := isWordChar c || "#;/?:@&=+$,.!~*'()[]%".contains c

def isTagChar (c : Char) : Bool := isUriChar c && !isFlow c && c ≠ '!'

def escapedByte : Lex Nat := do
  if (← peek) ≠ '%' then failure
  let high ← hexValue? (← ahead 1)
  let low ← hexValue? (← ahead 2)
  skipMany 3
  return 16 * high + low

def trailing? (byte : Nat) : Option Nat :=
  if byte < 0x80 then some 0
  else if 0xC0 ≤ byte ∧ byte < 0xE0 then some 1
  else if 0xE0 ≤ byte ∧ byte < 0xF0 then some 2
  else if 0xF0 ≤ byte ∧ byte < 0xF8 then some 3
  else none

def trailingBytes : (count : Nat) → (code : Nat) → Lex Nat
  | 0, code => pure code
  | count + 1, code => do
    let byte ← escapedByte
    if byte < 0x80 ∨ 0xC0 ≤ byte then failure
    trailingBytes count (code * 0x100 + byte)

def percentEscape : Lex Char := do
  let first ← escapedByte
  charOfCode? (← trailingBytes (← trailing? first) first)

def uriWord (accepted : Char → Bool) : (limit : Nat) → (done : List Char) → Lex String
  | 0, done => pure (String.ofList done.reverse)
  | limit + 1, done => do
    let c ← peek
    if accepted c then
      let c ← if c = '%' then percentEscape else do skip; pure c
      uriWord accepted limit (c :: done)
    else return String.ofList done.reverse

def takeUri (accepted : Char → Bool) : Lex String := do uriWord accepted (← limit) []

def verbatimTag : Lex Token := do
  skipMany 2
  let suffix ← takeUri isUriChar
  if (← peek) ≠ '>' then failure
  skip
  return .tag "" suffix

def handleTag : Lex Token := do
  skip
  let name ← takeWord isWordChar
  if (← peek) = '!' then
    skip
    let suffix ← takeUri isTagChar
    if suffix.isEmpty then failure
    return .tag ("!" ++ name ++ "!") suffix
  else
    let suffix := name ++ (← takeUri isTagChar)
    return if suffix.isEmpty then .tag "" "!" else .tag "!" suffix

def tag : Lex Unit := do
  noteKey
  disallowKey
  let token ← if (← ahead 1) = '<' then verbatimTag else handleTag
  let c ← peek
  if isSpace c || ((← inFlow) && isFlow c) then push token else failure

def versionNumber : Lex Unit := do
  let digits ← takeWord Char.isDigit
  if digits.isEmpty || 9 < digits.length then failure

/-- What a handle stands for: a word that may begin with a mark. -/
def replacement : Lex String := do
  let c ← peek
  if c = '!' then
    skip
    return "!" ++ (← takeUri isUriChar)
  else if isTagChar c then takeUri isUriChar
  else failure

def version : Lex Token := do
  skipBlanks
  versionNumber
  if (← peek) ≠ '.' then failure
  skip
  versionNumber
  return .version

def tagHandle : Lex Token := do
  skipBlanks
  if (← peek) ≠ '!' then failure
  skip
  let name ← takeWord isWordChar
  let closed := (← peek) = '!'
  if closed then skip
  else if !name.isEmpty then failure
  skipBlanks
  let text ← replacement
  if !isSpace (← peek) then failure
  return .tagHandle (if closed then "!" ++ name ++ "!" else "!") text

def directive : Lex Unit := do
  unroll (-1)
  dropKey
  disallowKey
  skip
  let name ← takeWord isWordChar
  if name.isEmpty || !isSpace (← peek) then failure
  let token ← match name with
    | "YAML" => version
    | "TAG" => tagHandle
    | _ =>
      skipLine (← limit)
      pure (.tagHandle "" "")
  push token
  let _ ← skipInLine true
  if isBreakOrEnd (← peek) then
    if isBreak (← peek) then skipBreak
  else failure

end Journal.Yaml.Lex
