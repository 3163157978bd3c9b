import Journal.Yaml.Token.Lexer
/-!
Scalars. A single line break inside a scalar becomes a space, several become one less; in literal blocks
line breaks stay.
-/
namespace Journal.Yaml.Lex

/-- Line breaks that were read and not yet written: the first one, and the others. -/
structure Folding where
  first : Bool := false
  others : Nat := 0

def breaks (count : Nat) : List Char := List.replicate count '\n'

def Folding.text (f : Folding) : List Char :=
  if f.first && f.others = 0 then [' '] else breaks f.others

def plainAhead : Lex Bool := do
  let c ← peek
  let next ← ahead 1
  let flow ← inFlow
  return !isSpace c && !(c = ':' && (isSpace next || (flow && isFlow next))) && !(flow && isFlow c)

def plainWord : (limit : Nat) → (done : List Char) → Lex (List Char)
  | 0, done => pure done
  | limit + 1, done => do
    if ← plainAhead then
      let c ← peek
      skip
      plainWord limit (c :: done)
    else pure done

def plainBlanks (indent : Int) : (limit : Nat) → (blanks : List Char) → Folding → Lex (List Char × Folding)
  | 0, blanks, folding => pure (blanks, folding)
  | limit + 1, blanks, folding => do
    let lexer ← get
    let c ← peek
    if isBlank c then
      if !lexer.fresh then
        skipBlank
        plainBlanks indent limit (c :: blanks) folding
      else if lexer.mark.column < indent && c = '\t' then
        let _ ← skipInLine true
        if isBreakOrEnd (← peek) then plainBlanks indent limit blanks folding else failure
      else
        skipBlank
        plainBlanks indent limit blanks folding
    else if isBreak c then
      skipBreak
      if lexer.fresh then plainBlanks indent limit blanks { folding with others := folding.others + 1 }
      else plainBlanks indent limit [] { folding with first := true }
    else pure (blanks, folding)

def plainWords (indent : Int) : (limit : Nat) → (done between : List Char) → Lex (List Char)
  | 0, done, _ => pure done
  | limit + 1, done, between => do
    if ← atDocumentMark then return done
    let c ← peek
    if c = '#' then return done
    if (← inFlow) && c = '-' && isFlow (← ahead 1) then failure
    if ← plainAhead then
      let done ← plainWord (← Lex.limit) (between.reverse ++ done)
      let (blanks, folding) ← plainBlanks indent (← Lex.limit) [] {}
      if !(← inFlow) && (← column) < indent then return done
      let between := if (← get).fresh then folding.text else blanks.reverse
      if isSpace (← peek) then return done
      plainWords indent limit done between
    else return done

def plainScalar : Lex Unit := do
  noteKey
  disallowKey
  dropLoose (← get).outer
  let indent := (← get).indent + 1
  if (← inFlow) && (← column) < indent then failure
  let done ← plainWords indent (← limit) [] []
  if (← get).fresh then allowKey
  push (.scalar true (String.ofList done.reverse))

def hexValue? (c : Char) : Option Nat :=
  if c.isDigit then some (c.toNat - 48)
  else if 'a' ≤ c ∧ c ≤ 'f' then some (c.toNat - 87)
  else if 'A' ≤ c ∧ c ≤ 'F' then some (c.toNat - 55)
  else none

def charOfCode? (n : Nat) : Option Char := if h : n.isValidChar then some (Char.ofNatAux n h) else none

def codeEscape (digits : Nat) : Lex Char := do
  let ds ← ((← get).rest.take digits).mapM fun c => (hexValue? c : Option Nat)
  if ds.length ≠ digits then failure
  skipMany digits
  charOfCode? (ds.foldl (fun n d => n * 16 + d) 0)

def simpleEscape? (c : Char) : Option Char :=
  match c with
  | '0' => some '\x00'
  | 'a' => some '\x07'
  | 'b' => some '\x08'
  | 't' | '\t' => some '\t'
  | 'n' => some '\n'
  | 'v' => some '\x0b'
  | 'f' => some '\x0c'
  | 'r' => some '\r'
  | 'e' => some '\x1b'
  | ' ' => some ' '
  | '"' => some '"'
  | '/' => some '/'
  | '\\' => some '\\'
  | 'N' => some '\u0085'
  | '_' => some '\u00a0'
  | 'L' => some '\u2028'
  | 'P' => some '\u2029'
  | _ => none

def escape : Lex Char := do
  let c ← ahead 1
  skipMany 2
  match c with
  | 'x' => codeEscape 2
  | 'u' => codeEscape 4
  | 'U' => codeEscape 8
  | c => simpleEscape? c

def quotedWord (single : Bool) : (limit : Nat) → (done : List Char) → Lex (List Char × Bool)
  | 0, done => pure (done, false)
  | limit + 1, done => do
    let c ← peek
    let next ← ahead 1
    if isSpace c then return (done, false)
    if single then
      if c = '\'' then
        if next = '\'' then
          skipMany 2
          quotedWord single limit ('\'' :: done)
        else return (done, false)
      else
        skip
        quotedWord single limit (c :: done)
    else if c = '"' then return (done, false)
    else if c = '\\' then
      if isBreak next then
        skip
        skipBreak
        return (done, true)
      else
        let e ← escape
        quotedWord single limit (e :: done)
    else
      skip
      quotedWord single limit (c :: done)

def quotedBlanks : (limit : Nat) → (leading : Bool) → (blanks : List Char) → Folding →
    Lex (Bool × List Char × Folding)
  | 0, leading, blanks, folding => pure (leading, blanks, folding)
  | limit + 1, leading, blanks, folding => do
    let c ← peek
    if isBlank c then
      if leading && c = '\t' && (← column) < (← get).indent then failure
      skipBlank
      quotedBlanks limit leading (if leading then blanks else c :: blanks) folding
    else if isBreak c then
      skipBreak
      if leading then quotedBlanks limit true blanks { folding with others := folding.others + 1 }
      else quotedBlanks limit true [] { folding with first := true }
    else pure (leading, blanks, folding)

def quotedWords (single : Bool) (quote : Char) : (limit : Nat) → (done : List Char) → Lex (List Char)
  | 0, _ => failure
  | limit + 1, done => do
    if ← atDocumentMark then failure
    if (← peek) = endOfText then failure
    if (← column) < (← get).indent then failure
    let (done, leading) ← quotedWord single (← Lex.limit) done
    if (← peek) = quote then return done
    let (leading, blanks, folding) ← quotedBlanks (← Lex.limit) leading [] {}
    let between := if leading then folding.text else blanks.reverse
    quotedWords single quote limit (between.reverse ++ done)

def quotedEnd (line : Nat) : Lex Unit := do
  let _ ← skipInLine true
  let c ← peek
  let flow ← inFlow
  if isBreakOrEnd c then return
  if flow && (c = ',' || c = '\x7d' || c = ']' || c = ':') then return
  if !flow && c = ':' && line = (← get).mark.line then return
  failure

def quotedScalar (single : Bool) : Lex Unit := do
  noteKey
  disallowKey
  let line := (← get).mark.line
  skip
  let done ← quotedWords single (if single then '\'' else '"') (← limit) []
  skip
  quotedEnd line
  toToken (← limit)
  modify fun lexer => { lexer with adjacent := lexer.mark.index }
  push (.scalar false (String.ofList done.reverse))

inductive Chomping where
  | strip
  | clip
  | keep
  deriving DecidableEq

def chomping? (c : Char) : Option Chomping :=
  if c = '+' then some .keep else if c = '-' then some .strip else none

def skipChomping : Lex (Option Chomping) := do
  match chomping? (← peek) with
  | some chomping => skip; return some chomping
  | none => return none

def skipIncrement : Lex (Option Nat) := do
  let c ← peek
  if c = '0' then failure
  if c.isDigit then
    skip
    return some (c.toNat - 48)
  return none

def blockHeader : Lex (Chomping × Option Nat) := do
  match ← skipChomping with
  | some chomping => return (chomping, ← skipIncrement)
  | none =>
    let increment ← skipIncrement
    let chomping ← if increment.isSome then skipChomping else pure none
    return (chomping.getD .clip, increment)

def blockIndent (indent : Nat) : (limit : Nat) → (count : Nat) → Lex Nat
  | 0, count => pure count
  | limit + 1, count => do
    let c ← peek
    if c = ' ' && (← column) < indent then
      skipBlank
      blockIndent indent limit count
    else if isBreak c then
      skipBreak
      blockIndent indent limit (count + 1)
    else return count

def firstIndent : (limit : Nat) → (widest count : Nat) → Lex (Nat × Nat)
  | 0, widest, count => pure (widest, count)
  | limit + 1, widest, count => do
    let c ← peek
    if c = ' ' then
      skipBlank
      firstIndent limit widest count
    else
      let widest := max widest (← column)
      if isBreak c then
        skipBreak
        firstIndent limit widest (count + 1)
      else return (widest, count)

def blockLine : (limit : Nat) → (done : List Char) → Lex (List Char)
  | 0, done => pure done
  | limit + 1, done => do
    let c ← peek
    if isBreakOrEnd c then return done
    skipBlank
    blockLine limit (c :: done)

/-- What was read of a block: the text, reversed; whether a line break came after it; how many more came; and
whether the last line began with a blank. -/
structure BlockText where
  done : List Char := []
  first : Bool := false
  others : Nat := 0
  indented : Bool := false

/-- What stands between two lines. Lines that begin with a blank are not folded. -/
def BlockText.between (literal indented : Bool) (b : BlockText) : List Char :=
  if !literal && b.first && !b.indented && !indented then
    if b.others = 0 then [' '] else breaks b.others
  else breaks ((if b.first then 1 else 0) + b.others)

def blockLines (literal : Bool) (indent : Nat) : (limit : Nat) → BlockText → Lex BlockText
  | 0, b => pure b
  | limit + 1, b => do
    let c ← peek
    if (← column) ≠ indent || c = endOfText then return b
    if indent = 0 && (← atDocumentMark) then return b
    let indented := isBlank c
    let done ← blockLine (← Lex.limit) ((b.between literal indented).reverse ++ b.done)
    if (← peek) = endOfText then return { done, indented }
    skipBreak
    let others ← blockIndent indent (← Lex.limit) 0
    blockLines literal indent limit { done, first := true, others, indented }

def chomp (chomping : Chomping) (indent : Nat) (b : BlockText) : Lex (List Char) := do
  if chomping = .strip then return b.done
  let last := if b.first then ['\n'] else []
  let ended := (← peek) = endOfText && max indent 1 ≤ (← column)
  let missing := if ended then ['\n'] else []
  let kept := if chomping = .keep then breaks b.others else []
  return kept ++ missing ++ last ++ b.done

def blockScalar (literal : Bool) : Lex Unit := do
  noteKey
  allowKey
  let line := (← get).mark.line
  skip
  dropLoose (← get).outer
  let (chomping, increment) ← blockHeader
  let _ ← skipInLine true
  if !isBreakOrEnd (← peek) then failure
  let hasBreak := isBreak (← peek)
  if hasBreak then skipBreak
  if (← peek) = '\t' then failure
  let outer := (← get).indent
  let (indent, others) ←
    match increment with
    | some n =>
      let indent := if 0 ≤ outer then outer.toNat + n else n
      pure (indent, ← blockIndent indent (← limit) 0)
    | none =>
      let (widest, count) ← firstIndent (← limit) 0 0
      let least := if 0 < outer then 1 else 0
      pure (max (max widest (outer + 1).toNat) least, count)
  if (← peek) = endOfText then
    let text : List Char :=
      if chomping = .strip || (← get).mark.line = line then []
      else if chomping = .keep && others ≠ 0 then breaks others
      else if hasBreak then ['\n'] else []
    push (.scalar false (String.ofList text))
  else
    if (← column) < indent && outer < (← column) then failure
    let b ← blockLines literal indent (← limit) { others }
    push (.scalar false (String.ofList (← chomp chomping indent b).reverse))

end Journal.Yaml.Lex
