import Journal.Yaml.Token.Scalar
import Journal.Yaml.Token.Tag
/-!
All tokens of a text. A text that breaks a rule of tokens or of indentation has none.
-/
namespace Journal.Yaml.Lex

def documentMark (token : Token) : Lex Unit := do
  unroll (-1)
  dropKey
  disallowKey
  skipMany 3
  push token

def endMark : Lex Unit := do
  documentMark .documentEnd
  let _ ← skipInLine true
  if !isBreakOrEnd (← peek) then failure

def blockEntry : Lex Unit := do
  if ← inFlow then failure
  if !(← get).keyAllowed then failure
  let start ← column
  skip
  roll start none .blockSequence
  let found ← skipInLine true
  if found.tab && (← peek) = '-' && isSpace (← ahead 1) then failure
  let _ ← skipInLine false
  let c ← peek
  if isBreak c || isFlow c then rollLoose
  dropKey
  allowKey
  push .blockEntry

def keySpace : (limit : Nat) → (found : Bool) → Lex Bool
  | 0, found => pure found
  | limit + 1, found => do
    let c ← peek
    if c = ' ' then
      skipBlank
      keySpace limit true
    else if isBreak c then
      skipBreak
      unlessM inFlow allowKey
      keySpace limit true
    else if c = '#' then
      skipLine (← Lex.limit)
      keySpace limit found
    else return found

def markedKey : Lex Unit := do
  let flow ← inFlow
  if flow then modify fun lexer => { lexer with braced := true }
  else
    if !(← get).keyAllowed then failure
    roll (← column) none .blockMapping
  dropKey
  if flow then disallowKey else allowKey
  skip
  if !(← keySpace (← limit) false) || (← peek) = '\t' then failure
  push .key

/-- A colon. What was noted as the start of a key is one. In a flow collection the pair is a mapping of its
own, unless a brace or a marked key was met before. -/
def value : Lex Unit := do
  let start := (← get).mark
  let noted := ((← get).keys.head?).getD {}
  let flow ← inFlow
  let alone := flow && !(← get).braced
  modify fun lexer => { lexer with unbraced := alone }
  skip
  if (← peek) = '\t' then
    let found ← skipInLine true
    if !found.space && isWordChar (← peek) then failure
  if noted.possible then
    insert noted.position .key
    if alone then
      if noted.mark.line < start.line then failure
      insert noted.position .flowMapping
    roll noted.mark.column (some noted.position) .blockMapping
    rollLoose
    modify fun lexer => { lexer with keys := withoutKey lexer.keys }
    disallowKey
  else
    if alone then push .flowMapping
    if !flow then
      if !(← get).keyAllowed then failure
      roll start.column none .blockMapping
    rollLoose
    if flow then disallowKey else allowKey
  push .value

def deepest : Nat := 255

def closeUnbraced : Lex Unit := do
  if (← get).unbraced then
    modify fun lexer => { lexer with unbraced := false, braced := false }
    push .flowMappingEnd

def flowStart (token : Token) : Lex Unit := do
  noteKey
  rollLoose
  if deepest < (← get).keys.length then failure
  modify fun lexer => { lexer with keys := {} :: lexer.keys }
  allowKey
  skip
  if token = .flowMapping then modify fun lexer => { lexer with braced := true }
  let _ ← skipInLine true
  push token

def flowEnd (token : Token) : Lex Unit := do
  dropKey
  modify fun lexer =>
    { lexer with keys := if 1 < lexer.keys.length then lexer.keys.drop 1 else lexer.keys }
  disallowKey
  closeUnbraced
  skip
  let _ ← skipInLine true
  if ← inFlow then modify fun lexer => { lexer with adjacent := lexer.mark.index }
  push token

def flowEntry : Lex Unit := do
  dropKey
  allowKey
  closeUnbraced
  skip
  let _ ← skipInLine true
  push .flowEntry

def indicated (c next : Char) : Lex Unit := do
  let flow ← inFlow
  let lexer ← get
  match c with
  | '[' => flowStart .flowSequence
  | '\x7b' => flowStart .flowMapping
  | ']' => flowEnd .flowSequenceEnd
  | '\x7d' => flowEnd .flowMappingEnd
  | ',' => flowEntry
  | '*' => push (.alias (← anchorName))
  | '&' => push (.anchor (← anchorName))
  | '!' => tag
  | '\'' => quotedScalar true
  | '"' => quotedScalar false
  | '%' | '@' | '\x60' => failure
  | '-' => if isSpace next then blockEntry else plainScalar
  | '?' => if isSpace next then markedKey else plainScalar
  | ':' =>
    if isSpace next || (flow && (isFlow next || lexer.mark.index = lexer.adjacent)) then value
    else plainScalar
  | '|' => if flow then plainScalar else blockScalar true
  | '>' => if flow then plainScalar else blockScalar false
  | _ => plainScalar

def next : Lex Bool := do
  toToken (← limit)
  dropOldKeys
  unroll (← column)
  let c ← peek
  if c = endOfText then
    for start in (← get).keys do
      if start.possible && start.required then failure
    unroll (-1)
    return true
  if (← column) = 0 && c = '%' then
    directive
  else if ← atDocumentMark then
    if c = '-' then documentMark .documentStart else endMark
  else if (← column) < (← get).indent then
    failure
  else
    indicated c (← ahead 1)
  return false

def all : (limit : Nat) → Lex Unit
  | 0 => pure ()
  | limit + 1 => do
    if ← next then pure () else all limit

end Journal.Yaml.Lex

namespace Journal.Yaml

def tokens? (text : String) : Option (List Token) := do
  let chars := text.toList.takeWhile (· ≠ Lex.endOfText)
  let (_, lexer) ← (Lex.all (chars.length + 2)).run { rest := chars }
  some lexer.tokens.toList

end Journal.Yaml
