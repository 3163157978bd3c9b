import Journal.Yaml.Token
/-!
Reading positions in YAML text, the indentation of the open blocks, and the places at which a key may have
begun. That something was a key shows only at the colon after it; its tokens are then put in front of it.
-/
namespace Journal.Yaml

/-- The place of a character. Columns and indices count characters. -/
structure Mark where
  line : Nat := 0
  column : Nat := 0
  index : Nat := 0
  deriving DecidableEq, Repr

structure KeyStart where
  mark : Mark := {}
  position : Nat := 0
  possible : Bool := false
  required : Bool := false
  deriving DecidableEq, Repr

/-- An indentation that is left behind for a deeper one. Only a block is closed by a token. -/
structure Indent where
  column : Int
  isBlock : Bool
  deriving DecidableEq, Repr

structure Lexer where
  rest : List Char
  mark : Mark := {}
  fresh : Bool := true
  indent : Int := -1
  outer : List Indent := []
  keys : List KeyStart := [{}]
  keyAllowed : Bool := true
  adjacent : Nat := 0
  /-- A brace or a marked key was met in a flow collection, and no mapping without braces has ended since. -/
  braced : Bool := false
  /-- A colon in a flow collection has opened a mapping without braces. -/
  unbraced : Bool := false
  tokens : Array Token := #[]
  deriving Repr

abbrev Lex := StateT Lexer Option

namespace Lex

def endOfText : Char := '\x00'

def isBreak (c : Char) : Bool := c = '\n' || c = '\r'

def isBlank (c : Char) : Bool := c = ' ' || c = '\t'

def isBreakOrEnd (c : Char) : Bool := isBreak c || c = endOfText

def isSpace (c : Char) : Bool := isBlank c || isBreakOrEnd c

def isFlow (c : Char) : Bool := c = ',' || c = '[' || c = ']' || c = '\x7b' || c = '\x7d'

def isWordChar (c : Char) : Bool := c.isAlphanum || c = '-' || c = '_'

def ahead (distance : Nat) : Lex Char := do return (← get).rest.getD distance endOfText

def peek : Lex Char := ahead 0

def column : Lex Nat := do return (← get).mark.column

def inFlow : Lex Bool := do return 1 < (← get).keys.length

def limit : Lex Nat := do return (← get).rest.length + 1

def advance (lexer : Lexer) : Lexer :=
  { lexer with
    rest := lexer.rest.drop 1
    mark := { lexer.mark with column := lexer.mark.column + 1, index := lexer.mark.index + 1 } }

def skipBlank : Lex Unit := modify advance

def skip : Lex Unit := modify fun lexer => { advance lexer with fresh := false }

def skipMany (count : Nat) : Lex Unit := count.forM fun _ _ => skip

def skipBreak : Lex Unit :=
  modify fun lexer =>
    let size := match lexer.rest with
      | '\r' :: '\n' :: _ => 2
      | _ => 1
    { lexer with
      rest := lexer.rest.drop size
      mark := { line := lexer.mark.line + 1, column := 0, index := lexer.mark.index + size }
      fresh := true }

def push (token : Token) : Lex Unit := modify fun lexer => { lexer with tokens := lexer.tokens.push token }

def insert (position : Nat) (token : Token) : Lex Unit :=
  modify fun lexer =>
    let tokens := lexer.tokens
    { lexer with tokens := (tokens.extract 0 position).push token ++ tokens.extract position tokens.size }

def unlessM (condition : Lex Bool) (action : Lex Unit) : Lex Unit := do
  if ← condition then pure () else action

def skipLine : (limit : Nat) → Lex Unit
  | 0 => pure ()
  | limit + 1 => do
    if isBreakOrEnd (← peek) then pure ()
    else
      skip
      skipLine limit

structure Blanks where
  tab : Bool := false
  space : Bool := false

/-- Blanks and a comment up to the end of the line. A comment needs a blank in front of it. -/
def blanksInLine (tabs : Bool) : (limit : Nat) → Blanks → Lex Blanks
  | 0, found => pure found
  | limit + 1, found => do
    match ← peek with
    | ' ' => skipBlank; blanksInLine tabs limit { found with space := true }
    | '\t' =>
      if tabs then
        skipBlank
        blanksInLine tabs limit { found with tab := true }
      else pure found
    | '#' =>
      if found.tab || found.space then
        skipLine (← Lex.limit)
        pure found
      else failure
    | _ => pure found

def skipInLine (tabs : Bool) : Lex Blanks := do blanksInLine tabs (← limit) {}

def allowKey : Lex Unit := modify fun lexer => { lexer with keyAllowed := true }

def disallowKey : Lex Unit := modify fun lexer => { lexer with keyAllowed := false }

def toToken : (limit : Nat) → Lex Unit
  | 0 => pure ()
  | limit + 1 => do
    let lexer ← get
    match ← peek with
    | '\t' =>
      if !lexer.outer.isEmpty && lexer.fresh && lexer.mark.column < lexer.indent then
        let _ ← skipInLine true
        if isBreakOrEnd (← peek) then toToken limit else failure
      else
        skipBlank
        toToken limit
    | ' ' => skipBlank; toToken limit
    | '#' => skipLine (← Lex.limit); toToken limit
    | c =>
      if isBreak c then
        skipBreak
        unlessM inFlow allowKey
        toToken limit
      else pure ()

def closeBlocks (column : Int) : List Indent → Lex Unit
  | [] => pure ()
  | last :: outer => do
    if (← get).indent ≤ column then pure ()
    else
      modify fun lexer => { lexer with indent := last.column, outer }
      if last.isBlock then push .blockEnd
      closeBlocks column outer

def unroll (column : Int) : Lex Unit := do
  unlessM inFlow (closeBlocks column (← get).outer)

def dropLoose : List Indent → Lex Unit
  | last :: outer => do
    if last.isBlock then pure ()
    else
      modify fun lexer => { lexer with indent := last.column, outer }
      dropLoose outer
  | [] => pure ()

def roll (column : Nat) (position : Option Nat) (token : Token) : Lex Unit := do
  if ← inFlow then return
  let lexer ← get
  if lexer.indent ≤ column then
    match lexer.outer with
    | last :: outer => if !last.isBlock then set { lexer with indent := last.column, outer }
    | [] => pure ()
  let lexer ← get
  if lexer.indent < column then
    set { lexer with indent := (column : Int), outer := ⟨lexer.indent, true⟩ :: lexer.outer }
    match position with
    | some position => insert position token
    | none => push token

def rollLoose : Lex Unit := do
  if ← inFlow then return
  let lexer ← get
  match lexer.outer with
  | last :: _ =>
    if last.isBlock then
      set { lexer with indent := lexer.indent + 1, outer := ⟨lexer.indent, false⟩ :: lexer.outer }
  | [] => pure ()

def noteKey : Lex Unit := do
  let lexer ← get
  if lexer.keyAllowed then
    let inBlock := match lexer.outer with
      | last :: _ => last.isBlock
      | [] => false
    let required := !(← inFlow) && lexer.indent = lexer.mark.column && inBlock
    let start : KeyStart := { mark := lexer.mark, position := lexer.tokens.size, possible := true, required }
    set { lexer with keys := start :: lexer.keys.drop 1 }

def withoutKey : List KeyStart → List KeyStart
  | first :: others => { first with possible := false } :: others
  | [] => []

def dropKey : Lex Unit := do
  let lexer ← get
  match lexer.keys with
  | first :: _ => if first.possible && first.required then failure
  | [] => pure ()
  set { lexer with keys := withoutKey lexer.keys }

/-- Outside of flow collections a key lies in one line and is not longer than 1024 characters. -/
def dropOldKeys : Lex Unit := do
  let lexer ← get
  let isOld (start : KeyStart) : Bool :=
    start.possible && (start.mark.line < lexer.mark.line || start.mark.index + 1024 < lexer.mark.index)
  unlessM inFlow do
    match lexer.keys with
    | first :: others =>
      if isOld first then
        if first.required then failure
        set { lexer with keys := { first with possible := false } :: others }
    | [] => pure ()

def atDocumentMark : Lex Bool := do
  let lexer ← get
  if lexer.mark.column ≠ 0 then return false
  return (lexer.rest.take 3 = "---".toList || lexer.rest.take 3 = "...".toList) && isSpace (← ahead 3)

end Lex
end Journal.Yaml
