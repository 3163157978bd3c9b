import Journal.Json.Scalar
/-!
Reading JSON values. Arrays and objects nest at most 127 deep. A value that is only skipped is checked for its
form alone: it may nest deeper, and its numbers may have any size.
-/
namespace Journal.Json.Reader

variable {α : Type}

def deepest : Nat := 127

def anotherItem (first : Bool) : Reader Bool := do
  match ← peekToken with
  | none => failAhead .endInList
  | some 93 => pure false
  | some 44 =>
    if first then pure true
    else
      bump
      match ← peekToken with
      | some 93 => failAhead .trailingComma
      | some _ => pure true
      | none => failAhead .endInValue
  | some _ => if first then pure true else failAhead .expectedListEnd

def anotherMember (first : Bool) : Reader Bool := do
  match ← peekToken with
  | none => failAhead .endInObject
  | some 125 => pure false
  | some 34 => if first then pure true else failAhead .expectedObjectEnd
  | some 44 =>
    if first then failAhead .keyNotString
    else
      bump
      match ← peekToken with
      | some 34 => pure true
      | some 125 => failAhead .trailingComma
      | some _ => failAhead .keyNotString
      | none => failAhead .endInValue
  | some _ => failAhead (if first then .keyNotString else .expectedObjectEnd)

def memberName : Reader String := do
  bump
  stringTail

def colon : Reader Unit := do
  match ← peekToken with
  | some 58 => bump
  | some _ => failAhead .expectedColon
  | none => failAhead .endInObject

def closeList : Reader Unit := do
  match ← peekToken with
  | some 93 => bump
  | some 44 =>
    bump
    match ← peekToken with
    | some 93 => failAhead .trailingComma
    | _ => failAhead .trailingCharacters
  | some _ => failAhead .trailingCharacters
  | none => failAhead .endInList

def closeObject : Reader Unit := do
  match ← peekToken with
  | some 125 => bump
  | some 44 => failAhead .trailingComma
  | some _ => failAhead .trailingCharacters
  | none => failAhead .endInObject

/-- The content of a container and then its end. The end is also tried after a fault, which moves the
place of a fault that has none yet; the first fault is the one that counts. -/
def enclosed (content : Reader α) (close : Reader Unit) : Reader α := fun c =>
  match content c with
  | .ok a c' =>
    match close c' with
    | .ok _ c'' => .ok a c''
    | .error fault c'' => .error fault c''
  | .error fault c' =>
    match close c' with
    | .ok _ c'' => .error fault c''
    | .error _ c'' => .error fault c''

def foldItems {σ : Type} (item : σ → Reader σ) : (limit : Nat) → (first : Bool) → σ → Reader σ
  | 0, _, s => pure s
  | limit + 1, first, s => do
    if ← anotherItem first then
      let s ← item s
      foldItems item limit false s
    else pure s

def foldMembers {σ : Type} (member : σ → String → Reader σ) :
    (limit : Nat) → (first : Bool) → σ → Reader σ
  | 0, _, s => pure s
  | limit + 1, first, s => do
    if ← anotherMember first then
      let name ← memberName
      let s ← member s name
      foldMembers member limit false s
    else pure s

def items (item : Reader α) : Reader (List α) := do
  let limit := (← remaining).length + 1
  let done ← foldItems (fun done => do return (← item) :: done) limit true []
  pure done.reverse

def members (value : Reader α) : Reader (List (String × α)) := do
  let limit := (← remaining).length + 1
  let done ← foldMembers (fun done name => do colon; return (name, ← value) :: done) limit true []
  pure done.reverse

inductive Container where
  | list
  | object

def valueWith (nested : Container → Reader Json) : Reader Json := do
  match ← peekToken with
  | none => failAhead .endInValue
  | some 110 => bump; word [117, 108, 108]; pure .null
  | some 116 => bump; word [114, 117, 101]; pure (.bool true)
  | some 102 => bump; word [97, 108, 115, 101]; pure (.bool false)
  | some 34 => bump; return .string (← stringTail)
  | some 91 => nested .list
  | some 123 => nested .object
  | some b =>
    if b = 45 || isDigit b then return .number (← number)
    else failAhead .expectedValue

/-- A value in which at most `room` containers may lie inside each other. Members stay as written. -/
def value : (room : Nat) → Reader Json
  | 0 => valueWith fun _ => failAhead .tooDeep
  | room + 1 => valueWith fun
    | .list => do
      bump
      return .array (← enclosed (items (value room)) closeList)
    | .object => do
      bump
      return .object (← enclosed (members (value room)) closeObject)

def skipDigits : Reader Unit := do skip (← digitsAhead).length

def skipExponent : Reader Unit := do
  bump
  match ← peek with
  | some 43 | some 45 => bump
  | _ => pure ()
  match ← digitsAhead with
  | [] => bump; fail .invalidNumber
  | ds => skip ds.length

def skipFraction : Reader Unit := do
  bump
  match ← digitsAhead with
  | [] => failAhead .invalidNumber
  | ds =>
    skip ds.length
    match ← peek with
    | some 101 | some 69 => skipExponent
    | _ => pure ()

def skipUnsigned : Reader Unit := do
  match ← digitsAhead with
  | [] => bump; fail .invalidNumber
  | 0 :: later =>
    bump
    unless later.isEmpty do failAhead .invalidNumber
  | ds => skip ds.length
  match ← peek with
  | some 46 => skipFraction
  | some 101 | some 69 => skipExponent
  | _ => pure ()

def skipScalar : Reader (Option Container) := do
  match ← peekToken with
  | none => failAhead .endInValue
  | some 110 => bump; word [117, 108, 108]; pure none
  | some 116 => bump; word [114, 117, 101]; pure none
  | some 102 => bump; word [97, 108, 115, 101]; pure none
  | some 45 => bump; skipUnsigned; pure none
  | some 34 => bump; skipString ((← remaining).length + 1); pure none
  | some 91 => bump; pure (some .list)
  | some 123 => bump; pure (some .object)
  | some b =>
    if isDigit b then
      skipUnsigned
      pure none
    else failAhead .expectedValue

def skipName : Container → Reader Unit
  | .list => pure ()
  | .object => do
    match ← peekToken with
    | some 34 => bump
    | some _ => failAhead .keyNotString
    | none => failAhead .endInObject
    skipString ((← remaining).length + 1)
    match ← peekToken with
    | some 58 => bump
    | some _ => failAhead .expectedColon
    | none => failAhead .endInObject

/-- Closes containers until a value follows in one of them; gives those still open, innermost first.
`full` says that the innermost container has a value already. -/
def skipClosings : (outer : List Container) → (full : Bool) → Reader (List Container)
  | [], _ => pure []
  | .list :: outer, full => do
    match ← peekToken with
    | some 44 =>
      if full then bump
      pure (.list :: outer)
    | some 93 => bump; skipClosings outer true
    | some _ => if full then failAhead .expectedListEnd else pure (.list :: outer)
    | none => failAhead .endInList
  | .object :: outer, full => do
    match ← peekToken with
    | some 44 =>
      if full then bump
      pure (.object :: outer)
    | some 125 => bump; skipClosings outer true
    | some _ => if full then failAhead .expectedObjectEnd else pure (.object :: outer)
    | none => failAhead .endInObject

def skipValues : (limit : Nat) → (outer : List Container) → Reader Unit
  | 0, _ => pure ()
  | limit + 1, outer => do
    let still ← do
      match ← skipScalar with
      | some c => skipClosings (c :: outer) false
      | none => skipClosings outer true
    match still with
    | [] => pure ()
    | c :: outer =>
      skipName c
      skipValues limit (c :: outer)

def skipValue : Reader Unit := do
  skipValues ((← remaining).length + 1) []

def documentEnd : Reader Unit := do
  match ← peekToken with
  | none => pure ()
  | some _ => failAhead .trailingCharacters

def document (r : Reader α) : Reader α := do
  let a ← r
  documentEnd
  pure a

end Journal.Json.Reader

namespace Journal.Json

def read (bytes : Bytes) : Except Fault Json :=
  Reader.run (Reader.document (Reader.value Reader.deepest)) bytes

def ofBytes (bytes : Bytes) : Except Fault Json := (read bytes).map canonical

def ofText (s : String) : Except Fault Json := ofBytes (Utf8.encode s)

end Journal.Json
