import Journal.Json.Reader
/-!
Records: JSON objects with known members. A record is also accepted as an array of its fields in order, and
members that are not known are skipped. A record is read either straight from text, where a fault in an
early member comes before one that lies further on, or from a JSON value.
-/
namespace Journal.Json

inductive FieldType where
  | text
  | optionalText
  | flag
  | count
  | optionalValue
  | variant (known : List String)
  deriving DecidableEq, Repr

inductive FieldValue where
  | absent
  | text (value : String)
  | flag (value : Bool)
  | count (value : Nat)
  | value (value : Json)
  deriving DecidableEq, Repr

structure Shape where
  title : String
  fields : List (String × FieldType)
  defaults : Bool
  deriving DecidableEq, Repr

abbrev Slots := List (String × FieldValue)

namespace Slots

def find? (slots : Slots) (name : String) : Option FieldValue :=
  (List.find? (fun slot => slot.1 = name) slots).map Prod.snd

def text (slots : Slots) (name fallback : String) : String :=
  match slots.find? name with
  | some (.text s) => s
  | _ => fallback

def text? (slots : Slots) (name : String) : Option String :=
  match slots.find? name with
  | some (.text s) => some s
  | _ => none

def flag (slots : Slots) (name : String) (fallback : Bool) : Bool :=
  match slots.find? name with
  | some (.flag b) => b
  | _ => fallback

def count (slots : Slots) (name : String) (fallback : Nat) : Nat :=
  match slots.find? name with
  | some (.count n) => n
  | _ => fallback

def value? (slots : Slots) (name : String) : Option Json :=
  match slots.find? name with
  | some (.value j) => some j
  | _ => none

end Slots

namespace FieldType

def optional : FieldType → Bool
  | .optionalText | .optionalValue => true
  | _ => false

end FieldType

namespace Shape

def type? (shape : Shape) (name : String) : Option FieldType :=
  (shape.fields.find? fun field => field.1 = name).map Prod.snd

def complete (shape : Shape) (slots : Slots) : Except Cause Slots :=
  match shape.fields.find? fun field =>
      (slots.find? field.1).isNone && !shape.defaults && !field.2.optional with
  | some field => .error (.missingField field.1)
  | none => .ok slots

def lengthText (shape : Shape) : String :=
  shape.title ++ " with " ++ toString shape.fields.length ++
    (if shape.fields.length = 1 then " element" else " elements")

end Shape

namespace Reader

variable {α : Type}

/-- A value of the wrong type. Scalars are consumed, containers are not. -/
def wrongType (expected : String) : Reader α := placed do
  match ← peek with
  | some 110 => bump; word [117, 108, 108]; failUnplaced (.invalidType .null expected)
  | some 116 => bump; word [114, 117, 101]; failUnplaced (.invalidType (.bool true) expected)
  | some 102 => bump; word [97, 108, 115, 101]; failUnplaced (.invalidType (.bool false) expected)
  | some 34 => bump; let s ← stringTail; failUnplaced (.invalidType (.string s) expected)
  | some 91 => failUnplaced (.invalidType .sequence expected)
  | some 123 => failUnplaced (.invalidType .map expected)
  | some b =>
    if b = 45 || isDigit b then
      let n ← number
      failUnplaced (.invalidType (.number n) expected)
    else failAhead .expectedValue
  | none => failAhead .expectedValue

def textAs (expected : String) : Reader String := do
  match ← peekToken with
  | none => failAhead .endInValue
  | some 34 => bump; stringTail
  | some _ => wrongType expected

def flag : Reader Bool := do
  match ← peekToken with
  | none => failAhead .endInValue
  | some 116 => bump; word [114, 117, 101]; pure true
  | some 102 => bump; word [97, 108, 115, 101]; pure false
  | some _ => wrongType "a boolean"

def countOf : Number → Except Cause Nat
  | .integer n => if 0 ≤ n then .ok n.toNat else .error (.invalidValue (.number (.integer n)) "u64")
  | .real x => .error (.invalidType (.number (.real x)) "u64")

def ofExcept : Except Cause α → Reader α
  | .ok a => pure a
  | .error cause => failUnplaced cause

def count : Reader Nat := do
  match ← peekToken with
  | none => failAhead .endInValue
  | some b =>
    if b = 45 || isDigit b then placed do ofExcept (countOf (← number))
    else wrongType "u64"

def unit : Reader Unit := do
  match ← peekToken with
  | none => failAhead .endInValue
  | some 110 => bump; word [117, 108, 108]
  | some _ => wrongType "unit"

def variantName (known : List String) : Reader String := placed do
  let name ← textAs "variant identifier"
  if known.contains name then pure name else failUnplaced (.unknownVariant name known)

def variant (known : List String) (room : Nat) : Reader String := do
  match ← peekToken with
  | none => failAhead .endInValue
  | some 34 => variantName known
  | some 123 =>
    if room = 0 then failAhead .tooDeep
    bump
    match ← peekToken with
    | none => failAhead .endInObject
    | some 34 => pure ()
    | some 125 => failAhead .expectedValue
    | some _ => failAhead .keyNotString
    let name ← variantName known
    colon
    unit
    match ← peekToken with
    | some 125 => bump; pure name
    | some _ => fail .expectedValue
    | none => fail .endInObject
  | some _ => failAhead .expectedValue

def absentOr (r : Reader FieldValue) : Reader FieldValue := do
  match ← peekToken with
  | some 110 => bump; word [117, 108, 108]; pure .absent
  | _ => r

def field (room : Nat) : FieldType → Reader FieldValue
  | .text => return .text (← textAs "a string")
  | .optionalText => absentOr do return .text (← textAs "a string")
  | .flag => return .flag (← flag)
  | .count => return .count (← count)
  | .optionalValue => absentOr do return .value (← value room).canonical
  | .variant known => return .text (← variant known room)

def recordMember (shape : Shape) (room : Nat) (slots : Slots) (name : String) : Reader Slots :=
  match shape.type? name with
  | none => do
    colon
    skipValue
    pure slots
  | some type =>
    if (slots.find? name).isSome then failUnplaced (.duplicateField name)
    else do
      colon
      return slots ++ [(name, ← field room type)]

def recordItems (shape : Shape) (room : Nat) :
    List (String × FieldType) → (first : Bool) → Slots → Reader Slots
  | [], _, slots => pure slots
  | (name, type) :: later, first, slots => do
    if ← anotherItem first then
      recordItems shape room later false (slots ++ [(name, ← field room type)])
    else if shape.defaults then recordItems shape room later first slots
    else failUnplaced (.invalidLength slots.length shape.lengthText)

def record (shape : Shape) (room : Nat) : Reader Slots := placed do
  match ← peekToken with
  | none => failAhead .endInValue
  | some 91 =>
    if room = 0 then failAhead .tooDeep
    bump
    enclosed (recordItems shape (room - 1) shape.fields true []) closeList
  | some 123 =>
    if room = 0 then failAhead .tooDeep
    bump
    let content : Reader Slots := do
      let limit := (← remaining).length + 1
      let slots ← foldMembers (recordMember shape (room - 1)) limit true []
      ofExcept (shape.complete slots)
    enclosed content closeObject
  | some _ => wrongType shape.title

end Reader

def Shape.ofBytes (shape : Shape) (bytes : Bytes) : Except Fault Slots :=
  Reader.run (Reader.document (Reader.record shape Reader.deepest)) bytes

def Shape.ofText (shape : Shape) (s : String) : Except Fault Slots := shape.ofBytes (Utf8.encode s)

def variantOf (known : List String) (j : Json) : Except Cause String :=
  let check (name : String) : Except Cause String :=
    if known.contains name then .ok name else .error (.unknownVariant name known)
  match j with
  | .string name => check name
  | .object [(name, content)] => do
    let name ← check name
    match content with
    | .null => pure name
    | other => throw (.invalidType (.of other) "unit")
  | .object _ => .error (.invalidValue .map "map with a single key")
  | other => .error (.invalidType (.of other) "string or map")

def FieldType.ofValue (type : FieldType) (j : Json) : Except Cause FieldValue :=
  match type, j with
  | .optionalText, .null | .optionalValue, .null => .ok .absent
  | .optionalValue, j => .ok (.value j.canonical)
  | .text, .string s | .optionalText, .string s => .ok (.text s)
  | .text, j | .optionalText, j => .error (.invalidType (.of j) "a string")
  | .flag, .bool b => .ok (.flag b)
  | .flag, j => .error (.invalidType (.of j) "a boolean")
  | .count, .number n => (Reader.countOf n).map .count
  | .count, j => .error (.invalidType (.of j) "u64")
  | .variant known, j => (variantOf known j).map .text

namespace Shape

def members (shape : Shape) : List (String × Json) → Slots → Except Cause Slots
  | [], slots => shape.complete slots
  | (name, j) :: rest, slots =>
    match shape.type? name with
    | none => members shape rest slots
    | some type =>
      if (slots.find? name).isSome then .error (.duplicateField name)
      else do members shape rest (slots ++ [(name, ← type.ofValue j)])

def items (shape : Shape) : List (String × FieldType) → List Json → Slots → Except Cause Slots
  | [], _, slots => .ok slots
  | (name, type) :: later, j :: rest, slots => do
    items shape later rest (slots ++ [(name, ← type.ofValue j)])
  | _ :: later, [], slots =>
    if shape.defaults then items shape later [] slots
    else .error (.invalidLength slots.length shape.lengthText)

def ofValue (shape : Shape) (tooLong : String) (j : Json) : Except Cause Slots :=
  match j with
  | .object ms => shape.members ms []
  | .array js => do
    let slots ← shape.items shape.fields js []
    if shape.fields.length < js.length then throw (.invalidLength js.length tooLong)
    pure slots
  | other => .error (.invalidType (.of other) shape.title)

end Shape

end Journal.Json
