import Journal.Json.Record
import Journal.Restore.Request
/-!
Commands of the console, one JSON value each. The member `op` says which command it is; the others are read as
plain values first and given their types only then, so a fault in them has no place in the text.
-/
namespace Journal.Console

structure Write where
  source : Option String
  schema : Option String
  space : Option String
  entity : String
  id : String
  body : Option Json
  deriving DecidableEq, Repr

inductive Command where
  | put (write : Write)
  | delete (write : Write)
  | restore (request : RestoreRequest)
  | status (source : Option String)
  | stop (source : Option String)
  | list
  deriving DecidableEq, Repr

namespace Command

def tag : String := "op"

def names : List String := ["put", "delete", "restore", "status", "stop", "list"]

def writeShape : Json.Shape where
  title := "struct WriteCommand"
  fields := [("source", .optionalText), ("schema", .optionalText), ("namespace", .optionalText),
    ("entity", .text), ("id", .text), ("body", .optionalValue)]
  defaults := false

def sourceShape : Json.Shape where
  title := "struct SourceCommand"
  fields := [("source", .optionalText)]
  defaults := false

def writeOf (slots : Json.Slots) : Write where
  source := slots.text? "source"
  schema := slots.text? "schema"
  space := slots.text? "namespace"
  entity := slots.text "entity" ""
  id := slots.text "id" ""
  body := slots.value? "body"

open Json Json.Reader

abbrev Tagged := Option String × List (String × Json)

def taggedMember (room : Nat) (read : Tagged) (name : String) : Reader Tagged :=
  if name = tag then do
    if read.1.isSome then failUnplaced (.duplicateField tag)
    colon
    return (some (← variantName names), read.2)
  else do
    colon
    return (read.1, (name, ← value room) :: read.2)

def taggedMembers (room : Nat) : Reader (String × Json) := do
  let limit := (← remaining).length + 1
  match ← foldMembers (taggedMember room) limit true (none, []) with
  | (some name, members) => return (name, .object members.reverse)
  | (none, _) => failUnplaced (.missingField tag)

def taggedItems (room : Nat) : Reader (String × Json) := do
  if ← anotherItem true then
    let name ← variantName names
    let limit := (← remaining).length + 1
    let items ← foldItems (fun done => do return (← value room) :: done) limit false []
    return (name, .array items.reverse)
  else failUnplaced (.missingField tag)

def tagged : Reader (String × Json) := placed do
  match ← peekToken with
  | none => failAhead .endInValue
  | some 91 => bump; enclosed (taggedItems (deepest - 1)) closeList
  | some 123 => bump; enclosed (taggedMembers (deepest - 1)) closeObject
  | some _ => wrongType "internally tagged enum Command"

def inSequence (count : Nat) : String :=
  toString count ++ (if count = 1 then " element" else " elements") ++ " in sequence"

def slotsOf (shape : Shape) (content : Json) : Except Cause Slots :=
  shape.ofValue (inSequence shape.fields.length) content

def nothingIn (content : Json) : Except Cause Unit :=
  match content with
  | .array (_ :: rest) => .error (.invalidLength (rest.length + 1) (inSequence 0))
  | _ => .ok ()

def ofTagged (name : String) (content : Json) : Except Cause Command :=
  match name with
  | "put" => (slotsOf writeShape content).map fun slots => .put (writeOf slots)
  | "delete" => (slotsOf writeShape content).map fun slots => .delete (writeOf slots)
  | "restore" => (slotsOf RestoreRequest.shape content).map fun slots => .restore (.ofSlots slots)
  | "status" => (slotsOf sourceShape content).map fun slots => .status (slots.text? "source")
  | "stop" => (slotsOf sourceShape content).map fun slots => .stop (slots.text? "source")
  | _ => (nothingIn content).map fun _ => .list

/-- The content is given its type before the end of the text is looked for. -/
def reader : Reader Command := document do
  let (name, content) ← tagged
  ofExcept (ofTagged name content)

def ofText (s : String) : Except Fault Command := run reader (Utf8.encode s)

end Command
end Journal.Console
