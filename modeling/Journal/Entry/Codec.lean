import Journal.Entry
import Journal.Json.Record
import Journal.Json.Writer
import Journal.Operation
import Journal.Timestamp.Reader
/-!
An operation as an entry. The part `meta` is a JSON object with six texts; the part `data` is the document
and is there only if the operation has a body.
-/
namespace Journal

inductive CodecError where
  | missingPart (id : Ulid) (part : String)
  | malformed (id : Ulid) (part : String) (fault : Json.Fault)
  | invalidVersion (id : Ulid) (cause : Timestamp.ReadError)
  | serialize (fault : Json.Fault)
  deriving DecidableEq, Repr

namespace CodecError

def causes : CodecError → List String
  | .missingPart .. => []
  | .malformed _ _ fault => [fault.message]
  | .invalidVersion _ cause => [cause.message]
  | .serialize fault => [fault.message]

def message : CodecError → String
  | .missingPart id part => "Entry " ++ id.text ++ " has no '" ++ part ++ "' part"
  | .malformed id part fault => "Entry " ++ id.text ++ " has malformed '" ++ part ++ "' part: " ++ fault.message
  | .invalidVersion id cause => "Entry " ++ id.text ++ " has invalid version timestamp: " ++ cause.message
  | .serialize fault => "Serialization failed: " ++ fault.message

end CodecError

namespace Entry

def metaPart : String := "meta"

def dataPart : String := "data"

def metaShape : Json.Shape where
  title := "struct EntryMeta"
  fields := ["method", "schema", "namespace", "entity", "id", "version"].map fun name => (name, .text)
  defaults := false

def metaOf (op : Operation) : Json := .object [
  ("method", .string op.method.text),
  ("schema", .string op.schema),
  ("namespace", .string op.space),
  ("entity", .string op.entity),
  ("id", .string op.id),
  ("version", .string op.version.text)]

def encode (op : Operation) : Entry :=
  let entry : Entry := { id := op.tx, position := op.position }
  let entry := entry.withPart metaPart (metaOf op).bytes
  match op.body with
  | none => entry
  | some body => entry.withPart dataPart body.bytes

def decodeBody (e : Entry) : Except CodecError (Option Json) :=
  match e.part? dataPart with
  | none => .ok none
  | some raw =>
    match Json.ofBytes raw with
    | .ok body => .ok (some body)
    | .error fault => .error (.malformed e.id dataPart fault)

/-- The metadata is read first, then its version, then the body. -/
def decode (e : Entry) : Except CodecError Operation :=
  match e.part? metaPart with
  | none => .error (.missingPart e.id metaPart)
  | some raw =>
    match metaShape.ofBytes raw with
    | .error fault => .error (.malformed e.id metaPart fault)
    | .ok slots =>
      match Timestamp.ofText (slots.text "version" "") with
      | .error cause => .error (.invalidVersion e.id cause)
      | .ok version => do
        let body ← decodeBody e
        pure {
          tx := e.id
          method := .ofText (slots.text "method" "")
          schema := slots.text "schema" ""
          space := slots.text "namespace" ""
          entity := slots.text "entity" ""
          id := slots.text "id" ""
          version
          body }

end Entry
end Journal
