import Journal.Table
import Journal.Text.Utf8
import Journal.Ulid
/-!
Entries of the log. The named parts can be read one by one, so metadata does not need the document.
-/
namespace Journal

structure Entry where
  id : Ulid
  position : String
  parts : Table Bytes := []
  deriving DecidableEq, Repr

namespace Entry

def withPart (e : Entry) (name : String) (content : Bytes) : Entry :=
  { e with parts := e.parts.insert name content }

def part? (e : Entry) (name : String) : Option Bytes := e.parts.get? name

def hasPart (e : Entry) (name : String) : Bool := e.parts.contains name

def partNames (e : Entry) : List String := e.parts.names

end Entry
end Journal
