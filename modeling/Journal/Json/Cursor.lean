import Journal.Json.Fault
import Journal.Text.Utf8
/-!
Reading positions in JSON text. A reader takes a cursor and gives a value or a fault, each with the cursor
at which it ended, because a fault inside an object is placed only after the end of the object was tried.
-/
namespace Journal.Json

structure Cursor where
  place : Place
  rest : Bytes
  deriving DecidableEq, Repr

def Place.start : Place := ⟨1, 0⟩

def Place.after (p : Place) (b : UInt8) : Place :=
  if b = 10 then ⟨p.line + 1, 0⟩ else ⟨p.line, p.column + 1⟩

namespace Cursor

def start (bytes : Bytes) : Cursor := ⟨.start, bytes⟩

def next (c : Cursor) : Cursor :=
  match c.rest with
  | [] => c
  | b :: rest => ⟨c.place.after b, rest⟩

def skip (c : Cursor) (count : Nat) : Cursor :=
  ⟨⟨c.place.line, c.place.column + count⟩, c.rest.drop count⟩

def pass : (count : Nat) → Cursor → Cursor
  | 0, c => c
  | count + 1, c => pass count c.next

end Cursor

abbrev Reader := EStateM Fault Cursor

namespace Reader

variable {α : Type}

def fail (cause : Cause) : Reader α := fun c => .error ⟨cause, some c.place⟩ c

def failAhead (cause : Cause) : Reader α := fun c => .error ⟨cause, some c.next.place⟩ c

def failUnplaced (cause : Cause) : Reader α := fun c => .error ⟨cause, none⟩ c

/-- Places an unplaced fault at the cursor where the reader ended. -/
def placed (r : Reader α) : Reader α := fun c =>
  match r c with
  | .ok a c' => .ok a c'
  | .error ⟨cause, none⟩ c' => .error ⟨cause, some c'.place⟩ c'
  | .error fault c' => .error fault c'

def peek : Reader (Option UInt8) := fun c => .ok c.rest.head? c

def bump : Reader Unit := fun c => .ok () c.next

def skip (count : Nat) : Reader Unit := fun c => .ok () (c.skip count)

def pass (count : Nat) : Reader Unit := fun c => .ok () (c.pass count)

def remaining : Reader Bytes := fun c => .ok c.rest c

def isBlank (b : UInt8) : Bool := b = 32 || b = 10 || b = 9 || b = 13

def afterBlanks (place : Place) : Bytes → Cursor
  | [] => ⟨place, []⟩
  | b :: rest => if isBlank b then afterBlanks (place.after b) rest else ⟨place, b :: rest⟩

def skipBlanks : Reader Unit := fun c => .ok () (afterBlanks c.place c.rest)

def peekToken : Reader (Option UInt8) := do
  skipBlanks
  peek

def word : Bytes → Reader Unit
  | [] => pure ()
  | expected :: later => do
    match ← peek with
    | none => fail .endInValue
    | some b =>
      bump
      if b = expected then word later else fail .expectedWord

def run (r : Reader α) (bytes : Bytes) : Except Fault α :=
  match r (.start bytes) with
  | .ok a _ => .ok a
  | .error fault _ => .error fault

end Reader
end Journal.Json
