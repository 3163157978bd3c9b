import Journal.Restore.Bounds
import Journal.Restore.Error
import Journal.Settings
/-!
Requests for a restore, as they come from outside: ids are text, and an empty id stands for no bound.
-/
namespace Journal

structure RestoreRequest where
  source : Option String := none
  fromId : Option String := none
  fromInclusive : Bool := true
  toId : Option String := none
  toInclusive : Bool := true
  deriving DecidableEq, Repr

namespace RestoreRequest

def readId (bound : BoundName) : Option String → Except RestoreError (Option Ulid)
  | none => .ok none
  | some "" => .ok none
  | some s =>
    match Ulid.ofText s with
    | .ok id => .ok (some id)
    | .error cause => .error (.invalidId bound s cause)

/-- The lower bound is read first. -/
def bounds (r : RestoreRequest) : Except RestoreError Bounds := do
  let lower ← readId .lower r.fromId
  let upper ← readId .upper r.toId
  pure ⟨lower, r.fromInclusive, upper, r.toInclusive⟩

def shape : Json.Shape where
  title := "struct RestoreRequest"
  fields := [("source", .optionalText), ("fromId", .optionalText), ("fromInclusive", .flag),
    ("toId", .optionalText), ("toInclusive", .flag)]
  defaults := true

def ofSlots (slots : Json.Slots) : RestoreRequest where
  source := slots.text? "source"
  fromId := slots.text? "fromId"
  fromInclusive := slots.flag "fromInclusive" true
  toId := slots.text? "toId"
  toInclusive := slots.flag "toInclusive" true

def ofText (s : String) : Except Json.Fault RestoreRequest := (shape.ofText s).map ofSlots

def ofValue (j : Json) : Except Json.Fault RestoreRequest :=
  unplaced ((shape.ofValue fewerElements j).map ofSlots)

end RestoreRequest
end Journal
