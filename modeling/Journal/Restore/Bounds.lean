import Journal.Log.Start
/-!
The range of entries that a restore replays. A bound that is not given is open.
-/
namespace Journal

structure Bounds where
  lower : Option Ulid := none
  lowerInclusive : Bool := true
  upper : Option Ulid := none
  upperInclusive : Bool := true
  deriving DecidableEq, Repr

namespace Bounds

def start (b : Bounds) : Option Start := b.lower.map fun id => ⟨id, b.lowerInclusive⟩

def isPastEnd (b : Bounds) (id : Ulid) : Bool :=
  match b.upper with
  | none => false
  | some upper => if b.upperInclusive then decide (upper < id) else decide (upper ≤ id)

def holds (b : Bounds) (id : Ulid) : Bool := Start.admitted b.start id && !b.isPastEnd id

end Bounds
end Journal
