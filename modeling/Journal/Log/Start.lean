import Journal.Ulid
/-!
Where reading begins: at an id or right after it. The id need not be on the log.
-/
namespace Journal

structure Start where
  id : Ulid
  inclusive : Bool
  deriving DecidableEq, Repr

def Start.admits (s : Start) (id : Ulid) : Bool :=
  if s.inclusive then decide (s.id ≤ id) else decide (s.id < id)

/-- Reading without a start begins at the oldest entry. -/
def Start.admitted (start : Option Start) (id : Ulid) : Bool :=
  match start with
  | none => true
  | some s => s.admits id

end Journal
