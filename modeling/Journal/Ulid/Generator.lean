import Journal.Ulid
/-!
Strictly increasing ids from an arbitrary clock. While the clock has not passed the time of the last
id, the last id is counted up instead of drawing new random bits.
-/
namespace Journal.Ulid

structure Reading where
  clock : Nat
  draw : Nat
  deriving DecidableEq, Repr

structure Generator where
  previous : Ulid := .zero
  deriving DecidableEq, Repr

namespace Generator

/-- No id when the clock stands still and the random part is used up. -/
def attempt (reading : Reading) (g : Generator) : Option Ulid :=
  if reading.clock ≤ g.previous.milliseconds then g.previous.successor?
  else some (.ofParts reading.clock reading.draw)

def next : List Reading → Generator → Option (Ulid × Generator × List Reading)
  | [], _ => none
  | reading :: later, g =>
    match g.attempt reading with
    | some id => some (id, ⟨id⟩, later)
    | none => next later g

def ids : List Reading → Generator → List Ulid
  | [], _ => []
  | reading :: later, g =>
    match g.attempt reading with
    | some id => id :: ids later ⟨id⟩
    | none => ids later g

end Generator
end Journal.Ulid
