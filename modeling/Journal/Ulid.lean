import Journal.Power
/-!
Sortable 128-bit identifiers. The upper 48 bits are a time in milliseconds, the lower 80 bits are
random. The text has 26 digits of five bits each, most significant first, so text and value sort alike.
-/
namespace Journal

structure Ulid where
  toNat : Nat
  isLt : toNat < 2 ^ 128
  deriving DecidableEq, Repr

namespace Ulid

/-- Bits above the lowest 128 are dropped. -/
def ofNat (n : Nat) : Ulid := ⟨n % 2 ^ 128, Nat.mod_lt _ (by decide)⟩

def zero : Ulid := ofNat 0

instance : Inhabited Ulid := ⟨zero⟩

instance : LT Ulid := ⟨fun a b => a.toNat < b.toNat⟩

instance : LE Ulid := ⟨fun a b => a.toNat ≤ b.toNat⟩

instance (a b : Ulid) : Decidable (a < b) := inferInstanceAs (Decidable (a.toNat < b.toNat))

instance (a b : Ulid) : Decidable (a ≤ b) := inferInstanceAs (Decidable (a.toNat ≤ b.toNat))

theorem ext {a b : Ulid} (same : a.toNat = b.toNat) : a = b := by
  cases a
  cases b
  cases same
  rfl

theorem lt_def (a b : Ulid) : a < b ↔ a.toNat < b.toNat := Iff.rfl

theorem le_def (a b : Ulid) : a ≤ b ↔ a.toNat ≤ b.toNat := Iff.rfl

@[simp] theorem toNat_ofNat (n : Nat) : (ofNat n).toNat = n % 2 ^ 128 := rfl

def milliseconds (id : Ulid) : Nat := id.toNat / 2 ^ 80

def randomPart (id : Ulid) : Nat := id.toNat % 2 ^ 80

def ofParts (milliseconds random : Nat) : Ulid :=
  ofNat (milliseconds % 2 ^ 48 * 2 ^ 80 + random % 2 ^ 80)

/-- The next id with the same time; none when the random part is used up. -/
def successor? (id : Ulid) : Option Ulid :=
  if id.randomPart = 2 ^ 80 - 1 then none else some (ofNat (id.toNat + 1))

def alphabet : List Char := "0123456789ABCDEFGHJKMNPQRSTVWXYZ".toList

def symbol (digit : Nat) : Char := alphabet.getD digit '0'

def digit? (c : Char) : Option Nat := alphabet.idxOf? c.toUpper

def digits : (count : Nat) → Nat → List Nat
  | 0, _ => []
  | count + 1, n => digits count (n / 32) ++ [n % 32]

def textLength : Nat := 26

def chars (id : Ulid) : List Char := (digits textLength id.toNat).map symbol

def text (id : Ulid) : String := String.ofList id.chars

instance : ToString Ulid := ⟨text⟩

inductive ReadError where
  | invalidLength
  | invalidCharacter
  deriving DecidableEq, Repr

def ReadError.message : ReadError → String
  | .invalidLength => "invalid length"
  | .invalidCharacter => "invalid character"

def ofDigits (ds : List Nat) : Nat := ds.foldl (fun n d => 32 * n + d) 0

/-- The length is counted in bytes and checked before the symbols. -/
def ofText (s : String) : Except ReadError Ulid :=
  if s.utf8ByteSize ≠ textLength then .error .invalidLength
  else match s.toList.mapM digit? with
    | none => .error .invalidCharacter
    | some ds => .ok (ofNat (ofDigits ds))

def inOrder (ids : List Ulid) : List Ulid :=
  (ids.mergeSort fun a b => decide (a ≤ b)).eraseReps

end Ulid
end Journal
