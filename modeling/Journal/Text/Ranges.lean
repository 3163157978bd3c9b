/-!
Sets of characters as ranges of code points.
-/
namespace Journal.Text

abbrev Ranges := Array (Nat × Nat)

def Ranges.holds (ranges : Ranges) (c : Char) : Bool :=
  ranges.any fun range => range.1 ≤ c.toNat && c.toNat ≤ range.2

end Journal.Text
