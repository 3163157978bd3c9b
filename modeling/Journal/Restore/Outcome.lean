/-!
How far a restore has come: what it counted and why it ended.
-/
namespace Journal

/-- Every processed entry is counted in exactly one of these. -/
structure Tally where
  restored : Nat := 0
  failed : Nat := 0
  ignored : Nat := 0
  deriving DecidableEq, Repr

namespace Tally

def total (t : Tally) : Nat := t.restored + t.failed + t.ignored

def restore (t : Tally) : Tally := { t with restored := t.restored + 1 }

def fail (t : Tally) : Tally := { t with failed := t.failed + 1 }

def ignore (t : Tally) : Tally := { t with ignored := t.ignored + 1 }

theorem total_restore (t : Tally) : t.restore.total = t.total + 1 := by
  simp only [total, restore]
  omega

theorem total_fail (t : Tally) : t.fail.total = t.total + 1 := by
  simp only [total, fail]
  omega

theorem total_ignore (t : Tally) : t.ignore.total = t.total + 1 := by
  simp only [total, ignore]
  omega

theorem total_of_counted {t t' : Tally} (change : t' = t.restore ∨ t' = t.fail) : t'.total = t.total + 1 := by
  rcases change with rfl | rfl
  · exact t.total_restore
  · exact t.total_fail

end Tally

inductive Finish where
  | reachedCeiling
  | reachedEnd
  | stopped
  deriving DecidableEq, Repr

def Finish.name : Finish → String
  | .reachedCeiling => "ReachedCeiling"
  | .reachedEnd => "ReachedEnd"
  | .stopped => "Stopped"

end Journal
