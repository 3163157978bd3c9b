import Journal.Proofs.System.Effect
import Mathlib.Data.List.Basic

/-!
What the reports tell of the entries that a session has counted. Only a worker tells that an entry was counted, and
its reports are known by the task that it is.
-/
namespace Journal.System

def worksFor (sys : System) (n : Nat) : Origin → Bool
  | .caller => false
  | .task k =>
    match sys.tasks[k]? with
    | some (.worker m) => m == n
    | _ => false

/-- The ids of the entries that a session has counted, oldest first, as it was reported. -/
def countedBy (sys : System) (n : Nat) : List Ulid :=
  sys.reports.reverse.filterMap fun report => if sys.worksFor n report.1 then report.2.counted? else none

def Attributed (sys : System) : Prop :=
  ∀ report ∈ sys.reports, report.2.counted? ≠ none →
    ∃ k n : Nat, report.1 = .task k ∧ sys.tasks[k]? = some (.worker n)

def WorkersStay (sys sys' : System) : Prop :=
  ∀ k n : Nat, sys.tasks[k]? = some (.worker n) → sys'.tasks[k]? = some (.worker n)

variable {sys sys' : System}

theorem workersStay_of_same (workers : SameWorkers sys sys') : WorkersStay sys sys' :=
  fun k n => (workers k n).mpr

theorem workersStay_of_append {more : List Task} (tasks : sys'.tasks = sys.tasks ++ more) : WorkersStay sys sys' := by
  intro k n task
  rw [tasks]
  exact getElem?_grown task more

theorem worksFor_stays (stay : WorkersStay sys sys') {k m : Nat} (task : sys.tasks[k]? = some (.worker m)) (n : Nat) :
    sys'.worksFor n (.task k) = sys.worksFor n (.task k) := by
  simp only [worksFor, task, stay k m task]

theorem filterMap_counted (attributed : sys.Attributed) (stay : WorkersStay sys sys') (n : Nat) :
    sys.reports.reverse.filterMap (fun report => if sys'.worksFor n report.1 then report.2.counted? else none) =
      sys.countedBy n := by
  apply List.filterMap_congr
  intro report member
  by_cases silent : report.2.counted? = none
  · simp [silent]
  · obtain ⟨k, m, origin, task⟩ := attributed report (List.mem_reverse.mp member) silent
    rw [origin, worksFor_stays stay task]

theorem countedBy_quiet {origin : Origin} (attributed : sys.Attributed) (stay : WorkersStay sys sys')
    (quiet : Quiet origin sys sys') : sys'.Attributed ∧ ∀ n, sys'.countedBy n = sys.countedBy n := by
  obtain ⟨events, reports, silent⟩ := quiet
  constructor
  · intro report member told
    rw [reports] at member
    rcases List.mem_append.mp member with new | old
    · obtain ⟨e, inside, rfl⟩ := List.mem_map.mp new
      exact absurd (silent e inside) told
    · obtain ⟨k, n, origin, task⟩ := attributed report old told
      exact ⟨k, n, origin, stay k n task⟩
  · intro n
    have none : (events.map (origin, ·)).reverse.filterMap
        (fun report => if sys'.worksFor n report.1 then report.2.counted? else none) = [] := by
      apply List.filterMap_eq_nil_iff.mpr
      intro report member
      obtain ⟨e, inside, rfl⟩ := List.mem_map.mp (List.mem_reverse.mp member)
      simp [silent e inside]
    rw [countedBy, reports, List.reverse_append, List.filterMap_append, none, List.append_nil,
      filterMap_counted attributed stay]

theorem countedBy_silent (attributed : sys.Attributed) (stay : WorkersStay sys sys')
    (reports : sys'.reports = sys.reports) : sys'.Attributed ∧ ∀ n, sys'.countedBy n = sys.countedBy n := by
  have quiet : Quiet .caller sys sys' := ⟨[], reports, fun e member => by cases member⟩
  exact countedBy_quiet attributed stay quiet

theorem countedBy_turned {k n : Nat} {events : List Event} (attributed : sys.Attributed)
    (task : sys.tasks[k]? = some (.worker n)) (workers : SameWorkers sys sys')
    (reports : sys'.reports = events.reverse.map (.task k, ·) ++ sys.reports) :
    sys'.Attributed ∧ sys'.countedBy n = sys.countedBy n ++ events.filterMap Event.counted? ∧
      ∀ m, m ≠ n → sys'.countedBy m = sys.countedBy m := by
  have stay := workersStay_of_same workers
  have worker := stay k n task
  have told : ∀ m, sys'.countedBy m = sys.countedBy m ++ if n = m then events.filterMap Event.counted? else [] := by
    intro m
    rw [countedBy, reports, List.reverse_append, List.filterMap_append, filterMap_counted attributed stay,
      ← List.map_reverse, List.reverse_reverse, List.filterMap_map]
    congr 1
    split
    · rename_i same
      subst same
      apply List.filterMap_congr
      intro e _
      simp [worksFor, worker]
    · rename_i other
      apply List.filterMap_eq_nil_iff.mpr
      intro e _
      simp [worksFor, worker, other]
  refine ⟨?_, by rw [told, if_pos rfl], fun m other => by rw [told, if_neg (Ne.symm other), List.append_nil]⟩
  intro report member counted
  rw [reports] at member
  rcases List.mem_append.mp member with new | old
  · obtain ⟨e, -, rfl⟩ := List.mem_map.mp new
    exact ⟨k, n, rfl, worker⟩
  · obtain ⟨j, m, origin, task⟩ := attributed report old counted
    exact ⟨j, m, origin, stay j m task⟩

end Journal.System
