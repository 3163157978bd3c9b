import Journal.Proofs.Log.Cursor
import Journal.Restore.Session

/-!
Which entries are due to a restore: those on its topic when the newest one was read that lie within its bounds.
They stand at the front of what its consumer gives, also when the topic has grown since, and the first entry that
is past the upper bound or past the ceiling comes right after the last of them.
-/
namespace Journal

/-- The entries of the ground that a restore with these bounds replays. -/
def Bounds.due (b : Bounds) (ground : List Entry) : List Entry := ground.filter fun e => b.holds e.id

namespace Bounds

variable {b : Bounds} {ground entries : List Entry}

theorem isPastEnd_of_le {x y : Ulid} (past : b.isPastEnd x = true) (above : x ≤ y) : b.isPastEnd y = true := by
  have order : x.toNat ≤ y.toNat := above
  unfold isPastEnd at past ⊢
  split
  · rename_i unbounded
    simp [unbounded] at past
  · rename_i upper bounded
    simp only [bounded] at past
    split at past
    · have less : upper.toNat < x.toNat := of_decide_eq_true past
      rw [if_pos ‹_›]
      exact decide_eq_true (Nat.lt_of_lt_of_le less order)
    · have least : upper.toNat ≤ x.toNat := of_decide_eq_true past
      rw [if_neg ‹_›]
      exact decide_eq_true (Nat.le_trans least order)

theorem mem_due {e : Entry} :
    e ∈ b.due ground ↔ e ∈ ground ∧ Start.admitted b.start e.id = true ∧ b.isPastEnd e.id = false := by
  simp [due, holds]

theorem due_of_unbounded (unbounded : b.lower = none ∧ b.upper = none) (ground : List Entry) : b.due ground = ground := by
  refine List.filter_eq_self.mpr fun e _ => ?_
  simp [holds, start, Start.admitted, isPastEnd, unbounded]

theorem due_prefix_select (ascending : Ascending ground) : b.due ground <+: Start.select b.start ground := by
  induction ground with
  | nil => exact List.prefix_rfl
  | cons e ground ih =>
    obtain ⟨below, ascending⟩ := List.pairwise_cons.mp ascending
    cases admitted : Start.admitted b.start e.id with
    | false => simpa [due, Start.select, holds, admitted] using ih ascending
    | true =>
      cases past : b.isPastEnd e.id with
      | false => simpa [due, Start.select, holds, admitted, past] using ih ascending
      | true =>
        have none : b.due (e :: ground) = [] := by
          apply List.filter_eq_nil_iff.mpr
          intro d member
          rcases List.mem_cons.mp member with rfl | later
          · simp [holds, past]
          · simp [holds, isPastEnd_of_le past (Nat.le_of_lt (below d later))]
        rw [none]
        exact List.nil_prefix

theorem due_prefix (ascending : Ascending entries) (grown : ground <+: entries) :
    b.due ground <+: Start.select b.start entries :=
  (due_prefix_select (ascending.sublist grown.sublist)).trans (grown.filter _)

theorem due_iff_lt (ascending : Ascending entries) (grown : ground <+: entries) {k : Nat} {e : Entry}
    (given : (Start.select b.start entries)[k]? = some e) : e ∈ b.due ground ↔ k < (b.due ground).length := by
  obtain ⟨later, parts⟩ := due_prefix (b := b) ascending grown
  have sorted : Ascending (Start.select b.start entries) := ascending.sublist List.filter_sublist
  rw [← parts] at given sorted
  constructor
  · intro due
    rcases Nat.lt_or_ge k (b.due ground).length with inside | beyond
    · exact inside
    · rw [List.getElem?_append_right beyond] at given
      exact absurd ((List.pairwise_append.mp sorted).2.2 e due e (List.mem_of_getElem? given)) (Nat.lt_irrefl _)
  · intro inside
    rw [List.getElem?_append_left inside] at given
    exact List.mem_of_getElem? given

theorem due_getElem? (ascending : Ascending entries) (grown : ground <+: entries) {k : Nat} {e : Entry}
    (given : (Start.select b.start entries)[k]? = some e) (due : e ∈ b.due ground) :
    (b.due ground)[k]? = some e := by
  have inside := (due_iff_lt ascending grown given).mp due
  obtain ⟨later, parts⟩ := due_prefix (b := b) ascending grown
  rw [← parts, List.getElem?_append_left inside] at given
  exact given

end Bounds

namespace Session

variable {s : Session} {ground entries : List Entry}

theorem due_nil_of_nothing (ascending : Ascending ground) (ceiling : s.ceiling = ground.getLast?.map Entry.id)
    (nothing : s.nothingToReplay = true) : s.bounds.due ground = [] := by
  cases final : ground.getLast? with
  | none =>
    rw [List.getLast?_eq_none_iff.mp final]
    rfl
  | some last =>
    simp only [nothingToReplay, ceiling, final, Option.map_some, Bool.not_eq_true'] at nothing
    apply List.filter_eq_nil_iff.mpr
    intro e member held
    have admitted : Start.admitted s.bounds.start e.id = true := by
      simp only [Bounds.holds, Bool.and_eq_true] at held
      exact held.1
    rw [Start.admitted_of_le admitted (ascending.le_last member final)] at nothing
    cases nothing

theorem mem_ground_of_not_past (ascending : Ascending entries) (grown : ground <+: entries)
    (ceiling : s.ceiling = ground.getLast?.map Entry.id) {e : Entry} (inside : e ∈ entries) :
    s.isPastCeiling e.id = false ↔ e ∈ ground := by
  cases final : ground.getLast? with
  | none => simp [isPastCeiling, ceiling, List.getLast?_eq_none_iff.mp final]
  | some last =>
    simp only [isPastCeiling, ceiling, final, Option.map_some, decide_eq_false_iff_not]
    constructor
    · intro low
      exact ascending.mem_of_le_last grown inside final (Nat.le_of_not_lt low)
    · intro member
      have earlier : Ascending ground := ascending.sublist grown.sublist
      exact Nat.not_lt_of_le (earlier.le_last member final)

end Session
end Journal
