import Journal.Ulid.Generator

/-!
Ids ascend whatever the clock does, as long as its milliseconds fit into 48 bits. An attempt gives no id only if the
random part is used up and the clock has not passed the time of the last id; it changes nothing then, and an id is there
as soon as the clock has passed that time.
-/
namespace Journal.Ulid

def Reading.Low (reading : Reading) : Prop := reading.clock < 2 ^ 48

theorem toNat_ofParts {milliseconds : Nat} (low : milliseconds < 2 ^ 48) (random : Nat) :
    (ofParts milliseconds random).toNat = milliseconds * 2 ^ 80 + random % 2 ^ 80 := by
  have rest : random % 2 ^ 80 < 2 ^ 80 := Nat.mod_lt _ (by decide)
  rw [ofParts, toNat_ofNat, Nat.mod_eq_of_lt low, Nat.mod_eq_of_lt]
  omega

theorem successor?_spec {id next : Ulid} (more : id.successor? = some next) : next.toNat = id.toNat + 1 := by
  unfold successor? randomPart at more
  split at more
  · cases more
  · rename_i room
    cases more
    have inside := id.isLt
    rw [toNat_ofNat, Nat.mod_eq_of_lt]
    omega

namespace Generator

variable {g g' : Generator} {id : Ulid} {readings later : List Reading}

theorem attempt_ascends {reading : Reading} (low : reading.Low) (gives : g.attempt reading = some id) :
    g.previous < id := by
  rw [lt_def]
  unfold attempt at gives
  split at gives
  · have next := successor?_spec gives
    omega
  · rename_i passed
    cases gives
    have parts := toNat_ofParts low reading.draw
    have quotient := Nat.div_add_mod g.previous.toNat (2 ^ 80)
    unfold milliseconds at passed
    omega

theorem next_ascends (low : ∀ reading ∈ readings, reading.Low) (gives : g.next readings = some (id, g', later)) :
    g' = ⟨id⟩ ∧ g.previous < id := by
  induction readings with
  | nil => cases gives
  | cons reading readings ih =>
    obtain ⟨here, rest⟩ := List.forall_mem_cons.mp low
    unfold next at gives
    split at gives
    · rename_i found
      cases gives
      exact ⟨rfl, attempt_ascends here found⟩
    · exact ih rest gives

theorem next_isSome (passed : ∃ reading ∈ readings, g.previous.milliseconds < reading.clock) :
    (g.next readings).isSome = true := by
  induction readings with
  | nil =>
    obtain ⟨reading, inside, -⟩ := passed
    cases inside
  | cons first readings ih =>
    obtain ⟨reading, inside, passed⟩ := passed
    unfold next
    split
    · rfl
    · rename_i nothing
      rcases List.mem_cons.mp inside with rfl | later
      · rw [attempt, if_neg (Nat.not_le_of_lt passed)] at nothing
        cases nothing
      · exact ih ⟨reading, later, passed⟩

theorem attempt_eq_none_iff {reading : Reading} :
    g.attempt reading = none ↔ g.previous.randomPart = 2 ^ 80 - 1 ∧ reading.clock ≤ g.previous.milliseconds := by
  unfold attempt
  split
  · rename_i late
    simp [successor?, late]
  · rename_i passed
    simp [passed]

theorem milliseconds_ofParts {milliseconds : Nat} (low : milliseconds < 2 ^ 48) (random : Nat) :
    (ofParts milliseconds random).milliseconds = milliseconds := by
  have rest : random % 2 ^ 80 < 2 ^ 80 := Nat.mod_lt _ (by decide)
  rw [Ulid.milliseconds, toNat_ofParts low]
  omega

theorem attempt_of_passed {reading : Reading} (low : reading.Low) (passed : g.previous.milliseconds < reading.clock) :
    ∃ id, g.attempt reading = some id ∧ id.milliseconds = reading.clock :=
  ⟨_, if_neg (Nat.not_le_of_lt passed), milliseconds_ofParts low _⟩

theorem next_of_waiting {waiting : List Reading} (nothing : ∀ reading ∈ waiting, g.attempt reading = none) :
    g.next (waiting ++ later) = g.next later := by
  induction waiting with
  | nil => rfl
  | cons reading waiting ih =>
    obtain ⟨here, rest⟩ := List.forall_mem_cons.mp nothing
    simp only [List.cons_append, next, here]
    exact ih rest

def after : List Reading → Generator → Generator
  | [], g => g
  | reading :: later, g =>
    match g.attempt reading with
    | some id => after later ⟨id⟩
    | none => after later g

theorem ids_of_next (readings : List Reading) (g : Generator) :
    g.ids readings = ((g.next readings).map fun r => r.1 :: r.2.1.ids r.2.2).getD [] := by
  induction readings with
  | nil => rfl
  | cons reading readings ih =>
    cases found : g.attempt reading with
    | some id => simp only [ids, next, found, Option.map_some, Option.getD_some]
    | none => simp only [ids, next, found, ih]

theorem ids_ascending (low : ∀ reading ∈ readings, reading.Low) (g : Generator) :
    (g.ids readings).Pairwise (· < ·) ∧ ∀ id ∈ g.ids readings, g.previous < id := by
  induction readings generalizing g with
  | nil => exact ⟨.nil, by simp [ids]⟩
  | cons reading readings ih =>
    obtain ⟨here, rest⟩ := List.forall_mem_cons.mp low
    cases found : g.attempt reading with
    | some id =>
      have higher : g.previous < id := attempt_ascends here found
      obtain ⟨ascending, above⟩ := ih rest ⟨id⟩
      simp only [ids, found]
      refine ⟨List.pairwise_cons.mpr ⟨above, ascending⟩, List.forall_mem_cons.mpr ⟨higher, fun other member => ?_⟩⟩
      exact Nat.lt_trans higher (above other member)
    | none =>
      simp only [ids, found]
      exact ih rest g

theorem ids_le_previous (low : ∀ reading ∈ readings, reading.Low) (g : Generator) :
    ∀ id ∈ g.previous :: g.ids readings, id ≤ (g.after readings).previous := by
  induction readings generalizing g with
  | nil => exact List.forall_mem_cons.mpr ⟨Nat.le_refl _, by simp [ids]⟩
  | cons reading readings ih =>
    obtain ⟨here, rest⟩ := List.forall_mem_cons.mp low
    cases found : g.attempt reading with
    | some id =>
      have higher : g.previous < id := attempt_ascends here found
      have others := ih rest ⟨id⟩
      simp only [ids, after, found]
      exact List.forall_mem_cons.mpr
        ⟨Nat.le_trans (Nat.le_of_lt higher) (others id List.mem_cons_self), others⟩
    | none =>
      simp only [ids, after, found]
      exact ih rest g

/-- What a call for an id comes to that has these readings before it, when the ids `given` were given before. -/
structure Serves (given : List Ulid) (g : Generator) (readings : List Reading) : Prop where
  above : ∀ id g' later, g.next readings = some (id, g', later) →
    (∀ earlier ∈ given, earlier < id) ∧ g.ids readings = id :: g'.ids later
  refused : ∀ reading ∈ readings, g.attempt reading = none ↔
    g.previous.randomPart = 2 ^ 80 - 1 ∧ reading.clock ≤ g.previous.milliseconds
  kept : ∀ reading, g.attempt reading = none → g.after [reading] = g ∧ g.ids [reading] = []
  retried : ∀ waiting reading later, readings = waiting ++ reading :: later →
    (∀ early ∈ waiting, g.attempt early = none) → g.previous.milliseconds < reading.clock →
      ∃ id, g.next readings = some (id, ⟨id⟩, later) ∧ id.milliseconds = reading.clock

/-- Whatever the clock reads and whatever is drawn, the ids ascend, and so does what a call returns at any moment. -/
theorem generated_ids_ascend (low : ∀ reading ∈ readings, reading.Low) (g : Generator) :
    (g.ids readings).Pairwise (· < ·) ∧
      ∀ front back, readings = front ++ back → Serves (g.previous :: g.ids front) (g.after front) back := by
  refine ⟨(ids_ascending low g).1, ?_⟩
  rintro front back rfl
  obtain ⟨early, late⟩ := List.forall_mem_append.mp low
  refine ⟨fun id g' later gives => ?_, fun _ _ => attempt_eq_none_iff, fun reading nothing => ?_, ?_⟩
  · refine ⟨fun earlier member => ?_, by rw [ids_of_next, gives]; rfl⟩
    exact Nat.lt_of_le_of_lt (ids_le_previous early g earlier member) (next_ascends late gives).2
  · simp only [after, ids, nothing, and_self]
  · rintro waiting reading later rfl nothing passed
    obtain ⟨id, gives, time⟩ := attempt_of_passed (late reading (by simp)) passed
    refine ⟨id, ?_, time⟩
    rw [next_of_waiting nothing, next, gives]

def slowClock : List Reading := [⟨3, 9⟩, ⟨5, 8⟩, ⟨7, 2 ^ 80 - 1⟩, ⟨7, 4⟩, ⟨2, 6⟩, ⟨8, 6⟩]

theorem ids_wait_for_a_slow_clock : ∃ g : Generator, g.previous = .ofParts 5 (2 ^ 80 - 1) ∧
    g.ids slowClock = [.ofParts 7 (2 ^ 80 - 1), .ofParts 8 6] ∧ (g.ids slowClock).Pairwise (· < ·) ∧
      Serves (g.previous :: g.ids [⟨3, 9⟩]) (g.after [⟨3, 9⟩]) (slowClock.drop 1) ∧
        g.next slowClock = some (.ofParts 7 (2 ^ 80 - 1), ⟨.ofParts 7 (2 ^ 80 - 1)⟩, slowClock.drop 3) := by
  have low : ∀ reading ∈ slowClock, reading.Low := by
    unfold Reading.Low
    decide
  obtain ⟨ascending, serves⟩ := generated_ids_ascend low ⟨.ofParts 5 (2 ^ 80 - 1)⟩
  exact ⟨_, rfl, by decide, ascending, serves [⟨3, 9⟩] _ rfl, by decide⟩

end Generator
end Journal.Ulid
