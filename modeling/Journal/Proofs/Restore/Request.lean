import Journal.Proofs.Ulid.Text
import Journal.Restore.Progress
import Journal.Restore.Request
/-!
The ids that a request carries. A request is refused exactly if one of its ids is not spelled out, and the first such
id is named. An id that is spelled out shows again as it was given, in capitals, unless it stands for a number of more
than 128 bits; then it is read as another id. The ids that a progress shows are read as the ids they are.
-/
namespace Journal

def Progress.shown? (p : Progress) (name : String) : Option Json :=
  match p.json with
  | .object members => (members.find? fun member => member.1 = name).map Prod.snd
  | _ => none

namespace RestoreRequest

variable {request : RestoreRequest} {error : RestoreError}

def bound? (request : RestoreRequest) : BoundName → Option String
  | .lower => request.fromId
  | .upper => request.toId

theorem readId_error {bound : BoundName} {text? : Option String} (refused : readId bound text? = .error error) :
    ∃ text cause, text? = some text ∧ Ulid.ofText text = .error cause ∧ error = .invalidId bound text cause := by
  unfold readId at refused
  split at refused
  · cases refused
  · cases refused
  · rename_i text nonempty
    split at refused
    · cases refused
    · rename_i cause unreadable
      cases refused
      exact ⟨text, cause, rfl, unreadable, rfl⟩

theorem bounds_error (refused : request.bounds = .error error) : ∃ bound text cause,
    request.bound? bound = some text ∧ Ulid.ofText text = .error cause ∧ error = .invalidId bound text cause := by
  unfold bounds at refused
  cases lower : readId .lower request.fromId with
  | error error' =>
    rw [lower] at refused
    cases refused
    exact ⟨.lower, readId_error lower⟩
  | ok from? =>
    rw [lower] at refused
    cases upper : readId .upper request.toId with
    | error error' =>
      rw [upper] at refused
      cases refused
      exact ⟨.upper, readId_error upper⟩
    | ok to? =>
      rw [upper] at refused
      cases refused

def given (id : Option String) : Option String := id.filter (· ≠ "")

def Legible (id : Option String) : Prop := ∀ s ∈ given id, Ulid.Spelled s

instance (id : Option String) : Decidable (Legible id) := inferInstanceAs (Decidable (∀ s ∈ given id, Ulid.Spelled s))

/-- The id that a text stands for, of which the lowest 128 bits are kept. -/
def spelledId (s : String) : Ulid := .ofNat (Ulid.spelledValue s)

theorem given_of_ne {s : String} (solid : s ≠ "") : given (some s) = some s := by
  rw [given, Option.filter_some, if_pos (by simpa using solid)]

theorem readId_of_ne (name : BoundName) {s : String} (solid : s ≠ "") :
    readId name (some s) = match Ulid.ofText s with
      | .ok id => .ok (some id)
      | .error cause => .error (.invalidId name s cause) := by
  unfold readId
  split
  · contradiction
  · rename_i same
    exact absurd (Option.some.inj same) solid
  · rename_i same
    cases same
    rfl

theorem readId_legible (name : BoundName) {id : Option String} (legible : Legible id) :
    readId name id = .ok ((given id).map spelledId) := by
  cases id with
  | none => rfl
  | some s =>
    by_cases empty : s = ""
    · subst empty
      rfl
    · have only : given (some s) = some s := given_of_ne empty
      rw [readId_of_ne name empty, Ulid.ofText_of_spelled (legible s only), only]
      rfl

theorem legible_of_readId {name : BoundName} {id : Option String} {bound : Option Ulid}
    (read : readId name id = .ok bound) : Legible id := by
  intro s present
  obtain ⟨rfl, solid⟩ := Option.filter_eq_some_iff.mp present
  rw [readId_of_ne name (of_decide_eq_true solid)] at read
  cases found : Ulid.ofText s with
  | error cause =>
    rw [found] at read
    cases read
  | ok id => exact Ulid.spelled_of_ofText found

variable (r : RestoreRequest)

theorem bounds_of_legible (lower : Legible r.fromId) (upper : Legible r.toId) :
    r.bounds = .ok ⟨(given r.fromId).map spelledId, r.fromInclusive, (given r.toId).map spelledId, r.toInclusive⟩ := by
  unfold bounds
  rw [readId_legible .lower lower, readId_legible .upper upper]
  rfl

/-- The request is refused for this bound, whose text is no id. -/
def RefusedFor (name : BoundName) : Prop :=
  ∃ s cause, r.bound? name = some s ∧ Ulid.ofText s = .error cause ∧ r.bounds = .error (.invalidId name s cause)

theorem refused_of_illegible : (¬ Legible r.fromId → r.RefusedFor .lower) ∧
    (Legible r.fromId → ¬ Legible r.toId → r.RefusedFor .upper) := by
  constructor
  · intro illegible
    cases lower : readId .lower r.fromId with
    | ok from? => exact absurd (legible_of_readId lower) illegible
    | error error =>
      obtain ⟨s, cause, here, unreadable, rfl⟩ := readId_error lower
      refine ⟨s, cause, here, unreadable, ?_⟩
      unfold bounds
      rw [lower]
      rfl
  · intro legible illegible
    cases upper : readId .upper r.toId with
    | ok to? => exact absurd (legible_of_readId upper) illegible
    | error error =>
      obtain ⟨s, cause, here, unreadable, rfl⟩ := readId_error upper
      refine ⟨s, cause, here, unreadable, ?_⟩
      unfold bounds
      rw [readId_legible .lower legible, upper]
      rfl

theorem bounds_ok_iff : (∃ b, r.bounds = .ok b) ↔ Legible r.fromId ∧ Legible r.toId := by
  constructor
  · rintro ⟨b, read⟩
    by_contra illegible
    by_cases lower : Legible r.fromId
    · obtain ⟨s, cause, -, -, fails⟩ := r.refused_of_illegible.2 lower fun upper => illegible ⟨lower, upper⟩
      rw [fails] at read
      cases read
    · obtain ⟨s, cause, -, -, fails⟩ := r.refused_of_illegible.1 lower
      rw [fails] at read
      cases read
  · rintro ⟨lower, upper⟩
    exact ⟨_, r.bounds_of_legible lower upper⟩

/-- No id that is given stands for a number of more than 128 bits. -/
def Narrow (id : Option String) : Prop := ∀ s ∈ given id, Ulid.spelledValue s < 2 ^ 128

instance (id : Option String) : Decidable (Narrow id) :=
  inferInstanceAs (Decidable (∀ s ∈ given id, Ulid.spelledValue s < 2 ^ 128))

theorem echo_iff {id : Option String} (legible : Legible id) :
    ((given id).map spelledId).map Ulid.text = (given id).map String.toUpper ↔ Narrow id := by
  cases present : given id with
  | none => simp [Narrow, present]
  | some s =>
    have shown : (spelledId s).text = s.toUpper ↔ Ulid.spelledValue s < 2 ^ 128 :=
      Ulid.text_eq_toUpper_iff (Ulid.ofText_of_spelled (legible s present))
    simp only [Narrow, present, Option.map_some, Option.some.injEq, Option.mem_some_iff, forall_eq', shown]

/-- What becomes of the ids of a request that is not refused. -/
structure Heeded (b : Bounds) : Prop where
  bounds : b = ⟨(given r.fromId).map spelledId, r.fromInclusive, (given r.toId).map spelledId, r.toInclusive⟩
  lower : b.lower.map Ulid.text = (given r.fromId).map String.toUpper ↔ Narrow r.fromId
  upper : b.upper.map Ulid.text = (given r.toId).map String.toUpper ↔ Narrow r.toId
  shown : Narrow r.fromId → Narrow r.toId → ∀ s : Session, s.bounds = b →
    s.progress.shown? "fromId" = some (Progress.optional ((given r.fromId).map String.toUpper)) ∧
      s.progress.shown? "toId" = some (Progress.optional ((given r.toId).map String.toUpper))

theorem heeded_of_bounds {b : Bounds} (read : r.bounds = .ok b) : r.Heeded b := by
  obtain ⟨legibleLower, legibleUpper⟩ := r.bounds_ok_iff.mp ⟨b, read⟩
  rw [r.bounds_of_legible legibleLower legibleUpper] at read
  cases read
  have lower := echo_iff legibleLower
  have upper := echo_iff legibleUpper
  refine ⟨rfl, lower, upper, ?_⟩
  intro narrowLower narrowUpper s same
  rw [← lower.mpr narrowLower, ← upper.mpr narrowUpper]
  unfold Session.progress
  rw [same]
  exact ⟨rfl, rfl⟩

/-- A request is read exactly if both of its ids are spelled out, and the first that is not is named. What is read shows
as it was given exactly if the number that was spelled out has 128 bits. -/
theorem requested_ids_are_read_as_spelled :
    ((∃ b, r.bounds = .ok b) ↔ Legible r.fromId ∧ Legible r.toId) ∧ (∀ b, r.bounds = .ok b → r.Heeded b) ∧
      (¬ Legible r.fromId → r.RefusedFor .lower) ∧ (Legible r.fromId → ¬ Legible r.toId → r.RefusedFor .upper) :=
  ⟨r.bounds_ok_iff, fun _ read => r.heeded_of_bounds read, r.refused_of_illegible.1, r.refused_of_illegible.2⟩

def overlong : RestoreRequest := { fromId := some "8000000000000000000000000a", toId := some "7zzzzzzzzzzzzzzzzzzzzzzzzz" }

theorem an_overlong_id_is_read_as_another : ∃ b, overlong.bounds = .ok b ∧ b.lower = some (.ofNat 10) ∧
    b.lower.map Ulid.text ≠ overlong.fromId.map String.toUpper ∧
    b.upper.map Ulid.text = overlong.toId.map String.toUpper := by
  obtain ⟨accepts, heeds, -, -⟩ := overlong.requested_ids_are_read_as_spelled
  have legible : Legible overlong.fromId ∧ Legible overlong.toId := by decide +kernel
  obtain ⟨b, read⟩ := accepts.mpr legible
  have heeded := heeds b read
  have wide : ¬ Narrow overlong.fromId := by decide +kernel
  have narrow : Narrow overlong.toId := by decide +kernel
  refine ⟨b, read, ?_, mt heeded.lower.mp wide, heeded.upper.mpr narrow⟩
  rw [heeded.bounds]
  decide +kernel

theorem ofValue_json (p : Progress) : ofValue p.json = .ok
    { source := some p.source, fromId := p.bounds.lower.map Ulid.text, fromInclusive := p.bounds.lowerInclusive
      toId := p.bounds.upper.map Ulid.text, toInclusive := p.bounds.upperInclusive } := by
  obtain ⟨source, executionId, ⟨lower, lowerInclusive, upper, upperInclusive⟩, _⟩ := p
  cases lower <;> cases upper <;> rfl

theorem bounds_of_capitals {b : Bounds} (lower : r.fromId.map String.toUpper = b.lower.map Ulid.text)
    (upper : r.toId.map String.toUpper = b.upper.map Ulid.text) (lowerInclusive : r.fromInclusive = b.lowerInclusive)
    (upperInclusive : r.toInclusive = b.upperInclusive) : r.bounds = .ok b := by
  have read : ∀ (name : BoundName) (id : Option String) (bound : Option Ulid),
      id.map String.toUpper = bound.map Ulid.text → readId name id = .ok bound := by
    intro name id bound same
    cases id with
    | none =>
      cases bound with
      | none => rfl
      | some => cases same
    | some s =>
      cases bound with
      | none => cases same
      | some id =>
        have capitals : s.toUpper = id.text := Option.some.inj same
        have solid : s ≠ "" := by
          rintro rfl
          exact absurd (Ulid.spelled_of_toUpper capitals).1.1 (by decide)
        rw [readId_of_ne name solid, Ulid.ofText_of_toUpper capitals]
  unfold bounds
  rw [read .lower _ _ lower, read .upper _ _ upper, lowerInclusive, upperInclusive]
  rfl

def bytewise (s t : String) : Bool := decide (Utf8.encode s ≤ Utf8.encode t)

/-- The texts of ids have one length and sort as the ids do, and every one of them is read as its id, in any letter
case. So a request made of the ids of a progress, or of the progress itself, has the bounds of that progress. -/
theorem ids_and_their_texts_agree :
    (∀ a b : Ulid, a < b ↔ Utf8.encode a.text < Utf8.encode b.text) ∧
      (∀ id : Ulid, id.text.length = 26 ∧ Ulid.ofText id.text = .ok id ∧ Ulid.ofText id.text.toLower = .ok id ∧
        ∀ s : String, s.toUpper = id.text → Ulid.ofText s = .ok id) ∧
      (∀ ids : List Ulid,
        (ids.mergeSort fun a b => decide (a ≤ b)).map Ulid.text = (ids.map Ulid.text).mergeSort bytewise) ∧
      (∀ (r : RestoreRequest) (b : Bounds), r.fromId.map String.toUpper = b.lower.map Ulid.text →
        r.toId.map String.toUpper = b.upper.map Ulid.text → r.fromInclusive = b.lowerInclusive →
        r.toInclusive = b.upperInclusive → r.bounds = .ok b) ∧
      ∀ p : Progress, ∃ r, ofValue p.json = .ok r ∧ r.bounds = .ok p.bounds := by
  refine ⟨Ulid.lt_iff_bytes, ?_, ?_, ?_, ?_⟩
  · intro id
    exact ⟨id.length_text, Ulid.ofText_of_toUpper id.toUpper_text.1, Ulid.ofText_of_toUpper id.toUpper_text.2,
      fun s same => Ulid.ofText_of_toUpper same⟩
  · intro ids
    refine List.map_mergeSort fun a _ b _ => ?_
    exact decide_eq_decide.mpr (Ulid.le_iff_bytes a b)
  · intro r b lower upper lowerInclusive upperInclusive
    exact r.bounds_of_capitals lower upper lowerInclusive upperInclusive
  · intro p
    have capitals : ∀ bound : Option Ulid, (bound.map Ulid.text).map String.toUpper = bound.map Ulid.text := by
      intro bound
      rw [Option.map_map]
      exact Option.map_congr fun id _ => id.toUpper_text.1
    exact ⟨_, ofValue_json p, bounds_of_capitals _ (capitals _) (capitals _) rfl rfl⟩

def mixedCase : RestoreRequest :=
  { fromId := some "01arz3ndektsv4rrffq69g5fav", fromInclusive := false, toId := some "7ZzZZzzzzZZZZZzzzzZZZZZzzz" }

def mixedBounds : Bounds :=
  { lower := some (.ofNat 1777027686520646174104517696511196507), lowerInclusive := false
    upper := some (.ofNat (2 ^ 128 - 1)) }

theorem mixed_case_bounds_are_read_back : mixedCase.fromId.map String.toUpper = mixedBounds.lower.map Ulid.text ∧
    mixedCase.toId.map String.toUpper = mixedBounds.upper.map Ulid.text ∧ mixedCase.bounds = .ok mixedBounds := by
  obtain ⟨-, -, -, reads, -⟩ := ids_and_their_texts_agree
  have lower : mixedCase.fromId.map String.toUpper = mixedBounds.lower.map Ulid.text := by decide +kernel
  have upper : mixedCase.toId.map String.toUpper = mixedBounds.upper.map Ulid.text := by decide +kernel
  exact ⟨lower, upper, reads mixedCase mixedBounds lower upper rfl rfl⟩

end RestoreRequest
end Journal
