import Journal.Json.Record
import Journal.Proofs.Json.Values

/-!
What is known of everything that a reader gives, whatever the text is. A value nests no deeper than there was room for,
and the whole numbers in it have 64 bits.
-/
namespace Journal

def Number.Bounded (n : Number) : Prop := n.Whole → n.Valid

namespace Json

/-- A value as it can be read where so many containers may lie inside each other. -/
structure Fits (room : Nat) (j : Json) : Prop where
  shallow : j.depth ≤ room
  bounded : ∀ n ∈ j.numbers, n.Bounded

theorem Fits.valid {room : Nat} {j : Json} (fits : j.Fits room) (whole : j.Whole) : j.Valid :=
  fun n inside => fits.bounded n inside (whole n inside)

theorem Fits.mono {room more : Nat} {j : Json} (fits : j.Fits room) (enough : room ≤ more) : j.Fits more :=
  ⟨Nat.le_trans fits.shallow enough, fits.bounded⟩

theorem depthItems_le (items : List Json) (room : Nat) : depthItems items ≤ room ↔ ∀ j ∈ items, j.depth ≤ room := by
  induction items with
  | nil => simp [depthItems]
  | cons item items ih => simp only [depthItems, Nat.max_le, ih, List.forall_mem_cons]

theorem mem_numbersOfItems {items : List Json} {n : Number} :
    n ∈ numbersOfItems items ↔ ∃ j ∈ items, n ∈ j.numbers := by
  induction items with
  | nil => simp [numbersOfItems]
  | cons item items ih => simp [numbersOfItems, ih]

theorem depthMembers_eq (members : List (String × Json)) : depthMembers members = depthItems (members.map Prod.snd) := by
  induction members with
  | nil => rfl
  | cons member members ih => rw [depthMembers, List.map_cons, depthItems, ih]

theorem numbersOfMembers_eq (members : List (String × Json)) :
    numbersOfMembers members = numbersOfItems (members.map Prod.snd) := by
  induction members with
  | nil => rfl
  | cons member members ih => rw [numbersOfMembers, List.map_cons, numbersOfItems, ih]

theorem canonicalItems_eq (items : List Json) : canonicalItems items = items.map canonical := by
  induction items with
  | nil => rfl
  | cons item items ih => rw [canonicalItems, ih, List.map_cons]

theorem canonicalMembers_eq (members : List (String × Json)) :
    canonicalMembers members = members.map fun member => (member.1, member.2.canonical) := by
  induction members with
  | nil => rfl
  | cons member members ih => rw [canonicalMembers, ih, List.map_cons]

theorem fits_array {room : Nat} {items : List Json} :
    (Json.array items).Fits (room + 1) ↔ ∀ j ∈ items, j.Fits room := by
  constructor
  · intro fits j member
    have shallow := (depthItems_le items room).mp (Nat.le_of_succ_le_succ fits.shallow)
    exact ⟨shallow j member, fun n inside => fits.bounded n (mem_numbersOfItems.mpr ⟨j, member, inside⟩)⟩
  · intro fits
    have shallow := (depthItems_le items room).mpr fun j member => (fits j member).shallow
    refine ⟨Nat.succ_le_succ shallow, fun n inside => ?_⟩
    obtain ⟨j, member, here⟩ := mem_numbersOfItems.mp inside
    exact (fits j member).bounded n here

theorem fits_object {room : Nat} {members : List (String × Json)} :
    (Json.object members).Fits (room + 1) ↔ ∀ member ∈ members, member.2.Fits room := by
  have same : (Json.object members).Fits (room + 1) ↔ (Json.array (members.map Prod.snd)).Fits (room + 1) := by
    have depths : (Json.object members).depth = (Json.array (members.map Prod.snd)).depth := by
      simp only [depth, depthMembers_eq]
    have numbers : (Json.object members).numbers = (Json.array (members.map Prod.snd)).numbers := by
      simp only [numbers, numbersOfMembers_eq]
    exact ⟨fun ⟨shallow, bounded⟩ => ⟨depths ▸ shallow, numbers ▸ bounded⟩,
      fun ⟨shallow, bounded⟩ => ⟨depths.symm ▸ shallow, numbers.symm ▸ bounded⟩⟩
  rw [same, fits_array, List.forall_mem_map]

theorem Fits.canonical {room : Nat} {j : Json} (fits : j.Fits room) : j.canonical.Fits room := by
  induction room generalizing j with
  | zero =>
    cases j with
    | array | object => exact absurd fits.shallow (Nat.not_succ_le_zero _)
    | _ => exact fits
  | succ room ih =>
    cases j with
    | array items =>
      rw [Json.canonical, canonicalItems_eq, fits_array, List.forall_mem_map]
      exact fun j member => ih (fits_array.mp fits j member)
    | object members =>
      rw [Json.canonical, canonicalMembers_eq, fits_object]
      intro member inside
      obtain ⟨before, there, rfl⟩ := List.mem_map.mp (Table.mem_ofList inside)
      exact ih (fits_object.mp fits before there)
    | _ => exact fits

namespace Reader

variable {α β σ : Type} {P : α → Prop} {Q : β → Prop} {I : σ → Prop}

/-- Everything that the reader gives has the property. -/
def Yields (P : α → Prop) (r : Reader α) : Prop := ∀ c a c', r c = .ok a c' → P a

theorem Yields.run {r : Reader α} {bytes : Bytes} {a : α} (yields : Yields P r) (gives : r.run bytes = .ok a) : P a := by
  unfold Reader.run at gives
  split at gives
  · rename_i given c found
    cases gives
    exact yields _ _ _ found
  · cases gives

theorem yields_pure {a : α} (here : P a) : Yields P (pure a) := by
  intro c b c' given
  cases given
  exact here

theorem Yields.bind {r : Reader α} {f : α → Reader β} (first : Yields P r) (second : ∀ a, P a → Yields Q (f a)) :
    Yields Q (r >>= f) := by
  intro c b c'' given
  change EStateM.bind r f c = _ at given
  unfold EStateM.bind at given
  split at given
  · rename_i a c' found
    exact second a (first c a c' found) c' b c'' given
  · cases given

theorem yields_after {r : Reader α} {f : α → Reader β} (second : ∀ a, Yields Q (f a)) : Yields Q (r >>= f) := by
  have anything : Yields (fun _ : α => True) r := fun _ _ _ _ => trivial
  exact anything.bind fun a _ => second a

theorem yields_fail (cause : Cause) : Yields P (fail cause) := by
  intro c a c' given
  cases given

theorem yields_failAhead (cause : Cause) : Yields P (failAhead cause) := by
  intro c a c' given
  cases given

theorem yields_failUnplaced (cause : Cause) : Yields P (failUnplaced cause) := by
  intro c a c' given
  cases given

theorem Yields.placed {r : Reader α} (yields : Yields P r) : Yields P (placed r) := by
  intro c a c' given
  unfold Reader.placed at given
  split at given <;> cases given
  rename_i found
  exact yields _ _ _ found

theorem Yields.enclosed {content : Reader α} (yields : Yields P content) (close : Reader Unit) :
    Yields P (enclosed content close) := by
  intro c a c' given
  unfold Reader.enclosed at given
  split at given
  · rename_i found
    split at given <;> cases given
    exact yields _ _ _ found
  · split at given <;> cases given

theorem yields_ofExcept {result : Except Cause α} (here : ∀ a, result = .ok a → P a) : Yields P (ofExcept result) := by
  cases result with
  | ok a => exact yields_pure (here a rfl)
  | error cause => exact yields_failUnplaced cause

theorem yields_foldItems {item : σ → Reader σ} (keeps : ∀ s, I s → Yields I (item s)) (limit : Nat) (first : Bool) (s : σ)
    (here : I s) : Yields I (foldItems item limit first s) := by
  induction limit generalizing first s with
  | zero => exact yields_pure here
  | succ limit ih =>
    refine yields_after fun another => ?_
    split
    · exact (keeps s here).bind fun next kept => ih false next kept
    · exact yields_pure here

theorem yields_foldMembers {member : σ → String → Reader σ} (keeps : ∀ s name, I s → Yields I (member s name))
    (limit : Nat) (first : Bool) (s : σ) (here : I s) : Yields I (foldMembers member limit first s) := by
  induction limit generalizing first s with
  | zero => exact yields_pure here
  | succ limit ih =>
    refine yields_after fun another => ?_
    split
    · refine yields_after fun name => ?_
      exact (keeps s name here).bind fun next kept => ih false next kept
    · exact yields_pure here

theorem accumulate_le (ds : List Nat) (significand taken : Nat) (small : significand ≤ greatestWord) :
    (accumulate significand taken ds).1 ≤ greatestWord := by
  induction ds generalizing significand taken with
  | nil => exact small
  | cons d ds ih =>
    unfold accumulate
    split
    · exact small
    · rename_i fits
      exact ih _ _ (Nat.le_of_not_lt fits)

theorem bounded_real (x : Binary64) : (Number.real x).Bounded := False.elim

theorem bounded_wholeNumber (positive : Bool) {significand : Nat} (small : significand ≤ greatestWord) :
    (wholeNumber positive significand).Bounded := by
  unfold wholeNumber
  unfold greatestWord at small
  split
  · intro whole
    constructor
    · have : (0 : Int) ≤ significand := Int.natCast_nonneg significand
      unfold leastInteger
      omega
    · unfold greatestInteger
      omega
  · split
    · rename_i low
      intro whole
      constructor
      · unfold leastInteger
        omega
      · unfold greatestInteger
        omega
    · exact bounded_real _

theorem yields_finishReal (positive : Bool) (significand : Nat) (exponent : Int) :
    Yields Number.Bounded (finishReal positive significand exponent) := by
  have real : ∀ n, real? positive significand exponent = some n → n.Bounded := by
    intro n given
    simp only [real?] at given
    split at given
    · cases given
      exact bounded_real _
    · split at given
      · cases given
        exact bounded_real _
      · split at given
        · cases given
        · split at given <;> cases given
          exact bounded_real _
  unfold finishReal
  split
  · rename_i n given
    exact yields_pure (real n given)
  · exact yields_fail _

theorem yields_exponentPart (positive : Bool) (significand : Nat) (exponent : Int) :
    Yields Number.Bounded (exponentPart positive significand exponent) := by
  unfold exponentPart
  refine yields_after fun _ => yields_after fun ahead => ?_
  extract_lets rest
  have digits : ∀ up, Yields Number.Bounded (rest up) := by
    intro up
    refine yields_after fun ds => ?_
    split
    · refine yields_after fun ahead => ?_
      split
      · exact yields_fail _
      · exact yields_after fun _ => yields_fail _
    · split
      · split
        · exact yields_after fun _ => yields_fail _
        · exact yields_after fun _ => yields_pure (bounded_real _)
      · exact yields_after fun _ => yields_finishReal _ _ _
  split
  · exact yields_after fun _ => yields_after digits
  · exact yields_after fun _ => yields_after digits
  · exact yields_after digits

theorem yields_exponentOrEnd (positive : Bool) (significand : Nat) (exponent : Int) :
    Yields Number.Bounded (exponentOrEnd positive significand exponent) := by
  refine yields_after fun ahead => ?_
  split
  · exact yields_exponentPart _ _ _
  · exact yields_exponentPart _ _ _
  · exact yields_finishReal _ _ _

theorem yields_fractionPart (positive : Bool) (significand : Nat) (exponent : Int) :
    Yields Number.Bounded (fractionPart positive significand exponent) := by
  unfold fractionPart
  refine yields_after fun _ => yields_after fun ds => ?_
  split
  · refine yields_after fun ahead => ?_
    split <;> exact yields_failAhead _
  · exact yields_after fun _ => yields_exponentOrEnd _ _ _

theorem yields_numberTail (positive : Bool) {significand : Nat} (small : significand ≤ greatestWord) :
    Yields Number.Bounded (numberTail positive significand) := by
  refine yields_after fun ahead => ?_
  split
  · exact yields_fractionPart _ _ _
  · exact yields_exponentPart _ _ _
  · exact yields_exponentPart _ _ _
  · exact yields_pure (bounded_wholeNumber positive small)

theorem yields_unsigned (positive : Bool) : Yields Number.Bounded (unsigned positive) := by
  refine yields_after fun ds => ?_
  split
  · refine yields_after fun ahead => ?_
    split
    · exact yields_fail _
    · exact yields_after fun _ => yields_fail _
  · refine yields_after fun _ => ?_
    split
    · exact yields_numberTail positive (Nat.zero_le _)
    · exact yields_failAhead _
  · refine yields_after fun _ => ?_
    split
    · exact yields_numberTail positive (accumulate_le ds 0 0 (Nat.zero_le _))
    · refine yields_after fun ahead => ?_
      split
      · exact yields_fractionPart _ _ _
      · exact yields_exponentOrEnd _ _ _

theorem yields_number : Yields Number.Bounded number := by
  refine yields_after fun ahead => ?_
  split
  · exact yields_after fun _ => yields_unsigned false
  · exact yields_unsigned true

theorem yields_items {item : Reader α} (each : Yields P item) : Yields (fun as => ∀ a ∈ as, P a) (items item) := by
  have collects : ∀ done : List α, (∀ a ∈ done, P a) →
      Yields (fun as => ∀ a ∈ as, P a) (do return (← item) :: done) := by
    intro done all
    exact each.bind fun a here => yields_pure (List.forall_mem_cons.mpr ⟨here, all⟩)
  refine yields_after fun bytes => ?_
  refine (yields_foldItems collects _ true [] (List.forall_mem_nil _)).bind fun done all => ?_
  exact yields_pure fun a member => all a (List.mem_reverse.mp member)

theorem yields_members {value : Reader α} (each : Yields P value) :
    Yields (fun members => ∀ member ∈ members, P member.2) (members value) := by
  have collects : ∀ (done : List (String × α)) (name : String), (∀ member ∈ done, P member.2) →
      Yields (fun members => ∀ member ∈ members, P member.2) (do colon; return (name, ← value) :: done) := by
    intro done name all
    exact yields_after fun _ => each.bind fun a here => yields_pure (List.forall_mem_cons.mpr ⟨here, all⟩)
  refine yields_after fun bytes => ?_
  refine (yields_foldMembers collects _ true [] (List.forall_mem_nil _)).bind fun done all => ?_
  exact yields_pure fun member inside => all member (List.mem_reverse.mp inside)

theorem fits_scalar {j : Json} (flat : j.depth = 0) (bounded : ∀ n ∈ j.numbers, n.Bounded) (room : Nat) : j.Fits room :=
  ⟨flat ▸ Nat.zero_le room, bounded⟩

theorem yields_valueWith {room : Nat} {nested : Container → Reader Json}
    (inner : ∀ kind, Yields (Fits room) (nested kind)) : Yields (Fits room) (valueWith nested) := by
  refine yields_after fun ahead => ?_
  split
  · exact yields_failAhead _
  · exact yields_after fun _ => yields_after fun _ => yields_pure (fits_scalar rfl (List.forall_mem_nil _) room)
  · exact yields_after fun _ => yields_after fun _ => yields_pure (fits_scalar rfl (List.forall_mem_nil _) room)
  · exact yields_after fun _ => yields_after fun _ => yields_pure (fits_scalar rfl (List.forall_mem_nil _) room)
  · exact yields_after fun _ => yields_after fun s => yields_pure (fits_scalar rfl (List.forall_mem_nil _) room)
  · exact inner .list
  · exact inner .object
  · split
    · refine yields_number.bind fun n bounded => yields_pure ?_
      have only : ∀ m ∈ (Json.number n).numbers, m.Bounded := List.forall_mem_singleton.mpr bounded
      exact fits_scalar rfl only room
    · exact yields_failAhead _

theorem yields_value (room : Nat) : Yields (Fits room) (value room) := by
  induction room with
  | zero => exact yields_valueWith fun _ => yields_failAhead _
  | succ room ih =>
    refine yields_valueWith fun kind => ?_
    cases kind with
    | list =>
      refine yields_after fun _ => ?_
      exact ((yields_items ih).enclosed closeList).bind fun items fit => yields_pure (fits_array.mpr fit)
    | object =>
      refine yields_after fun _ => ?_
      exact ((yields_members ih).enclosed closeObject).bind fun members fit => yields_pure (fits_object.mpr fit)

end Reader
end Json
end Journal
