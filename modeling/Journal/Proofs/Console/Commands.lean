import Journal.Console
import Journal.Proofs.Json.Reading

/-!
What the commands of the console can carry. A command is an array or an object itself, so a body inside it nests one
level less deep than a text may.
-/
namespace Journal
namespace Json

theorem ok_of_map {α β : Type} {f : α → β} {result : Except Cause α} {b : β} (given : result.map f = .ok b) :
    ∃ a, result = .ok a ∧ f a = b := by
  cases result with
  | error cause => cases given
  | ok a => exact ⟨a, rfl, Except.ok.inj given⟩

theorem ok_of_bind {α β : Type} {f : α → Except Cause β} {result : Except Cause α} {b : β}
    (given : result >>= f = .ok b) : ∃ a, result = .ok a ∧ f a = .ok b := by
  cases result with
  | error cause => cases given
  | ok a => exact ⟨a, rfl, given⟩

def FieldValue.Fits (room : Nat) (v : FieldValue) : Prop := ∀ j, v = .value j → j.Fits room

def Slots.Fit (room : Nat) (slots : Slots) : Prop := ∀ slot ∈ slots, slot.2.Fits room

variable {room : Nat}

theorem Slots.Fit.snoc {slots : Slots} {name : String} {v : FieldValue} (fit : slots.Fit room) (fits : v.Fits room) :
    Slots.Fit room (slots ++ [(name, v)]) := by
  intro slot member
  rcases List.mem_append.mp member with before | last
  · exact fit slot before
  · rw [List.mem_singleton.mp last]
    exact fits

theorem Slots.Fit.value? {slots : Slots} {name : String} {j : Json} (fit : slots.Fit room)
    (found : slots.value? name = some j) : j.Fits room := by
  unfold Slots.value? Slots.find? at found
  split at found <;> cases found
  rename_i held
  obtain ⟨slot, found, same⟩ := Option.map_eq_some_iff.mp held
  exact fit slot (List.mem_of_find?_eq_some found) j same

theorem ofValue_fits {type : FieldType} {j : Json} {v : FieldValue} (fits : j.Fits room)
    (given : type.ofValue j = .ok v) : v.Fits room := by
  intro j' same
  subst same
  unfold FieldType.ofValue at given
  split at given
  case h_3 =>
    cases given
    exact fits.canonical
  case h_10 | h_12 =>
    obtain ⟨_, -, same⟩ := ok_of_map given
    cases same
  all_goals cases given

theorem members_fit {shape : Shape} (members : List (String × Json)) (slots slots' : Slots)
    (fit : ∀ member ∈ members, member.2.Fits room) (before : slots.Fit room)
    (given : shape.members members slots = .ok slots') : slots'.Fit room := by
  induction members generalizing slots with
  | nil =>
    simp only [Shape.members, Shape.complete] at given
    split at given <;> cases given
    exact before
  | cons member members ih =>
    obtain ⟨name, j⟩ := member
    obtain ⟨fits, later⟩ := List.forall_mem_cons.mp fit
    simp only [Shape.members] at given
    split at given
    · exact ih slots later before given
    · rename_i type known
      split at given
      · cases given
      · obtain ⟨v, read, rest⟩ := ok_of_bind given
        exact ih _ later (before.snoc (ofValue_fits fits read)) rest

theorem items_fit {shape : Shape} (fields : List (String × FieldType)) (items : List Json) (slots slots' : Slots)
    (fit : ∀ j ∈ items, j.Fits room) (before : slots.Fit room) (given : shape.items fields items slots = .ok slots') :
    slots'.Fit room := by
  induction fields generalizing items slots with
  | nil =>
    cases given
    exact before
  | cons field fields ih =>
    obtain ⟨name, type⟩ := field
    cases items with
    | nil =>
      simp only [Shape.items] at given
      split at given
      · exact ih [] slots fit before given
      · cases given
    | cons j items =>
      obtain ⟨fits, later⟩ := List.forall_mem_cons.mp fit
      simp only [Shape.items] at given
      obtain ⟨v, read, rest⟩ := ok_of_bind given
      exact ih items _ later (before.snoc (ofValue_fits fits read)) rest

theorem shape_fit {shape : Shape} {tooLong : String} {content : Json} {slots : Slots} (fits : content.Fits (room + 1))
    (given : shape.ofValue tooLong content = .ok slots) : slots.Fit room := by
  have none : Slots.Fit room [] := List.forall_mem_nil _
  unfold Shape.ofValue at given
  split at given
  · rename_i members
    exact members_fit members [] slots (fits_object.mp fits) none given
  · rename_i items
    obtain ⟨slots', read, rest⟩ := ok_of_bind given
    have same : slots' = slots := by
      split at rest <;> cases rest
      rfl
    exact items_fit shape.fields items [] slots (fits_array.mp fits) none (same ▸ read)
  · cases given

end Json

namespace Console

open Json Json.Reader

def Command.write? : Command → Option (AppendStep × Write)
  | .put w => some (.put, w)
  | .delete w => some (.delete, w)
  | _ => none

namespace Command

abbrev Content (room : Nat) (read : String × Json) : Prop := read.2.Fits (room + 1)

theorem yields_taggedMember (room : Nat) (read : Tagged) (name : String) (fit : ∀ member ∈ read.2, member.2.Fits room) :
    Yields (fun read => ∀ member ∈ read.2, member.2.Fits room) (taggedMember room read name) := by
  unfold taggedMember
  split
  · split
    · exact yields_after fun _ => yields_after fun _ => yields_after fun _ => yields_pure fit
    · exact yields_after fun _ => yields_after fun _ => yields_pure fit
  · refine yields_after fun _ => (yields_value room).bind fun j fits => ?_
    exact yields_pure (List.forall_mem_cons.mpr ⟨fits, fit⟩)

theorem yields_taggedMembers (room : Nat) : Yields (Content room) (taggedMembers room) := by
  refine yields_after fun bytes => ?_
  refine (yields_foldMembers (yields_taggedMember room) _ true (none, []) (List.forall_mem_nil _)).bind fun read fit => ?_
  split
  · rename_i name members
    exact yields_pure (fits_object.mpr fun member inside => fit member (List.mem_reverse.mp inside))
  · exact yields_failUnplaced _

theorem yields_taggedItems (room : Nat) : Yields (Content room) (taggedItems room) := by
  have collects : ∀ done : List Json, (∀ j ∈ done, j.Fits room) →
      Yields (fun items => ∀ j ∈ items, j.Fits room) (do return (← value room) :: done) := by
    intro done all
    exact (yields_value room).bind fun j fits => yields_pure (List.forall_mem_cons.mpr ⟨fits, all⟩)
  refine yields_after fun another => ?_
  split
  · refine yields_after fun name => yields_after fun bytes => ?_
    refine (yields_foldItems collects _ false [] (List.forall_mem_nil _)).bind fun items fit => ?_
    exact yields_pure (fits_array.mpr fun j member => fit j (List.mem_reverse.mp member))
  · exact yields_failUnplaced _

theorem yields_wrongType {α : Type} {P : α → Prop} (expected : String) : Yields P (wrongType expected) := by
  refine Yields.placed (yields_after fun ahead => ?_)
  split
  · exact yields_after fun _ => yields_after fun _ => yields_failUnplaced _
  · exact yields_after fun _ => yields_after fun _ => yields_failUnplaced _
  · exact yields_after fun _ => yields_after fun _ => yields_failUnplaced _
  · exact yields_after fun _ => yields_after fun _ => yields_failUnplaced _
  · exact yields_failUnplaced _
  · exact yields_failUnplaced _
  · split
    · exact yields_after fun _ => yields_failUnplaced _
    · exact yields_failAhead _
  · exact yields_failAhead _

theorem yields_tagged : Yields (Content (deepest - 1)) tagged := by
  refine Yields.placed (yields_after fun ahead => ?_)
  split
  · exact yields_failAhead _
  · exact yields_after fun _ => (yields_taggedItems (deepest - 1)).enclosed closeList
  · exact yields_after fun _ => (yields_taggedMembers (deepest - 1)).enclosed closeObject
  · exact yields_wrongType _

def Fits (command : Command) : Prop :=
  ∀ step w, command.write? = some (step, w) → ∀ body ∈ w.body, body.Fits (deepest - 1)

theorem fits_of_tagged {name : String} {content : Json} {command : Command} (fits : content.Fits (deepest - 1 + 1))
    (given : ofTagged name content = .ok command) : command.Fits := by
  have written : ∀ slots, slotsOf writeShape content = .ok slots → ∀ body ∈ (writeOf slots).body, body.Fits (deepest - 1) :=
    fun slots read body held => (shape_fit fits read).value? held
  intro step w asks
  unfold ofTagged at given
  split at given
  case h_1 | h_2 =>
    obtain ⟨slots, read, same⟩ := ok_of_map given
    subst same
    cases asks
    exact written slots read
  all_goals
    obtain ⟨_, -, same⟩ := ok_of_map given
    subst same
    cases asks

theorem fits_of_text {text : String} {command : Command} (read : ofText text = .ok command) : command.Fits := by
  have yields : Yields Fits reader := by
    refine Yields.bind (P := Fits) ?_ fun command fits => yields_after fun _ => yields_pure fits
    refine yields_tagged.bind fun tagged fits => ?_
    obtain ⟨name, content⟩ := tagged
    exact yields_ofExcept fun command given => fits_of_tagged fits given
  exact yields.run read

end Command
end Console
end Journal
