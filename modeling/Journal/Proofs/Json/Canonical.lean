import Journal.Proofs.Json.Reading

/-!
Values in canonical form. Sorting the members of a value at every depth once more changes nothing, and what is read
from a document is such a value, not nested deeper than it was read.
-/
namespace Journal.Json

mutual

theorem canonical_canonical : ∀ j : Json, j.canonical.canonical = j.canonical
  | .null | .bool _ | .number _ | .string _ => rfl
  | .array items => by
    have each := canonical_items items
    simp only [canonical, canonicalItems_eq, List.map_map]
    congr 1
    exact List.map_congr_left each
  | .object members => by
    have each := canonical_members members
    simp only [canonical]
    have fixed : canonicalMembers (Table.ofList (canonicalMembers members)) =
        Table.ofList (canonicalMembers members) := by
      rw [canonicalMembers_eq (Table.ofList _)]
      refine (List.map_congr_left fun member inside => ?_).trans (List.map_id _)
      have there := Table.mem_ofList inside
      rw [canonicalMembers_eq] at there
      obtain ⟨before, given, rfl⟩ := List.mem_map.mp there
      exact Prod.ext rfl (each before given)
    rw [fixed, Table.ofList_of_sorted (Table.sorted_ofList _)]

theorem canonical_items : ∀ items : List Json, ∀ j ∈ items, j.canonical.canonical = j.canonical
  | [] => List.forall_mem_nil _
  | item :: rest => List.forall_mem_cons.mpr ⟨canonical_canonical item, canonical_items rest⟩

theorem canonical_members : ∀ members : List (String × Json), ∀ member ∈ members,
    member.2.canonical.canonical = member.2.canonical
  | [] => List.forall_mem_nil _
  | (_, j) :: rest => List.forall_mem_cons.mpr ⟨canonical_canonical j, canonical_members rest⟩

end

theorem ofBytes_fits {bytes : Bytes} {j : Json} (reads : ofBytes bytes = .ok j) :
    j.Fits Reader.deepest ∧ j.canonical = j := by
  unfold ofBytes at reads
  cases given : read bytes with
  | error fault =>
    rw [given] at reads
    cases reads
  | ok j' =>
    rw [given] at reads
    cases reads
    have fits : Reader.Yields (Fits Reader.deepest) (Reader.document (Reader.value Reader.deepest)) :=
      (Reader.yields_value _).bind fun _ fits => Reader.yields_after fun _ => Reader.yields_pure fits
    exact ⟨(fits.run given).canonical, canonical_canonical j'⟩

end Journal.Json
