/-!
Tables: lists of named values in ascending order of the names. Names compare by code point, which is the
order of their UTF-8 bytes. Inserting under a name that is there replaces its value.
-/
namespace Journal

abbrev Table (α : Type) := List (String × α)

namespace Table

variable {α β : Type}

def insert (name : String) (value : α) : Table α → Table α
  | [] => [(name, value)]
  | (n, v) :: rest =>
    if name < n then (name, value) :: (n, v) :: rest
    else if n = name then (name, value) :: rest
    else (n, v) :: insert name value rest

def get? (name : String) : Table α → Option α
  | [] => none
  | (n, v) :: rest => if n = name then some v else get? name rest

def contains (name : String) (t : Table α) : Bool := (t.get? name).isSome

def names (t : Table α) : List String := t.map Prod.fst

/-- The last value given for a name wins. -/
def ofList (pairs : List (String × α)) : Table α := pairs.foldl (fun t p => t.insert p.1 p.2) []

def Sorted (t : Table α) : Prop := t.Pairwise fun a b => a.1 < b.1

theorem get?_insert_self (name : String) (value : α) (t : Table α) :
    (t.insert name value).get? name = some value := by
  induction t with
  | nil => simp [insert, get?]
  | cons head rest ih =>
    obtain ⟨n, v⟩ := head
    simp only [insert]
    split
    · simp [get?]
    · split
      · simp [get?]
      · rename_i other
        simp [get?, other, ih]

theorem get?_insert_other {name other : String} (different : other ≠ name) (value : α) (t : Table α) :
    (t.insert name value).get? other = t.get? other := by
  induction t with
  | nil => simp [insert, get?, Ne.symm different]
  | cons head rest ih =>
    obtain ⟨n, v⟩ := head
    simp only [insert]
    split
    · simp [get?, Ne.symm different]
    · split
      · rename_i same
        subst same
        simp [get?, Ne.symm different]
      · simp [get?, ih]

theorem mem_insert {name : String} {value : α} {t : Table α} {pair : String × α} (member : pair ∈ t.insert name value) :
    pair = (name, value) ∨ pair ∈ t := by
  induction t with
  | nil => exact .inl (List.mem_singleton.mp member)
  | cons head rest ih =>
    obtain ⟨n, v⟩ := head
    simp only [insert] at member
    split at member
    · exact List.mem_cons.mp member
    · split at member
      · exact (List.mem_cons.mp member).imp_right (List.mem_cons_of_mem _)
      · rcases List.mem_cons.mp member with rfl | later
        · exact .inr (List.mem_cons_self ..)
        · exact (ih later).imp_right (List.mem_cons_of_mem _)

theorem mem_ofList {pairs : List (String × α)} {pair : String × α} (member : pair ∈ ofList pairs) : pair ∈ pairs := by
  have kept : ∀ (t : Table α), pair ∈ pairs.foldl (fun t p => t.insert p.1 p.2) t → pair ∈ t ∨ pair ∈ pairs := by
    clear member
    induction pairs with
    | nil => exact fun t member => .inl member
    | cons first later ih =>
      intro t member
      rcases ih (t.insert first.1 first.2) member with early | late
      · rcases mem_insert early with rfl | before
        · exact .inr (List.mem_cons_self ..)
        · exact .inl before
      · exact .inr (List.mem_cons_of_mem _ late)
  rcases kept [] member with none | inside
  · cases none
  · exact inside

theorem Sorted.insert {t : Table α} (sorted : t.Sorted) (name : String) (value : α) : (t.insert name value).Sorted := by
  induction t with
  | nil => exact List.pairwise_singleton _ _
  | cons head rest ih =>
    obtain ⟨n, v⟩ := head
    obtain ⟨above, later⟩ := List.pairwise_cons.mp sorted
    simp only [Table.insert]
    split
    · rename_i below
      refine List.pairwise_cons.mpr ⟨?_, sorted⟩
      intro pair member
      rcases List.mem_cons.mp member with rfl | behind
      · exact below
      · exact String.lt_trans below (above pair behind)
    · rename_i notBelow
      split
      · rename_i same
        subst same
        exact List.pairwise_cons.mpr ⟨above, later⟩
      · rename_i other
        have after : n < name :=
          String.not_le.mp fun back => other (String.le_antisymm (String.not_lt.mp notBelow) back)
        refine List.pairwise_cons.mpr ⟨?_, ih later⟩
        intro pair member
        rcases mem_insert member with rfl | behind
        · exact after
        · exact above pair behind

theorem sorted_ofList (pairs : List (String × α)) : (ofList pairs).Sorted := by
  have kept : ∀ t : Table α, t.Sorted → Sorted (pairs.foldl (fun t p => t.insert p.1 p.2) t) := by
    induction pairs with
    | nil => exact fun t sorted => sorted
    | cons pair later ih => exact fun t sorted => ih _ (sorted.insert pair.1 pair.2)
  exact kept [] List.Pairwise.nil

theorem insert_last {t : Table α} {name : String} {value : α} (above : ∀ pair ∈ t, pair.1 < name) :
    t.insert name value = t ++ [(name, value)] := by
  induction t with
  | nil => rfl
  | cons head rest ih =>
    obtain ⟨n, v⟩ := head
    have before : n < name := above _ List.mem_cons_self
    have other : n ≠ name := by
      rintro rfl
      exact String.lt_irrefl _ before
    rw [Table.insert, if_neg (String.lt_asymm before), if_neg other, List.cons_append,
      ih fun pair member => above pair (List.mem_cons_of_mem _ member)]

theorem ofList_of_sorted {t : Table α} (sorted : t.Sorted) : ofList t = t := by
  have fills : ∀ done : Table α, Sorted (done ++ t) → t.foldl (fun t p => t.insert p.1 p.2) done = done ++ t := by
    clear sorted
    induction t with
    | nil => exact fun done _ => (List.append_nil done).symm
    | cons pair later ih =>
      intro done sorted
      have above : ∀ before ∈ done, before.1 < pair.1 := fun before member =>
        (List.pairwise_append.mp sorted).2.2 before member pair List.mem_cons_self
      rw [List.append_cons] at sorted ⊢
      rw [List.foldl_cons, insert_last above]
      exact ih _ sorted
  exact fills [] sorted

end Table
end Journal
