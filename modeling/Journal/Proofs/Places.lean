/-!
What stands at a place of a list. Sessions, tasks, calls and readers are never removed: their lists grow at the end, and
what stands at a place is replaced there.
-/
namespace Journal

variable {α : Type} {xs : List α} {x x' y : α} {k n : Nat}

theorem getElem?_grown (found : xs[k]? = some y) (more : List α) : (xs ++ more)[k]? = some y := by
  rw [List.getElem?_append_left (List.getElem?_eq_some_iff.mp found).1, found]

theorem getElem?_snoc_cases (found : (xs ++ [x])[k]? = some y) : xs[k]? = some y ∨ k = xs.length ∧ y = x := by
  rcases Nat.lt_or_ge k xs.length with inside | beyond
  · rw [List.getElem?_append_left inside] at found
    exact .inl found
  · rw [List.getElem?_append_right beyond, List.getElem?_singleton] at found
    split at found
    · cases found
      exact .inr ⟨by omega, rfl⟩
    · cases found

theorem getElem?_snoc_other (other : k ≠ xs.length) : (xs ++ [x])[k]? = xs[k]? := by
  rcases Nat.lt_or_gt_of_ne other with inside | beyond
  · exact List.getElem?_append_left inside
  · rw [List.getElem?_eq_none (by simp; omega), List.getElem?_eq_none (by omega)]

theorem getElem?_snoc (other : x ≠ y) : (xs ++ [x])[k]? = some y ↔ xs[k]? = some y := by
  constructor
  · intro found
    rcases getElem?_snoc_cases found with before | ⟨-, rfl⟩
    · exact before
    · exact absurd rfl other
  · exact fun found => getElem?_grown found [x]

theorem getElem?_last (out : xs[k]? = none) (inside : ((xs ++ [x])[k]?).isSome = true) :
    (xs ++ [x])[k]? = some x := by
  obtain ⟨y, found⟩ := Option.isSome_iff_exists.mp inside
  rcases getElem?_snoc_cases found with before | ⟨-, rfl⟩
  · rw [out] at before
    cases before
  · exact found

theorem mem_snoc (member : y ∈ xs ++ [x]) (other : y ≠ x) : y ∈ xs := by
  rcases List.mem_append.mp member with before | last
  · exact before
  · exact absurd (List.mem_singleton.mp last) other

theorem getElem?_before_set (found : (xs.set n x')[k]? = some y) : k = n ∧ y = x' ∨ k ≠ n ∧ xs[k]? = some y := by
  by_cases here : n = k
  · subst here
    rw [List.getElem?_set_self'] at found
    obtain ⟨-, -, rfl⟩ := Option.map_eq_some_iff.mp found
    exact .inl ⟨rfl, rfl⟩
  · rw [List.getElem?_set_ne here] at found
    exact .inr ⟨Ne.symm here, found⟩

theorem getElem?_after_set (x' : α) (taken : xs[n]? = some x) (found : xs[k]? = some y) :
    k = n ∧ y = x ∧ (xs.set n x')[k]? = some x' ∨ k ≠ n ∧ (xs.set n x')[k]? = some y := by
  by_cases here : n = k
  · subst here
    obtain rfl := Option.some.inj (found.symm.trans taken)
    exact .inl ⟨rfl, rfl, List.getElem?_set_self (List.getElem?_eq_some_iff.mp taken).1⟩
  · exact .inr ⟨Ne.symm here, by rw [List.getElem?_set_ne here, found]⟩

theorem getElem?_set_other (taken : xs[n]? = some x) (old : x ≠ y) (new : x' ≠ y) :
    (xs.set n x')[k]? = some y ↔ xs[k]? = some y := by
  constructor
  · intro found
    rcases getElem?_before_set found with ⟨-, rfl⟩ | ⟨-, there⟩
    · exact absurd rfl new
    · exact there
  · intro found
    rcases getElem?_after_set x' taken found with ⟨-, rfl, -⟩ | ⟨-, there⟩
    · exact absurd rfl old
    · exact there

end Journal
