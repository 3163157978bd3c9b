import Journal.Json.Writer
import Journal.Proofs.Text.Digits

/-!
A JSON text is one line: control characters are escaped in its strings, and there are none elsewhere.
-/
namespace Journal

def Unbroken (cs : List Char) : Prop := ∀ c ∈ cs, 32 ≤ c.toNat

instance (cs : List Char) : Decidable (Unbroken cs) := List.decidableBAll (fun c : Char => 32 ≤ c.toNat) cs

@[simp] theorem unbroken_nil : Unbroken [] := List.forall_mem_nil _

@[simp] theorem unbroken_cons {c : Char} {cs : List Char} : Unbroken (c :: cs) ↔ 32 ≤ c.toNat ∧ Unbroken cs :=
  List.forall_mem_cons

@[simp] theorem unbroken_append {cs ds : List Char} : Unbroken (cs ++ ds) ↔ Unbroken cs ∧ Unbroken ds :=
  List.forall_mem_append

theorem Unbroken.subset {cs ds : List Char} (unbroken : Unbroken ds) (within : cs ⊆ ds) : Unbroken cs :=
  fun c member => unbroken c (within member)

theorem unbroken_repr (n : Nat) : Unbroken n.repr.toList := by
  intro c member
  rw [Nat.toList_repr] at member
  have bounds := digit_char_bounds (Nat.isDigit_of_mem_toDigits (by decide) (by decide) member)
  omega

namespace Binary64

theorem unbroken_zeros (n : Nat) : Unbroken (zeros n).toList := by
  intro c member
  rw [zeros, String.toList_ofList] at member
  rw [List.eq_of_mem_replicate member]
  decide

theorem unbroken_signText (negative : Bool) : Unbroken (signText negative).toList := by
  cases negative <;> decide

theorem unbroken_pointed {digits whole : String} (exponent : Int) (first : Unbroken digits.toList)
    (last : Unbroken whole.toList) : Unbroken (pointed digits exponent whole).toList := by
  have point : Unbroken ".".toList := by decide
  have zero : Unbroken "0.".toList := by decide
  unfold pointed
  dsimp only
  split
  · simp only [String.toList_append, unbroken_append]
    exact ⟨⟨first, unbroken_zeros _⟩, last⟩
  · split
    · simp only [String.toList_append, String.toList_ofList, unbroken_append]
      exact ⟨⟨first.subset (List.take_subset _ _), point⟩, first.subset (List.drop_subset _ _)⟩
    · simp only [String.toList_append, unbroken_append]
      exact ⟨⟨zero, unbroken_zeros _⟩, first⟩

theorem unbroken_scientificText (x : Binary64) : Unbroken x.scientificText.toList := by
  cases x with
  | nan => decide
  | infinite negative =>
    simp only [scientificText, String.toList_append, unbroken_append]
    exact ⟨unbroken_signText negative, by decide⟩
  | finite negative m e =>
    have sign := unbroken_signText negative
    have digits := unbroken_repr (shortest .even m e).digits
    simp only [scientificText, Nat.toString_eq_repr]
    split
    · simp only [String.toList_append, unbroken_append]
      exact ⟨sign, by decide⟩
    · split
      · simp only [String.toList_append, unbroken_append]
        exact ⟨sign, unbroken_pointed _ digits (by decide)⟩
      · simp only [String.toList_append, unbroken_append, String.toList_ofList]
        refine ⟨⟨⟨⟨⟨sign, digits.subset (List.take_subset _ _)⟩, ?_⟩, by decide⟩, ?_⟩, unbroken_repr _⟩
        · split
          · decide
          · simp only [String.toList_append, unbroken_append, String.toList_ofList]
            exact ⟨by decide, digits.subset (List.drop_subset _ _)⟩
        · split <;> decide

end Binary64

namespace Json

theorem unbroken_hexDigit (n : Nat) : 32 ≤ (hexDigit n).toNat := by
  rw [hexDigit, List.getD_eq_getElem?_getD]
  cases digit : "0123456789abcdef".toList[n]? with
  | none => decide
  | some c =>
    have all : Unbroken "0123456789abcdef".toList := by decide
    exact all c (List.mem_of_getElem? digit)

theorem unbroken_shortEscape {c e : Char} (short : shortEscape? c = some e) : 32 ≤ e.toNat := by
  unfold shortEscape? at short
  repeat' split at short
  all_goals cases short
  all_goals decide

theorem unbroken_escapedChar (c : Char) : Unbroken (escapedChar c) := by
  unfold escapedChar
  split
  · rename_i special
    rcases special with rfl | rfl <;> decide
  · split
    · split
      · rename_i e short
        exact unbroken_cons.mpr ⟨by decide, unbroken_cons.mpr ⟨unbroken_shortEscape short, unbroken_nil⟩⟩
      · simp only [unbroken_cons, unbroken_nil, and_true]
        exact ⟨by decide, by decide, by decide, by decide, unbroken_hexDigit _, unbroken_hexDigit _⟩
    · rename_i printable
      exact unbroken_cons.mpr ⟨Nat.le_of_not_lt printable, unbroken_nil⟩

theorem unbroken_stringChars (s : String) : Unbroken (stringChars s) := by
  have inner : Unbroken (s.toList.flatMap escapedChar) := by
    intro c member
    obtain ⟨d, -, here⟩ := List.mem_flatMap.mp member
    exact unbroken_escapedChar d c here
  simp only [stringChars, unbroken_append, unbroken_cons]
  exact ⟨⟨by decide, inner⟩, by decide, unbroken_nil⟩

theorem unbroken_numberText (n : Number) : Unbroken (numberText n).toList := by
  cases n with
  | integer n =>
    rw [numberText, Int.toString_eq_repr, Int.repr_eq_if]
    split
    · exact unbroken_repr _
    · rw [String.toList_append, unbroken_append]
      exact ⟨by decide, unbroken_repr _⟩
  | real x =>
    unfold numberText
    dsimp only
    split
    · exact x.unbroken_scientificText
    · decide

mutual

theorem unbroken_chars : ∀ j : Json, Unbroken j.chars
  | .null | .bool true | .bool false => by decide
  | .number n => unbroken_numberText n
  | .string s => unbroken_stringChars s
  | .array [] => by decide
  | .array (item :: items) => by
    simp only [chars, unbroken_cons, unbroken_append]
    exact ⟨by decide, unbroken_chars item, unbroken_itemChars items⟩
  | .object [] => by decide
  | .object ((name, value) :: members) => by
    simp only [chars, unbroken_cons, unbroken_append]
    exact ⟨by decide, unbroken_stringChars name, by decide, unbroken_chars value, unbroken_memberChars members⟩

theorem unbroken_itemChars : ∀ items : List Json, Unbroken (itemChars items)
  | [] => by decide
  | item :: items => by
    simp only [itemChars, unbroken_cons, unbroken_append]
    exact ⟨by decide, unbroken_chars item, unbroken_itemChars items⟩

theorem unbroken_memberChars : ∀ members : List (String × Json), Unbroken (memberChars members)
  | [] => by decide
  | (name, value) :: members => by
    simp only [memberChars, unbroken_cons, unbroken_append]
    exact ⟨by decide, unbroken_stringChars name, by decide, unbroken_chars value, unbroken_memberChars members⟩

end

theorem newline_not_mem_text (j : Json) : '\n' ∉ j.text.toList := by
  intro member
  rw [text, String.toList_ofList] at member
  exact absurd (unbroken_chars j '\n' member) (by decide)

end Json
end Journal
