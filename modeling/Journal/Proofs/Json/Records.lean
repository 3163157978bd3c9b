import Journal.Json.Record
import Journal.Proofs.Json.Values
/-!
A record of texts is read back from the object that lists them. No field is missing, none is given twice, and none
is unknown, so every member goes into its own slot.
-/
namespace Journal.Json

def ofTexts (texts : List (String × String)) : Json := .object (texts.map fun t => (t.1, .string t.2))

def Slots.ofTexts (texts : List (String × String)) : Slots := texts.map fun t => (t.1, .text t.2)

def Shape.Asks (shape : Shape) (texts : List (String × String)) : Prop :=
  shape.fields = texts.map fun t => (t.1, .text)

namespace Slots

theorem find?_ofTexts_none {texts : List (String × String)} {name : String} (absent : name ∉ texts.map Prod.fst) :
    (ofTexts texts).find? name = none := by
  have none : List.find? (fun slot => slot.1 = name) (ofTexts texts) = none := by
    rw [List.find?_eq_none]
    intro slot mem same
    obtain ⟨t, here, rfl⟩ := List.mem_map.mp mem
    exact absent (List.mem_map.mpr ⟨t, here, by simpa using same⟩)
  unfold Slots.find?
  rw [none]
  rfl

theorem find?_ofTexts_some {texts : List (String × String)} {name : String} (present : name ∈ texts.map Prod.fst) :
    ((ofTexts texts).find? name).isSome = true := by
  obtain ⟨t, mem, same⟩ := List.mem_map.mp present
  unfold Slots.find?
  rw [Option.isSome_map, List.find?_isSome]
  exact ⟨(t.1, .text t.2), List.mem_map.mpr ⟨t, mem, rfl⟩, by simpa using same⟩

end Slots

namespace Shape

variable {shape : Shape} {texts : List (String × String)}

theorem Asks.type? (asks : shape.Asks texts) {name : String} (present : name ∈ texts.map Prod.fst) :
    shape.type? name = some .text := by
  have found : (shape.fields.find? fun field => field.1 = name).isSome = true := by
    rw [List.find?_isSome]
    obtain ⟨t, mem, same⟩ := List.mem_map.mp present
    exact ⟨(t.1, .text), by rw [asks]; exact List.mem_map.mpr ⟨t, mem, rfl⟩, by simpa using same⟩
  obtain ⟨field, eq⟩ := Option.isSome_iff_exists.mp found
  have mem := List.mem_of_find?_eq_some eq
  rw [asks] at mem
  obtain ⟨t, _, rfl⟩ := List.mem_map.mp mem
  unfold Shape.type?
  rw [eq]
  rfl

theorem Asks.complete (asks : shape.Asks texts) :
    shape.complete (Slots.ofTexts texts) = .ok (Slots.ofTexts texts) := by
  have none : (shape.fields.find? fun field =>
      ((Slots.ofTexts texts).find? field.1).isNone && !shape.defaults && !field.2.optional) = none := by
    rw [List.find?_eq_none]
    intro field mem
    rw [asks] at mem
    obtain ⟨t, here, rfl⟩ := List.mem_map.mp mem
    obtain ⟨value, found⟩ := Option.isSome_iff_exists.mp
      (Slots.find?_ofTexts_some (List.mem_map.mpr ⟨t, here, rfl⟩ : t.1 ∈ texts.map Prod.fst))
    simp [found]
  unfold Shape.complete
  rw [none]

end Shape

namespace Reader

variable {shape : Shape} {texts : List (String × String)}

theorem stringText_bytes (s : String) : (Json.string s).bytes = (stringChars s).flatMap String.utf8EncodeChar := by
  simp only [Json.bytes, chars]

theorem gives_textField (room : Nat) (s : String) (rest : Bytes) :
    Gives (field room .text) ((Json.string s).bytes ++ rest) (.text s) rest := by
  rw [stringText_bytes, stringChars_bytes]
  have text : Gives (textAs "a string")
      (34 :: ((s.toList.flatMap escapedChar).flatMap String.utf8EncodeChar ++ 34 :: rest)) s rest :=
    (gives_peekToken rfl _).bind ((gives_bump 34 _).bind (gives_stringTail s rest))
  exact text.map FieldValue.text

theorem gives_recordMember (asks : shape.Asks texts) {name : String} (present : name ∈ texts.map Prod.fst)
    {slots : Slots} (fresh : slots.find? name = none) (room : Nat) (s : String) (rest : Bytes) :
    Gives (recordMember shape room slots name) (58 :: ((Json.string s).bytes ++ rest)) (slots ++ [(name, .text s)])
      rest := by
  simp only [recordMember, asks.type? present, fresh, Option.isSome_none, Bool.false_eq_true, if_false]
  exact (gives_colon _).bind ((gives_textField room s rest).bind (gives_pure _ rest))

theorem gives_laterMembers (asks : shape.Asks texts) (room : Nat) (rest : Bytes) :
    ∀ (later done : List (String × String)) (limit : Nat), done ++ later = texts → (texts.map Prod.fst).Nodup →
      later.length ≤ limit →
      Gives (foldMembers (recordMember shape room) limit false (Slots.ofTexts done))
        ((memberChars (later.map fun t => (t.1, .string t.2))).flatMap String.utf8EncodeChar ++ rest)
        (Slots.ofTexts texts) (125 :: rest)
  | [], done, limit, split, _, _ => by
    rw [List.append_nil] at split
    rw [split]
    exact gives_foldMembers_end rest
  | (name, s) :: later, done, 0, _, _, enough => absurd enough (by simp)
  | (name, s) :: later, done, limit + 1, split, distinct, enough => by
    have present : name ∈ texts.map Prod.fst := by
      rw [← split]
      simp
    have fresh : (Slots.ofTexts done).find? name = none := by
      refine Slots.find?_ofTexts_none fun mem => ?_
      rw [← split, List.map_append, List.nodup_append] at distinct
      exact distinct.2.2 name mem name (by simp) rfl
    have goesOn := gives_laterMembers asks room rest later (done ++ [(name, s)]) limit (by simpa using split)
      distinct (by simpa using enough)
    have slots : Slots.ofTexts (done ++ [(name, s)]) = Slots.ofTexts done ++ [(name, .text s)] := by
      simp [Slots.ofTexts]
    rw [slots] at goesOn
    rw [List.map_cons, memberChars_bytes]
    exact Gives.foldMembers (gives_anotherMember_name false name _)
      (gives_recordMember asks present fresh room s _) goesOn

theorem gives_record (asks : shape.Asks texts) (distinct : (texts.map Prod.fst).Nodup) (some : texts ≠ [])
    (room : Nat) (rest : Bytes) :
    Gives (record shape (room + 1)) ((Json.ofTexts texts).bytes ++ rest) (Slots.ofTexts texts) rest := by
  cases texts with
  | nil => contradiction
  | cons t later =>
    obtain ⟨name, s⟩ := t
    simp only [Json.ofTexts, List.map_cons]
    rw [object_bytes]
    generalize bytesEq : (stringChars name).flatMap String.utf8EncodeChar ++ 58 :: ((Json.string s).bytes ++
      ((memberChars (later.map fun t => (t.1, .string t.2))).flatMap String.utf8EncodeChar ++ rest)) = before
    have enough : later.length ≤ before.length := by
      have count := length_memberChars_bytes (later.map fun t => (t.1, Json.string t.2)) rest
      rw [List.length_map] at count
      rw [← bytesEq, List.length_append, List.length_cons, List.length_append]
      omega
    have folds : Gives (foldMembers (recordMember shape room) (before.length + 1) true []) before
        (Slots.ofTexts ((name, s) :: later)) (125 :: rest) := by
      have goesOn := gives_laterMembers asks room rest later [(name, s)] before.length rfl distinct enough
      rw [← bytesEq]
      rw [← bytesEq] at goesOn
      exact Gives.foldMembers (gives_anotherMember_name true name _)
        (gives_recordMember asks (by simp) rfl room s _) goesOn
    have complete : Gives (ofExcept (shape.complete (Slots.ofTexts ((name, s) :: later)))) (125 :: rest)
        (Slots.ofTexts ((name, s) :: later)) (125 :: rest) := by
      rw [asks.complete]
      exact gives_pure _ _
    refine ((gives_peekToken rfl before).bind ((gives_bump 123 before).bind
      (Gives.enclosed ?_ (gives_closeObject rest)))).placed
    exact (gives_remaining before).bind (folds.bind complete)

end Reader

theorem Shape.ofBytes_ofTexts {shape : Shape} {texts : List (String × String)} (asks : shape.Asks texts)
    (distinct : (texts.map Prod.fst).Nodup) (some : texts ≠ []) :
    shape.ofBytes (Json.ofTexts texts).bytes = .ok (Slots.ofTexts texts) := by
  have reads := Reader.gives_record asks distinct some 126 []
  rw [List.append_nil] at reads
  exact reads.document

end Journal.Json
