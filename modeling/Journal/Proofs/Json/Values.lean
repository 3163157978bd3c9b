import Journal.Json.Reader
import Journal.Proofs.Json.Reals
import Journal.Proofs.Json.Strings
/-!
A value is read from its text exactly if it does not nest too deep. Whole numbers come back as they are; of other
numbers only the place is kept.
-/
namespace Journal

/-- The numbers that there are: integers of 64 bits, with or without sign, and finite binary numbers. -/
def Number.Valid : Number → Prop
  | .integer n => Json.leastInteger ≤ n ∧ n ≤ Json.greatestInteger
  | .real (.finite _ m e) => m < 2 ^ 53 ∧ e ≤ 971
  | .real _ => False

def Number.Whole : Number → Prop
  | .integer _ => True
  | .real _ => False

instance (n : Number) : Decidable n.Whole :=
  match n with
  | .integer _ => isTrue trivial
  | .real _ => isFalse id

namespace Json

mutual

def numbers : Json → List Number
  | .number n => [n]
  | .array items => numbersOfItems items
  | .object members => numbersOfMembers members
  | _ => []

def numbersOfItems : List Json → List Number
  | [] => []
  | item :: rest => numbers item ++ numbersOfItems rest

def numbersOfMembers : List (String × Json) → List Number
  | [] => []
  | (_, value) :: rest => numbers value ++ numbersOfMembers rest

end

def Valid (j : Json) : Prop := ∀ n ∈ j.numbers, n.Valid

def Whole (j : Json) : Prop := ∀ n ∈ j.numbers, n.Whole

instance (j : Json) : Decidable j.Whole := inferInstanceAs (Decidable (∀ n ∈ j.numbers, n.Whole))

namespace Reader

variable {α σ : Type}

def starters : List UInt8 := [110, 116, 102, 34, 91, 123, 45, 48, 49, 50, 51, 52, 53, 54, 55, 56, 57]

theorem digit_mem {b : UInt8} (digit : isDigit b = true) : b ∈ starters.drop 7 := by
  have bounds : 48 ≤ b.toNat ∧ b.toNat ≤ 57 := by
    simpa [isDigit, UInt8.le_iff_toNat_le] using digit
  have values : ∀ n : Fin 10, UInt8.ofNat (48 + n) ∈ starters.drop 7 := by decide
  have here := values ⟨b.toNat - 48, by omega⟩
  rwa [show 48 + (b.toNat - 48) = b.toNat by omega, UInt8.ofNat_toNat] at here

theorem gives_anotherItem_end (first : Bool) (rest : Bytes) : Gives (anotherItem first) (93 :: rest) false (93 :: rest) :=
  (gives_peekToken rfl rest).bind (gives_pure false _)

theorem solid_of_starts {b : UInt8} (starts : b ∈ starters) : isBlank b = false ∧ b ≠ 93 ∧ b ≠ 44 := by
  have all : starters.all (fun b => !isBlank b && b != 93 && b != 44) = true := by decide
  simpa [and_assoc] using List.all_eq_true.mp all b starts

theorem gives_anotherItem_first {b : UInt8} (starts : b ∈ starters) (rest : Bytes) :
    Gives (anotherItem true) (b :: rest) true (b :: rest) := by
  obtain ⟨solid, notEnd, notComma⟩ := solid_of_starts starts
  refine (gives_peekToken solid rest).bind ?_
  split
  · contradiction
  · rename_i same
    exact absurd (Option.some.inj same) notEnd
  · rename_i same
    exact absurd (Option.some.inj same) notComma
  · exact gives_pure true _

theorem gives_anotherItem_comma {b : UInt8} (starts : b ∈ starters) (rest : Bytes) :
    Gives (anotherItem false) (44 :: b :: rest) true (b :: rest) := by
  obtain ⟨solid, notEnd, -⟩ := solid_of_starts starts
  refine (gives_peekToken rfl _).bind ((gives_bump 44 _).bind ((gives_peekToken solid rest).bind ?_))
  split
  · rename_i same
    exact absurd (Option.some.inj same) notEnd
  · exact gives_pure true _
  · contradiction

theorem gives_anotherMember_end (first : Bool) (rest : Bytes) :
    Gives (anotherMember first) (125 :: rest) false (125 :: rest) :=
  (gives_peekToken rfl rest).bind (gives_pure false _)

theorem gives_anotherMember_first (rest : Bytes) : Gives (anotherMember true) (34 :: rest) true (34 :: rest) :=
  (gives_peekToken rfl rest).bind (gives_pure true _)

theorem gives_anotherMember_comma (rest : Bytes) : Gives (anotherMember false) (44 :: 34 :: rest) true (34 :: rest) :=
  (gives_peekToken rfl _).bind ((gives_bump 44 _).bind ((gives_peekToken rfl rest).bind (gives_pure true _)))

theorem gives_memberName (name : String) (rest : Bytes) :
    Gives memberName ((stringChars name).flatMap String.utf8EncodeChar ++ rest) name rest := by
  rw [stringChars_bytes]
  exact (gives_bump 34 _).bind (gives_stringTail name rest)

theorem gives_colon (rest : Bytes) : Gives colon (58 :: rest) () rest :=
  (gives_peekToken rfl rest).bind (gives_bump 58 rest)

theorem gives_closeList (rest : Bytes) : Gives closeList (93 :: rest) () rest :=
  (gives_peekToken rfl rest).bind (gives_bump 93 rest)

theorem gives_closeObject (rest : Bytes) : Gives closeObject (125 :: rest) () rest :=
  (gives_peekToken rfl rest).bind (gives_bump 125 rest)

theorem Gives.enclosed {content : Reader α} {close : Reader Unit} {before middle after : Bytes} {a : α}
    (inner : Gives content before a middle) (closes : Gives close middle () after) :
    Gives (enclosed content close) before a after := by
  intro place
  obtain ⟨place', eq⟩ := inner place
  obtain ⟨place'', eq'⟩ := closes place'
  exact ⟨place'', by simp only [Reader.enclosed, eq, eq']⟩

theorem Fails.enclosed {content : Reader α} {before : Bytes} (fails : Fails content before) (close : Reader Unit) :
    Fails (Reader.enclosed content close) before := by
  intro place
  obtain ⟨fault, c, eq⟩ := fails place
  simp only [Reader.enclosed, eq]
  cases close c with
  | ok _ c' => exact ⟨_, _, rfl⟩
  | error _ c' => exact ⟨_, _, rfl⟩

section Folds

variable {item : σ → Reader σ} {member : σ → String → Reader σ} {limit : Nat} {first : Bool} {s s' t : σ}
  {before middle after : Bytes} {name : String}

theorem gives_foldItems_end (rest : Bytes) : Gives (foldItems item limit first s) (93 :: rest) s (93 :: rest) := by
  cases limit with
  | zero => exact gives_pure s _
  | succ limit => exact (gives_anotherItem_end first rest).bind (gives_pure s _)

theorem Gives.foldItems (another : Gives (anotherItem first) before true middle)
    (one : Gives (item s) middle s' after) {rest : Bytes} (later : Gives (foldItems item limit false s') after t rest) :
    Gives (foldItems item (limit + 1) first s) before t rest :=
  another.bind (one.bind later)

theorem Fails.foldItems_here (another : Gives (anotherItem first) before true middle) (fails : Fails (item s) middle) :
    Fails (foldItems item (limit + 1) first s) before :=
  another.bind_fails (fails.bind _)

theorem Fails.foldItems_later (another : Gives (anotherItem first) before true middle)
    (one : Gives (item s) middle s' after) (fails : Fails (foldItems item limit false s') after) :
    Fails (foldItems item (limit + 1) first s) before :=
  another.bind_fails (one.bind_fails fails)

theorem gives_foldMembers_end (rest : Bytes) :
    Gives (foldMembers member limit first s) (125 :: rest) s (125 :: rest) := by
  cases limit with
  | zero => exact gives_pure s _
  | succ limit => exact (gives_anotherMember_end first rest).bind (gives_pure s _)

theorem Gives.foldMembers
    (another : Gives (anotherMember first) before true ((stringChars name).flatMap String.utf8EncodeChar ++ middle))
    (one : Gives (member s name) middle s' after) {rest : Bytes}
    (later : Gives (foldMembers member limit false s') after t rest) :
    Gives (foldMembers member (limit + 1) first s) before t rest :=
  another.bind ((gives_memberName name middle).bind (one.bind later))

theorem Fails.foldMembers_here
    (another : Gives (anotherMember first) before true ((stringChars name).flatMap String.utf8EncodeChar ++ middle))
    (fails : Fails (member s name) middle) : Fails (foldMembers member (limit + 1) first s) before :=
  another.bind_fails ((gives_memberName name middle).bind_fails (fails.bind _))

theorem Fails.foldMembers_later
    (another : Gives (anotherMember first) before true ((stringChars name).flatMap String.utf8EncodeChar ++ middle))
    (one : Gives (member s name) middle s' after) (fails : Fails (foldMembers member limit false s') after) :
    Fails (foldMembers member (limit + 1) first s) before :=
  another.bind_fails ((gives_memberName name middle).bind_fails (one.bind_fails fails))

end Folds

theorem gives_anotherMember_name (first : Bool) (name : String) (rest : Bytes) :
    Gives (anotherMember first)
      ((if first then [] else [44]) ++ ((stringChars name).flatMap String.utf8EncodeChar ++ rest)) true
      ((stringChars name).flatMap String.utf8EncodeChar ++ rest) := by
  rw [stringChars_bytes]
  cases first with
  | true => exact gives_anotherMember_first _
  | false => exact gives_anotherMember_comma _

theorem numeral_of_valid {n : Number} (valid : n.Valid) {rest : Bytes} (delimited : Delimited rest) :
    ∃ n', Numeral ((numberText n).toList.flatMap String.utf8EncodeChar ++ rest) n' rest ∧ (n.Whole → n' = n) := by
  match n with
  | .integer i => exact ⟨.integer i, numeral_integer valid.1 valid.2 delimited, fun _ => rfl⟩
  | .real (.finite negative m e) =>
    obtain ⟨n', numeral⟩ := numeral_real negative valid.1 valid.2 delimited
    exact ⟨n', numeral, False.elim⟩

theorem gives_value_scalar {before after : Bytes} {j : Json}
    (reads : ∀ nested, Gives (valueWith nested) before j after) (room : Nat) : Gives (value room) before j after := by
  cases room with
  | zero => exact reads _
  | succ room => exact reads _

theorem gives_value_null (room : Nat) (rest : Bytes) : Gives (value room) (Json.null.bytes ++ rest) .null rest := by
  have bytes : Json.null.bytes = [110, 117, 108, 108] := by decide
  rw [bytes]
  exact gives_value_scalar (fun _ => (gives_peekToken rfl _).bind ((gives_bump 110 _).bind
    ((gives_word [117, 108, 108] rest).bind (gives_pure Json.null rest)))) room

theorem gives_value_bool (flag : Bool) (room : Nat) (rest : Bytes) :
    Gives (value room) ((Json.bool flag).bytes ++ rest) (.bool flag) rest := by
  cases flag with
  | true =>
    have bytes : (Json.bool true).bytes = [116, 114, 117, 101] := by decide
    rw [bytes]
    exact gives_value_scalar (fun _ => (gives_peekToken rfl _).bind ((gives_bump 116 _).bind
      ((gives_word [114, 117, 101] rest).bind (gives_pure (Json.bool true) rest)))) room
  | false =>
    have bytes : (Json.bool false).bytes = [102, 97, 108, 115, 101] := by decide
    rw [bytes]
    exact gives_value_scalar (fun _ => (gives_peekToken rfl _).bind ((gives_bump 102 _).bind
      ((gives_word [97, 108, 115, 101] rest).bind (gives_pure (Json.bool false) rest)))) room

theorem gives_value_string (s : String) (room : Nat) (rest : Bytes) :
    Gives (value room) ((Json.string s).bytes ++ rest) (.string s) rest := by
  have bytes : (Json.string s).bytes = (stringChars s).flatMap String.utf8EncodeChar := by simp only [Json.bytes, chars]
  rw [bytes, stringChars_bytes]
  exact gives_value_scalar (fun _ => (gives_peekToken rfl _).bind ((gives_bump 34 _).bind
    ((gives_stringTail s rest).map Json.string))) room

theorem gives_value_number {bytes after : Bytes} {n : Number} (numeral : Numeral bytes n after) (room : Nat) :
    Gives (value room) bytes (.number n) after := by
  obtain ⟨⟨b, bs, rfl, starts⟩, reads⟩ := numeral
  have numeric : (decide (b = 45) || isDigit b) = true := by
    rcases starts with rfl | digit
    · rfl
    · rw [digit, Bool.or_true]
  have mem : b ∈ starters.drop 6 := by
    rcases starts with rfl | digit
    · decide
    · exact List.mem_cons_of_mem 45 (digit_mem digit)
  have all : (starters.drop 6).all (fun b => !isBlank b && b != 110 && b != 116 && b != 102 && b != 34 && b != 91
      && b != 123) = true := by decide
  obtain ⟨solid, n110, n116, n102, n34, n91, n123⟩ : isBlank b = false ∧ b ≠ 110 ∧ b ≠ 116 ∧ b ≠ 102 ∧ b ≠ 34 ∧
      b ≠ 91 ∧ b ≠ 123 := by
    simpa [and_assoc] using List.all_eq_true.mp all b mem
  refine gives_value_scalar (fun nested => (gives_peekToken solid bs).bind ?_) room
  split
  · contradiction
  · rename_i same; exact absurd (Option.some.inj same) n110
  · rename_i same; exact absurd (Option.some.inj same) n116
  · rename_i same; exact absurd (Option.some.inj same) n102
  · rename_i same; exact absurd (Option.some.inj same) n34
  · rename_i same; exact absurd (Option.some.inj same) n91
  · rename_i same; exact absurd (Option.some.inj same) n123
  · rename_i other _ _ _ _ _ _ same
    cases Option.some.inj same
    rw [if_pos numeric]
    exact reads.map Json.number

theorem delimited_items (items : List Json) (rest : Bytes) :
    Delimited ((itemChars items).flatMap String.utf8EncodeChar ++ rest) := by
  intro b first
  cases items with
  | nil => cases Option.some.inj first; decide
  | cons item items => cases Option.some.inj first; decide

theorem delimited_members (members : List (String × Json)) (rest : Bytes) :
    Delimited ((memberChars members).flatMap String.utf8EncodeChar ++ rest) := by
  intro b first
  cases members with
  | nil => cases Option.some.inj first; decide
  | cons member members => cases Option.some.inj first; decide

theorem value_starts {j : Json} (valid : j.Valid) {rest : Bytes} (delimited : Delimited rest) :
    ∃ b bs, j.bytes ++ rest = b :: bs ∧ b ∈ starters := by
  match j with
  | .null => exact ⟨110, _, rfl, by decide⟩
  | .bool true => exact ⟨116, _, rfl, by decide⟩
  | .bool false => exact ⟨102, _, rfl, by decide⟩
  | .number n =>
    obtain ⟨n', ⟨⟨b, bs, eq, starts⟩, _⟩, _⟩ := numeral_of_valid (valid n (by simp [numbers])) delimited
    refine ⟨b, bs, eq, ?_⟩
    rcases starts with rfl | digit
    · decide
    · exact List.mem_of_mem_drop (digit_mem digit)
  | .string s => exact ⟨34, _, rfl, by decide⟩
  | .array [] => exact ⟨91, _, rfl, by decide⟩
  | .array (_ :: _) => exact ⟨91, _, rfl, by decide⟩
  | .object [] => exact ⟨123, _, rfl, by decide⟩
  | .object (_ :: _) => exact ⟨123, _, rfl, by decide⟩

theorem itemChars_bytes (item : Json) (items : List Json) (rest : Bytes) :
    (itemChars (item :: items)).flatMap String.utf8EncodeChar ++ rest
      = 44 :: (item.bytes ++ ((itemChars items).flatMap String.utf8EncodeChar ++ rest)) := by
  have comma : String.utf8EncodeChar ',' = [44] := by decide
  simp [itemChars, comma, Json.bytes]

theorem array_bytes (item : Json) (items : List Json) (rest : Bytes) :
    (Json.array (item :: items)).bytes ++ rest
      = 91 :: (item.bytes ++ ((itemChars items).flatMap String.utf8EncodeChar ++ rest)) := by
  have bracket : String.utf8EncodeChar '[' = [91] := by decide
  simp [chars, bracket, Json.bytes]

theorem memberChars_bytes (name : String) (j : Json) (members : List (String × Json)) (rest : Bytes) :
    (memberChars ((name, j) :: members)).flatMap String.utf8EncodeChar ++ rest
      = 44 :: ((stringChars name).flatMap String.utf8EncodeChar ++
        58 :: (j.bytes ++ ((memberChars members).flatMap String.utf8EncodeChar ++ rest))) := by
  have comma : String.utf8EncodeChar ',' = [44] := by decide
  have colon : String.utf8EncodeChar ':' = [58] := by decide
  simp [memberChars, comma, colon, Json.bytes]

theorem object_bytes (name : String) (j : Json) (members : List (String × Json)) (rest : Bytes) :
    (Json.object ((name, j) :: members)).bytes ++ rest
      = 123 :: ((stringChars name).flatMap String.utf8EncodeChar ++
        58 :: (j.bytes ++ ((memberChars members).flatMap String.utf8EncodeChar ++ rest))) := by
  have brace : String.utf8EncodeChar '\x7b' = [123] := by decide
  have colon : String.utf8EncodeChar ':' = [58] := by decide
  simp [chars, brace, colon, Json.bytes]

def collect (room : Nat) (done : List Json) : Reader (List Json) := do
  return (← value room) :: done

def collectMember (room : Nat) (done : List (String × Json)) (name : String) : Reader (List (String × Json)) := do
  colon
  return (name, ← value room) :: done

theorem Gives.collect {room : Nat} {before after : Bytes} {j : Json} (reads : Gives (value room) before j after)
    (done : List Json) : Gives (collect room done) before (j :: done) after :=
  reads.bind (gives_pure (j :: done) after)

theorem Gives.collectMember {room : Nat} {before after : Bytes} {j : Json} (reads : Gives (value room) before j after)
    (done : List (String × Json)) (name : String) :
    Gives (collectMember room done name) (58 :: before) ((name, j) :: done) after :=
  (gives_colon before).bind (reads.bind (gives_pure ((name, j) :: done) after))

theorem gives_array {room : Nat} {before after : Bytes} {items : List Json}
    (folds : ∀ limit, before.length ≤ limit →
      Gives (foldItems (collect room) (limit + 1) true []) before items.reverse (93 :: after)) :
    Gives (value (room + 1)) (91 :: before) (.array items) after := by
  have inner : Gives (Reader.items (value room)) before items (93 :: after) := by
    refine (gives_remaining before).bind ((folds _ (Nat.le_refl _)).bind ?_)
    rw [List.reverse_reverse]
    exact gives_pure items _
  exact (gives_peekToken rfl before).bind ((gives_bump 91 before).bind
    ((inner.enclosed (gives_closeList after)).map Json.array))

theorem fails_array {room : Nat} {before : Bytes}
    (folds : ∀ limit, before.length ≤ limit → Fails (foldItems (collect room) (limit + 1) true []) before) :
    Fails (value (room + 1)) (91 :: before) := by
  have inner : Fails (Reader.items (value room)) before :=
    (gives_remaining before).bind_fails ((folds _ (Nat.le_refl _)).bind _)
  exact (gives_peekToken rfl before).bind_fails ((gives_bump 91 before).bind_fails ((inner.enclosed _).bind _))

theorem gives_object {room : Nat} {before after : Bytes} {members : List (String × Json)}
    (folds : ∀ limit, before.length ≤ limit →
      Gives (foldMembers (collectMember room) (limit + 1) true []) before members.reverse (125 :: after)) :
    Gives (value (room + 1)) (123 :: before) (.object members) after := by
  have inner : Gives (Reader.members (value room)) before members (125 :: after) := by
    refine (gives_remaining before).bind ((folds _ (Nat.le_refl _)).bind ?_)
    rw [List.reverse_reverse]
    exact gives_pure members _
  exact (gives_peekToken rfl before).bind ((gives_bump 123 before).bind
    ((inner.enclosed (gives_closeObject after)).map Json.object))

theorem fails_object {room : Nat} {before : Bytes}
    (folds : ∀ limit, before.length ≤ limit → Fails (foldMembers (collectMember room) (limit + 1) true []) before) :
    Fails (value (room + 1)) (123 :: before) := by
  have inner : Fails (Reader.members (value room)) before :=
    (gives_remaining before).bind_fails ((folds _ (Nat.le_refl _)).bind _)
  exact (gives_peekToken rfl before).bind_fails ((gives_bump 123 before).bind_fails ((inner.enclosed _).bind _))

theorem fails_list_without_room (before : Bytes) : Fails (value 0) (91 :: before) :=
  (gives_peekToken rfl before).bind_fails (fails_failAhead .tooDeep _)

theorem fails_object_without_room (before : Bytes) : Fails (value 0) (123 :: before) :=
  (gives_peekToken rfl before).bind_fails (fails_failAhead .tooDeep _)

theorem length_itemChars_bytes (items : List Json) (rest : Bytes) :
    items.length ≤ ((itemChars items).flatMap String.utf8EncodeChar ++ rest).length := by
  induction items with
  | nil => simp
  | cons item items ih =>
    rw [itemChars_bytes, List.length_cons, List.length_cons, List.length_append]
    omega

theorem length_memberChars_bytes (members : List (String × Json)) (rest : Bytes) :
    members.length ≤ ((memberChars members).flatMap String.utf8EncodeChar ++ rest).length := by
  induction members with
  | nil => simp
  | cons member members ih =>
    obtain ⟨name, j⟩ := member
    rw [memberChars_bytes, List.length_cons, List.length_cons, List.length_append, List.length_cons, List.length_append]
    omega

mutual

theorem gives_value : ∀ (j : Json) {room : Nat} {rest : Bytes}, j.Valid → j.depth ≤ room → Delimited rest →
    ∃ j', Gives (value room) (j.bytes ++ rest) j' rest ∧ (j.Whole → j' = j)
  | .null, room, rest, _, _, _ => ⟨.null, gives_value_null room rest, fun _ => rfl⟩
  | .bool flag, room, rest, _, _, _ => ⟨.bool flag, gives_value_bool flag room rest, fun _ => rfl⟩
  | .string s, room, rest, _, _, _ => ⟨.string s, gives_value_string s room rest, fun _ => rfl⟩
  | .number n, room, rest, valid, _, delimited => by
    obtain ⟨n', numeral, whole⟩ := numeral_of_valid (valid n (by simp [numbers])) delimited
    exact ⟨.number n', gives_value_number numeral room, fun all => by rw [whole (all n (by simp [numbers]))]⟩
  | .array [], 0, _, _, shallow, _ => absurd shallow (by simp [depth])
  | .array [], room + 1, rest, _, _, _ =>
    ⟨.array [], gives_array fun _ _ => gives_foldItems_end rest, fun _ => rfl⟩
  | .array (item :: items), 0, _, _, shallow, _ => absurd shallow (by simp [depth])
  | .array (item :: items), room + 1, rest, valid, shallow, delimited => by
    simp only [depth, depthItems, Nat.add_le_add_iff_right, Nat.max_le] at shallow
    have validItem : item.Valid := fun n mem => valid n (by simp [numbers, numbersOfItems, mem])
    have follows := delimited_items items rest
    obtain ⟨j', reads, same⟩ := gives_value item validItem shallow.1 follows
    obtain ⟨items', folds, sameItems⟩ := gives_items items room rest [j']
      (fun n mem => valid n (by simp [numbers, numbersOfItems, mem])) shallow.2
    obtain ⟨b, bs, eq, starts⟩ := value_starts validItem follows
    refine ⟨.array (j' :: items'), ?_, fun all => ?_⟩
    · rw [array_bytes]
      refine gives_array fun limit enough => ?_
      have room_left : items.length ≤ limit := by
        have := length_itemChars_bytes items rest
        rw [List.length_append] at enough
        omega
      have later := folds limit room_left
      rw [← List.reverse_cons] at later
      rw [eq] at reads ⊢
      exact Gives.foldItems (gives_anotherItem_first starts bs) (reads.collect []) later
    · rw [same fun n mem => all n (by simp [numbers, numbersOfItems, mem]),
        sameItems fun n mem => all n (by simp [numbers, numbersOfItems, mem])]
  | .object [], 0, _, _, shallow, _ => absurd shallow (by simp [depth])
  | .object [], room + 1, rest, _, _, _ =>
    ⟨.object [], gives_object fun _ _ => gives_foldMembers_end rest, fun _ => rfl⟩
  | .object ((name, j) :: members), 0, _, _, shallow, _ => absurd shallow (by simp [depth])
  | .object ((name, j) :: members), room + 1, rest, valid, shallow, delimited => by
    simp only [depth, depthMembers, Nat.add_le_add_iff_right, Nat.max_le] at shallow
    obtain ⟨j', reads, same⟩ := gives_value j (fun n mem => valid n (by simp [numbers, numbersOfMembers, mem]))
      shallow.1 (delimited_members members rest)
    obtain ⟨members', folds, sameMembers⟩ := gives_members members room rest [(name, j')]
      (fun n mem => valid n (by simp [numbers, numbersOfMembers, mem])) shallow.2
    refine ⟨.object ((name, j') :: members'), ?_, fun all => ?_⟩
    · rw [object_bytes]
      refine gives_object fun limit enough => ?_
      have room_left : members.length ≤ limit := by
        have := length_memberChars_bytes members rest
        rw [List.length_append, List.length_cons, List.length_append] at enough
        omega
      have later := folds limit room_left
      rw [← List.reverse_cons] at later
      exact Gives.foldMembers (gives_anotherMember_name true name _) (reads.collectMember [] name) later
    · rw [same fun n mem => all n (by simp [numbers, numbersOfMembers, mem]),
        sameMembers fun n mem => all n (by simp [numbers, numbersOfMembers, mem])]

theorem gives_items : ∀ (items : List Json) (room : Nat) (rest : Bytes) (done : List Json),
    (∀ n ∈ numbersOfItems items, n.Valid) → depthItems items ≤ room →
    ∃ items', (∀ limit, items.length ≤ limit →
        Gives (foldItems (collect room) limit false done) ((itemChars items).flatMap String.utf8EncodeChar ++ rest)
          (items'.reverse ++ done) (93 :: rest)) ∧
      ((∀ n ∈ numbersOfItems items, n.Whole) → items' = items)
  | [], _, rest, done, _, _ => ⟨[], fun _ _ => gives_foldItems_end rest, fun _ => rfl⟩
  | item :: items, room, rest, done, valid, shallow => by
    simp only [depthItems, Nat.max_le] at shallow
    have validItem : item.Valid := fun n mem => valid n (by simp [numbersOfItems, mem])
    have follows := delimited_items items rest
    obtain ⟨j', reads, same⟩ := gives_value item validItem shallow.1 follows
    obtain ⟨items', folds, sameItems⟩ := gives_items items room rest (j' :: done)
      (fun n mem => valid n (by simp [numbersOfItems, mem])) shallow.2
    obtain ⟨b, bs, eq, starts⟩ := value_starts validItem follows
    refine ⟨j' :: items', fun limit enough => ?_, fun all => ?_⟩
    · cases limit with
      | zero => simp at enough
      | succ limit =>
        have later := folds limit (by simpa using enough)
        rw [List.append_cons, ← List.reverse_cons] at later
        rw [itemChars_bytes]
        rw [eq] at reads ⊢
        exact Gives.foldItems (gives_anotherItem_comma starts bs) (reads.collect done) later
    · rw [same fun n mem => all n (by simp [numbersOfItems, mem]),
        sameItems fun n mem => all n (by simp [numbersOfItems, mem])]

theorem gives_members : ∀ (members : List (String × Json)) (room : Nat) (rest : Bytes) (done : List (String × Json)),
    (∀ n ∈ numbersOfMembers members, n.Valid) → depthMembers members ≤ room →
    ∃ members', (∀ limit, members.length ≤ limit →
        Gives (foldMembers (collectMember room) limit false done)
          ((memberChars members).flatMap String.utf8EncodeChar ++ rest) (members'.reverse ++ done) (125 :: rest)) ∧
      ((∀ n ∈ numbersOfMembers members, n.Whole) → members' = members)
  | [], _, rest, done, _, _ => ⟨[], fun _ _ => gives_foldMembers_end rest, fun _ => rfl⟩
  | (name, j) :: members, room, rest, done, valid, shallow => by
    simp only [depthMembers, Nat.max_le] at shallow
    obtain ⟨j', reads, same⟩ := gives_value j (fun n mem => valid n (by simp [numbersOfMembers, mem]))
      shallow.1 (delimited_members members rest)
    obtain ⟨members', folds, sameMembers⟩ := gives_members members room rest ((name, j') :: done)
      (fun n mem => valid n (by simp [numbersOfMembers, mem])) shallow.2
    refine ⟨(name, j') :: members', fun limit enough => ?_, fun all => ?_⟩
    · cases limit with
      | zero => simp at enough
      | succ limit =>
        have later := folds limit (by simpa using enough)
        rw [List.append_cons, ← List.reverse_cons] at later
        rw [memberChars_bytes]
        exact Gives.foldMembers (gives_anotherMember_name false name _) (reads.collectMember done name) later
    · rw [same fun n mem => all n (by simp [numbersOfMembers, mem]),
        sameMembers fun n mem => all n (by simp [numbersOfMembers, mem])]

end

mutual

theorem fails_value : ∀ (j : Json) {room : Nat} {rest : Bytes}, j.Valid → room < j.depth → Delimited rest →
    Fails (value room) (j.bytes ++ rest)
  | .null, _, _, _, deep, _ => absurd deep (Nat.not_lt_zero _)
  | .bool _, _, _, _, deep, _ => absurd deep (Nat.not_lt_zero _)
  | .number _, _, _, _, deep, _ => absurd deep (Nat.not_lt_zero _)
  | .string _, _, _, _, deep, _ => absurd deep (Nat.not_lt_zero _)
  | .array [], 0, _, _, _, _ => fails_list_without_room _
  | .array [], room + 1, _, _, deep, _ => absurd deep (by simp [depth, depthItems])
  | .array (_ :: _), 0, _, _, _, _ => fails_list_without_room _
  | .array (item :: items), room + 1, rest, valid, deep, delimited => by
    simp only [depth, depthItems, Nat.add_lt_add_iff_right] at deep
    have validItem : item.Valid := fun n mem => valid n (by simp [numbers, numbersOfItems, mem])
    have follows := delimited_items items rest
    obtain ⟨b, bs, eq, starts⟩ := value_starts validItem follows
    rw [array_bytes]
    refine fails_array fun limit enough => ?_
    by_cases here : room < item.depth
    · have fails := fails_value item validItem here follows
      rw [eq] at fails ⊢
      exact Fails.foldItems_here (gives_anotherItem_first starts bs) (fails.bind _)
    · have below : room < depthItems items := by omega
      have room_left : items.length ≤ limit := by
        have := length_itemChars_bytes items rest
        rw [List.length_append] at enough
        omega
      obtain ⟨j', reads, _⟩ := gives_value item validItem (Nat.le_of_not_lt here) follows
      have later := fails_items items room rest [j']
        (fun n mem => valid n (by simp [numbers, numbersOfItems, mem])) below limit room_left
      rw [eq] at reads ⊢
      exact Fails.foldItems_later (gives_anotherItem_first starts bs) (reads.collect []) later
  | .object [], 0, _, _, _, _ => fails_object_without_room _
  | .object [], room + 1, _, _, deep, _ => absurd deep (by simp [depth, depthMembers])
  | .object (_ :: _), 0, _, _, _, _ => fails_object_without_room _
  | .object ((name, j) :: members), room + 1, rest, valid, deep, delimited => by
    simp only [depth, depthMembers, Nat.add_lt_add_iff_right] at deep
    have validValue : j.Valid := fun n mem => valid n (by simp [numbers, numbersOfMembers, mem])
    have follows := delimited_members members rest
    rw [object_bytes]
    refine fails_object fun limit enough => ?_
    by_cases here : room < j.depth
    · have fails := fails_value j validValue here follows
      exact Fails.foldMembers_here (gives_anotherMember_name true name _)
        ((gives_colon _).bind_fails (fails.bind _))
    · have below : room < depthMembers members := by omega
      have room_left : members.length ≤ limit := by
        have := length_memberChars_bytes members rest
        rw [List.length_append, List.length_cons, List.length_append] at enough
        omega
      obtain ⟨j', reads, _⟩ := gives_value j validValue (Nat.le_of_not_lt here) follows
      have later := fails_members members room rest [(name, j')]
        (fun n mem => valid n (by simp [numbers, numbersOfMembers, mem])) below limit room_left
      exact Fails.foldMembers_later (gives_anotherMember_name true name _) (reads.collectMember [] name) later

theorem fails_items : ∀ (items : List Json) (room : Nat) (rest : Bytes) (done : List Json),
    (∀ n ∈ numbersOfItems items, n.Valid) → room < depthItems items → ∀ limit, items.length ≤ limit →
    Fails (foldItems (collect room) limit false done) ((itemChars items).flatMap String.utf8EncodeChar ++ rest)
  | [], _, _, _, _, deep, _, _ => absurd deep (Nat.not_lt_zero _)
  | _ :: _, _, _, _, _, _, 0, enough => absurd enough (by simp)
  | item :: items, room, rest, done, valid, deep, limit + 1, enough => by
    simp only [depthItems] at deep
    have validItem : item.Valid := fun n mem => valid n (by simp [numbersOfItems, mem])
    have follows := delimited_items items rest
    obtain ⟨b, bs, eq, starts⟩ := value_starts validItem follows
    rw [itemChars_bytes]
    by_cases here : room < item.depth
    · have fails := fails_value item validItem here follows
      rw [eq] at fails ⊢
      exact Fails.foldItems_here (gives_anotherItem_comma starts bs) (fails.bind _)
    · have below : room < depthItems items := by omega
      obtain ⟨j', reads, _⟩ := gives_value item validItem (Nat.le_of_not_lt here) follows
      have later := fails_items items room rest (j' :: done)
        (fun n mem => valid n (by simp [numbersOfItems, mem])) below limit (by simpa using enough)
      rw [eq] at reads ⊢
      exact Fails.foldItems_later (gives_anotherItem_comma starts bs) (reads.collect done) later

theorem fails_members : ∀ (members : List (String × Json)) (room : Nat) (rest : Bytes) (done : List (String × Json)),
    (∀ n ∈ numbersOfMembers members, n.Valid) → room < depthMembers members → ∀ limit, members.length ≤ limit →
    Fails (foldMembers (collectMember room) limit false done)
      ((memberChars members).flatMap String.utf8EncodeChar ++ rest)
  | [], _, _, _, _, deep, _, _ => absurd deep (Nat.not_lt_zero _)
  | _ :: _, _, _, _, _, _, 0, enough => absurd enough (by simp)
  | (name, j) :: members, room, rest, done, valid, deep, limit + 1, enough => by
    simp only [depthMembers] at deep
    have validValue : j.Valid := fun n mem => valid n (by simp [numbersOfMembers, mem])
    have follows := delimited_members members rest
    rw [memberChars_bytes]
    by_cases here : room < j.depth
    · have fails := fails_value j validValue here follows
      exact Fails.foldMembers_here (gives_anotherMember_name false name _)
        ((gives_colon _).bind_fails (fails.bind _))
    · have below : room < depthMembers members := by omega
      obtain ⟨j', reads, _⟩ := gives_value j validValue (Nat.le_of_not_lt here) follows
      have later := fails_members members room rest ((name, j') :: done)
        (fun n mem => valid n (by simp [numbersOfMembers, mem])) below limit (by simpa using enough)
      exact Fails.foldMembers_later (gives_anotherMember_name false name _) (reads.collectMember done name) later

end

end Reader

theorem Reader.Gives.document {α : Type} {r : Reader α} {bytes : Bytes} {a : α} (gives : Gives r bytes a []) :
    r.document.run bytes = .ok a := by
  have ends : Gives documentEnd [] () [] := gives_peekToken_end.bind (gives_pure () [])
  exact (gives.bind (ends.bind (gives_pure a []))).run_ok

theorem delimited_nil : Reader.Delimited [] := fun _ mem => absurd mem (by simp)

/-- The text of a value is accepted if and only if the value nests at most 127 deep. -/
theorem ofBytes_bytes {j : Json} (valid : j.Valid) :
    (∃ j', ofBytes j.bytes = .ok j') ↔ j.depth ≤ Reader.deepest := by
  constructor
  · rintro ⟨j', reads⟩
    refine Nat.le_of_not_lt fun deep => ?_
    have fails := Reader.fails_value j valid deep delimited_nil
    rw [List.append_nil] at fails
    obtain ⟨fault, eq⟩ := (fails.bind fun a => do Reader.documentEnd; pure a).run_error
    rw [ofBytes, read, Reader.document, eq] at reads
    simp [Except.map] at reads
  · intro shallow
    obtain ⟨j', reads, _⟩ := Reader.gives_value j valid shallow delimited_nil
    rw [List.append_nil] at reads
    exact ⟨j'.canonical, by rw [ofBytes, read, reads.document]; rfl⟩

theorem ofBytes_bytes_eq {j : Json} (valid : j.Valid) (whole : j.Whole) (shallow : j.depth ≤ Reader.deepest)
    (ordered : j.canonical = j) : ofBytes j.bytes = .ok j := by
  obtain ⟨j', reads, same⟩ := Reader.gives_value j valid shallow delimited_nil
  rw [List.append_nil, same whole] at reads
  rw [ofBytes, read, reads.document]
  simp only [Except.map, ordered]

end Json
end Journal
