import Mathlib
import Journal.Proofs.Text.Utf8
import Journal.Ulid
/-!
The text of an id. Its digits are compared from the most significant one on, and the symbols of the alphabet ascend,
so the bytes of the texts sort as the ids do. Reading takes either letter case. Twenty-six digits hold 130 bits, of
which the reader keeps the lowest 128.
-/
namespace Journal.Ulid

def Low (ds : List Nat) : Prop := ∀ d ∈ ds, d < 32

theorem ofDigits_eq (ds : List Nat) : ofDigits ds = Nat.ofDigits 32 ds.reverse := by
  induction ds using List.reverseRecOn with
  | nil => rfl
  | append_singleton ds d ih =>
    have last : ofDigits (ds ++ [d]) = 32 * ofDigits ds + d := by
      simp [ofDigits]
    rw [last, ih, List.reverse_append, List.reverse_singleton, List.singleton_append, Nat.ofDigits_cons]
    exact Nat.add_comm _ _

theorem ofDigits_cons (d : Nat) (ds : List Nat) : ofDigits (d :: ds) = 32 ^ ds.length * d + ofDigits ds := by
  rw [ofDigits_eq, ofDigits_eq, List.reverse_cons, Nat.ofDigits_append, List.length_reverse, Nat.ofDigits_singleton]
  omega

theorem ofDigits_lt {ds : List Nat} (low : Low ds) : ofDigits ds < 32 ^ ds.length := by
  have below := Nat.ofDigits_lt_base_pow_length (b := 32) (l := ds.reverse) (by decide)
    (fun d inside => low d (List.mem_reverse.mp inside))
  rwa [List.length_reverse, ← ofDigits_eq] at below

theorem length_digits (count n : Nat) : (digits count n).length = count := by
  induction count generalizing n with
  | zero => rfl
  | succ count ih => rw [digits, List.length_append, ih, List.length_singleton]

theorem low_digits (count n : Nat) : Low (digits count n) := by
  induction count generalizing n with
  | zero => simp [digits, Low]
  | succ count ih =>
    intro d inside
    rcases List.mem_append.mp inside with upper | last
    · exact ih (n / 32) d upper
    · rw [List.mem_singleton.mp last]
      exact Nat.mod_lt n (by decide)

theorem ofDigits_digits (count n : Nat) : ofDigits (digits count n) = n % 32 ^ count := by
  induction count generalizing n with
  | zero => simp [digits, ofDigits, Nat.mod_one]
  | succ count ih =>
    have last : ofDigits (digits (count + 1) n) = 32 * ofDigits (digits count (n / 32)) + n % 32 := by
      simp [digits, ofDigits]
    rw [last, ih, Nat.pow_succ', Nat.mod_mul]
    omega

theorem digits_ofDigits {ds : List Nat} (low : Low ds) : digits ds.length (ofDigits ds) = ds := by
  have same : ofDigits (digits ds.length (ofDigits ds)) = ofDigits ds := by
    rw [ofDigits_digits, Nat.mod_eq_of_lt (ofDigits_lt low)]
  rw [ofDigits_eq (digits _ _), ofDigits_eq ds] at same
  rw [ofDigits_eq ds]
  refine List.reverse_inj.mp (Nat.ofDigits_inj_of_len_eq (b := 32) (by decide) ?_ ?_ ?_ same)
  · rw [List.length_reverse, List.length_reverse, length_digits]
  · intro d inside
    exact low_digits _ _ d (List.mem_reverse.mp inside)
  · intro d inside
    exact low d (List.mem_reverse.mp inside)

theorem ofDigits_lt_iff {as bs : List Nat} (same : as.length = bs.length) (lowA : Low as) (lowB : Low bs) :
    ofDigits as < ofDigits bs ↔ as < bs := by
  induction as generalizing bs with
  | nil =>
    cases bs with
    | nil => simp
    | cons b bs => cases same
  | cons a as ih =>
    cases bs with
    | nil => cases same
    | cons b bs =>
      have lengths : as.length = bs.length := Nat.succ.inj same
      obtain ⟨-, restA⟩ := List.forall_mem_cons.mp lowA
      obtain ⟨-, restB⟩ := List.forall_mem_cons.mp lowB
      have belowA := ofDigits_lt restA
      have belowB := ofDigits_lt restB
      rw [ofDigits_cons, ofDigits_cons, List.cons_lt_cons_iff, ← ih lengths restA restB]
      rw [lengths] at belowA ⊢
      generalize 32 ^ bs.length = unit at *
      rcases Nat.lt_trichotomy a b with less | equal | more
      · have gap := Nat.mul_le_mul_left unit (Nat.succ_le_of_lt less)
        rw [Nat.mul_succ] at gap
        constructor
        · intro
          exact .inl less
        · intro
          omega
      · subst equal
        omega
      · have gap := Nat.mul_le_mul_left unit (Nat.succ_le_of_lt more)
        rw [Nat.mul_succ] at gap
        omega

theorem symbol_mem {d : Nat} (low : d < 32) : symbol d ∈ alphabet := by
  have all : ∀ d : Fin 32, symbol d ∈ alphabet := by decide
  exact all ⟨d, low⟩

theorem symbol_idxOf {c : Char} (known : c ∈ alphabet) : symbol (alphabet.idxOf c) = c ∧ alphabet.idxOf c < 32 := by
  have all : alphabet.all (fun c => symbol (alphabet.idxOf c) == c && decide (alphabet.idxOf c < 32)) = true := by decide
  simpa using List.all_eq_true.mp all c known

theorem toNat_symbol {d : Nat} (low : d < 32) : (symbol d).toNat < 128 := by
  have all : ∀ d : Fin 32, (symbol d).toNat < 128 := by decide
  exact all ⟨d, low⟩

theorem toUpper_symbol {d : Nat} (low : d < 32) :
    (symbol d).toUpper = symbol d ∧ (symbol d).toLower.toUpper = symbol d := by
  have all : ∀ d : Fin 32, (symbol d).toUpper = symbol d ∧ (symbol d).toLower.toUpper = symbol d := by decide
  exact all ⟨d, low⟩

theorem idxOf_symbol {d : Nat} (low : d < 32) : alphabet.idxOf (symbol d) = d := by
  have all : ∀ d : Fin 32, alphabet.idxOf (symbol d) = d := by decide
  exact all ⟨d, low⟩

def byte (d : Nat) : UInt8 := UInt8.ofNat (symbol d).toNat

theorem byte_lt_iff {a b : Nat} (lowA : a < 32) (lowB : b < 32) : byte a < byte b ↔ a < b := by
  have all : ∀ a b : Fin 32, byte a < byte b ↔ a < b := by decide +kernel
  exact all ⟨a, lowA⟩ ⟨b, lowB⟩

theorem byte_inj {a b : Nat} (lowA : a < 32) (lowB : b < 32) : byte a = byte b ↔ a = b := by
  have less := byte_lt_iff lowA lowB
  have more := byte_lt_iff lowB lowA
  constructor
  · intro same
    simp only [same, UInt8.lt_irrefl, false_iff] at less more
    omega
  · intro same
    rw [same]

theorem bytes_lt_iff {as bs : List Nat} (lowA : Low as) (lowB : Low bs) : as.map byte < bs.map byte ↔ as < bs := by
  induction as generalizing bs with
  | nil => cases bs <;> simp
  | cons a as ih =>
    cases bs with
    | nil => simp
    | cons b bs =>
      obtain ⟨firstA, restA⟩ := List.forall_mem_cons.mp lowA
      obtain ⟨firstB, restB⟩ := List.forall_mem_cons.mp lowB
      rw [List.map_cons, List.map_cons, List.cons_lt_cons_iff, List.cons_lt_cons_iff, byte_lt_iff firstA firstB,
        byte_inj firstA firstB, ih restA restB]

theorem toList_text (id : Ulid) : id.text.toList = (digits textLength id.toNat).map symbol := String.toList_ofList

theorem length_text (id : Ulid) : id.text.length = textLength := by
  rw [← String.length_toList, toList_text, List.length_map, length_digits]

theorem toUpper_text (id : Ulid) : id.text.toUpper = id.text ∧ id.text.toLower.toUpper = id.text := by
  have low := low_digits textLength id.toNat
  constructor
  · rw [← String.toList_inj, String.toUpper, String.toList_map, toList_text, List.map_map]
    exact List.map_congr_left fun d inside => (toUpper_symbol (low d inside)).1
  · rw [← String.toList_inj, String.toUpper, String.toLower, String.toList_map, String.toList_map, toList_text,
      List.map_map, List.map_map]
    exact List.map_congr_left fun d inside => (toUpper_symbol (low d inside)).2

theorem bytes_text (id : Ulid) : Utf8.encode id.text = (digits textLength id.toNat).map byte := by
  have low := low_digits textLength id.toNat
  rw [Utf8.encode, toList_text]
  generalize digits textLength id.toNat = ds at low ⊢
  induction ds with
  | nil => rfl
  | cons d ds ih =>
    obtain ⟨first, rest⟩ := List.forall_mem_cons.mp low
    have one : String.utf8EncodeChar (symbol d) = [byte d] := by
      rw [byte, Utf8.ascii_byte (toNat_symbol first)]
    rw [List.map_cons, List.flatMap_cons, one, ih rest, List.map_cons, List.singleton_append]

theorem ofDigits_text (id : Ulid) : ofDigits (digits textLength id.toNat) = id.toNat := by
  have wide : 2 ^ 128 ≤ 32 ^ textLength := by decide +kernel
  rw [ofDigits_digits, Nat.mod_eq_of_lt (Nat.lt_of_lt_of_le id.isLt wide)]

theorem lt_iff_bytes (a b : Ulid) : a < b ↔ Utf8.encode a.text < Utf8.encode b.text := by
  have lengths : (digits textLength a.toNat).length = (digits textLength b.toNat).length := by
    rw [length_digits, length_digits]
  rw [bytes_text, bytes_text, bytes_lt_iff (low_digits _ _) (low_digits _ _),
    ← ofDigits_lt_iff lengths (low_digits _ _) (low_digits _ _), ofDigits_text, ofDigits_text, lt_def]

theorem le_iff_bytes (a b : Ulid) : a ≤ b ↔ Utf8.encode a.text ≤ Utf8.encode b.text := by
  rw [← List.not_lt, ← lt_iff_bytes, lt_def, le_def, Nat.not_lt]

def Spelled (s : String) : Prop := s.length = textLength ∧ ∀ c ∈ s.toList, c.toUpper ∈ alphabet

instance (s : String) : Decidable (Spelled s) :=
  have (c : Char) : Decidable (c.toUpper ∈ alphabet) := inferInstance
  @instDecidableAnd _ _ _ (List.decidableBAll _ s.toList)

def digitsOf (s : String) : List Nat := s.toList.map fun c => alphabet.idxOf c.toUpper

/-- The number that a text stands for in base 32, of up to 130 bits. -/
def spelledValue (s : String) : Nat := Nat.ofDigits 32 (digitsOf s).reverse

theorem digit?_of_mem {c : Char} (known : c.toUpper ∈ alphabet) : digit? c = some (alphabet.idxOf c.toUpper) := by
  unfold digit?
  cases found : alphabet.idxOf? c.toUpper with
  | none => exact absurd known (List.idxOf?_eq_none_iff.mp found)
  | some d => rw [List.idxOf_eq_getD_idxOf?, found, Option.getD_some]

theorem mapM_digit? {cs : List Char} (known : ∀ c ∈ cs, c.toUpper ∈ alphabet) :
    cs.mapM digit? = some (cs.map fun c => alphabet.idxOf c.toUpper) := by
  induction cs with
  | nil => rfl
  | cons c cs ih =>
    obtain ⟨first, rest⟩ := List.forall_mem_cons.mp known
    rw [List.mapM_cons, digit?_of_mem first, ih rest]
    rfl

theorem known_of_mapM {cs : List Char} {ds : List Nat} (read : cs.mapM digit? = some ds) :
    ∀ c ∈ cs, c.toUpper ∈ alphabet := by
  induction cs generalizing ds with
  | nil => simp
  | cons c cs ih =>
    rw [List.mapM_cons] at read
    obtain ⟨d, first, later⟩ := Option.bind_eq_some_iff.mp read
    obtain ⟨ds, rest, -⟩ := Option.bind_eq_some_iff.mp later
    refine List.forall_mem_cons.mpr ⟨?_, ih rest⟩
    by_contra unknown
    rw [digit?, List.idxOf?_eq_none_iff.mpr unknown] at first
    cases first

theorem utf8Size_of_known {c : Char} (known : c.toUpper ∈ alphabet) : c.utf8Size = 1 := by
  obtain ⟨same, low⟩ := symbol_idxOf known
  have ascii := toNat_symbol low
  rw [same] at ascii
  rw [Char.utf8Size_eq_one_iff]
  unfold Char.toUpper at ascii
  split at ascii
  · rename_i letter
    exact Nat.le_trans letter.2 (by decide)
  · exact Nat.le_of_lt_succ ascii

theorem utf8ByteSize_of_known {s : String} (known : ∀ c ∈ s.toList, c.toUpper ∈ alphabet) :
    s.utf8ByteSize = s.length := by
  have sizes : ∀ cs : List Char, (∀ c ∈ cs, c.toUpper ∈ alphabet) → String.utf8Len cs = cs.length := by
    intro cs known
    induction cs with
    | nil => rfl
    | cons c cs ih =>
      obtain ⟨first, rest⟩ := List.forall_mem_cons.mp known
      rw [String.utf8Len_cons, ih rest, utf8Size_of_known first, List.length_cons]
  have whole := String.utf8ByteSize_ofList s.toList
  rwa [String.ofList_toList, sizes s.toList known, String.length_toList] at whole

theorem length_digitsOf (s : String) : (digitsOf s).length = s.length := by
  rw [digitsOf, List.length_map, String.length_toList]

theorem low_digitsOf {s : String} (spelled : Spelled s) : Low (digitsOf s) := by
  intro d inside
  obtain ⟨c, member, rfl⟩ := List.mem_map.mp inside
  exact (symbol_idxOf (spelled.2 c member)).2

theorem symbols_digitsOf {s : String} (spelled : Spelled s) : (digitsOf s).map symbol = s.toUpper.toList := by
  rw [digitsOf, List.map_map, String.toUpper, String.toList_map]
  exact List.map_congr_left fun c member => (symbol_idxOf (spelled.2 c member)).1

theorem ofText_of_spelled {s : String} (spelled : Spelled s) : ofText s = .ok (ofNat (spelledValue s)) := by
  have size : s.utf8ByteSize = textLength := (utf8ByteSize_of_known spelled.2).trans spelled.1
  rw [ofText, if_neg (not_not.mpr size), mapM_digit? spelled.2, spelledValue, ← ofDigits_eq]
  rfl

theorem spelled_of_ofText {s : String} {id : Ulid} (read : ofText s = .ok id) : Spelled s := by
  unfold ofText at read
  split at read
  · cases read
  · rename_i size
    split at read
    · cases read
    · rename_i ds found
      have known := known_of_mapM found
      exact ⟨(utf8ByteSize_of_known known).symm.trans (not_not.mp size), known⟩

theorem ofText_ok_iff {s : String} {id : Ulid} :
    ofText s = .ok id ↔ Spelled s ∧ id.toNat = spelledValue s % 2 ^ 128 := by
  constructor
  · intro read
    have spelled := spelled_of_ofText read
    rw [ofText_of_spelled spelled] at read
    cases read
    exact ⟨spelled, toNat_ofNat _⟩
  · rintro ⟨spelled, value⟩
    rw [ofText_of_spelled spelled]
    exact congrArg Except.ok (ext (value.trans (toNat_ofNat _).symm).symm)

theorem idxOf_symbols {ds : List Nat} (low : Low ds) : (ds.map symbol).map alphabet.idxOf = ds := by
  induction ds with
  | nil => rfl
  | cons d ds ih =>
    obtain ⟨first, rest⟩ := List.forall_mem_cons.mp low
    rw [List.map_cons, List.map_cons, idxOf_symbol first, ih rest]

theorem spelled_of_toUpper {s : String} {id : Ulid} (same : s.toUpper = id.text) :
    Spelled s ∧ spelledValue s = id.toNat := by
  have capitals : s.toList.map Char.toUpper = (digits textLength id.toNat).map symbol := by
    rw [← String.toList_map, ← toList_text, ← same, String.toUpper]
  have low := low_digits textLength id.toNat
  have digits : digitsOf s = digits textLength id.toNat := by
    rw [← idxOf_symbols low, ← capitals, List.map_map]
    rfl
  refine ⟨⟨?_, fun c member => ?_⟩, ?_⟩
  · have lengths := congrArg List.length capitals
    rwa [List.length_map, List.length_map, length_digits, String.length_toList] at lengths
  · have shown : c.toUpper ∈ s.toList.map Char.toUpper := List.mem_map_of_mem member
    rw [capitals] at shown
    obtain ⟨d, inside, same⟩ := List.mem_map.mp shown
    rw [← same]
    exact symbol_mem (low d inside)
  · rw [spelledValue, digits, ← ofDigits_eq, ofDigits_text]

/-- Letter case does not matter: the capitals decide which id is read. -/
theorem ofText_of_toUpper {s : String} {id : Ulid} (same : s.toUpper = id.text) : ofText s = .ok id := by
  obtain ⟨spelled, value⟩ := spelled_of_toUpper same
  rw [ofText_ok_iff, value, Nat.mod_eq_of_lt id.isLt]
  exact ⟨spelled, rfl⟩

theorem text_eq_toUpper_iff {s : String} {id : Ulid} (read : ofText s = .ok id) :
    id.text = s.toUpper ↔ spelledValue s < 2 ^ 128 := by
  obtain ⟨spelled, value⟩ := ofText_ok_iff.mp read
  have number : ofDigits (digitsOf s) = spelledValue s := ofDigits_eq _
  have length : (digitsOf s).length = textLength := (length_digitsOf s).trans spelled.1
  constructor
  · intro same
    rw [(spelled_of_toUpper same.symm).2]
    exact id.isLt
  · intro fits
    have digits : digits textLength id.toNat = digitsOf s := by
      rw [value, Nat.mod_eq_of_lt fits, ← number, ← length, digits_ofDigits (low_digitsOf spelled)]
    rw [← String.toList_inj, toList_text, digits, symbols_digitsOf spelled]

end Journal.Ulid
