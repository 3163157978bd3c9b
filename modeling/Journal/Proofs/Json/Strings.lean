import Journal.Json.Scalar
import Journal.Json.Writer
import Journal.Proofs.Json.Gives
import Journal.Proofs.Text.Utf8
/-!
A string is read back from its text. Each character is written as itself, as a short escape or as four
hexadecimal digits, and each of the three gives back the bytes of the character.
-/
namespace Journal.Json.Reader

/-- The bytes are the rest of a string that began with `done`, for every limit that lets them through. -/
def Spells (done bytes out after : Bytes) : Prop :=
  ∀ limit, bytes.length ≤ limit → Gives (stringBytes limit done) bytes out after

theorem spells_end (done rest : Bytes) : Spells done (34 :: rest) done.reverse rest := by
  intro limit enough
  cases limit with
  | zero => simp at enough
  | succ limit => exact (gives_peek 34 rest).bind ((gives_bump 34 rest).bind (gives_pure _ rest))

theorem Spells.plain {done rest out after : Bytes} {b : UInt8} (quote : b ≠ 34) (backslash : b ≠ 92)
    (printable : ¬ b < 32) (later : Spells (b :: done) rest out after) : Spells done (b :: rest) out after := by
  intro limit enough
  cases limit with
  | zero => simp at enough
  | succ limit =>
    have goesOn := later limit (by simpa using enough)
    refine (gives_peek b rest).bind ?_
    split
    · contradiction
    · rename_i same
      exact absurd (Option.some.inj same) quote
    · rename_i same
      exact absurd (Option.some.inj same) backslash
    · rename_i other _ _ same
      cases Option.some.inj same
      refine (gives_bump b rest).bind ?_
      rw [if_neg printable]
      exact goesOn

theorem Spells.plains {bs rest out after : Bytes} :
    ∀ {done : Bytes}, (∀ b ∈ bs, b ≠ 34 ∧ b ≠ 92 ∧ ¬ b < 32) →
      Spells (bs.reverse ++ done) rest out after → Spells done (bs ++ rest) out after := by
  induction bs with
  | nil => exact fun _ later => later
  | cons b bs ih =>
    intro done ordinary later
    obtain ⟨quote, backslash, printable⟩ := ordinary b (by simp)
    refine Spells.plain quote backslash printable (ih (fun b mem => ordinary b (by simp [mem])) ?_)
    simpa using later

theorem Spells.escaped {done rest middle out after bs : Bytes}
    (reads : Gives escape rest bs middle) (shorter : middle.length ≤ rest.length)
    (later : Spells (bs.reverse ++ done) middle out after) : Spells done (92 :: rest) out after := by
  intro limit enough
  cases limit with
  | zero => simp at enough
  | succ limit =>
    have room : middle.length ≤ limit := by
      simp only [List.length_cons] at enough
      omega
    exact (gives_peek 92 rest).bind ((gives_bump 92 rest).bind (reads.bind (later limit room)))

theorem gives_escape {b v : UInt8} (short : escapeValue? b = some v) (unicode : b ≠ 117) (rest : Bytes) :
    Gives escape (b :: rest) [v] rest := by
  refine (gives_peek b rest).bind ((gives_bump b rest).bind ?_)
  simp only [unicode, if_false, short]
  exact gives_pure [v] rest

theorem gives_hexFour {n : Nat} (small : n < 32) (rest : Bytes) :
    Gives hexFour (48 :: 48 :: UInt8.ofNat (hexDigit (n / 16)).toNat :: UInt8.ofNat (hexDigit (n % 16)).toNat :: rest)
      n rest := by
  have digits : [48, 48, UInt8.ofNat (hexDigit (n / 16)).toNat, UInt8.ofNat (hexDigit (n % 16)).toNat].mapM hexValue?
      = some [0, 0, n / 16, n % 16] := by
    have all : ∀ n : Fin 32,
        [48, 48, UInt8.ofNat (hexDigit (n / 16)).toNat, UInt8.ofNat (hexDigit (n % 16)).toNat].mapM hexValue?
          = some [0, 0, n.val / 16, n.val % 16] := by decide +kernel
    exact all ⟨n, small⟩
  refine (gives_remaining _).bind ((gives_pass [48, 48, _, _] rest).bind ?_)
  simp only [digits]
  have value : [0, 0, n / 16, n % 16].foldl (fun n d => n * 16 + d) 0 = n := by
    simp only [List.foldl_cons, List.foldl_nil]
    omega
  rw [value]
  exact gives_pure n rest

theorem gives_escape_number {n : Nat} (small : n < 32) (rest : Bytes) :
    Gives escape
      (117 :: 48 :: 48 :: UInt8.ofNat (hexDigit (n / 16)).toNat :: UInt8.ofNat (hexDigit (n % 16)).toNat :: rest)
      (String.utf8EncodeChar (Char.ofNat n)) rest := by
  have unit : Gives codeUnit
      (48 :: 48 :: UInt8.ofNat (hexDigit (n / 16)).toNat :: UInt8.ofNat (hexDigit (n % 16)).toNat :: rest)
      (Char.ofNat n) rest := by
    refine (gives_hexFour small rest).bind ?_
    rw [if_neg (by omega), if_neg (by omega)]
    exact gives_pure _ rest
  refine (gives_peek 117 _).bind ((gives_bump 117 _).bind ?_)
  simp only [if_true]
  exact (unit.map String.utf8EncodeChar)

theorem hexDigit_byte (n : Nat) : String.utf8EncodeChar (hexDigit n) = [UInt8.ofNat (hexDigit n).toNat] := by
  apply Utf8.ascii_byte
  have all : ∀ n : Fin 16, (hexDigit n).toNat < 128 := by decide
  by_cases small : n < 16
  · exact all ⟨n, small⟩
  · have none : hexDigit n = '0' := by
      have outside : "0123456789abcdef".toList.length ≤ n := Nat.le_of_not_lt small
      simp only [hexDigit, List.getD_eq_getElem?_getD, List.getElem?_eq_none outside, Option.getD_none]
    rw [none]
    decide

theorem escapeValue?_of_short {c e : Char} (short : shortEscape? c = some e) :
    String.utf8EncodeChar e = [UInt8.ofNat e.toNat] ∧
      escapeValue? (UInt8.ofNat e.toNat) = some (UInt8.ofNat c.toNat) ∧ UInt8.ofNat e.toNat ≠ 117 := by
  unfold shortEscape? at short
  split at short
  · rename_i same
    cases Option.some.inj short
    exact same ▸ ⟨by decide, by decide, by decide⟩
  · repeat' split at short
    all_goals first
      | contradiction
      | (rename_i same; cases Option.some.inj short; exact same ▸ ⟨by decide, by decide, by decide⟩)

theorem Spells.control {done rest out after : Bytes} {c : Char} (control : c.toNat < 32)
    (later : Spells (UInt8.ofNat c.toNat :: done) rest out after) :
    Spells done ((match shortEscape? c with
      | some e => ['\\', e]
      | none => ['\\', 'u', '0', '0', hexDigit (c.toNat / 16), hexDigit (c.toNat % 16)]).flatMap
        String.utf8EncodeChar ++ rest) out after := by
  split
  · rename_i e short
    obtain ⟨byte, value, unicode⟩ := escapeValue?_of_short short
    simp only [List.flatMap_cons, List.flatMap_nil, byte]
    exact Spells.escaped (gives_escape value unicode rest) (by simp) later
  · have reads := gives_escape_number control rest
    rw [Char.ofNat_toNat, Utf8.ascii_byte (by omega)] at reads
    simp only [List.flatMap_cons, List.flatMap_nil, hexDigit_byte]
    exact Spells.escaped reads (by simp; omega) later

theorem Spells.char {done rest out after : Bytes} (c : Char)
    (later : Spells ((String.utf8EncodeChar c).reverse ++ done) rest out after) :
    Spells done ((escapedChar c).flatMap String.utf8EncodeChar ++ rest) out after := by
  unfold escapedChar
  split
  · rename_i special
    rcases special with rfl | rfl
    · exact Spells.escaped (gives_escape (v := 34) rfl (by decide) rest) (by simp) later
    · exact Spells.escaped (gives_escape (v := 92) rfl (by decide) rest) (by simp) later
  · rename_i ordinary
    split
    · rename_i control
      rw [Utf8.ascii_byte (by omega)] at later
      exact Spells.control control later
    · rename_i printable
      rw [List.flatMap_singleton]
      refine Spells.plains (fun b mem => ?_) later
      by_cases ascii : c.toNat < 128
      · rw [Utf8.ascii_byte ascii, List.mem_singleton] at mem
        have value : b.toNat = c.toNat := by
          rw [mem, UInt8.toNat_ofNat']
          omega
        refine ⟨?_, ?_, ?_⟩
        · rintro rfl
          exact ordinary (.inl (Char.toNat_inj.mp value.symm))
        · rintro rfl
          exact ordinary (.inr (Char.toNat_inj.mp value.symm))
        · rw [UInt8.lt_iff_toNat_lt, value]
          exact printable
      · have high := Utf8.high_bytes (Nat.le_of_not_lt ascii) mem
        refine ⟨?_, ?_, ?_⟩
        · rintro rfl; contradiction
        · rintro rfl; contradiction
        · rw [UInt8.lt_iff_toNat_lt]; simp; omega

theorem spells_string (cs : List Char) (rest : Bytes) :
    ∀ done : Bytes, Spells done ((cs.flatMap escapedChar).flatMap String.utf8EncodeChar ++ 34 :: rest)
      (done.reverse ++ cs.flatMap String.utf8EncodeChar) rest := by
  induction cs with
  | nil =>
    intro done
    simpa using spells_end done rest
  | cons c cs ih =>
    intro done
    have later := ih ((String.utf8EncodeChar c).reverse ++ done)
    rw [List.reverse_append, List.reverse_reverse, List.append_assoc] at later
    rw [List.flatMap_cons, List.flatMap_append, List.append_assoc, List.flatMap_cons]
    exact Spells.char c later

theorem gives_stringTail (s : String) (rest : Bytes) :
    Gives stringTail ((s.toList.flatMap escapedChar).flatMap String.utf8EncodeChar ++ 34 :: rest) s rest := by
  intro place
  have spelled := spells_string s.toList rest [] _ (Nat.le_succ _)
  obtain ⟨place', eq⟩ := spelled place
  refine ⟨place', ?_⟩
  have decoded : Utf8.decode (s.toList.flatMap String.utf8EncodeChar) = .ok s := Utf8.decode_encode s
  simp only [List.reverse_nil, List.nil_append] at eq
  simp only [stringTail, eq, decoded]

theorem stringChars_bytes (s : String) (rest : Bytes) :
    (stringChars s).flatMap String.utf8EncodeChar ++ rest
      = 34 :: ((s.toList.flatMap escapedChar).flatMap String.utf8EncodeChar ++ 34 :: rest) := by
  have quote : String.utf8EncodeChar '"' = [34] := by decide
  simp only [stringChars, List.flatMap_cons, List.flatMap_append, List.flatMap_nil, quote, List.append_assoc,
    List.cons_append, List.nil_append]

end Journal.Json.Reader
