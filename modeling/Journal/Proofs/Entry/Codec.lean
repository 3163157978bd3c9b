import Journal.Entry.Codec
import Journal.Proofs.Json.Records
import Journal.Proofs.Timestamp
/-!
Decoding after encoding. The metadata always come back; what may not are a version whose text no reader takes and
a body that nests too deep.
-/
namespace Journal

structure Timestamp.Valid (t : Timestamp) : Prop where
  nanoseconds : t.nanoseconds < 2 * Timestamp.billion
  offset : t.offset.natAbs < 86400

structure Operation.Valid (op : Operation) : Prop where
  version : op.version.Valid
  body : ∀ body ∈ op.body, body.Valid

/-- The version has a year of four digits and an offset that does not round to a whole day; the body does not nest
deeper than it is read. -/
structure Operation.Readable (op : Operation) : Prop where
  year : 0 ≤ op.version.date.year ∧ op.version.date.year ≤ 9999
  offset : op.version.offset.natAbs < 86370
  depth : ∀ body ∈ op.body, body.depth ≤ 127

/-- What the text forms keep: a year of four digits, an offset in whole minutes, a body that is read as deep as it
nests, whole numbers, and members in the order of an object. -/
structure Operation.Plain (op : Operation) : Prop extends op.Valid where
  year : 0 ≤ op.version.date.year ∧ op.version.date.year ≤ 9999
  minutes : op.version.offset % 60 = 0
  depth : ∀ body ∈ op.body, body.depth ≤ 127
  whole : ∀ body ∈ op.body, body.Whole
  ordered : ∀ body ∈ op.body, body.canonical = body

theorem Operation.Plain.readable {op : Operation} (plain : op.Plain) : op.Readable := by
  have day := plain.version.offset
  have minutes := plain.minutes
  exact ⟨plain.year, by omega, plain.depth⟩

namespace Entry

def metaTexts (op : Operation) : List (String × String) := [
  ("method", op.method.text),
  ("schema", op.schema),
  ("namespace", op.space),
  ("entity", op.entity),
  ("id", op.id),
  ("version", op.version.text)]

theorem metaShape_reads (op : Operation) :
    metaShape.ofBytes (metaOf op).bytes = .ok (Json.Slots.ofTexts (metaTexts op)) := by
  have distinct : ["method", "schema", "namespace", "entity", "id", "version"].Nodup := by decide
  exact @Json.Shape.ofBytes_ofTexts metaShape (metaTexts op) rfl distinct (by simp [metaTexts])

theorem encode_id (op : Operation) : (encode op).id = op.tx := by
  unfold encode
  cases op.body <;> rfl

theorem encode_meta (op : Operation) : (encode op).part? metaPart = some (metaOf op).bytes := by
  unfold encode
  cases op.body with
  | none => exact Table.get?_insert_self _ _ _
  | some body =>
    show Table.get? metaPart (Table.insert dataPart _ _) = _
    rw [Table.get?_insert_other (by decide)]
    exact Table.get?_insert_self _ _ _

theorem encode_data (op : Operation) : (encode op).part? dataPart = op.body.map Json.bytes := by
  unfold encode
  cases op.body with
  | none => exact Table.get?_insert_other (by decide) _ _
  | some body => exact Table.get?_insert_self _ _ _

theorem decode_encode (op : Operation) :
    decode (encode op) = match Timestamp.ofText op.version.text with
      | .error cause => .error (.invalidVersion op.tx cause)
      | .ok version => (decodeBody (encode op)).map fun body =>
        { op with method := .ofText op.method.text, version, body } := by
  rw [decode, encode_meta]
  simp only [metaShape_reads]
  have slot : (Json.Slots.ofTexts (metaTexts op)).text "version" "" = op.version.text := rfl
  rw [slot, encode_id]
  cases Timestamp.ofText op.version.text with
  | error cause => rfl
  | ok version =>
    cases decodeBody (encode op) with
    | error cause => rfl
    | ok body => rfl

theorem decodeBody_encode (op : Operation) :
    decodeBody (encode op) = match op.body with
      | none => .ok none
      | some body => match Json.ofBytes body.bytes with
        | .ok body => .ok (some body)
        | .error fault => .error (.malformed op.tx dataPart fault) := by
  rw [decodeBody, encode_data, encode_id]
  cases op.body <;> rfl

theorem decodeBody_encode_ok {op : Operation} (valid : op.Valid) :
    (∃ body, decodeBody (encode op) = .ok body) ↔ ∀ body ∈ op.body, body.depth ≤ 127 := by
  rw [decodeBody_encode]
  cases eq : op.body with
  | none => simp
  | some body =>
    have reads := Json.ofBytes_bytes (valid.body body eq)
    simp only [Option.mem_some_iff, forall_eq']
    rw [← show Json.Reader.deepest = 127 by rfl, ← reads]
    constructor
    · rintro ⟨body', eq'⟩
      cases found : Json.ofBytes body.bytes with
      | ok j => exact ⟨j, rfl⟩
      | error fault =>
        rw [found] at eq'
        contradiction
    · rintro ⟨j, found⟩
      exact ⟨some j, by rw [found]⟩

theorem decode_encode_ok {op : Operation} (valid : op.Valid) :
    (∃ op', decode (encode op) = .ok op') ↔ op.Readable := by
  have version := Timestamp.ofText_text_ok valid.version.nanoseconds valid.version.offset
  have body := decodeBody_encode_ok valid
  rw [decode_encode]
  constructor
  · rintro ⟨op', reads⟩
    cases shown : Timestamp.ofText op.version.text with
    | error cause =>
      rw [shown] at reads
      contradiction
    | ok t =>
      obtain ⟨year, offset⟩ := version.mp ⟨t, shown⟩
      refine ⟨year, offset, body.mp ?_⟩
      cases found : decodeBody (encode op) with
      | error cause =>
        rw [shown, found] at reads
        contradiction
      | ok j => exact ⟨j, rfl⟩
  · intro readable
    obtain ⟨t, shown⟩ := version.mpr ⟨readable.year, readable.offset⟩
    obtain ⟨j, found⟩ := body.mpr readable.depth
    rw [shown, found]
    exact ⟨_, rfl⟩

theorem decode_encode_eq {op : Operation} (plain : op.Plain) (method : Method.ofText op.method.text = op.method) :
    decode (encode op) = .ok { op with version := op.version.readAs } := by
  have version := Timestamp.ofText_text_readAs plain.version.nanoseconds plain.readable.offset plain.year.1 plain.year.2
  have body : decodeBody (encode op) = .ok op.body := by
    rw [decodeBody_encode]
    cases eq : op.body with
    | none => rfl
    | some body =>
      have reads := Json.ofBytes_bytes_eq (plain.body body eq) (plain.whole body eq) (plain.depth body eq)
        (plain.ordered body eq)
      simp only [reads]
  rw [decode_encode, version, body, method]
  rfl

end Entry
end Journal
