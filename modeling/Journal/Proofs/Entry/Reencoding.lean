import Journal.Proofs.Entry.Codec
import Journal.Proofs.Json.Canonical
import Journal.Proofs.Timestamp.Reading

/-!
Encoding what was decoded. Many entries stand for one operation, because the metadata may be spelled in many ways; but
whatever is decoded is plain enough to come back from its own entry, which is the same each time.
-/
namespace Journal

theorem Method.ofText_text (s : String) : Method.ofText (Method.ofText s).text = Method.ofText s := by
  by_cases put : s = "PUT"
  · rw [put]
    rfl
  · by_cases delete : s = "DELETE"
    · rw [delete]
      rfl
    · have other : Method.ofText s = .unrecognized s := by rw [Method.ofText, if_neg put, if_neg delete]
      rw [other]
      exact other

/-- An operation that some entry stands for. -/
structure Operation.Recorded (op : Operation) : Prop where
  version : op.version.Told
  method : Method.ofText op.method.text = op.method
  body : ∀ body ∈ op.body, body.Fits Json.Reader.deepest ∧ body.canonical = body

theorem Operation.Recorded.plain {op : Operation} (recorded : op.Recorded) (whole : ∀ body ∈ op.body, body.Whole) :
    op.Plain := by
  have offset := recorded.version.offset
  unfold Timestamp.greatestOffset at offset
  exact {
    version := ⟨recorded.version.nanoseconds, by omega⟩
    body := fun body here => (recorded.body body here).1.valid (whole body here)
    year := recorded.version.year
    minutes := recorded.version.minutes
    depth := fun body here => (recorded.body body here).1.shallow
    whole
    ordered := fun body here => (recorded.body body here).2 }

namespace Entry

theorem decodeBody_fits {e : Entry} {found : Option Json} (reads : decodeBody e = .ok found) :
    ∀ body ∈ found, body.Fits Json.Reader.deepest ∧ body.canonical = body := by
  unfold decodeBody at reads
  split at reads
  · cases reads
    rintro _ ⟨⟩
  · split at reads <;> cases reads
    rename_i given
    rintro _ ⟨⟩
    exact Json.ofBytes_fits given

theorem recorded_of_decode {e : Entry} {op : Operation} (reads : decode e = .ok op) : op.Recorded := by
  unfold decode at reads
  split at reads
  · cases reads
  · split at reads
    · cases reads
    · split at reads
      · cases reads
      · rename_i version told
        cases given : decodeBody e with
        | error cause =>
          rw [given] at reads
          cases reads
        | ok body =>
          rw [given] at reads
          cases reads
          exact ⟨Timestamp.told_of_ofText told, Method.ofText_text _, decodeBody_fits given⟩

theorem decode_encode_recorded {op : Operation} (recorded : op.Recorded) (whole : ∀ body ∈ op.body, body.Whole) :
    decode (encode op) = .ok op := by
  have version := Timestamp.readAs_eq recorded.version.minutes recorded.version.leap
  rw [decode_encode_eq (recorded.plain whole) recorded.method, version]

theorem decodable_iff {op : Operation} (whole : ∀ body ∈ op.body, body.Whole) :
    (∃ e, decode e = .ok op) ↔ op.Recorded := by
  constructor
  · rintro ⟨e, reads⟩
    exact recorded_of_decode reads
  · intro recorded
    exact ⟨encode op, decode_encode_recorded recorded whole⟩

/-- Whatever an entry looks like that is decoded, the operation comes back from its own entry, offset and all, and its
entry is the same again. -/
theorem reencoding_is_stable {e : Entry} {op : Operation} (reads : decode e = .ok op)
    (whole : ∀ body ∈ op.body, body.Whole) :
    decode (encode op) = .ok op ∧ (decode (encode op)).map encode = .ok (encode op) := by
  have back := decode_encode_recorded (recorded_of_decode reads) whole
  refine ⟨back, ?_⟩
  rw [back]
  rfl

/-- The metadata are a list, with blanks and escapes; the version is a leap second of the year 0 far west of Greenwich,
with a minus sign of its own and ten digits of a second. One member of the body is given twice. -/
def oddlySpelled : Entry where
  id := .ofNat 5
  position := "elsewhere"
  parts := Table.ofList [
    ("note", Utf8.encode "not read"),
    ("meta", Utf8.encode
      "\n[\"\\u0050UT\", \"s\",\t\"\", \"Person\" ,\"a\\/b\",\"0000-01-01t00:00:60.9999999999\u221223:59\"] "),
    ("data", Utf8.encode "\x7b\"b\": 1, \"a\": [-1, null], \"b\": 2\x7d")]

def soundlyRead : Operation :=
  { tx := .ofNat 5, method := .put, schema := "s", space := "", entity := "Person", id := "a/b"
    version := ⟨-62167132801, 1999999999, -86340⟩
    body := some (.object [("a", .array [.ofInt (-1), .null]), ("b", .ofNat 2)]) }

theorem an_odd_spelling_is_written_anew : decode oddlySpelled = .ok soundlyRead ∧
    (∀ body ∈ soundlyRead.body, body.Whole) ∧ encode soundlyRead ≠ oddlySpelled ∧
    decode (encode soundlyRead) = .ok soundlyRead ∧
    (decode (encode soundlyRead)).map encode = .ok (encode soundlyRead) := by
  have reads : decode oddlySpelled = .ok soundlyRead := by decide +kernel
  have whole : ∀ body ∈ soundlyRead.body, body.Whole := by decide
  have differs : encode soundlyRead ≠ oddlySpelled := by decide +kernel
  exact ⟨reads, whole, differs, reencoding_is_stable reads whole⟩

end Entry
end Journal
