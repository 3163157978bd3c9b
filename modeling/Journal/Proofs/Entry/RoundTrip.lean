import Mathlib
import Journal.Proofs.Entry.Codec
/-!
What the way through an entry does to an operation. Everything comes back if the offset of the version is a number of
whole minutes. Otherwise the text of the version shows another offset with the same local time: what is decoded
happened up to half a minute before or after what was encoded, while the position keeps the instant of the latter.
-/
namespace Journal

namespace Timestamp

theorem milliseconds_eq (t : Timestamp) : t.milliseconds = t.moment / 1000000 := by
  have parts : t.moment = t.nanoseconds + 1000000 * (t.seconds * 1000) := by
    unfold moment billion
    omega
  rw [parts, Int.add_mul_ediv_left _ _ (by decide), milliseconds, Int.add_comm]
  norm_cast

theorem readAs_offset (t : Timestamp) : t.readAs.offset = shownOffset t.offset := by
  unfold readAs
  split <;> rfl

theorem readAs_drift (t : Timestamp) :
    t.readAs.moment = t.moment + (t.offset - t.readAs.offset) * billion := by
  rw [readAs_offset]
  unfold readAs
  split
  · rename_i leap
    have fits : ((t.nanoseconds - billion : Nat) : Int) = t.nanoseconds - billion := Int.ofNat_sub leap.1
    simp only [moment, localSeconds, fits]
    ring
  · simp only [moment, localSeconds]
    ring

theorem shownOffset_near (offset : Int) : (offset - shownOffset offset).natAbs ≤ 30 := by
  unfold shownOffset
  split <;> omega

theorem shownOffset_eq_iff {offset : Int} : shownOffset offset = offset ↔ offset % 60 = 0 := by
  refine ⟨fun same => ?_, shownOffset_eq⟩
  unfold shownOffset at same
  split at same <;> omega

theorem readAs_moment_iff {t : Timestamp} : t.readAs.moment = t.moment ↔ t.offset % 60 = 0 := by
  have second : (billion : Int) ≠ 0 := by decide
  rw [readAs_drift, readAs_offset, ← shownOffset_eq_iff, add_eq_left, mul_eq_zero, or_iff_left second, sub_eq_zero,
    eq_comm]

theorem readAs_milliseconds_iff {t : Timestamp} : t.readAs.milliseconds = t.milliseconds ↔ t.offset % 60 = 0 := by
  have second : (billion : Int) = 1000000 * 1000 := rfl
  rw [milliseconds_eq, milliseconds_eq, readAs_drift, readAs_offset, ← shownOffset_eq_iff, second, Int.mul_left_comm,
    Int.add_mul_ediv_left _ _ (by decide)]
  omega

end Timestamp

namespace Operation

theorem position_eq_iff {op : Operation} {version : Timestamp} :
    { op with version }.position = op.position ↔ version.milliseconds = op.version.milliseconds := by
  simp only [position, String.append_right_inj]
  exact Int.repr_inj

end Operation

namespace Entry

theorem encode_position (op : Operation) : (encode op).position = op.position := by
  unfold encode
  cases op.body <;> rfl

theorem readAs_of_decode {op back : Operation} (valid : op.Valid) (reads : decode (encode op) = .ok back) :
    back.version = op.version.readAs ∧ back.position = { op with version := op.version.readAs }.position := by
  have readable := (decode_encode_ok valid).mp ⟨back, reads⟩
  have version := Timestamp.ofText_text_readAs valid.version.nanoseconds readable.offset readable.year.1 readable.year.2
  rw [decode_encode, version] at reads
  cases found : decodeBody (encode op) with
  | error cause =>
    rw [found] at reads
    contradiction
  | ok body =>
    rw [found] at reads
    cases reads
    exact ⟨rfl, rfl⟩

/-- The decoded version is off by what its offset is off, at most half a minute. The version and the position of an
entry agree exactly if the offset is a number of whole minutes. -/
theorem versions_drift_with_their_offsets {op back : Operation} (valid : op.Valid)
    (reads : decode (encode op) = .ok back) :
    back.version.moment = op.version.moment + (op.version.offset - back.version.offset) * Timestamp.billion ∧
      (op.version.offset - back.version.offset).natAbs ≤ 30 ∧
      (back.version.moment = op.version.moment ↔ op.version.offset % 60 = 0) ∧
      (back.position = (encode op).position ↔ op.version.offset % 60 = 0) := by
  obtain ⟨version, position⟩ := readAs_of_decode valid reads
  rw [version, position, encode_position, Operation.position_eq_iff]
  refine ⟨Timestamp.readAs_drift _, ?_, Timestamp.readAs_moment_iff, Timestamp.readAs_milliseconds_iff⟩
  rw [Timestamp.readAs_offset]
  exact Timestamp.shownOffset_near _

def halfMinuteEast : Operation :=
  { tx := .ofNat 5, method := .put, schema := "s", space := "ns", entity := "Person", id := "p1"
    version := ⟨0, 0, 30⟩, body := none }

theorem half_a_minute_of_offset_moves_the_instant : halfMinuteEast.Valid ∧
    ∃ back, decode (encode halfMinuteEast) = .ok back ∧ back.version.offset = 60 ∧
      back.version.moment = halfMinuteEast.version.moment - 30 * Timestamp.billion ∧
      back.position ≠ (encode halfMinuteEast).position := by
  have valid : halfMinuteEast.Valid := ⟨⟨by decide, by decide⟩, by rintro j ⟨⟩⟩
  have readable : halfMinuteEast.Readable := ⟨by decide +kernel, by decide, by rintro j ⟨⟩⟩
  obtain ⟨back, reads⟩ := (decode_encode_ok valid).mpr readable
  obtain ⟨drift, -, -, position⟩ := versions_drift_with_their_offsets valid reads
  have offset : back.version.offset = 60 := by
    rw [(readAs_of_decode valid reads).1]
    rfl
  refine ⟨valid, back, reads, offset, ?_, ?_⟩
  · rw [drift, offset]
    rfl
  · rw [ne_eq, position]
    decide

end Entry
end Journal
