import Journal.Proofs.Entry.Codec
import Journal.Proofs.Restore.Replay
import Journal.Proofs.System.Accepted

/-!
Which writes a restore cannot get past. Every accepted write stays on its topic, but its entry can be decoded only if
the operation is readable, and a restore that comes to an entry that cannot be decoded ends there with an error.
-/
namespace Journal

theorem AppendStep.prepare_valid (step : AppendStep) {op : Operation} (valid : op.Valid) : (step.prepare op).Valid := by
  cases step with
  | put => exact ⟨valid.version, valid.body⟩
  | delete => exact ⟨valid.version, fun body none => by cases none⟩

namespace Chronicle

/-- A session has ended at an entry because the entry could not be decoded. -/
def EndedAt (c : Chronicle) (n : Nat) (s : Session) (e : Entry) (cause : CodecError) : Prop :=
  s.error = some (.replay (.codec cause)) ∧ (c.dueTo n s)[s.tally.total]? = some e

/-- What an accepted write is to those who restore its topic. -/
structure Outlook (c : Chronicle) (w : Write) : Prop where
  kept : w.entry ∈ c.system.log.entries (w.topic c.system.pool.settings)
  id : w.entry.id = w.op.tx
  decodes : (∃ op, w.entry.decode = .ok op) ↔ w.operation.Readable
  passed : w.operation.Readable → ∀ (n : Nat) (s : Session), c.system.session? n = some s →
    ∀ cause, ¬ c.EndedAt n s w.entry cause
  barred : ¬ w.operation.Readable → ∀ (n : Nat) (s : Session), c.system.session? n = some s → w.entry ∈ c.dueTo n s →
    w.entry ∉ (c.dueTo n s).take s.tally.total ∧ (s.done = true → s.stopped = false → s.error ≠ none)

variable {c : Chronicle}

theorem endedAt_of_corrupt {n : Nat} {s : Session} {cause : CodecError} (trusts : c.Trusts n s)
    (corrupt : s.error = some (.replay (.codec cause))) :
    ∃ e, c.EndedAt n s e cause ∧ e.decode = .error cause := by
  obtain ⟨e, next, broken⟩ := trusts.corrupt cause corrupt
  exact ⟨e, ⟨corrupt, next⟩, broken⟩

theorem outlook (plain : Plain c) (holding : Holding c) {w : Write} (accepted : w ∈ c.notes.accepted)
    (valid : w.op.Valid) : Outlook c w := by
  have decodes : (∃ op, w.entry.decode = .ok op) ↔ w.operation.Readable :=
    Entry.decode_encode_ok (w.step.prepare_valid valid)
  refine ⟨holding.held w accepted, ?_, decodes, ?_, ?_⟩
  · rw [Write.entry, Entry.encode_id, Write.operation]
    cases w.step <;> rfl
  · intro readable n s session cause ended
    obtain ⟨op, read⟩ := decodes.mpr readable
    obtain ⟨e, ⟨-, next⟩, broken⟩ := endedAt_of_corrupt (plain.trusts n s session) ended.1
    have same : w.entry = e := Option.some.inj (ended.2.symm.trans next)
    rw [← same, read] at broken
    cases broken
  · intro unreadable n s session due
    have trusts := plain.trusts n s session
    have uncounted : w.entry ∉ (c.dueTo n s).take s.tally.total :=
      fun counted => unreadable (decodes.mp (trusts.decoded w.entry counted))
    refine ⟨uncounted, fun finished going none => uncounted ?_⟩
    -- Without an error everything that was due has been counted.
    rw [show s.tally.total = (c.dueTo n s).length from trusts.whole finished none going, List.take_length]
    exact due

/-- An accepted write can be decoded, and does not end a restore, exactly if it is readable. -/
theorem restores_end_only_at_unreadable_writes {settings : Settings} {executor : Executor} {moves : List Move}
    (h : run moves (opened settings executor {}) = some c) :
    (∀ w ∈ c.notes.accepted, w.op.Valid → Outlook c w) ∧
      ∀ (n : Nat) (s : Session) (cause : CodecError), c.system.session? n = some s →
        s.error = some (.replay (.codec cause)) → ∃ e, c.EndedAt n s e cause ∧ e.decode = .error cause := by
  have plain := plain_after h
  have holding := holding_after h
  exact ⟨fun w accepted valid => outlook plain holding accepted valid,
    fun n s cause session corrupt => endedAt_of_corrupt (plain.trusts n s session) corrupt⟩

def tooLate : Operation :=
  { tx := .ofNat 5, method := .put, schema := "person", space := "people", entity := "Person", id := "p1"
    version := ⟨253402300800, 0, 0⟩, body := none }

def replayOfTooLate : List Move :=
  [.append .put none tooLate, .call none {}, .advance 0, .advance 0, .advance 0, .advance 0, .advance 0, .advance 0,
    .run true 0, .run true 0, .run true 0]

theorem a_write_of_the_year_10000_ends_its_restore : ∃ (c : Chronicle) (s : Session),
    run replayOfTooLate (opened {} .logging {}) = some c ∧ c.system.session? 0 = some s ∧ s.done = true ∧
      (∃ e, c.EndedAt 0 s e (.invalidVersion (.ofNat 5) .invalid)) ∧ ¬ tooLate.Readable ∧
      Outlook c ⟨.put, none, tooLate⟩ := by
  have ends : (run replayOfTooLate (opened {} .logging {})).map
      (fun c => (c.notes.accepted, (c.system.session? 0).map fun s => (s.done, s.error))) =
        some ([⟨.put, none, tooLate⟩], some (true, some (.replay (.codec (.invalidVersion (.ofNat 5) .invalid))))) := by
    decide +kernel
  obtain ⟨c, ran, state⟩ := Option.map_eq_some_iff.mp ends
  obtain ⟨accepted, state⟩ := Prod.mk.inj state
  obtain ⟨s, session, state⟩ := Option.map_eq_some_iff.mp state
  obtain ⟨done, error⟩ := Prod.mk.inj state
  obtain ⟨outlook, ended⟩ := restores_end_only_at_unreadable_writes ran
  have valid : tooLate.Valid := ⟨⟨by decide, by decide⟩, fun body none => by cases none⟩
  obtain ⟨e, atEntry, -⟩ := ended 0 s _ session error
  have unreadable : ¬ tooLate.Readable := fun readable => absurd readable.year.2 (by decide)
  exact ⟨c, s, ran, session, done, ⟨e, atEntry⟩, unreadable,
    outlook ⟨.put, none, tooLate⟩ (by rw [accepted]; exact List.mem_singleton_self _) valid⟩

end Chronicle
end Journal
