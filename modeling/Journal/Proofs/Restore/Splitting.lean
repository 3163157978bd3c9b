import Journal.Proofs.Restore.Verdicts

/-!
Restores that are split or resumed lose and repeat nothing. Where two ranges meet at an id that one of them includes,
two sessions process, one after the other, what a session without bounds processes; and a session that begins right
after the last entry that an earlier one has processed goes on where that one ended. Entries that can be decoded and a
lenient policy are enough: then a session has no other way to fail than that its consumer cannot be opened.
-/
namespace Journal

namespace Tally

def plus (a b : Tally) : Tally := ⟨a.restored + b.restored, a.failed + b.failed, a.ignored + b.ignored⟩

/-- What these entries come to if the outcome of a submission is the verdict on its entry. -/
def judged (verdict : Entry → Bool) (entries : List Entry) : Tally where
  restored := (entries.filter fun e => e.replay?.isSome).countP verdict
  failed := (entries.filter fun e => e.replay?.isSome).countP fun e => !verdict e
  ignored := entries.countP fun e => e.replay?.isNone

theorem judged_append (verdict : Entry → Bool) (front back : List Entry) :
    judged verdict (front ++ back) = (judged verdict front).plus (judged verdict back) := by
  simp only [judged, plus, List.filter_append, List.countP_append]

end Tally

namespace Bounds

variable {b whole first second : Bounds} {x y : Ulid} {ground front back : List Entry}

/-- Two ranges that meet at an id, which one of them includes and the other does not. -/
structure Splits (whole : Bounds) (x : Ulid) (first second : Bounds) : Prop where
  unbounded : whole.lower = none ∧ whole.upper = none
  below : first.lower = none ∧ first.upper = some x
  above : second.lower = some x ∧ second.upper = none
  once : second.lowerInclusive = !first.upperInclusive

theorem Splits.holds_first (splits : whole.Splits x first second) (id : Ulid) : first.holds id = !first.isPastEnd id := by
  simp [holds, start, Start.admitted, splits.below]

theorem Splits.holds_second (splits : whole.Splits x first second) (id : Ulid) : second.holds id = first.isPastEnd id := by
  simp only [holds, start, isPastEnd, splits.above, splits.below, Option.map_some, Start.admitted, Start.admits, splits.once]
  cases first.upperInclusive <;> simp

theorem due_splits (ascending : Ascending ground) (splits : whole.Splits x first second) :
    first.due ground ++ second.due ground = ground := by
  induction ground with
  | nil => rfl
  | cons e ground ih =>
    obtain ⟨below, ascending⟩ := List.pairwise_cons.mp ascending
    cases past : first.isPastEnd e.id with
    | false =>
      have kept : first.due (e :: ground) = e :: first.due ground := by simp [due, splits.holds_first, past]
      have passed : second.due (e :: ground) = second.due ground := by simp [due, splits.holds_second, past]
      rw [kept, passed, List.cons_append, ih ascending]
    | true =>
      have past : ∀ d ∈ e :: ground, first.isPastEnd d.id = true := by
        intro d member
        rcases List.mem_cons.mp member with rfl | later
        · exact past
        · exact isPastEnd_of_le past (Nat.le_of_lt (below d later))
      have none : first.due (e :: ground) = [] := by
        refine List.filter_eq_nil_iff.mpr fun d member => ?_
        simp [splits.holds_first, past d member]
      have all : second.due (e :: ground) = e :: ground := by
        refine List.filter_eq_self.mpr fun d member => ?_
        rw [splits.holds_second, past d member]
      rw [none, all, List.nil_append]

theorem due_resumed (ascending : Ascending ground) (parts : b.due ground = front ++ back)
    (last : (front.map Entry.id).getLast? = some y) :
    Bounds.due { b with lower := some y, lowerInclusive := false } ground = back := by
  have sorted : Ascending (front ++ back) := parts ▸ ascending.sublist List.filter_sublist
  obtain ⟨e, final, rfl⟩ : ∃ e, front.getLast? = some e ∧ e.id = y := by simpa [List.getLast?_map] using last
  have inside : e ∈ b.due ground := parts ▸ List.mem_append_left back (List.mem_of_getLast? final)
  have admitted := (mem_due.mp inside).2.1
  have narrowed : Bounds.due { b with lower := some e.id, lowerInclusive := false } ground =
      (b.due ground).filter fun d => decide (e.id < d.id) := by
    rw [due, due, List.filter_filter]
    refine List.filter_congr fun d _ => ?_
    have same : Bounds.holds { b with lower := some e.id, lowerInclusive := false } d.id =
        (decide (e.id < d.id) && !b.isPastEnd d.id) := rfl
    rw [same]
    by_cases above : e.id < d.id
    · simp [holds, above, Start.admitted_of_le admitted (Nat.le_of_lt above)]
    · simp [above]
  have passed : front.filter (fun d => decide (e.id < d.id)) = [] := by
    refine List.filter_eq_nil_iff.mpr fun d member above => ?_
    have low := Ascending.le_last (List.pairwise_append.mp sorted).1 member final
    exact absurd (of_decide_eq_true above) (Nat.not_lt_of_le low)
  have ahead : back.filter (fun d => decide (e.id < d.id)) = back := by
    refine List.filter_eq_self.mpr fun d member => decide_eq_true ?_
    exact (List.pairwise_append.mp sorted).2.2 e (List.mem_of_getLast? final) d member
  rw [narrowed, parts, List.filter_append, passed, ahead, List.nil_append]

end Bounds

namespace Session

variable {topic : String} {entries ground : List Entry} {counted : List Ulid} {handed : List (Saga × Operation)}
  {s s' : Session} {settings : RestoreSettings} {now : Nat} {log : Log} {events : List Event}

def Harmless (s : Session) : Prop :=
  ∀ error, s.error = some error → s.worker = .unborn ∧ ∃ cause, error = .opening cause

theorem harmless_of_unharmed (unharmed : s.error = none) : s.Harmless := by
  intro error same
  rw [unharmed] at same
  cases same

theorem Harmless.unharmed (harmless : s.Harmless) (born : s.worker ≠ .unborn) : s.error = none := by
  cases harm : s.error with
  | none => rfl
  | some error => exact absurd (harmless error harm).1 born

theorem Faithful.turn_unharmed (faithful : Faithful topic entries ground counted handed s) (ascending : Ascending entries)
    (same : log.entries topic = entries) (lenient : settings.unrecognized = .ignore)
    (readable : ∀ e ∈ ground, ∃ op, e.decode = .ok op) (turn : s.Turn settings now log s' events) : s'.error = none := by
  have unharmed : s.error = none := faithful.unharmed (faithful.live (turn_alive turn))
  cases turn with
  | begin | halt | listen | heed => exact unharmed
  | receive subscription deadline parked result worker received =>
    cases faithful.receipt ascending same worker received with
    | idle | finished | submit => exact unharmed
    | corrupt e cause next broken =>
      obtain ⟨op, decoded⟩ := readable e (Bounds.mem_due.mp (List.mem_of_getElem? next)).1
      rw [broken] at decoded
      cases decoded
    | unknown subscription' e op =>
      rw [lenient]
      exact (proceed_keeps now subscription' e.id { s with tally := s.tally.ignore }).2.1.trans unharmed
  | count subscription e saga op outcome =>
    rw [count_after, (proceed_keeps ..).2.1]
    exact unharmed

theorem Harmless.served (harmless : s.Harmless) (unharmed : s.done = false → s.error = none) (served : s.Served now s') :
    s'.Harmless := by
  cases served with
  | stays | claim | skip => exact harmless
  | stop =>
    obtain ⟨_, _, marked⟩ := s.stop_flags
    rw [marked]
    exact harmless
  | spawn unborn going subscription => exact harmless_of_unharmed (unharmed going)
  | refuse unborn going error =>
    intro error' same
    simp only [failOpening, finish, unharmed going, Option.none_or, Option.some.injEq] at same
    exact ⟨unborn, error, same.symm⟩

end Session

namespace Chronicle

variable {c c' : Chronicle} {move : Move} {moves : List Move} {n : Nat} {s s' : Session} {ground : List Entry}

/-- Unknown methods are passed over, and where all entries can be decoded no worker goes wrong. -/
structure Lenient (c : Chronicle) : Prop where
  policy : c.system.restore.unrecognized = .ignore
  harmless : ∀ (n : Nat) (s : Session), c.system.session? n = some s →
    (∀ e ∈ c.notes.ground n, ∃ op, e.decode = .ok op) → s.Harmless

theorem lenient_step (plain : Plain c) (tended : c.Tended) (lenient : c.Lenient) (made : c.apply move = some c') :
    c'.Lenient := by
  have effect := apply_effect made
  refine ⟨(apply_extends made).restore ▸ lenient.policy, fun n s' session' readable => ?_⟩
  cases session : c.system.session? n with
  | none =>
    have fresh : s'.Fresh := fresh_of_new effect session' (List.getElem?_eq_none_iff.mp session)
    rw [fresh]
    exact Session.harmless_of_unharmed rfl
  | some s =>
    rw [(noted_once effect (List.getElem?_eq_some_iff.mp session).1).2] at readable
    have trusts := plain.trusts n s session
    obtain ⟨t, found, passed⟩ := passage tended.sound.1 tended.attributed effect session
    obtain rfl : s' = t := Option.some.inj (session'.symm.trans found)
    cases passed with
    | works k events actor task turn =>
      exact Session.harmless_of_unharmed (trusts.turn_unharmed (plain.ordered _) rfl lenient.policy readable turn)
    | served idle served => exact (lenient.harmless n s session readable).served trusts.unharmed served

theorem lenient_run (plain : Plain c) (tended : c.Tended) (lenient : c.Lenient) (went : run moves c = some c') :
    c'.Lenient := by
  refine (run_keeps (P := fun c => (Plain c ∧ c.Tended) ∧ c.Lenient) ?_ ⟨⟨plain, tended⟩, lenient⟩ went).2
  intro c move c' ⟨⟨plain, tended⟩, lenient⟩ made
  exact ⟨⟨plain_step plain made, tended_step tended (apply_effect made)⟩, lenient_step plain tended lenient made⟩

theorem lenient_after {settings : Settings} {executor : Executor} (ran : run moves (opened settings executor {}) = some c)
    (policy : settings.restore.unrecognized = .ignore) : c.Lenient := by
  refine lenient_run (plain_opened ..) (tended_opened ..) ⟨policy, fun n s session => ?_⟩ ran
  rw [session?_opened] at session
  cases session

structure Unhindered (c : Chronicle) (ground : List Entry) (n : Nat) (bounds : Bounds) (s : Session) : Prop where
  session : c.system.session? n = some s
  ground : c.notes.ground n = ground
  bounds : s.bounds = bounds
  unstopped : s.stopped = false
  opened : ∀ error, s.error ≠ some (.opening error)

structure Processed (c : Chronicle) (n : Nat) (entries : List Entry) : Prop where
  counted : c.system.countedBy n = entries.map Entry.id
  handed : c.notes.handed n = entries.filterMap Entry.replay?

theorem processed_of_done (plain : Plain c) (session : c.system.session? n = some s) (done : s.done = true) :
    Processed c n ((s.bounds.due (c.notes.ground n)).take s.tally.total) := by
  have trusts := plain.trusts n s session
  refine ⟨trusts.counted, ?_⟩
  have calm := Worker.inFlight_of_dead (trusts.dead done)
  rw [trusts.handed, calm, List.append_nil]
  rfl

def Judges (verdict : Entry → Bool) (n : Nat) (moves : List Move) (start : Chronicle) : Prop :=
  ∀ judged ∈ verdicts n moves start, judged.2 = verdict judged.1

namespace Unhindered

variable {bounds : Bounds}

theorem ascending (unhindered : Unhindered c ground n bounds s) (plain : Plain c) : Ascending ground := by
  have grown := (plain.trusts n s unhindered.session).grown
  rw [unhindered.ground] at grown
  exact (plain.ordered _).sublist grown.sublist

theorem unharmed (unhindered : Unhindered c ground n bounds s) (lenient : c.Lenient)
    (readable : ∀ e ∈ ground, ∃ op, e.decode = .ok op) : s.error = none := by
  cases harm : s.error with
  | none => rfl
  | some error =>
    obtain ⟨-, cause, rfl⟩ := lenient.harmless n s unhindered.session (unhindered.ground ▸ readable) error harm
    exact absurd harm (unhindered.opened cause)

theorem total (unhindered : Unhindered c ground n bounds s) (plain : Plain c) (lenient : c.Lenient)
    (readable : ∀ e ∈ ground, ∃ op, e.decode = .ok op) (done : s.done = true) :
    s.tally.total = (bounds.due ground).length := by
  have trusts := plain.trusts n s unhindered.session
  have whole := trusts.whole done (unhindered.unharmed lenient readable) unhindered.unstopped
  rwa [unhindered.bounds, unhindered.ground] at whole

theorem processed (unhindered : Unhindered c ground n bounds s) (plain : Plain c) (lenient : c.Lenient)
    (readable : ∀ e ∈ ground, ∃ op, e.decode = .ok op) (done : s.done = true) : Processed c n (bounds.due ground) := by
  have processed := processed_of_done plain unhindered.session done
  rwa [unhindered.bounds, unhindered.ground, unhindered.total plain lenient readable done, List.take_length] at processed

theorem judged {start : Chronicle} {verdict : Entry → Bool} (unhindered : Unhindered c ground n bounds s) (plain : Plain c)
    (lenient : c.Lenient) (readable : ∀ e ∈ ground, ∃ op, e.decode = .ok op) (done : s.done = true)
    (judged : Judged n moves start c s) (judges : Judges verdict n moves start) :
    s.tally = Tally.judged verdict (bounds.due ground) := by
  obtain ⟨entries, restored, failed⟩ := judged
  have ignored := (plain.trusts n s unhindered.session).ignored
  have total := unhindered.total plain lenient readable done
  rw [Session.submitted, unhindered.bounds, unhindered.ground, total, List.take_length] at entries
  rw [unhindered.bounds, unhindered.ground, total, List.take_length] at ignored
  have restored' : s.tally.restored = ((bounds.due ground).filter fun e => e.replay?.isSome).countP verdict := by
    rw [restored, ← entries, List.countP_map]
    exact List.countP_congr fun judged member => by rw [judges judged member]; rfl
  have failed' : s.tally.failed = ((bounds.due ground).filter fun e => e.replay?.isSome).countP fun e => !verdict e := by
    rw [failed, ← entries, List.countP_map]
    exact List.countP_congr fun judged member => by rw [judges judged member]; rfl
  calc s.tally = ⟨s.tally.restored, s.tally.failed, s.tally.ignored⟩ := rfl
    _ = Tally.judged verdict (bounds.due ground) := by rw [restored', failed', ignored]; rfl

end Unhindered

/-- What is known of the sessions over one ground. -/
structure Dovetails (moves : List Move) (start c : Chronicle) (ground : List Entry) : Prop where
  common : ∀ {m n : Nat} {s t : Session}, c.system.session? m = some s → c.system.session? n = some t →
    c.system.pool.topicOf s.source = c.system.pool.topicOf t.source → s.ceiling = t.ceiling →
      (c.notes.ground m = ground ↔ c.notes.ground n = ground)
  split : ∀ {x : Ulid} {whole first second : Bounds} {m n k : Nat} {s t u : Session}, whole.Splits x first second →
    Unhindered c ground m first s → Unhindered c ground n second t → Unhindered c ground k whole u →
    s.done = true → t.done = true → u.done = true →
      Processed c k ground ∧ c.system.countedBy m ++ c.system.countedBy n = c.system.countedBy k ∧
      c.notes.handed m ++ c.notes.handed n = c.notes.handed k ∧
      ∀ verdict, (∀ i ∈ [m, n, k], Judges verdict i moves start) → s.tally.plus t.tally = u.tally
  resumed : ∀ {bounds : Bounds} {y : Ulid} {m n : Nat} {s t : Session}, c.system.session? m = some s →
    c.notes.ground m = ground → s.bounds = bounds → s.done = true → (c.system.countedBy m).getLast? = some y →
    Unhindered c ground n { bounds with lower := some y, lowerInclusive := false } t → t.done = true →
      c.system.countedBy m ++ c.system.countedBy n = (bounds.due ground).map Entry.id ∧
      c.notes.handed m ++ c.notes.handed n = (bounds.due ground).filterMap Entry.replay?
  ends : ∀ {n : Nat} {s : Session}, c.system.session? n = some s → c.notes.ground n = ground → s.worker.isAlive = true →
    ∃ (later : List Move) (c' : Chronicle) (s' : Session), Finishes c n s later c' s' ∧ s'.error = none

theorem ground_of_ceiling {m : Nat} {t : Session} (plain : Plain c) (session : c.system.session? m = some s)
    (session' : c.system.session? n = some t) (topic : c.system.pool.topicOf s.source = c.system.pool.topicOf t.source)
    (ceiling : s.ceiling = t.ceiling) : c.notes.ground m = c.notes.ground n := by
  have trusts : Session.Faithful _ _ _ _ _ s := plain.trusts m s session
  have trusts' : Session.Faithful _ _ _ _ _ t := plain.trusts n t session'
  have grown := trusts.grown
  rw [topic] at grown
  have last : (c.notes.ground m).getLast?.map Entry.id = (c.notes.ground n).getLast?.map Entry.id := by
    rw [← trusts.ceiling, ← trusts'.ceiling, ceiling]
  rcases List.prefix_or_prefix_of_prefix grown trusts'.grown with earlier | later
  · exact Ascending.eq_of_last ((plain.ordered _).sublist trusts'.grown.sublist) earlier last
  · exact (Ascending.eq_of_last ((plain.ordered _).sublist grown.sublist) later last.symm).symm

theorem ends_of_alive (plain : Plain c) (tended : c.Tended) (provident : c.Provident) (lenient : c.Lenient)
    (readable : ∀ e ∈ c.notes.ground n, ∃ op, e.decode = .ok op) (session : c.system.session? n = some s)
    (alive : s.worker.isAlive = true) :
    ∃ (later : List Move) (c' : Chronicle) (s' : Session), Finishes c n s later c' s' ∧ s'.error = none := by
  obtain ⟨later, c', s', finishes, -⟩ := comes_to_its_end _ plain tended provident session alive (Nat.le_refl _)
  refine ⟨later, c', s', finishes, ?_⟩
  have harmless := (lenient_run plain tended lenient finishes.went).harmless n s' finishes.session
    (finishes.ground ▸ readable)
  obtain ⟨t, found, persists⟩ := onward_run finishes.went n s session
  obtain rfl : s' = t := Option.some.inj (finishes.session.symm.trans found)
  exact harmless.unharmed (persists.born fun unborn => by simp [unborn, Worker.isAlive] at alive)

/-- Over every ground whose entries can be decoded, split and resumed restores lose and repeat nothing. -/
theorem split_restores_dovetail {settings : Settings} {executor : Executor}
    (ran : run moves (opened settings executor {}) = some c) (policy : settings.restore.unrecognized = .ignore)
    (readable : ∀ e ∈ ground, ∃ op, e.decode = .ok op) : Dovetails moves (opened settings executor {}) c ground := by
  obtain ⟨plain, tended, provident⟩ := provident_after ran
  have lenient := lenient_after ran policy
  constructor
  case common =>
    intro m n s t session session' topic ceiling
    rw [ground_of_ceiling plain session session' topic ceiling]
  case split =>
    intro x whole first second m n k s t u splits one two all done done' done''
    have parts := Bounds.due_splits (all.ascending plain) splits
    have every := Bounds.due_of_unbounded splits.unbounded ground
    have front := one.processed plain lenient readable done
    have back := two.processed plain lenient readable done'
    have processed : Processed c k ground := every ▸ all.processed plain lenient readable done''
    refine ⟨processed, ?_, ?_, fun verdict judges => ?_⟩
    · rw [front.counted, back.counted, processed.counted, ← List.map_append, parts]
    · rw [front.handed, back.handed, processed.handed, ← List.filterMap_append, parts]
    · rw [one.judged plain lenient readable done (judged_after ran one.session) (judges m (by simp)),
        two.judged plain lenient readable done' (judged_after ran two.session) (judges n (by simp)),
        all.judged plain lenient readable done'' (judged_after ran all.session) (judges k (by simp)),
        ← Tally.judged_append, parts, every]
  case resumed =>
    rintro _ y m n s t session rfl rfl done last rest done'
    have front := processed_of_done plain session done
    have parts := (List.take_append_drop s.tally.total (s.bounds.due (c.notes.ground m))).symm
    have back := rest.processed plain lenient readable done'
    rw [Bounds.due_resumed (rest.ascending plain) parts (front.counted ▸ last)] at back
    constructor
    · rw [front.counted, back.counted, ← List.map_append, ← parts]
    · rw [front.handed, back.handed, ← List.filterMap_append, ← parts]
  case ends =>
    rintro n s session rfl alive
    exact ends_of_alive plain tended provident lenient readable session alive

def fourEntries : List Entry :=
  let first : Operation :=
    { tx := .ofNat 5, method := .put, schema := "person", space := "people", entity := "Person", id := "p1"
      version := ⟨0, 0, 0⟩, body := none }
  [.encode first, .encode { first with tx := .ofNat 6, method := .delete, id := "p2" },
    .encode { first with tx := .ofNat 7, method := .unrecognized "PATCH" },
    .encode { first with tx := .ofNat 9, id := "p3" }]

def failsForSecond : Executor := .recording { failing := ["p2"] }

def sparesSecond (e : Entry) : Bool := e.replay?.all fun replay => replay.2.id != "p2"

/-- Three sessions are split at an entry. Of the other two, whose range ends between entries, one is stopped while its first
entry is submitted, and the last one resumes it. -/
def fiveSessions : List Move :=
  let lasts (task turns : Nat) : List Move := List.replicate turns (.run true task)
  fourEntries.map (.publish "tx-a") ++
    [.create "a" { upper := some (.ofNat 6) }, .create "a" { lower := some (.ofNat 6), lowerInclusive := false },
      .create "a" {}, .create "a" { upper := some (.ofNat 8) },
      .create "a" { lower := some (.ofNat 5), lowerInclusive := false, upper := some (.ofNat 8) },
      .start 0, .start 1, .start 2, .start 3, .start 4] ++
    lasts 3 3 ++ [.stop 3] ++ lasts 3 2 ++ lasts 0 9 ++ lasts 1 6 ++ lasts 2 12 ++ lasts 4 8

theorem four_entries_are_split_and_resumed : ∃ (c : Chronicle) (s t u : Session),
    run fiveSessions (opened {} failsForSecond {}) = some c ∧ c.system.session? 0 = some s ∧ c.system.session? 1 = some t ∧
      c.system.session? 2 = some u ∧ s.tally = ⟨1, 1, 0⟩ ∧ t.tally = ⟨1, 0, 1⟩ ∧ s.tally.plus t.tally = u.tally ∧
      c.system.countedBy 0 ++ c.system.countedBy 1 = c.system.countedBy 2 ∧ c.system.countedBy 3 = [.ofNat 5] ∧
      c.system.countedBy 3 ++ c.system.countedBy 4 = [.ofNat 5, .ofNat 6, .ofNat 7] ∧
      Dovetails fiveSessions (opened {} failsForSecond {}) c fourEntries := by
  have ends : (run fiveSessions (opened {} failsForSecond {})).map (fun c => [0, 1, 2, 3, 4].map fun n =>
      (c.system.session? n).map fun s => (s.bounds, s.tally, [s.stopped, s.done, s.error.isSome])) = some
        [some ({ upper := some (.ofNat 6) }, ⟨1, 1, 0⟩, [false, true, false]),
          some ({ lower := some (.ofNat 6), lowerInclusive := false }, ⟨1, 0, 1⟩, [false, true, false]),
          some ({}, ⟨2, 1, 1⟩, [false, true, false]), some ({ upper := some (.ofNat 8) }, ⟨1, 0, 0⟩, [true, true, false]),
          some ({ lower := some (.ofNat 5), lowerInclusive := false, upper := some (.ofNat 8) }, ⟨0, 1, 1⟩,
            [false, true, false])] := by
    decide +kernel
  have noted : (run fiveSessions (opened {} failsForSecond {})).map (fun c =>
      ([0, 1, 2, 3, 4].map c.notes.ground, c.system.countedBy 3)) = some (List.replicate 5 fourEntries, [.ofNat 5]) := by
    decide +kernel
  have judges : ∀ i ∈ [0, 1, 2], Judges sparesSecond i fiveSessions (opened {} failsForSecond {}) := by
    unfold Judges
    decide +kernel
  have readable : ∀ e ∈ fourEntries, ∃ op, e.decode = .ok op := by
    have all : ∀ e ∈ fourEntries, e.decode.isOk = true := by decide +kernel
    intro e member
    cases decoded : e.decode with
    | ok op => exact ⟨op, rfl⟩
    | error cause => simpa [decoded, Except.isOk, Except.toBool] using all e member
  obtain ⟨c, ran, views⟩ := Option.map_eq_some_iff.mp ends
  rw [ran] at noted
  simp only [List.map_cons, List.map_nil, List.replicate, Option.map_some, Option.some.injEq, Prod.mk.injEq,
    List.cons.injEq, and_true] at views noted
  obtain ⟨view, view', view'', stopped, resumed⟩ := views
  obtain ⟨⟨ground, ground', ground'', before, after⟩, counted⟩ := noted
  have unhindered {n : Nat} {bounds : Bounds} {tally : Tally} (ground : c.notes.ground n = fourEntries)
      (view : (c.system.session? n).map (fun s => (s.bounds, s.tally, [s.stopped, s.done, s.error.isSome])) =
        some (bounds, tally, [false, true, false])) :
      ∃ s, Unhindered c fourEntries n bounds s ∧ s.done = true ∧ s.tally = tally := by
    obtain ⟨s, session, flags⟩ := Option.map_eq_some_iff.mp view
    simp only [Prod.mk.injEq, List.cons.injEq, and_true, Option.isSome_eq_false_iff, Option.isNone_iff_eq_none] at flags
    obtain ⟨range, tally, going, done, unharmed⟩ := flags
    exact ⟨s, ⟨session, ground, range, going, by simp [unharmed]⟩, done, tally⟩
  have dovetails := split_restores_dovetail ran rfl readable
  obtain ⟨s, one, done, tally⟩ := unhindered ground view
  obtain ⟨t, two, done', tally'⟩ := unhindered ground' view'
  obtain ⟨u, all, done'', -⟩ := unhindered ground'' view''
  obtain ⟨-, whole, -, sums⟩ := dovetails.split ⟨⟨rfl, rfl⟩, ⟨rfl, rfl⟩, ⟨rfl, rfl⟩, rfl⟩ one two all done done' done''
  obtain ⟨v, session, flags⟩ := Option.map_eq_some_iff.mp stopped
  obtain ⟨w, rest, closed, -⟩ := unhindered after resumed
  simp only [Prod.mk.injEq, List.cons.injEq] at flags
  obtain ⟨range, -, -, ended, -⟩ := flags
  obtain ⟨resumed, -⟩ := dovetails.resumed session before range ended (by rw [counted]; rfl) rest closed
  exact ⟨c, s, t, u, ran, one.session, two.session, all.session, tally, tally', sums _ judges, whole, counted, resumed,
    dovetails⟩

end Chronicle
end Journal
