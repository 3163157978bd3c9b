import Journal.Proofs.Restore.Faithful

/-!
How fast a restore of everything goes. If every entry can be replayed and nobody stops the session, its worker takes
one turn to begin and three turns for each entry, and it is done with the last of them.
-/
namespace Journal

theorem Bounds.due_unbounded (ground : List Entry) : Bounds.due {} ground = ground :=
  due_of_unbounded ⟨rfl, rfl⟩ ground

namespace Session

/-- A restore of everything that nobody has stopped. As long as its worker is alive an entry is left, so the worker
never waits for one. -/
structure Brisk (ground : List Entry) (s : Session) : Prop where
  bounds : s.bounds = {}
  going : s.stopped = false
  unharmed : s.error = none
  left : s.worker.isAlive = true → s.tally.total < ground.length
  awake : ∀ subscription deadline, s.worker ≠ .receiving subscription deadline true

def turnsLeft (ground : List Entry) (s : Session) : Nat :=
  let entries := ground.length - s.tally.total
  match s.worker with
  | .unborn | .ended => 0
  | .spawned _ => 3 * entries + 1
  | .ready _ => 3 * entries
  | .receiving .. => 3 * entries - 1
  | .submitting .. => 3 * entries - 2

variable {topic : String} {entries ground : List Entry} {counted : List Ulid} {handed : List (Saga × Operation)}
  {s s' : Session}

theorem turnsLeft_of_dead (dead : s.worker.isAlive = false) : s.turnsLeft ground = 0 := by
  cases worker : s.worker <;> simp [worker, Worker.isAlive] at dead <;> simp [turnsLeft, worker]

theorem Brisk.of_same (brisk : s.Brisk ground) (bounds : s'.bounds = s.bounds) (stopped : s'.stopped = s.stopped)
    (error : s'.error = s.error) (worker : s'.worker = s.worker) (tally : s'.tally = s.tally) : s'.Brisk ground where
  bounds := bounds.trans brisk.bounds
  going := stopped.trans brisk.going
  unharmed := error.trans brisk.unharmed
  left := worker ▸ tally ▸ brisk.left
  awake := worker ▸ brisk.awake

theorem Brisk.works (brisk : s.Brisk ground) (alive : s.worker.isAlive = true) {w : Worker}
    (awake : ∀ subscription deadline, w ≠ .receiving subscription deadline true) : Brisk ground { s with worker := w } :=
  ⟨brisk.bounds, brisk.going, brisk.unharmed, fun _ => brisk.left alive, awake⟩

theorem Brisk.spawn (brisk : s.Brisk ground) (none : s.tally.total = 0) (something : ground ≠ [])
    (subscription : Subscription) :
    (s.spawn subscription).Brisk ground ∧ (s.spawn subscription).turnsLeft ground = 3 * ground.length + 1 := by
  have entries := List.length_pos_iff.mpr something
  constructor
  · exact ⟨brisk.bounds, brisk.going, brisk.unharmed, fun _ => Nat.lt_of_le_of_lt (Nat.le_of_eq none) entries,
      fun _ _ worker => by cases worker⟩
  · simp only [turnsLeft, Session.spawn, none, Nat.sub_zero]

theorem Brisk.receipt (brisk : s.Brisk ground) (grown : ground <+: entries) (alive : s.worker.isAlive = true)
    (replayed : ∀ e ∈ ground, e.replay?.isSome = true) {settings : RestoreSettings} {now : Nat} {result : Reported}
    (receipt : s.Receipt topic entries ground settings now false result) :
    ∃ (subscription : Subscription) (e : Entry) (saga : Saga) (op : Operation),
      result = ({ s with worker := .submitting subscription e saga op }, []) := by
  have left := brisk.left alive
  have all : s.bounds.due ground = ground := by rw [brisk.bounds, Bounds.due_unbounded]
  have speaks : ∀ e, (s.bounds.due ground)[s.tally.total]? = some e → e.replay?.isSome = true := by
    intro e next
    rw [all] at next
    exact replayed e (List.mem_of_getElem? next)
  cases receipt with
  | idle worker stands calm passed =>
    have admitted : Start.select s.bounds.start entries = entries := by
      rw [brisk.bounds]
      exact List.filter_eq_self.mpr fun _ _ => rfl
    have short := passed rfl
    rw [admitted] at short
    have long := grown.length_le
    omega
  | finished reason whole =>
    rw [all] at whole
    omega
  | corrupt e cause next broken =>
    have spoken := speaks e next
    simp [Entry.replay?, broken] at spoken
  | unknown subscription e op next decoded unknown reads =>
    have spoken := speaks e next
    simp [Entry.replay?, decoded, unknown] at spoken
  | submit subscription e saga op stands => exact ⟨subscription, e, saga, op, rfl⟩

theorem proceed_keeps (now : Nat) (subscription : Subscription) (id : Ulid) (s : Session) :
    (s.proceed now subscription id).1.tally = s.tally ∧ (s.proceed now subscription id).1.error = s.error ∧
      (s.proceed now subscription id).1.stopped = s.stopped ∧ (s.proceed now subscription id).1.bounds = s.bounds := by
  unfold Session.proceed
  split <;> exact ⟨rfl, rfl, rfl, rfl⟩

theorem proceed_brisk (now : Nat) (subscription : Subscription) {e : Entry} {k : Nat} (bounds : s.bounds = {})
    (going : s.stopped = false) (unharmed : s.error = none) (ceiling : s.ceiling = ground.getLast?.map Entry.id)
    (passed : ground[k]? = some e) (last : s.tally.total = k + 1)
    (whole : (s.proceed now subscription e.id).1.done = true → s.tally.total = ground.length) :
    (s.proceed now subscription e.id).1.Brisk ground ∧
      (s.proceed now subscription e.id).1.turnsLeft ground = 3 * (ground.length - (k + 1)) ∧
      ((s.proceed now subscription e.id).1.done = true ∨ (s.proceed now subscription e.id).1.worker.isAlive = true) := by
  unfold Session.proceed at whole ⊢
  split at whole
  · rename_i reached
    rw [if_pos reached]
    have all := whole rfl
    refine ⟨⟨bounds, going, unharmed, fun alive => (by cases alive), fun _ _ worker => by cases worker⟩, ?_, .inl rfl⟩
    simp only [turnsLeft, complete, finish]
    omega
  · rename_i below
    rw [if_neg below]
    have inside := (List.getElem?_eq_some_iff.mp passed).1
    have more : k + 1 < ground.length := by
      refine Nat.lt_of_le_of_ne inside fun final => below ?_
      rw [ceiling, List.getLast?_eq_getElem?, ← final, Nat.add_sub_cancel, passed]
      rfl
    refine ⟨⟨bounds, going, unharmed, fun _ => last ▸ more, fun _ _ worker => by cases worker⟩, ?_, .inr rfl⟩
    simp only [turnsLeft, last]

theorem Brisk.turn (brisk : s.Brisk ground) (faithful : Faithful topic entries ground counted handed s)
    (ascending : Ascending entries) (replayed : ∀ e ∈ ground, e.replay?.isSome = true) {settings : RestoreSettings}
    {now : Nat} {log : Log} (same : log.entries topic = entries) {events : List Event}
    (turn : s.Turn settings now log s' events) :
    s'.Brisk ground ∧ s.turnsLeft ground = s'.turnsLeft ground + 1 ∧ (s'.done = true ∨ s'.worker.isAlive = true) := by
  have kept := faithful.turn ascending same turn
  have alive := turn_alive turn
  have less := brisk.left alive
  cases turn with
  | begin subscription worker =>
    exact ⟨brisk.works alive nofun, by simp only [turnsLeft, worker], .inr rfl⟩
  | halt subscription worker stopped =>
    rw [brisk.going] at stopped
    cases stopped
  | listen subscription worker =>
    exact ⟨brisk.works alive nofun, by simp only [turnsLeft, worker]; omega, .inr rfl⟩
  | heed subscription deadline parked worker permit =>
    have stopped := faithful.permit permit
    rw [brisk.going] at stopped
    cases stopped
  | receive subscription deadline parked result worker received =>
    cases parked with
    | true => exact absurd worker (brisk.awake subscription deadline)
    | false =>
      have receipt := faithful.receipt ascending same worker received
      obtain ⟨next, e, saga, op, rfl⟩ := brisk.receipt faithful.grown alive replayed receipt
      exact ⟨brisk.works alive nofun, by simp only [turnsLeft, worker]; omega, .inr rfl⟩
  | count subscription e saga op outcome reported worker silent =>
    have stands := faithful.stands
    rw [worker] at stands
    obtain ⟨-, next, -⟩ := stands
    rw [brisk.bounds, Bounds.due_unbounded] at next
    obtain ⟨tally, event, change, -, after, -⟩ := s.count_spec now subscription e saga op outcome
    have more : tally.total = s.tally.total + 1 := Tally.total_of_counted change
    have ceiling : s.ceiling = ground.getLast?.map Entry.id := faithful.ceiling
    rw [after] at kept ⊢
    have whole : ({ s with tally }.proceed now subscription e.id).1.done = true → tally.total = ground.length := by
      intro finished
      obtain ⟨counters, error, stopped, range⟩ := proceed_keeps now subscription e.id { s with tally }
      have ends := kept.whole finished (error.trans brisk.unharmed) (stopped.trans brisk.going)
      rw [counters, range, brisk.bounds, Bounds.due_unbounded] at ends
      exact ends
    obtain ⟨brisk', rest, either⟩ := proceed_brisk (s := { s with tally }) now subscription brisk.bounds brisk.going
      brisk.unharmed ceiling next more whole
    exact ⟨brisk', by rw [rest]; simp only [turnsLeft, worker]; omega, either⟩

theorem Brisk.step (brisk : s.Brisk ground) (alive : s.worker.isAlive = true) (calm : s.worker.inFlight = [])
    (settings : RestoreSettings) (now : Nat) (log : Log) (fresh : Ulid) (origin : Origin) (stopFirst : Bool)
    (executor : Executor) : (s.step settings now log fresh origin stopFirst executor).isSome = true := by
  cases worker : s.worker with
  | unborn | ended => simp [worker, Worker.isAlive] at alive
  | submitting subscription entry saga op => simp [worker, Worker.inFlight] at calm
  | spawned subscription => simp [Session.step, worker]
  | ready subscription => simp [Session.step, worker, brisk.going]
  | receiving subscription deadline parked =>
    cases parked with
    | true => exact absurd worker (brisk.awake subscription deadline)
    | false =>
      have looks : (s.receive settings now log subscription deadline false).isSome = true := by
        unfold Session.receive
        split <;> rfl
      simp only [Session.step, worker, Option.isSome_map]
      cases stopFirst <;> simp [Option.isSome_or, looks]

end Session
end Journal
