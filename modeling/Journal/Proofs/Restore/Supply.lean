import Journal.Proofs.Restore.Pace
import Journal.Proofs.Restore.Stopping

/-!
What a session still has before it. Offered are the entries that were on its topic when the newest one was read and
that its lower bound admits. A session with nothing offered gets no worker; any other one has an offered entry before it
until it is done, so its worker never waits for one, and every receive that it begins uses up one of them.
-/
namespace Journal

theorem Start.select_suffix {start : Option Start} {entries : List Entry} (ascending : Ascending entries) :
    Start.select start entries <:+ entries := by
  induction entries with
  | nil => exact List.suffix_rfl
  | cons e entries ih =>
    obtain ⟨below, ascending⟩ := List.pairwise_cons.mp ascending
    cases admitted : Start.admitted start e.id with
    | false =>
      have passed : Start.select start (e :: entries) = Start.select start entries := by simp [Start.select, admitted]
      rw [passed]
      exact (ih ascending).trans (List.suffix_cons e entries)
    | true =>
      have all : Start.select start (e :: entries) = e :: entries := by
        refine List.filter_eq_self.mpr fun d member => ?_
        rcases List.mem_cons.mp member with rfl | later
        · exact admitted
        · exact Start.admitted_of_le admitted (Nat.le_of_lt (below d later))
      exact ⟨[], all⟩

namespace Session

def offered (ground : List Entry) (s : Session) : List Entry := Start.select s.bounds.start ground

variable {topic : String} {entries ground : List Entry} {counted : List Ulid} {handed : List (Saga × Operation)}
  {s s' : Session} {settings : RestoreSettings} {now : Nat} {log : Log} {events : List Event}

theorem offered_of_bounds (same : s'.bounds = s.bounds) (ground : List Entry) : s'.offered ground = s.offered ground := by
  rw [offered, offered, same]

/-- The short circuit agrees with the rule by which a consumer begins: the newest entry is admitted if any is. -/
theorem nothing_iff_offered (ascending : Ascending ground) (ceiling : s.ceiling = ground.getLast?.map Entry.id) :
    s.nothingToReplay = true ↔ s.offered ground = [] := by
  cases final : ground.getLast? with
  | none =>
    rw [offered, List.getLast?_eq_none_iff.mp final]
    simp [nothingToReplay, ceiling, final, Start.select]
  | some last =>
    simp only [nothingToReplay, ceiling, final, Option.map_some, Bool.not_eq_true', offered, Start.select,
      List.filter_eq_nil_iff, Bool.not_eq_true]
    refine ⟨fun refused e member => ?_, fun none => none last (List.mem_of_getLast? final)⟩
    by_contra admitted
    rw [Bool.not_eq_false] at admitted
    rw [Start.admitted_of_le admitted (ascending.le_last member final)] at refused
    cases refused

def receivesLeft (offered : List Entry) (s : Session) : Nat :=
  let entries := offered.length - s.tally.total
  match s.worker with
  | .ended => 0
  | .receiving .. | .submitting .. => entries - 1
  | _ => entries

structure Supplied (ground : List Entry) (s : Session) : Prop where
  left : s.started = true → s.done = false → s.tally.total < (s.offered ground).length
  awake : ∀ subscription deadline, s.worker ≠ .receiving subscription deadline true
  spared : s.offered ground = [] → s.worker = .unborn ∧ s.error = none
  refused : s.offered ground ≠ [] → s.done = true → s.worker = .unborn → ∃ error, s.error = some (.opening error)

structure Spends (offered : List Entry) (s s' : Session) : Prop where
  turn : s'.turnsLeft offered < s.turnsLeft offered
  receive : (if s.worker.listens = false ∧ s'.worker.listens = true then 1 else 0) + s'.receivesLeft offered ≤
    s.receivesLeft offered

theorem Fresh.supplied (fresh : s.Fresh) (ground : List Entry) : s.Supplied ground := by
  rw [fresh]
  exact ⟨nofun, nofun, fun _ => ⟨rfl, rfl⟩, fun _ => nofun⟩

theorem Supplied.of_ended (something : s.offered ground ≠ []) (ended : s.worker = .ended) (done : s.done = true) :
    s.Supplied ground where
  left := by simp [done]
  awake := by simp [ended]
  spared := fun none => absurd none something
  refused := by simp [ended]

theorem Supplied.of_awake (left : s.tally.total < (s.offered ground).length) (awake : ∀ subscription deadline,
    s.worker ≠ .receiving subscription deadline true) (going : s.done = false) : s.Supplied ground where
  left := fun _ _ => left
  awake := awake
  spared := by
    intro none
    rw [none] at left
    cases left
  refused := by simp [going]

theorem more_offered (ascending : Ascending ground) (ceiling : s.ceiling = ground.getLast?.map Entry.id) {k : Nat}
    {e : Entry} (passed : (s.bounds.due ground)[k]? = some e) (below : s.ceiling ≠ some e.id) :
    k + 1 < (s.offered ground).length := by
  obtain ⟨more, parts⟩ : s.bounds.due ground <+: s.offered ground := Bounds.due_prefix_select ascending
  have inside : k < (s.bounds.due ground).length := (List.getElem?_eq_some_iff.mp passed).1
  have given : (s.offered ground)[k]? = some e := by rw [← parts, List.getElem?_append_left inside, passed]
  have bound : k < (s.offered ground).length := (List.getElem?_eq_some_iff.mp given).1
  refine Nat.lt_of_le_of_ne bound fun final => below ?_
  obtain ⟨front, whole⟩ : s.offered ground <:+ ground := Start.select_suffix ascending
  have last : (s.offered ground).getLast? = some e := by
    rw [List.getLast?_eq_getElem?, ← final, Nat.add_sub_cancel, given]
  rw [ceiling, ← whole, List.getLast?_append, last]
  rfl

theorem proceed_supplied (ascending : Ascending ground) (ceiling : s.ceiling = ground.getLast?.map Entry.id) {k : Nat}
    {e : Entry} (passed : (s.bounds.due ground)[k]? = some e) (total : s.tally.total = k + 1) (going : s.done = false)
    (now : Nat) (subscription : Subscription) :
    (s.proceed now subscription e.id).1.Supplied ground ∧
      (s.proceed now subscription e.id).1.turnsLeft (s.offered ground) ≤ 3 * ((s.offered ground).length - (k + 1)) ∧
      (s.proceed now subscription e.id).1.receivesLeft (s.offered ground) ≤ (s.offered ground).length - (k + 1) ∧
      (s.proceed now subscription e.id).1.worker.listens = false := by
  have something : s.offered ground ≠ [] := by
    rintro none
    obtain ⟨more, parts⟩ : s.bounds.due ground <+: s.offered ground := Bounds.due_prefix_select ascending
    rw [none] at parts
    simp [(List.append_eq_nil_iff.mp parts).1] at passed
  unfold proceed
  split
  · exact ⟨.of_ended something rfl rfl, Nat.zero_le _, Nat.zero_le _, rfl⟩
  · rename_i below
    have more := more_offered ascending ceiling passed below
    refine ⟨.of_awake (total ▸ more) (by simp) going, ?_, ?_, rfl⟩
    · simp [turnsLeft, total]
    · simp [receivesLeft, total]

theorem Supplied.receipt (supplied : s.Supplied ground) (settled : Settled entries ground counted handed s)
    (ascending : Ascending entries) (started : s.started = true) {subscription : Subscription} {deadline : Nat}
    (worker : s.worker = .receiving subscription deadline false) {result : Reported}
    (receipt : s.Receipt topic entries ground settings now false result) :
    result.1.Supplied ground ∧ Spends (s.offered ground) s result.1 := by
  have less := supplied.left started settled.going
  have earlier : Ascending ground := ascending.sublist settled.grown.sublist
  have something : s.offered ground ≠ [] := List.ne_nil_of_length_pos (by omega)
  have closing {r : Session} (bounds : r.bounds = s.bounds) (ended : r.worker = .ended) (done : r.done = true) :
      r.Supplied ground ∧ Spends (s.offered ground) s r := by
    refine ⟨.of_ended (offered_of_bounds bounds ground ▸ something) ended done, ?_, ?_⟩
    · simp only [turnsLeft, ended, worker]
      omega
    · simp [receivesLeft, ended, Worker.listens]
  cases receipt with
  | idle _ _ _ passed =>
    have short := passed rfl
    have longer : (s.offered ground).length ≤ (Start.select s.bounds.start entries).length :=
      (settled.grown.filter _).length_le
    omega
  | finished reason => exact closing rfl rfl rfl
  | corrupt => exact closing rfl rfl rfl
  | unknown subscription' e op next decoded unknown reads =>
    cases policy : settings.unrecognized with
    | abort => exact closing rfl rfl rfl
    | ignore =>
      obtain ⟨supplied', turns, receives, deaf⟩ := proceed_supplied (s := { s with tally := s.tally.ignore }) earlier
        settled.ceiling next s.tally.total_ignore settled.going now subscription'
      refine ⟨supplied', Nat.lt_of_le_of_lt turns ?_, ?_⟩
      · simp only [turnsLeft, worker, offered] at less ⊢
        omega
      · have calm : (s.ignore .ignore now subscription' e op.method).1.worker.listens = false := deaf
        simp only [calm, Bool.false_eq_true, and_false, if_false, Nat.zero_add]
        refine Nat.le_trans receives ?_
        simp only [receivesLeft, worker, offered]
        omega
  | submit subscription' e saga op stands =>
    refine ⟨.of_awake less (by simp) settled.going, ?_, ?_⟩
    · simp only [turnsLeft, worker]
      omega
    · simp [receivesLeft, worker, Worker.listens]

theorem Supplied.turn (supplied : s.Supplied ground) (faithful : Faithful topic entries ground counted handed s)
    (ascending : Ascending entries) (started : s.started = true) (same : log.entries topic = entries)
    (turn : s.Turn settings now log s' events) : s'.Supplied ground ∧ Spends (s.offered ground) s s' := by
  have alive := turn_alive turn
  have less := supplied.left started (faithful.live alive)
  have something : s.offered ground ≠ [] := List.ne_nil_of_length_pos (by omega)
  cases turn with
  | begin subscription worker =>
    refine ⟨.of_awake less (by simp) (faithful.live alive), ?_, ?_⟩
    · simp [turnsLeft, worker]
    · simp [receivesLeft, worker, Worker.listens]
  | halt subscription worker =>
    refine ⟨.of_ended something rfl rfl, ?_, by simp [receivesLeft, complete, finish, Worker.listens]⟩
    simp only [turnsLeft, worker, complete, finish]
    omega
  | listen subscription worker =>
    refine ⟨.of_awake less (by simp) (faithful.live alive), ?_, ?_⟩
    · simp only [turnsLeft, worker]
      omega
    · simp only [receivesLeft, worker, Worker.listens, and_self, if_true]
      omega
  | heed subscription deadline parked worker =>
    refine ⟨.of_ended something rfl rfl, ?_, by simp [receivesLeft, complete, finish, Worker.listens]⟩
    simp only [turnsLeft, worker, complete, finish]
    omega
  | receive subscription deadline parked result worker received =>
    cases parked with
    | true => exact absurd worker (supplied.awake subscription deadline)
    | false =>
      exact supplied.receipt (faithful.settled alive (by rw [worker]; rfl)) ascending started worker
        (faithful.receipt ascending same worker received)
  | count subscription e saga op outcome reported worker =>
    have stands := faithful.stands
    rw [worker] at stands
    obtain ⟨-, next, -⟩ := stands
    obtain ⟨tally, event, change, -, after, -⟩ := s.count_spec now subscription e saga op outcome
    have more : tally.total = s.tally.total + 1 := Tally.total_of_counted change
    obtain ⟨supplied', turns, receives, deaf⟩ := proceed_supplied (s := { s with tally })
      (ascending.sublist faithful.grown.sublist) faithful.ceiling next more (faithful.live alive) now subscription
    rw [after]
    refine ⟨supplied', Nat.lt_of_le_of_lt turns ?_, ?_⟩
    · simp only [turnsLeft, worker, offered] at less ⊢
      omega
    · simp only [deaf, Bool.false_eq_true, and_false, if_false, Nat.zero_add]
      refine Nat.le_trans receives ?_
      simp only [receivesLeft, worker, offered]
      omega

theorem Supplied.served (supplied : s.Supplied ground) (faithful : Faithful topic entries ground counted handed s)
    (served : s.Served now s') (same : s'.started = s.started) : s'.Supplied ground := by
  cases served with
  | stays => exact supplied
  | stop =>
    obtain ⟨_, _, marked⟩ := s.stop_flags
    rw [marked]
    exact ⟨supplied.left, supplied.awake, supplied.spared, supplied.refused⟩
  | claim unclaimed | skip unclaimed =>
    rw [unclaimed] at same
    cases same
  | spawn unborn going subscription => exact .of_awake (supplied.left same.symm going) (by simp [spawn]) going
  | refuse unborn going error =>
    have left := supplied.left same.symm going
    refine ⟨(by rintro - ⟨⟩), supplied.awake, fun none => ?_, fun _ _ _ => ⟨error, ?_⟩⟩
    · rw [show s.offered ground = [] from none] at left
      cases left
    · simp [failOpening, finish, faithful.unharmed going]

theorem Supplied.skip (supplied : s.Supplied ground) (nothing : s.offered ground = []) (now : Nat) :
    Supplied ground ({ s with started := true }.finish now) :=
  ⟨nofun, supplied.awake, fun _ => supplied.spared nothing, fun something => absurd nothing something⟩

theorem Supplied.claim (something : s.offered ground ≠ []) (faithful : Faithful topic entries ground counted handed s)
    (unborn : s.worker = .unborn) (going : s.done = false) : Supplied ground { s with started := true } := by
  refine .of_awake ?_ (by simp [unborn]) going
  rw [show s.tally.total = 0 from faithful.none_counted unborn]
  exact List.length_pos_of_ne_nil something

end Session
end Journal
