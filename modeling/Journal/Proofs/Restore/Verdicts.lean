import Journal.Proofs.Restore.Ending

/-!
What decides the counters of a session. Its submissions end one after the other, each by a move of its worker, and the
executor makes of each what it will. As many entries are counted as restored as submissions have succeeded, and the
submissions that have ended are those of the replayed entries that were counted.
-/
namespace Journal
namespace Session

def submitted (ground : List Entry) (s : Session) : List Entry :=
  ((s.bounds.due ground).take s.tally.total).filter fun e => e.replay?.isSome

variable {topic : String} {entries ground : List Entry} {counted : List Ulid} {handed : List (Saga × Operation)}
  {s s' : Session} {settings : RestoreSettings} {now : Nat} {log : Log} {events : List Event}

theorem submitted_of_same (bounds : s'.bounds = s.bounds) (total : s'.tally.total = s.tally.total) (ground : List Entry) :
    s'.submitted ground = s.submitted ground := by
  rw [submitted, submitted, bounds, total]

theorem submitted_count {e : Entry} {tally : Tally} (next : (s.bounds.due ground)[s.tally.total]? = some e)
    (more : tally.total = s.tally.total + 1) :
    submitted ground { s with tally } = s.submitted ground ++ if e.replay?.isSome then [e] else [] := by
  simp [submitted, more, List.take_add_one, next, List.filter_append, List.filter_singleton, Bool.cond_eq_ite]

theorem proceed_submitted (now : Nat) (subscription : Subscription) (id : Ulid) (s : Session) (ground : List Entry) :
    (s.proceed now subscription id).1.submitted ground = s.submitted ground := by
  obtain ⟨tally, -, -, bounds⟩ := proceed_keeps now subscription id s
  exact submitted_of_same bounds (by rw [tally]) ground

theorem Faithful.count_submitted (faithful : Faithful topic entries ground counted handed s) (now : Nat)
    {subscription : Subscription} {e : Entry} {saga : Saga} {op : Operation} (outcome : Except SagaError Handoff)
    (worker : s.worker = .submitting subscription e saga op) :
    (s.count now subscription e saga op outcome).1.submitted ground = s.submitted ground ++ [e] ∧
      (s.count now subscription e saga op outcome).1.tally.restored =
        s.tally.restored + (if succeeded outcome then 1 else 0) ∧
      (s.count now subscription e saga op outcome).1.tally.failed =
        s.tally.failed + (if !succeeded outcome then 1 else 0) := by
  have stands := faithful.stands
  rw [worker] at stands
  obtain ⟨-, next, replay⟩ := stands
  have more : (if succeeded outcome then s.tally.restore else s.tally.fail).total = s.tally.total + 1 := by
    split
    · exact s.tally.total_restore
    · exact s.tally.total_fail
  rw [count_after, (proceed_keeps ..).1]
  constructor
  · rw [proceed_submitted, submitted_count next more, replay]
    rfl
  · cases succeeded outcome <;> exact ⟨rfl, rfl⟩

theorem Faithful.turn_submitted (faithful : Faithful topic entries ground counted handed s) (ascending : Ascending entries)
    (same : log.entries topic = entries) (calm : s.worker.inFlight = []) (turn : s.Turn settings now log s' events) :
    s'.submitted ground = s.submitted ground ∧ s'.tally.restored = s.tally.restored ∧ s'.tally.failed = s.tally.failed := by
  cases turn with
  | begin | halt | listen | heed => exact ⟨rfl, rfl, rfl⟩
  | receive subscription deadline parked result worker received =>
    cases faithful.receipt ascending same worker received with
    | idle | finished | corrupt | submit => exact ⟨rfl, rfl, rfl⟩
    | unknown subscription' e op next decoded unknown =>
      have silent : e.replay? = none := by simp [Entry.replay?, decoded, unknown]
      have passed : submitted ground { s with tally := s.tally.ignore } = s.submitted ground := by
        rw [submitted_count next s.tally.total_ignore, silent]
        exact List.append_nil _
      cases settings.unrecognized with
      | abort => exact ⟨passed, rfl, rfl⟩
      | ignore =>
        have tally := (proceed_keeps now subscription' e.id { s with tally := s.tally.ignore }).1
        exact ⟨(proceed_submitted ..).trans passed, congrArg (·.restored) tally, congrArg (·.failed) tally⟩
  | count subscription e saga op outcome reported worker =>
    rw [worker] at calm
    cases calm

theorem step_submitting (settings : RestoreSettings) (now : Nat) (log : Log) (fresh : Ulid) (origin : Origin)
    (stopFirst : Bool) {executor : Executor} (free : executor.isHeld = false) {subscription : Subscription} {e : Entry}
    {saga : Saga} {op : Operation} (worker : s.worker = .submitting subscription e saga op) :
    ∃ executor' events, s.step settings now log fresh origin stopFirst executor =
      some ((s.count now subscription e saga op (executor.answer fresh ⟨origin, saga, op⟩).1).1, executor', events) := by
  simp only [step, worker, free, Bool.false_eq_true, if_false]
  exact ⟨_, _, rfl⟩

end Session

namespace Chronicle

variable {c c' start : Chronicle} {move : Move} {moves : List Move} {n : Nat} {s s' : Session}

def outcome? (c : Chronicle) (saga : Saga) (op : Operation) : Move → Option (Except SagaError Handoff)
  | .answer _ outcome => some outcome
  | .run _ k => some (c.system.executor.answer c.system.freshId ⟨.task k, saga, op⟩).1
  | _ => none

def verdict? (c : Chronicle) (n : Nat) (move : Move) : Option (Entry × Bool) :=
  if c.actor? move = some (.worker n) then
    match c.system.workerOf n with
    | .submitting _ entry saga op => (c.outcome? saga op move).map fun outcome => (entry, succeeded outcome)
    | _ => none
  else none

/-- The submissions of a session that the moves end, oldest first. -/
def verdicts (n : Nat) : List Move → Chronicle → List (Entry × Bool)
  | [], _ => []
  | move :: later, c => ((c.apply move).map fun c' => (c.verdict? n move).toList ++ verdicts n later c').getD []

theorem verdicts_snoc (went : run moves start = some c) (made : c.apply move = some c') :
    verdicts n (moves ++ [move]) start = verdicts n moves start ++ (c.verdict? n move).toList := by
  induction moves generalizing start with
  | nil =>
    cases went
    simp [verdicts, made]
  | cons first moves ih =>
    obtain ⟨next, one, rest⟩ := Option.bind_eq_some_iff.mp went
    simp [verdicts, one, ih rest, List.append_assoc]

theorem verdict?_of_idle (idle : c.actor? move ≠ some (.worker n)) : c.verdict? n move = none := if_neg idle

theorem verdict?_of_calm (session : c.system.session? n = some s) (calm : s.worker.inFlight = []) :
    c.verdict? n move = none := by
  unfold verdict?
  rw [System.workerOf, session, Option.map_some, Option.getD_some]
  cases worker : s.worker with
  | submitting =>
    rw [worker] at calm
    cases calm
  | _ => simp

theorem verdict?_of_submitting (made : c.apply move = some c') (actor : c.actor? move = some (.worker n))
    (session : c.system.session? n = some s) (session' : c'.system.session? n = some s') {subscription : Subscription}
    {e : Entry} {saga : Saga} {op : Operation} (worker : s.worker = .submitting subscription e saga op) :
    ∃ outcome, c.verdict? n move = some (e, succeeded outcome) ∧
      s' = (s.count c.system.now subscription e saga op outcome).1 := by
  have judged (outcome : Except SagaError Handoff) (ends : c.outcome? saga op move = some outcome) :
      c.verdict? n move = some (e, succeeded outcome) := by
    simp [verdict?, actor, System.workerOf, session, worker, ends]
  obtain ⟨k, task, ⟨stopFirst, rfl⟩ | ⟨outcome, rfl⟩⟩ := steps_of_actor actor
  · refine ⟨_, judged _ rfl, ?_⟩
    cases held : c.system.executor.isHeld with
    | true => simp [apply, System.stepTask, task, session, Session.step, worker, held] at made
    | false =>
      obtain ⟨executor, events, stepped⟩ := Session.step_submitting c.system.restore c.system.now c.system.log
        c.system.freshId (.task k) stopFirst held worker
      cases (run_worker task session stepped).symm.trans made
      exact Option.some.inj (session'.symm.trans (System.session?_setSession_self session _))
  · refine ⟨outcome, judged outcome rfl, ?_⟩
    simp only [apply, System.answered, task, session, worker, System.withSession_eq session, Option.map_some,
      Option.some.injEq] at made
    subst made
    exact Option.some.inj (session'.symm.trans (System.session?_setSession_self session _))

/-- The counters agree with what became of the submissions. -/
structure Judged (n : Nat) (moves : List Move) (start c : Chronicle) (s : Session) : Prop where
  entries : (verdicts n moves start).map Prod.fst = s.submitted (c.notes.ground n)
  restored : s.tally.restored = (verdicts n moves start).countP Prod.snd
  failed : s.tally.failed = (verdicts n moves start).countP fun judged => !judged.2

theorem judged_step (plain : Plain c) (tended : c.Tended) (went : run moves start = some c) (made : c.apply move = some c')
    (session : c.system.session? n = some s) (session' : c'.system.session? n = some s')
    (judged : Judged n moves start c s) : Judged n (moves ++ [move]) start c' s' := by
  have effect := apply_effect made
  have ground := (noted_once effect (List.getElem?_eq_some_iff.mp session).1).2
  have trusts := plain.trusts n s session
  obtain ⟨entries, restored, failed⟩ := judged
  have more := verdicts_snoc (n := n) went made
  -- A move that ends no submission of this session changes nothing.
  have silent (none : c.verdict? n move = none)
      (same : s'.submitted (c.notes.ground n) = s.submitted (c.notes.ground n) ∧ s'.tally.restored = s.tally.restored ∧
        s'.tally.failed = s.tally.failed) : Judged n (moves ++ [move]) start c' s' := by
    rw [none, Option.toList_none, List.append_nil] at more
    obtain ⟨submitted, restored', failed'⟩ := same
    exact ⟨by rw [more, entries, ground, submitted], by rw [more, restored', restored], by rw [more, failed', failed]⟩
  obtain ⟨t, found, passed⟩ := passage tended.sound.1 tended.attributed effect session
  obtain rfl : s' = t := Option.some.inj (session'.symm.trans found)
  cases passed with
  | served idle served =>
    obtain ⟨-, bounds, -, tally⟩ := served.kept
    exact silent (verdict?_of_idle idle) ⟨Session.submitted_of_same bounds (by rw [tally]) _, by rw [tally], by rw [tally]⟩
  | works k events actor task turn =>
    by_cases calm : s.worker.inFlight = []
    · exact silent (verdict?_of_calm session calm) (trusts.turn_submitted (plain.ordered _) rfl calm turn)
    · cases worker : s.worker with
      | submitting subscription e saga op =>
        obtain ⟨outcome, verdict, rfl⟩ := verdict?_of_submitting made actor session session' worker
        obtain ⟨submitted, restored', failed'⟩ := trusts.count_submitted c.system.now outcome worker
        rw [verdict, Option.toList_some] at more
        refine ⟨?_, ?_, ?_⟩
        · rw [more, List.map_append, entries, ground, submitted]
          rfl
        · rw [more, List.countP_append, ← restored, restored', List.countP_singleton]
        · rw [more, List.countP_append, ← failed, failed', List.countP_singleton]
      | _ => exact absurd (by simp [worker, Worker.inFlight]) calm

theorem judged_after {settings : Settings} {executor : Executor} (went : run moves (opened settings executor {}) = some c)
    (session : c.system.session? n = some s) : Judged n moves (opened settings executor {}) c s := by
  refine (session_along (P := fun moves => Judged n moves (opened settings executor {}))
    (Q := fun moves => verdicts n moves (opened settings executor {}) = []) rfl ?_ ?_ went).1 s session
  · intro moves move c c' went made absent nothing
    obtain ⟨-, tended, -⟩ := provident_after went
    have more := verdicts_snoc (n := n) went made
    rw [nothing, verdict?_of_idle (idle_of_absent tended absent)] at more
    refine ⟨more, fun s session fresh => ?_⟩
    rw [fresh]
    exact ⟨by rw [more]; rfl, by rw [more]; rfl, by rw [more]; rfl⟩
  · intro moves move c c' s s' went made session session' judged
    obtain ⟨plain, tended, -⟩ := provident_after went
    exact judged_step plain tended went made session session' judged

end Chronicle
end Journal
