import Journal.Proofs.Restore.Tending

/-!
What the recording executor has recorded. The step that ends a submission records it, unless the executor is unavailable
then; what an executor of another kind answers is not recorded. So the submissions of a session are its handovers that
were answered while the executor was available, in their order, and a session that was never refused has submitted
exactly what it replayed.
-/
namespace Journal

namespace Executor

def records : Executor → Bool
  | .recording r => !r.unavailable
  | .logging => false

theorem submissions_enter (executor : Executor) : executor.enter.submissions = executor.submissions := by
  cases executor <;> rfl

theorem submissions_answer (fresh : Ulid) (submission : Submission) (executor : Executor) :
    (executor.answer fresh submission).2.1.submissions =
      executor.submissions ++ if executor.records then [submission] else [] := by
  cases executor with
  | logging => rfl
  | recording r =>
    cases down : r.unavailable <;> simp [answer, Recorder.answer, records, submissions, down]

end Executor

namespace Session

variable {s s' : Session} {settings : RestoreSettings} {now : Nat} {log : Log} {events : List Event}

theorem proceed_calm (now : Nat) (subscription : Subscription) (id : Ulid) (s : Session) :
    (s.proceed now subscription id).1.worker.inFlight = [] := by
  unfold proceed
  split <;> rfl

theorem turn_flight (turn : s.Turn settings now log s' events) : s.worker.handover s'.worker = s'.worker.inFlight := by
  cases turn with
  | begin _ worker | halt _ worker | listen _ worker | heed _ _ _ worker | receive _ _ _ _ worker =>
    exact Worker.handover_of_calm (by rw [worker]; rfl)
  | count subscription e saga op outcome reported worker =>
    obtain ⟨tally, event, -, -, after, -⟩ := s.count_spec now subscription e saga op outcome
    rw [after, proceed_calm, worker]
    rfl

theorem Served.flight (served : s.Served now s') : s'.worker.inFlight = s.worker.inFlight := by
  cases served with
  | stays | claim | skip | refuse => rfl
  | stop => rw [s.stop_worker.1]
  | spawn unborn =>
    rw [unborn]
    rfl

theorem step_submissions {fresh : Ulid} {origin : Origin} {stopFirst : Bool} {executor executor' : Executor}
    (stepped : s.step settings now log fresh origin stopFirst executor = some (s', executor', events)) :
    executor'.submissions = executor.submissions ++
      if executor.records then s.worker.inFlight.map fun handed => ⟨origin, handed.1, handed.2⟩ else [] := by
  unfold step at stepped
  cases worker : s.worker with
  | unborn | ended => simp [worker] at stepped
  | spawned subscription =>
    simp only [worker, Option.some.injEq, Prod.mk.injEq] at stepped
    simp [← stepped.2.1, Worker.inFlight]
  | ready subscription =>
    simp only [worker] at stepped
    split at stepped <;> cases stepped <;> simp [Worker.inFlight]
  | receiving subscription deadline parked =>
    simp only [worker] at stepped
    obtain ⟨result, -, made⟩ := Option.map_eq_some_iff.mp stepped
    split at made <;> cases made <;> simp [Worker.inFlight, Executor.submissions_enter]
  | submitting subscription e saga op =>
    simp only [worker] at stepped
    split at stepped
    · cases stepped
    · cases stepped
      exact Executor.submissions_answer ..

end Session

namespace System

variable {origin : Origin} {sys sys' : System}

def submittedBy (sys : System) (n : Nat) : List (Saga × Operation) :=
  sys.executor.submissions.filterMap fun s => if sys.worksFor n s.origin then some (s.saga, s.operation) else none

def Accounted (sys : System) : Prop :=
  ∀ s ∈ sys.executor.submissions, ∃ k n : Nat, s.origin = .task k ∧ sys.tasks[k]? = some (.worker n)

theorem turn_executor {call : StartCall} {phase : StartPhase} (turn : CallTurn origin call sys phase sys') :
    sys'.executor = sys.executor := by
  cases turn with
  | read _ _ _ _ _ asked => exact (inquire_spec asked).1.executor
  | spawn _ _ _ _ _ _ opened => exact (subscribeFrom_spec opened).1.executor
  | refuse _ _ _ _ _ _ failed => exact (subscribeFrom_spec failed).1.executor
  | _ => rfl

theorem withSession_executor (n : Nat) (act : Session → Reported) (sys : System) :
    (sys.withSession origin n act).executor = sys.executor := by
  unfold withSession
  split <;> rfl

theorem answered_executor {task : Nat} {outcome : Except SagaError Handoff} (h : sys.answered task outcome = some sys') :
    sys'.executor = sys.executor := by
  unfold answered at h
  split at h
  · split at h
    · split at h
      · cases h
        exact withSession_executor ..
      · cases h
    · cases h
  · cases h

theorem startSession_executor (n : Nat) (sys : System) : (sys.startSession origin n).2.executor = sys.executor := by
  unfold startSession
  rcases claimSession_cases origin n sys with
    ⟨same, -⟩ | ⟨s, session, unclaimed, ⟨nothing, same⟩ | ⟨something, same⟩⟩ <;> rw [same]
  · rfl
  · have claimed : (sys.setSession n { s with started := true }).session? n = some { s with started := true } :=
      session?_setSession_self session _
    rcases openSession_cases origin claimed with ⟨subscription, sys', opened, result⟩ | ⟨error, sys', opened, result⟩ <;>
      simp only [result] <;> exact (subscribeFrom_spec opened).1.executor

end System

namespace Chronicle

variable {c c' : Chronicle} {move : Move} {moves : List Move} {n : Nat}

def records (c : Chronicle) : Move → Bool
  | .run .. => c.system.executor.records
  | _ => false

def recorded (c : Chronicle) : Move → List Submission
  | .run _ k =>
    match c.system.tasks[k]? with
    | some (.worker m) =>
      if c.system.executor.records then
        (c.system.workerOf m).inFlight.map fun handed => ⟨.task k, handed.1, handed.2⟩
      else []
    | _ => []
  | _ => []

def ending (c : Chronicle) (n : Nat) (move : Move) : List ((Saga × Operation) × Bool) :=
  if c.actor? move = some (.worker n) then (c.system.workerOf n).inFlight.map (·, c.records move) else []

/-- The submissions of a session that the moves end, oldest first, each with whether it is recorded. -/
def endings (n : Nat) : List Move → Chronicle → List ((Saga × Operation) × Bool)
  | [], _ => []
  | move :: later, c => ((c.apply move).map fun c' => c.ending n move ++ endings n later c').getD []

/-- Whatever the executor is told, it keeps what it has recorded. -/
def Recalls (c : Chronicle) : Move → Prop
  | .engine executor => executor.submissions = c.system.executor.submissions
  | _ => True

def Remembers : List Move → Chronicle → Prop
  | [], _ => True
  | move :: later, c => c.Recalls move ∧ ∀ c', c.apply move = some c' → Remembers later c'

theorem stepTask_recorded {stopFirst : Bool} {k : Nat} {sys : System}
    (taken : c.system.stepTask stopFirst k = some sys) :
    sys.executor.submissions = c.system.executor.submissions ++ c.recorded (.run stopFirst k) := by
  cases task : c.system.tasks[k]? with
  | none =>
    simp only [System.stepTask, task] at taken
    cases taken
  | some t =>
    simp only [System.stepTask, task] at taken
    cases t with
    | start call =>
      obtain ⟨⟨call', next⟩, stepped, set⟩ := Option.map_eq_some_iff.mp taken
      cases set
      have kept : next.executor = c.system.executor := System.turn_executor (System.startStep_turn stepped).1
      simp [recorded, task, System.setTask, kept]
    | reception reception =>
      obtain ⟨next, -, set⟩ := Option.map_eq_some_iff.mp taken
      cases set
      simp [recorded, task, System.setTask]
    | worker m =>
      obtain ⟨s, session, goes⟩ := Option.bind_eq_some_iff.mp taken
      obtain ⟨⟨s', executor, events⟩, stepped, set⟩ := Option.bind_eq_some_iff.mp goes
      cases set
      simp only [recorded, task, System.workerOf, session, Option.map_some, Option.getD_some]
      exact Session.step_submissions stepped

theorem apply_recorded (made : c.apply move = some c') (recalls : c.Recalls move) :
    c'.system.executor.submissions = c.system.executor.submissions ++ c.recorded move := by
  have same (silent : c.recorded move = []) (kept : c'.system.executor = c.system.executor) :
      c'.system.executor.submissions = c.system.executor.submissions ++ c.recorded move := by
    rw [kept, silent, List.append_nil]
  cases move with
  | engine executor =>
    cases made
    exact recalls.trans (List.append_nil _).symm
  | openProducer topic =>
    cases made
    exact same rfl (System.openProducer_spec (rfl : c.system.openProducer .caller topic = _)).1.executor
  | producer source =>
    cases made
    exact same rfl (System.producer_spec (rfl : c.system.producer .caller source = _)).1.executor
  | publish topic entry =>
    cases made
    exact same rfl (System.publish_spec (rfl : c.system.publish .caller topic entry = _)).1.executor
  | append step source op =>
    rcases written : c.system.append .caller step source op with ⟨result, sys⟩
    have kept := (System.append_spec written).1.executor
    simp only [apply, written] at made
    cases result with
    | error | ok =>
      cases made
      exact same rfl kept
  | subscribe topic start =>
    cases made
    exact same rfl (System.subscribe_spec (rfl : c.system.subscribe .caller topic start = _)).1.executor
  | outage | clock | listen | call | spawn | create =>
    cases made
    exact same rfl rfl
  | answer task outcome =>
    obtain ⟨sys', answered, rfl⟩ := Option.map_eq_some_iff.mp made
    exact same rfl (System.answered_executor answered)
  | advance i =>
    obtain ⟨call, -, made⟩ := Option.bind_eq_some_iff.mp made
    obtain ⟨⟨call', sys⟩, taken, made⟩ := Option.bind_eq_some_iff.mp made
    cases made
    exact same rfl (System.turn_executor (System.startStep_turn taken).1)
  | start n =>
    simp only [apply] at made
    split at made
    · cases made
      exact same rfl (System.startSession_executor n c.system)
    · cases made
  | stop n =>
    cases made
    exact same rfl (System.withSession_executor ..)
  | stopSource source =>
    cases made
    refine same rfl ?_
    unfold System.stop
    split
    · rfl
    · exact System.withSession_executor ..
  | run stopFirst k =>
    obtain ⟨sys, taken, made⟩ := Option.bind_eq_some_iff.mp made
    have after : c'.system = sys := by
      split at made <;> cases made <;> rfl
    rw [after]
    exact stepTask_recorded taken

theorem accounted_step (accounted : c.system.Accounted) (made : c.apply move = some c')
    (recalls : c.Recalls move) : c'.system.Accounted := by
  have stay := workers_stay (apply_effect made)
  intro s member
  rw [apply_recorded made recalls] at member
  rcases List.mem_append.mp member with before | new
  · obtain ⟨k, n, origin, task⟩ := accounted s before
    exact ⟨k, n, origin, stay k n task⟩
  · unfold recorded at new
    split at new
    · split at new
      · rename_i k _ m task
        split at new
        · obtain ⟨handed, -, rfl⟩ := List.mem_map.mp new
          exact ⟨k, m, rfl, stay k m task⟩
        · cases new
      · cases new
    · cases new

theorem recorded_ending (stay : System.WorkersStay c.system c'.system) (n : Nat) (move : Move) :
    ((c.recorded move).filterMap fun s => if c'.system.worksFor n s.origin then some (s.saga, s.operation) else none) =
      ((c.ending n move).filter Prod.snd).map Prod.fst := by
  cases move with
  | run stopFirst k =>
    simp only [recorded, ending]
    split
    · rename_i m task
      have works : c'.system.worksFor n (.task k) = (m == n) := by simp [System.worksFor, stay k m task]
      have actor : c.actor? (.run stopFirst k) = some (.worker m) := (actor_run_iff stopFirst).mpr task
      by_cases own : m = n
      · subst own
        cases available : c.system.executor.records <;>
          simp [actor, records, available, works, List.filterMap_map, List.filter_map, Function.comp_def]
      · split <;> simp [actor, works, own, List.filterMap_map]
    · rename_i nobody
      rw [if_neg fun actor => nobody n ((actor_run_iff stopFirst).mp actor)]
      rfl
  | _ =>
    -- A submission that ends without a turn of its worker is not recorded.
    unfold ending
    split <;> simp [recorded, records]

theorem submitted_step (accounted : c.system.Accounted) (made : c.apply move = some c')
    (recalls : c.Recalls move) (n : Nat) :
    c'.system.submittedBy n = c.system.submittedBy n ++ ((c.ending n move).filter Prod.snd).map Prod.fst := by
  have stay := workers_stay (apply_effect made)
  have before : (c.system.executor.submissions.filterMap fun s =>
      if c'.system.worksFor n s.origin then some (s.saga, s.operation) else none) = c.system.submittedBy n := by
    apply List.filterMap_congr
    intro s member
    obtain ⟨k, m, origin, task⟩ := accounted s member
    rw [origin, System.worksFor_stays stay task]
  rw [System.submittedBy, apply_recorded made recalls, List.filterMap_append, before, recorded_ending stay]

theorem flight_step (tended : c.Tended) (made : c.apply move = some c') (n : Nat) :
    (c.system.workerOf n).inFlight ++ (c.system.workerOf n).handover (c'.system.workerOf n) =
      (c.ending n move).map Prod.fst ++ (c'.system.workerOf n).inFlight := by
  have effect := apply_effect made
  cases session : c.system.session? n with
  | none =>
    have idle : ¬ (c.actor? move = some (.worker n)) := idle_of_absent tended session
    obtain ⟨before, after⟩ := unborn_of_absent effect session
    rw [after, before, ending, if_neg idle]
    rfl
  | some s =>
    obtain ⟨s', session', passed⟩ := passage tended.sound.1 tended.attributed effect session
    have before : c.system.workerOf n = s.worker := by simp [System.workerOf, session]
    have after : c'.system.workerOf n = s'.worker := by simp [System.workerOf, session']
    rw [ending, before, after]
    cases passed with
    | works k events actor task turn =>
      rw [if_pos actor, Session.turn_flight turn, List.map_map]
      exact congrArg (· ++ s'.worker.inFlight) (List.map_id _).symm
    | served idle served =>
      rw [if_neg idle, served.no_handover, served.flight, List.append_nil]
      rfl

theorem endings_run {before submitted : List (Saga × Operation)} (tended : c.Tended) (accounted : c.system.Accounted)
    (remembers : Remembers moves c) (went : run moves c = some c')
    (handed : c.notes.handed n = before ++ (c.system.workerOf n).inFlight) (recorded : c.system.submittedBy n = submitted) :
    c'.notes.handed n = before ++ (endings n moves c).map Prod.fst ++ (c'.system.workerOf n).inFlight ∧
      c'.system.submittedBy n = submitted ++ ((endings n moves c).filter Prod.snd).map Prod.fst := by
  induction moves generalizing c before submitted with
  | nil =>
    cases went
    exact ⟨by rw [handed]; simp [endings], by rw [recorded]; simp [endings]⟩
  | cons move moves ih =>
    obtain ⟨next, made, rest⟩ := Option.bind_eq_some_iff.mp went
    obtain ⟨recalls, later⟩ := remembers
    have noted : next.notes.handed n = c.notes.handed n ++ (c.system.workerOf n).handover (next.system.workerOf n) :=
      congrFun (effect_handed (apply_effect made)) n
    have handed' : next.notes.handed n =
        before ++ (c.ending n move).map Prod.fst ++ (next.system.workerOf n).inFlight := by
      rw [noted, handed, List.append_assoc, flight_step tended made, List.append_assoc]
    have recorded' := submitted_step accounted made recalls n
    rw [recorded] at recorded'
    obtain ⟨handed, recorded⟩ := ih (tended_step tended (apply_effect made)) (accounted_step accounted made recalls)
      (later next made) rest handed' recorded'
    have all : endings n (move :: moves) c = c.ending n move ++ endings n moves next := by simp [endings, made]
    rw [all, List.map_append, List.filter_append, List.map_append]
    exact ⟨by rw [handed]; simp only [List.append_assoc], by rw [recorded]; simp only [List.append_assoc]⟩

variable {settings : Settings} {executor : Executor} {script : Script}

/-- The submissions of a session are those of its handovers that an available executor has answered. -/
theorem submissions_are_answered_handovers (unused : executor.submissions = [])
    (remembers : Remembers moves (opened settings executor script))
    (went : run moves (opened settings executor script) = some c) (n : Nat) :
    c.notes.handed n =
        (endings n moves (opened settings executor script)).map Prod.fst ++ (c.system.workerOf n).inFlight ∧
      c.system.submittedBy n =
        ((endings n moves (opened settings executor script)).filter Prod.snd).map Prod.fst := by
  have none : (opened settings executor script).system.executor.submissions = [] := unused
  have accounted : (opened settings executor script).system.Accounted := by simp [System.Accounted, none]
  have first : (opened settings executor script).notes.handed n =
      [] ++ ((opened settings executor script).system.workerOf n).inFlight := rfl
  have nothing : (opened settings executor script).system.submittedBy n = [] := by simp [System.submittedBy, none]
  exact endings_run (tended_opened ..) accounted remembers went first nothing

/-- A session whose submissions were all recorded has submitted the replayed entries that it has counted. -/
theorem submissions_are_replayed_entries (unused : executor.submissions = [])
    (remembers : Remembers moves (opened settings executor {}))
    (went : run moves (opened settings executor {}) = some c) {s : Session} (session : c.system.session? n = some s)
    (available : ∀ ending ∈ endings n moves (opened settings executor {}), ending.2 = true) :
    c.system.submittedBy n = ((c.dueTo n s).take s.tally.total).filterMap Entry.replay? := by
  obtain ⟨handed, submitted⟩ := submissions_are_answered_handovers unused remembers went n
  have plain := plain_after went
  have exact := (exactReplay_of_trusts plain.ordered (plain.trusts n s session)).handed
  have worker : c.system.workerOf n = s.worker := by simp [System.workerOf, session]
  rw [handed, worker] at exact
  rw [submitted, List.filter_eq_self.mpr available]
  exact List.append_cancel_right exact

def refusedOnce : List Move :=
  let first : Operation :=
    { tx := .ofNat 5, method := .put, schema := "person", space := "people", entity := "Person", id := "p1"
      version := ⟨0, 0, 0⟩, body := none }
  [.append .put none first, .append .delete none { first with tx := .ofNat 6 }, .call none {}, .advance 0, .advance 0,
    .advance 0, .advance 0, .advance 0, .advance 0, .run true 0, .run true 0, .run true 0,
    .engine (.recording { unavailable := true }), .run true 0, .engine (.recording {}), .run true 0, .run true 0,
    .run true 0]

example : (run refusedOnce (opened {} (.recording {}) {})).map (fun c =>
      ((c.notes.handed 0).map fun handed => handed.2.tx, (c.system.submittedBy 0).map fun handed => handed.2.tx)) =
    some ([.ofNat 5, .ofNat 6], [.ofNat 6]) := by
  decide +kernel

end Chronicle
end Journal
