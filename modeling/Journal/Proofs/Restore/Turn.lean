import Journal.Restore.Session

/-!
What a session can do in one turn: every step of its worker is one of six turns, and no operation of a
session touches what it was created with.
-/
namespace Journal

def Event.counted? : Event → Option Ulid
  | .ignored tx _ _ => some tx
  | .replayed replay _ | .replayFailed replay _ _ | .notSubmitted replay _ => some replay.tx
  | _ => none

/-- What is handed to the executor when a worker goes from one state to the next. -/
def Worker.handover : Worker → Worker → List (Saga × Operation)
  | .submitting .., _ => []
  | _, .submitting _ _ saga op => [(saga, op)]
  | _, _ => []

def Worker.inFlight : Worker → List (Saga × Operation)
  | .submitting _ _ saga op => [(saga, op)]
  | _ => []

theorem Worker.inFlight_of_dead {w : Worker} (dead : w.isAlive = false) : w.inFlight = [] := by
  cases w with
  | submitting => cases dead
  | _ => rfl

theorem Worker.handover_self (w : Worker) : w.handover w = [] := by
  cases w <;> rfl

theorem Worker.handover_of_calm {before after : Worker} (calm : before.inFlight = []) :
    before.handover after = after.inFlight := by
  cases before with
  | submitting => cases calm
  | _ => cases after <;> rfl

namespace Session

/-- One step of a worker with what it reports; `halt` and `heed` are the two places where a stop is noticed. -/
inductive Turn (settings : RestoreSettings) (now : Nat) (log : Log) (s : Session) : Session → List Event → Prop where
  | begin (subscription : Subscription) (worker : s.worker = .spawned subscription) :
      Turn settings now log s { s with worker := .ready subscription }
        [.restoreStarted subscription.topicName s.bounds s.ceiling]
  | halt (subscription : Subscription) (worker : s.worker = .ready subscription) (stopped : s.stopped = true) :
      Turn settings now log s (s.complete now .stopped).1 (s.complete now .stopped).2
  | listen (subscription : Subscription) (worker : s.worker = .ready subscription) (going : s.stopped = false) :
      Turn settings now log s
        { s with worker := .receiving subscription (now + settings.pollInterval) false } []
  | heed (subscription : Subscription) (deadline : Nat) (parked : Bool)
      (worker : s.worker = .receiving subscription deadline parked) (permit : s.stopPermit = true) :
      Turn settings now log s ({ s with stopPermit := false }.complete now .stopped).1
        ({ s with stopPermit := false }.complete now .stopped).2
  | receive (subscription : Subscription) (deadline : Nat) (parked : Bool) (result : Reported)
      (worker : s.worker = .receiving subscription deadline parked)
      (received : s.receive settings now log subscription deadline parked = some result) :
      Turn settings now log s result.1 result.2
  | count (subscription : Subscription) (entry : Entry) (saga : Saga) (op : Operation)
      (outcome : Except SagaError Handoff) (reported : List Event)
      (worker : s.worker = .submitting subscription entry saga op)
      (silent : ∀ e ∈ reported, ∃ saga execution op, e = .sagaExecuted saga execution op) :
      Turn settings now log s (s.count now subscription entry saga op outcome).1
        (reported ++ (s.count now subscription entry saga op outcome).2)

theorem counted_of_executed {reported : List Event}
    (silent : ∀ e ∈ reported, ∃ saga execution op, e = .sagaExecuted saga execution op) :
    reported.filterMap Event.counted? = [] := by
  apply List.filterMap_eq_nil_iff.mpr
  intro e member
  obtain ⟨_, _, _, rfl⟩ := silent e member
  rfl

theorem answer_reports_execution {fresh : Ulid} {submission : Submission} {executor executor' : Executor}
    {outcome : Except SagaError Handoff} {reported : List Event}
    (h : executor.answer fresh submission = (outcome, executor', reported)) :
    ∀ e ∈ reported, ∃ saga execution op, e = Event.sagaExecuted saga execution op := by
  cases executor with
  | recording r =>
    simp only [Executor.answer] at h
    cases h
    simp
  | logging =>
    simp only [Executor.answer] at h
    cases h
    simp

theorem step_turn {settings : RestoreSettings} {now : Nat} {log : Log} {fresh : Ulid} {origin : Origin}
    {stopFirst : Bool} {executor executor' : Executor} {s s' : Session} {events : List Event}
    (h : s.step settings now log fresh origin stopFirst executor = some (s', executor', events)) :
    Turn settings now log s s' events := by
  unfold step at h
  split at h
  · cases h
  · cases h
  · rename_i subscription worker
    cases h
    exact .begin subscription worker
  · rename_i subscription worker
    split at h
    · rename_i stopped
      cases h
      exact .halt subscription worker stopped
    · rename_i going
      cases h
      exact .listen subscription worker (by simpa using going)
  · rename_i subscription deadline parked worker
    -- Whichever of the two is taken first, the choice is a stop that is heeded or a receive that ended.
    obtain ⟨result, chosen, told⟩ := Option.map_eq_some_iff.mp h
    have kept : result.1 = s' ∧ result.2 = events := by
      simp only at told
      split at told <;> simp only [Prod.mk.injEq] at told <;> exact ⟨told.1, told.2.2⟩
    obtain ⟨rfl, rfl⟩ := kept
    have either : s.heedStop now = some result ∨
        s.receive settings now log subscription deadline parked = some result := by
      split at chosen
      · rcases Option.or_eq_some_iff.mp chosen with heeded | ⟨-, received⟩
        · exact .inl heeded
        · exact .inr received
      · rcases Option.or_eq_some_iff.mp chosen with received | ⟨-, heeded⟩
        · exact .inr received
        · exact .inl heeded
    rcases either with heeded | received
    · simp only [heedStop] at heeded
      split at heeded
      · rename_i permit
        cases heeded
        exact .heed subscription deadline parked worker permit
      · cases heeded
    · exact .receive subscription deadline parked result worker received
  · rename_i subscription entry saga op worker
    split at h
    · cases h
    · cases h
      exact .count subscription entry saga op _ _ worker (answer_reports_execution rfl)

structure Continues (s s' : Session) : Prop where
  source : s'.source = s.source
  bounds : s'.bounds = s.bounds
  ceiling : s'.ceiling = s.ceiling
  execution : s'.executionId = s.executionId
  created : s'.createdAt = s.createdAt
  started : s'.started = s.started
  done : s.done = true → s'.done = true
  stopped : s.stopped = true → s'.stopped = true
  born : s.worker ≠ .unborn → s'.worker ≠ .unborn

theorem Continues.refl (s : Session) : Continues s s := ⟨rfl, rfl, rfl, rfl, rfl, rfl, fun h => h, fun h => h, fun h => h⟩

theorem Continues.trans {a b c : Session} (first : Continues a b) (second : Continues b c) : Continues a c where
  source := second.source.trans first.source
  bounds := second.bounds.trans first.bounds
  ceiling := second.ceiling.trans first.ceiling
  execution := second.execution.trans first.execution
  created := second.created.trans first.created
  started := second.started.trans first.started
  done := second.done ∘ first.done
  stopped := second.stopped ∘ first.stopped
  born := second.born ∘ first.born

theorem works_continues (s : Session) {w : Worker} (born : w ≠ .unborn) : Continues s { s with worker := w } :=
  ⟨rfl, rfl, rfl, rfl, rfl, rfl, fun h => h, fun h => h, fun _ => born⟩

theorem counted_continues (s : Session) (tally : Tally) : Continues s { s with tally } :=
  ⟨rfl, rfl, rfl, rfl, rfl, rfl, fun h => h, fun h => h, fun h => h⟩

theorem complete_continues (now : Nat) (reason : Finish) (s : Session) :
    Continues s (s.complete now reason).1 :=
  ⟨rfl, rfl, rfl, rfl, rfl, rfl, fun _ => rfl, fun h => h, fun _ unborn => by cases unborn⟩

theorem abort_continues (now : Nat) (error : RestoreError) (s : Session) : Continues s (s.abort now error).1 :=
  ⟨rfl, rfl, rfl, rfl, rfl, rfl, fun _ => rfl, fun h => h, fun _ unborn => by cases unborn⟩

theorem proceed_continues (now : Nat) (subscription : Subscription) (id : Ulid) (s : Session) :
    Continues s (s.proceed now subscription id).1 := by
  simp only [proceed]
  split
  · exact complete_continues now .reachedCeiling s
  · exact works_continues s nofun

theorem ignore_continues (policy : UnrecognizedPolicy) (now : Nat) (subscription : Subscription) (entry : Entry)
    (method : Method) (s : Session) : Continues s (s.ignore policy now subscription entry method).1 := by
  have counted := counted_continues s s.tally.ignore
  cases policy with
  | ignore => exact counted.trans (proceed_continues now subscription entry.id _)
  | abort => exact counted.trans (abort_continues now _ _)

theorem deliver_continues (policy : UnrecognizedPolicy) (now : Nat) (subscription : Subscription)
    (entry : Entry) (s : Session) : Continues s (s.deliver policy now subscription entry).1 := by
  unfold deliver
  split
  · exact complete_continues now .reachedEnd s
  · split
    · exact complete_continues now .reachedCeiling s
    · split
      · exact abort_continues now _ s
      · split
        · exact ignore_continues policy now subscription entry _ s
        · exact works_continues s nofun

theorem receive_continues {settings : RestoreSettings} {now : Nat} {log : Log} {subscription : Subscription}
    {deadline : Nat} {parked : Bool} {s : Session} {result : Reported}
    (h : s.receive settings now log subscription deadline parked = some result) : Continues s result.1 := by
  unfold receive at h
  split at h
  · cases h
    exact deliver_continues _ now _ _ s
  · cases h
    exact works_continues s nofun
  · cases h
    exact abort_continues now _ s
  · split at h
    · cases h
    · cases h
      exact works_continues s nofun

theorem count_spec (now : Nat) (subscription : Subscription) (entry : Entry) (saga : Saga) (op : Operation)
    (outcome : Except SagaError Handoff) (s : Session) :
    ∃ tally event, (tally = s.tally.restore ∨ tally = s.tally.fail) ∧ event.counted? = some entry.id ∧
      (s.count now subscription entry saga op outcome).1 = ({ s with tally }.proceed now subscription entry.id).1 ∧
      (s.count now subscription entry saga op outcome).2 =
        event :: ({ s with tally }.proceed now subscription entry.id).2 := by
  cases outcome with
  | error error =>
    exact ⟨s.tally.fail, .notSubmitted ⟨entry.id, saga, op.resource⟩ error.message, .inr rfl, rfl, rfl, rfl⟩
  | ok handoff =>
    cases success : handoff.success with
    | true =>
      refine ⟨s.tally.restore, .replayed ⟨entry.id, saga, op.resource⟩ handoff.executionId, .inl rfl, rfl, ?_, ?_⟩
        <;> simp [count, success]
    | false =>
      refine ⟨s.tally.fail, .replayFailed ⟨entry.id, saga, op.resource⟩ handoff.executionId handoff.failureCause,
        .inr rfl, rfl, ?_, ?_⟩ <;> simp [count, success]

theorem count_continues (now : Nat) (subscription : Subscription) (entry : Entry) (saga : Saga) (op : Operation)
    (outcome : Except SagaError Handoff) (s : Session) :
    Continues s (s.count now subscription entry saga op outcome).1 := by
  obtain ⟨tally, event, -, -, same, -⟩ := count_spec now subscription entry saga op outcome s
  rw [same]
  exact (counted_continues s tally).trans (proceed_continues now subscription entry.id _)

theorem turn_continues {settings : RestoreSettings} {now : Nat} {log : Log} {s s' : Session}
    {events : List Event} (turn : Turn settings now log s s' events) : Continues s s' := by
  cases turn with
  | begin | listen => exact works_continues s nofun
  | halt => exact complete_continues now .stopped s
  | heed =>
    have used : Continues s { s with stopPermit := false } :=
      ⟨rfl, rfl, rfl, rfl, rfl, rfl, fun h => h, fun h => h, fun h => h⟩
    exact used.trans (complete_continues now .stopped _)
  | receive subscription deadline parked result worker received => exact receive_continues received
  | count subscription entry saga op outcome => exact count_continues now subscription entry saga op outcome s

theorem turn_worker_born {settings : RestoreSettings} {now : Nat} {log : Log} {s s' : Session}
    {events : List Event} (turn : Turn settings now log s s' events) : s.worker ≠ .unborn := by
  intro unborn
  cases turn <;> simp_all

theorem turn_alive {settings : RestoreSettings} {now : Nat} {log : Log} {s s' : Session} {events : List Event}
    (turn : Turn settings now log s s' events) : s.worker.isAlive = true := by
  cases turn <;> simp_all [Worker.isAlive]

theorem stop_cases (s : Session) :
    s.stop.1 = s ∨ s.done = false ∧ s.stop.1 = { s with stopped := true, stopPermit := true } := by
  cases going : s.done with
  | true => exact .inl (by simp [stop, going])
  | false => exact .inr ⟨rfl, by simp [stop, going]⟩

theorem stop_flags (s : Session) : ∃ stopped stopPermit : Bool, s.stop.1 = { s with stopped, stopPermit } := by
  rcases s.stop_cases with same | ⟨-, marked⟩
  · exact ⟨s.stopped, s.stopPermit, same⟩
  · exact ⟨true, true, marked⟩

theorem stop_tells (s : Session) : ∀ e ∈ s.stop.2, e = .stopRequested s.source s.executionId := by
  intro e member
  unfold stop at member
  split at member
  · cases member
  · simp only at member
    split at member
    · cases member
    · exact List.mem_singleton.mp member

theorem stop_continues (s : Session) : Continues s s.stop.1 := by
  rcases s.stop_cases with same | ⟨-, marked⟩
  · rw [same]
    exact .refl s
  · rw [marked]
    exact ⟨rfl, rfl, rfl, rfl, rfl, rfl, fun h => h, fun _ => rfl, fun h => h⟩

theorem stop_worker (s : Session) : s.stop.1.worker = s.worker ∧ s.stop.1.done = s.done := by
  obtain ⟨stopped, stopPermit, marked⟩ := s.stop_flags
  rw [marked]
  exact ⟨rfl, rfl⟩

end Session
end Journal
