import Journal.Proofs.Restore.Lifecycle
import Journal.Proofs.Restore.Replay

/-!
What one move does to one session, whatever consumers and answers were prepared. Its worker takes a turn, or somebody
else serves it: starts it, stops it or leaves it alone. Every session that is there before a move goes through one of
these passages, and every other one is new after it.
-/
namespace Journal

namespace Session

/-- What is done to a session by others than its worker. -/
inductive Served (now : Nat) (s : Session) : Session → Prop where
  | stays : Served now s s
  | stop : Served now s s.stop.1
  | claim (unclaimed : s.started = false) (something : s.nothingToReplay = false) :
      Served now s { s with started := true }
  | skip (unclaimed : s.started = false) (nothing : s.nothingToReplay = true) :
      Served now s ({ s with started := true }.finish now)
  | spawn (unborn : s.worker = .unborn) (going : s.done = false) (subscription : Subscription) :
      Served now s ({ s with started := true }.spawn subscription)
  | refuse (unborn : s.worker = .unborn) (going : s.done = false) (error : TransportError) :
      Served now s ({ s with started := true }.failOpening now error).1

def Fresh (s : Session) : Prop :=
  s = { source := s.source, executionId := s.executionId, bounds := s.bounds, ceiling := s.ceiling
        createdAt := s.createdAt }

variable {now : Nat} {s s' : Session}

theorem Served.no_handover (served : s.Served now s') : s.worker.handover s'.worker = [] := by
  cases served with
  | stays | claim | skip | refuse => exact Worker.handover_self _
  | stop => rw [s.stop_worker.1, Worker.handover_self]
  | spawn unborn going subscription =>
    rw [unborn]
    rfl

theorem Served.kept (served : s.Served now s') :
    s'.source = s.source ∧ s'.bounds = s.bounds ∧ s'.ceiling = s.ceiling ∧ s'.tally = s.tally := by
  cases served with
  | stop =>
    obtain ⟨_, _, marked⟩ := s.stop_flags
    rw [marked]
    exact ⟨rfl, rfl, rfl, rfl⟩
  | _ => exact ⟨rfl, rfl, rfl, rfl⟩

theorem Served.spawn_claimed (claimed : s.started = true) (unborn : s.worker = .unborn) (going : s.done = false)
    (subscription : Subscription) : s.Served now (s.spawn subscription) := by
  have served : s.Served now ({ s with started := true }.spawn subscription) := .spawn unborn going subscription
  rwa [← claimed] at served

theorem Served.refuse_claimed (claimed : s.started = true) (unborn : s.worker = .unborn) (going : s.done = false)
    (error : TransportError) : s.Served now (s.failOpening now error).1 := by
  have served : s.Served now ({ s with started := true }.failOpening now error).1 := .refuse unborn going error
  rwa [← claimed] at served

end Session

namespace Chronicle

/-- What a move makes of a session: a turn of its worker, or what is done to it by others. -/
inductive Passage (c c' : Chronicle) (move : Move) (n : Nat) (s s' : Session) : Prop where
  | works (k : Nat) (events : List Event) (actor : c.actor? move = some (.worker n))
      (task : c.system.tasks[k]? = some (.worker n))
      (turn : s.Turn c.system.restore c.system.now c.system.log s' events)
      (reports : c'.system.reports = events.reverse.map (.task k, ·) ++ c.system.reports)
      (counted : c'.system.countedBy n = c.system.countedBy n ++ events.filterMap Event.counted?)
  | served (idle : c.actor? move ≠ some (.worker n)) (served : s.Served c.system.now s')
      (counted : c'.system.countedBy n = c.system.countedBy n)

variable {c c' : Chronicle} {move : Move}

theorem handed_of_watch (handed : c'.notes.handed = (c.notes.watch c.system c'.system).handed) {n : Nat} {s s' : Session}
    (session : c.system.session? n = some s) (session' : c'.system.session? n = some s') :
    c'.notes.handed n = c.notes.handed n ++ s.worker.handover s'.worker := by
  simp [handed, Notes.watch, System.workerOf, session, session']

theorem actor_of_stops (asked : move.stops = true) : c.actor? move = none := by
  cases move <;> first | rfl | cases asked

theorem actor_run_iff {n k : Nat} (stopFirst : Bool) :
    c.actor? (.run stopFirst k) = some (.worker n) ↔ c.system.tasks[k]? = some (.worker n) := by
  constructor
  · intro actor
    simp only [actor?] at actor
    split at actor
    · rename_i m task
      cases actor
      exact task
    · cases actor
    · cases actor
  · intro task
    simp [actor?, task]

theorem steps_of_actor {n : Nat} (actor : c.actor? move = some (.worker n)) :
    ∃ k : Nat, c.system.tasks[k]? = some (.worker n) ∧
      ((∃ stopFirst, move = .run stopFirst k) ∨ ∃ outcome, move = .answer k outcome) := by
  cases move with
  | run stopFirst k => exact ⟨k, (actor_run_iff stopFirst).mp actor, .inl ⟨stopFirst, rfl⟩⟩
  | answer k outcome => exact ⟨k, (actor_run_iff true).mp actor, .inr ⟨outcome, rfl⟩⟩
  | _ => cases actor

theorem effect_handed (effect : Effect move c c') :
    c'.notes.handed = (c.notes.watch c.system c'.system).handed := by
  cases effect with
  | aside frame | stopped _ _ frame | turned _ _ _ _ _ frame | skipped _ _ frame | spawned _ _ _ frame
  | refused _ _ _ frame => exact frame.notes.handed
  | called id source bounds fresh calls slots sessions workers reports notes =>
    rw [notes.handed]
    funext n
    simp [Notes.watch, System.workerOf_eq sessions, Worker.handover_self]
  | created source bounds execution time sessions slots calls workers reports notes => exact notes.handed
  | stepped origin id call phase sys current turn calls sessions slots workers reports notes =>
    rw [notes, follow_handed]
    funext n
    simp [Notes.watch, System.workerOf_eq sessions]

theorem workers_stay (effect : Effect move c c') : System.WorkersStay c.system c'.system := by
  cases effect with
  | aside _ _ workers | called _ _ _ _ _ _ _ workers | created _ _ _ _ _ _ _ workers | stopped _ _ _ _ _ workers
  | turned _ _ _ _ _ _ _ _ _ _ workers | skipped _ _ _ _ _ _ _ _ workers | refused _ _ _ _ _ _ _ _ _ workers =>
    exact System.workersStay_of_same workers
  | spawned _ _ _ _ _ _ _ _ _ _ tasks => exact System.workersStay_of_append tasks
  | stepped origin id call phase sys current turn calls sessions slots workers =>
    obtain ⟨more, tasks, -⟩ := turn_tasks turn
    exact fun k n task => (workers k n).mpr (System.workersStay_of_append tasks k n task)

theorem effect_counted (attributed : c.system.Attributed) (effect : Effect move c c') :
    c'.system.Attributed ∧ ∀ n, c.actor? move ≠ some (.worker n) → c'.system.countedBy n = c.system.countedBy n := by
  have stay := workers_stay effect
  cases effect with
  | aside _ _ _ quiet | stopped _ _ _ _ _ _ quiet | skipped _ _ _ _ _ _ _ _ _ quiet
  | refused _ _ _ _ _ _ _ _ _ _ quiet | spawned _ _ _ _ _ _ _ _ _ _ _ quiet =>
    obtain ⟨attributed, counted⟩ := System.countedBy_quiet attributed stay quiet
    exact ⟨attributed, fun n _ => counted n⟩
  | called _ _ _ _ _ _ _ _ reports | created _ _ _ _ _ _ _ _ reports =>
    obtain ⟨attributed, counted⟩ := System.countedBy_silent attributed stay reports
    exact ⟨attributed, fun n _ => counted n⟩
  | turned k n s s' events frame task session turn sessions workers reports actor =>
    obtain ⟨attributed, -, others⟩ := System.countedBy_turned attributed task workers reports
    refine ⟨attributed, fun m idle => others m ?_⟩
    rintro rfl
    exact idle actor
  | stepped origin id call phase sys current turn calls sessions slots workers reports =>
    obtain ⟨attributed, counted⟩ := counted_turn attributed turn workers reports
    exact ⟨attributed, fun n _ => counted n⟩

theorem turn_served {origin : Origin} {id : CallId} {call : StartCall} {phase : StartPhase} {sys : System}
    (orderly : c.Orderly) (current : c.call? id = some call) (turn : System.CallTurn origin call c.system phase sys)
    {n : Nat} {s : Session} (session : c.system.session? n = some s) :
    ∃ s', sys.session? n = some s' ∧ s.Served c.system.now s' := by
  have changed : ∀ (m : Nat) (t t' : Session) (sessions : List Session), c.system.session? m = some t →
      sessions = c.system.sessions.set m t' → t.Served c.system.now t' →
      ∃ s', sessions[n]? = some s' ∧ s.Served c.system.now s' := by
    intro m t t' sessions found same served
    rw [same]
    rcases getElem?_after_set t' found session with ⟨-, rfl, here⟩ | ⟨-, there⟩
    · exact ⟨t', here, served⟩
    · exact ⟨s, there, .stays⟩
  have unchanged : sys.sessions = c.system.sessions → ∃ s', sys.session? n = some s' ∧ s.Served c.system.now s' :=
    fun same => ⟨s, by rw [System.session?, same]; exact session, .stays⟩
  cases turn with
  | create observed newest reading =>
    exact ⟨s, getElem?_grown session _, .stays⟩
  | skip m t starting found unclaimed nothing => exact changed m t _ _ found rfl (.skip unclaimed nothing)
  | claim m t starting found unclaimed something => exact changed m t _ _ found rfl (.claim unclaimed something)
  | spawn m t subscription sys' opening found opened =>
    obtain ⟨claimed, going, unborn⟩ := orderly.of_opening current opening found
    exact changed m t _ _ found ((System.subscribeFrom_spec opened).1.setSession_sessions m _)
      (.spawn_claimed claimed unborn going subscription)
  | refuse m t error sys' opening found failed =>
    obtain ⟨claimed, going, unborn⟩ := orderly.of_opening current opening found
    exact changed m t _ _ found ((System.subscribeFrom_spec failed).1.setSession_sessions m _)
      (.refuse_claimed claimed unborn going error)
  | read observed inquiry inquiry' sys' reading asked => exact unchanged (System.inquire_spec asked).1.sessions
  | _ => exact unchanged rfl

theorem passage (orderly : c.Orderly) (attributed : c.system.Attributed) (effect : Effect move c c') {n : Nat}
    {s : Session} (session : c.system.session? n = some s) :
    ∃ s', c'.system.session? n = some s' ∧ Passage c c' move n s s' := by
  obtain ⟨-, counted⟩ := effect_counted attributed effect
  have stays : c.actor? move ≠ some (.worker n) → c'.system.session? n = some s →
      ∃ s', c'.system.session? n = some s' ∧ Passage c c' move n s s' :=
    fun idle same => ⟨s, same, .served idle .stays (counted n idle)⟩
  -- A session is replaced by others than a worker.
  have changed : ∀ (m : Nat) (t t' : Session), c.system.session? m = some t → c.actor? move = none →
      c'.system.sessions = c.system.sessions.set m t' → t.Served c.system.now t' →
      ∃ s', c'.system.session? n = some s' ∧ Passage c c' move n s s' := by
    intro m t t' found none same served
    have idle : c.actor? move ≠ some (.worker n) := by simp [none]
    rcases getElem?_after_set t' found session with ⟨-, rfl, here⟩ | ⟨-, there⟩
    · exact ⟨t', by rw [System.session?, same]; exact here, .served idle served (counted n idle)⟩
    · exact stays idle (by rw [System.session?, same]; exact there)
  cases effect with
  | aside frame sessions workers quiet idle | called _ _ _ _ _ _ sessions _ _ _ _ idle =>
    exact stays (by simp [idle]) (by rw [System.session?, sessions]; exact session)
  | created source bounds execution time sessions slots calls workers reports notes idle =>
    refine stays (by simp [idle]) ?_
    rw [System.session?, sessions]
    exact getElem?_grown session _
  | stopped m t frame found sessions workers quiet asked => exact changed m t _ found (actor_of_stops asked) sessions .stop
  | turned k m t t' events frame task found turn sessions workers reports actor =>
    rcases getElem?_after_set t' found session with ⟨rfl, rfl, here⟩ | ⟨other, there⟩
    · obtain ⟨-, own, -⟩ := System.countedBy_turned attributed task workers reports
      exact ⟨t', by rw [System.session?, sessions]; exact here, .works k events actor task turn reports own⟩
    · refine stays ?_ (by rw [System.session?, sessions]; exact there)
      rw [actor]
      rintro ⟨⟩
      exact other rfl
  | skipped m t frame access found unclaimed nothing sessions workers quiet outside =>
    exact changed m t _ found (by rw [outside]; rfl) sessions (.skip unclaimed nothing)
  | spawned m t subscription frame access found unclaimed something sessions plain tasks quiet outside =>
    exact changed m t _ found (by rw [outside]; rfl) sessions
      (.spawn (orderly.unborn_of_unclaimed found unclaimed) (orderly.going_of_unclaimed found unclaimed) subscription)
  | refused m t error frame access found unclaimed something sessions workers quiet outside =>
    exact changed m t _ found (by rw [outside]; rfl) sessions
      (.refuse (orderly.unborn_of_unclaimed found unclaimed) (orderly.going_of_unclaimed found unclaimed) error)
  | stepped origin id call phase sys current turn calls sessions slots workers reports notes actor =>
    obtain ⟨s', here, served⟩ := turn_served orderly current turn session
    have idle : c.actor? move ≠ some (.worker n) := by simp [actor]
    exact ⟨s', by rw [System.session?, sessions]; exact here, .served idle served (counted n idle)⟩

theorem fresh_of_new (effect : Effect move c c') {n : Nat} {s : Session} (session : c'.system.session? n = some s)
    (absent : c.system.sessions.length ≤ n) : s.Fresh := by
  have old : ∀ {sessions : List Session}, sessions.length = c.system.sessions.length → sessions[n]? ≠ some s := by
    intro sessions same found
    have inside := (List.getElem?_eq_some_iff.mp found).1
    omega
  have last : ∀ {t : Session}, t.Fresh → (c.system.sessions ++ [t])[n]? = some s → s.Fresh := by
    intro t fresh found
    rcases getElem?_snoc_cases found with before | ⟨-, rfl⟩
    · exact absurd before (old rfl)
    · exact fresh
  cases effect with
  | aside frame sessions | called _ _ _ _ _ _ sessions =>
    rw [System.session?, sessions] at session
    exact absurd session (old rfl)
  | created source bounds execution time sessions =>
    rw [System.session?, sessions] at session
    exact last (by rfl) session
  | stopped _ _ _ _ sessions | turned _ _ _ _ _ _ _ _ _ sessions | skipped _ _ _ _ _ _ _ sessions
  | spawned _ _ _ _ _ _ _ _ sessions | refused _ _ _ _ _ _ _ _ sessions =>
    rw [System.session?, sessions] at session
    exact absurd session (old (List.length_set ..))
  | stepped origin id call phase sys current turn calls sessions =>
    rw [System.session?, sessions] at session
    cases turn with
    | create observed newest reading => exact last (by rfl) session
    | read observed inquiry inquiry' sys' reading asked =>
      exact absurd session (old (by rw [(System.inquire_spec asked).1.sessions]))
    | spawn m t subscription sys' opening found opened =>
      have set := (System.subscribeFrom_spec opened).1.setSession_sessions m (t.spawn subscription)
      exact absurd session (old ((congrArg List.length set).trans (List.length_set ..)))
    | refuse m t error sys' opening found failed =>
      have set := (System.subscribeFrom_spec failed).1.setSession_sessions m (t.failOpening c.system.now error).1
      exact absurd session (old ((congrArg List.length set).trans (List.length_set ..)))
    | skip | claim => exact absurd session (old (by simp [System.setSession, System.report]))
    | _ => exact absurd session (old rfl)

theorem unborn_of_absent (effect : Effect move c c') {n : Nat} (absent : c.system.session? n = none) :
    c.system.workerOf n = .unborn ∧ c'.system.workerOf n = .unborn := by
  refine ⟨by simp [System.workerOf, absent], ?_⟩
  cases session : c'.system.session? n with
  | none => simp [System.workerOf, session]
  | some s =>
    have fresh := fresh_of_new effect session (List.getElem?_eq_none_iff.mp absent)
    rw [System.workerOf, session, fresh]
    rfl

theorem handed_of_absent (effect : Effect move c c') {n : Nat} (absent : c.system.session? n = none) :
    c'.notes.handed n = c.notes.handed n := by
  obtain ⟨before, after⟩ := unborn_of_absent effect absent
  simp [effect_handed effect, Notes.watch, before, after, Worker.handover_self]

end Chronicle
end Journal
