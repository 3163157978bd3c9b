import Journal.Proofs.Restore.Passage

/-!
What holds of every session at every moment, whatever was prepared: its fields agree, nothing was counted or handed
over before its worker loop began, a worker that was born is among the tasks, and a session that is claimed but has no
worker yet is in the hands of a call that opens it.
-/
namespace Journal

namespace Session

/-- A session whose worker has not begun its loop has counted nothing, and nothing was handed over for it. -/
structure Tidy (handed : List (Saga × Operation)) (s : Session) : Prop extends s.Consistent where
  permit : s.stopPermit = true → s.stopped = true
  idle : s.worker = .unborn ∨ (∃ subscription, s.worker = .spawned subscription) → s.tally = {} ∧ handed = []
  ending : s.worker = .ended → s.done = true

/-- Claimed and not done, but without a worker. -/
def Hanging (s : Session) : Prop := s.started = true ∧ s.done = false ∧ s.worker = .unborn

variable {now : Nat} {s s' : Session} {settings : RestoreSettings} {log : Log} {events : List Event}
  {handed : List (Saga × Operation)}

theorem proceed_awake (now : Nat) (subscription : Subscription) (id : Ulid) (s : Session) :
    (s.proceed now subscription id).1.stopPermit = s.stopPermit ∧
      (s.proceed now subscription id).1.worker ≠ .unborn ∧
      ∀ other, (s.proceed now subscription id).1.worker ≠ .spawned other := by
  unfold proceed
  split <;> exact ⟨rfl, nofun, nofun⟩

theorem turn_awake (turn : s.Turn settings now log s' events) :
    (s'.stopPermit = s.stopPermit ∨ s'.done = true ∧ s'.stopPermit = false) ∧ s'.worker ≠ .unborn ∧
      ∀ other, s'.worker ≠ .spawned other := by
  cases turn with
  | begin | halt | listen => exact ⟨.inl rfl, nofun, nofun⟩
  | heed => exact ⟨.inr ⟨rfl, rfl⟩, nofun, nofun⟩
  | receive subscription deadline parked result worker received =>
    rcases receive_cases received with ⟨_, subscription', _, -, -, taken⟩ | ⟨subscription', -, -, rfl⟩
    · cases taken with
      | @ignored e op =>
        obtain ⟨permit, born, begun⟩ := proceed_awake now subscription' e.id { s with tally := s.tally.ignore }
        exact ⟨.inl permit, born, begun⟩
      | _ => exact ⟨.inl rfl, nofun, nofun⟩
    · exact ⟨.inl rfl, nofun, nofun⟩
  | count subscription entry saga op outcome reported worker silent =>
    obtain ⟨tally, event, -, -, same, -⟩ := s.count_spec now subscription entry saga op outcome
    obtain ⟨permit, born, begun⟩ := proceed_awake now subscription entry.id { s with tally }
    rw [same]
    exact ⟨.inl permit, born, begun⟩

theorem Tidy.turn (tidy : s.Tidy handed) (turn : s.Turn settings now log s' events)
    (handed' : List (Saga × Operation)) : s'.Tidy handed' := by
  obtain ⟨permit, born, begun⟩ := turn_awake turn
  refine ⟨tidy.toConsistent.turn turn, fun given => ?_, ?_, fun ended => ?_⟩
  · rw [(turn_turned turn).stopped]
    rcases permit with same | ⟨-, used⟩
    · exact tidy.permit (same ▸ given)
    · simp [used] at given
  · rintro (unborn | ⟨subscription, spawned⟩)
    · exact absurd unborn born
    · exact absurd spawned (begun subscription)
  · cases (turn_turned turn).fate with
    | goes alive => simp [ended, Worker.isAlive] at alive
    | ends dead done => exact done

theorem Tidy.served (tidy : s.Tidy handed) (served : s.Served now s') : s'.Tidy handed := by
  cases served with
  | stays => exact tidy
  | stop =>
    refine ⟨tidy.toConsistent.stop, ?_, ?_, ?_⟩
    · rcases s.stop_cases with same | ⟨-, marked⟩
      · rw [same]
        exact tidy.permit
      · rw [marked]
        exact fun _ => rfl
    · have served : s.Served now s.stop.1 := .stop
      rw [s.stop_worker.1, served.kept.2.2.2]
      exact tidy.idle
    · rw [s.stop_worker.1, s.stop_worker.2]
      exact tidy.ending
  | claim unclaimed something => exact ⟨tidy.toConsistent.claim unclaimed, tidy.permit, tidy.idle, tidy.ending⟩
  | skip unclaimed nothing =>
    have claimed := tidy.toConsistent.claim unclaimed
    have unborn := (tidy.toConsistent.unclaimed unclaimed).2
    exact ⟨claimed.finish rfl unborn s.error now, tidy.permit, tidy.idle, fun _ => rfl⟩
  | spawn unborn going subscription =>
    have claimed := tidy.toConsistent.mark going
    exact ⟨claimed.spawn rfl going subscription, tidy.permit, fun _ => tidy.idle (.inl unborn), nofun⟩
  | refuse unborn going error =>
    have claimed := tidy.toConsistent.mark going
    exact ⟨claimed.finish rfl unborn _ now, tidy.permit, tidy.idle, fun _ => rfl⟩

theorem Fresh.tidy (fresh : s.Fresh) : s.Tidy [] := by
  rw [fresh]
  exact ⟨⟨rfl, by simp, by simp, by simp, fun _ => rfl⟩, nofun, fun _ => ⟨rfl, rfl⟩, nofun⟩

end Session

namespace Chronicle

def Opens (c : Chronicle) (n : Nat) : Prop :=
  ∃ (id : CallId) (call : StartCall), c.call? id = some call ∧ call.phase = .opening n

def Mans (c : Chronicle) (n : Nat) : Prop := ∃ k : Nat, c.system.tasks[k]? = some (.worker n)

structure Tended (c : Chronicle) : Prop where
  sound : c.Sound
  attributed : c.system.Attributed
  tidy : ∀ {n : Nat} {s : Session}, c.system.session? n = some s → s.Tidy (c.notes.handed n)
  absent : ∀ {n : Nat}, c.system.sessions.length ≤ n → c.notes.handed n = []
  manned : ∀ {n : Nat} {s : Session}, c.system.session? n = some s → s.worker ≠ .unborn → c.Mans n
  hanging : ∀ {n : Nat} {s : Session}, c.system.session? n = some s → s.Hanging → c.Opens n

variable {c c' : Chronicle} {move : Move}

theorem session_present {n : Nat} {s' : Session} (effect : Effect move c c') (session' : c'.system.session? n = some s')
    (old : ¬ s'.Fresh) : ∃ s, c.system.session? n = some s := by
  rcases Nat.lt_or_ge n c.system.sessions.length with inside | beyond
  · exact ⟨_, List.getElem?_eq_getElem inside⟩
  · exact absurd (fresh_of_new effect session' beyond) old

theorem task_of_birth {n : Nat} {s s' : Session} (effect : Effect move c c') (session : c.system.session? n = some s)
    (session' : c'.system.session? n = some s') (unborn : s.worker = .unborn) (born : s'.worker ≠ .unborn) : c'.Mans n := by
  have same : ∀ {sessions : List Session}, sessions[n]? = some s' → sessions[n]? = some s → c'.Mans n := by
    intro sessions found found'
    rw [found] at found'
    cases found'
    exact absurd unborn born
  have other : ∀ {m : Nat} {t t' : Session}, c.system.session? m = some t →
      c'.system.sessions = c.system.sessions.set m t' → t'.worker = t.worker → c'.Mans n := by
    intro m t t' found sessions kept
    rw [System.session?, sessions] at session'
    rcases getElem?_before_set session' with ⟨rfl, rfl⟩ | ⟨-, there⟩
    · obtain rfl : s = t := Option.some.inj (session.symm.trans found)
      exact absurd (kept.trans unborn) born
    · exact same there session
  have hired : ∀ (tasks : List Task) {m : Nat} {t t' : Session}, c.system.session? m = some t →
      c'.system.sessions = c.system.sessions.set m t' → (∀ k l : Nat, (tasks ++ [Task.worker m])[k]? = some (.worker l) →
        c'.system.tasks[k]? = some (.worker l)) → c'.Mans n := by
    intro tasks m t t' found sessions stays
    rw [System.session?, sessions] at session'
    rcases getElem?_before_set session' with ⟨rfl, rfl⟩ | ⟨-, there⟩
    · exact ⟨tasks.length, stays _ _ (by simp)⟩
    · exact same there session
  cases effect with
  | aside _ sessions | called _ _ _ _ _ _ sessions =>
    rw [System.session?, sessions] at session'
    exact same session' session
  | created _ _ _ _ sessions =>
    have inside : n < c.system.sessions.length := (List.getElem?_eq_some_iff.mp session).1
    rw [System.session?, sessions, List.getElem?_append_left inside] at session'
    exact same session' session
  | stopped m t _ found sessions => exact other found sessions t.stop_worker.1
  | turned k m t t' events frame task found turn sessions =>
    rw [System.session?, sessions] at session'
    rcases getElem?_before_set session' with ⟨rfl, rfl⟩ | ⟨-, there⟩
    · obtain rfl : s = t := Option.some.inj (session.symm.trans found)
      exact absurd unborn (Session.turn_worker_born turn)
    · exact same there session
  | skipped m t _ _ found _ _ sessions => exact other found sessions rfl
  | refused m t _ _ _ found _ _ sessions => exact other found sessions rfl
  | spawned m t subscription _ _ found _ _ sessions _ tasks =>
    exact hired c.system.tasks found sessions (fun k l task => by rw [tasks]; exact task)
  | stepped origin id call phase sys current turn calls sessions slots workers =>
    rw [System.session?, sessions] at session'
    cases turn with
    | create observed newest reading =>
      have inside : n < c.system.sessions.length := (List.getElem?_eq_some_iff.mp session).1
      rw [System.createSession, List.getElem?_append_left inside] at session'
      exact same session' session
    | read observed inquiry inquiry' sys' reading asked =>
      rw [(System.inquire_spec asked).1.sessions] at session'
      exact same session' session
    | skip m t starting found unclaimed nothing => exact other found sessions rfl
    | claim m t starting found unclaimed something => exact other found sessions rfl
    | spawn m t subscription sys' opening found opened =>
      have set := sessions.trans ((System.subscribeFrom_spec opened).1.setSession_sessions m (t.spawn subscription))
      exact hired sys'.tasks found set fun k l task => (workers k l).mpr task
    | refuse m t error sys' opening found failed =>
      have set := sessions.trans
        ((System.subscribeFrom_spec failed).1.setSession_sessions m (t.failOpening c.system.now error).1)
      exact other found set rfl
    | _ => exact same session' session

theorem opens_of_set {n m : Nat} {s' t' : Session}
    (before : ∀ s, c.system.session? n = some s → s.Hanging → c.Opens n)
    (sessions : c'.system.sessions = c.system.sessions.set m t') (session' : c'.system.session? n = some s')
    (hanging : s'.Hanging) (here : n = m → s' = t' → c.Opens n) : c.Opens n := by
  rw [System.session?, sessions] at session'
  rcases getElem?_before_set session' with ⟨same, set⟩ | ⟨-, there⟩
  · exact here same set
  · exact before s' there hanging

theorem opens_after_turn {n : Nat} {s s' : Session} {origin : Origin} {id : CallId} {call : StartCall}
    {phase : StartPhase} {sys : System} (turn : System.CallTurn origin call c.system phase sys)
    (current : c.call? id = some call) (calls : c'.call? = Function.update c.call? id (some { call with phase }))
    (sessions : c'.system.sessions = sys.sessions)
    (before : ∀ s, c.system.session? n = some s → s.Hanging → c.Opens n) (session : c.system.session? n = some s)
    (session' : c'.system.session? n = some s') (hanging : s'.Hanging) : c'.Opens n := by
  have ⟨_, going, unborn⟩ := hanging
  have inside : n < c.system.sessions.length := (List.getElem?_eq_some_iff.mp session).1
  have same : c.system.sessions[n]? = some s' → c.Opens n := fun found => before s' found hanging
  have elsewhere : call.phase ≠ .opening n → c.Opens n → c'.Opens n := by
    rw [Opens, Opens, calls]
    exact still_after (· = .opening n) current
  -- A call that is done with opening leaves its session with a worker or at its end.
  have settled {m : Nat} {t' : Session} (opening : call.phase = .opening m)
      (set : c'.system.sessions = c.system.sessions.set m t') (calm : ¬ t'.Hanging) : c'.Opens n := by
    have other : n ≠ m := by
      rintro rfl
      rw [System.session?, set, List.getElem?_set_self inside] at session'
      cases session'
      exact calm hanging
    exact elsewhere (by simpa [opening] using other.symm)
      (opens_of_set before set session' hanging fun same => absurd same other)
  have kept := session'
  rw [System.session?, sessions] at kept
  cases turn with
  | join m looking | ask m looking => exact elsewhere (by simp [looking]) (same kept)
  | read observed inquiry inquiry' sys' reading asked =>
    rw [(System.inquire_spec asked).1.sessions] at kept
    exact elsewhere (by simp [reading]) (same kept)
  | create observed newest reading =>
    rw [System.createSession, List.getElem?_append_left inside] at kept
    exact elsewhere (by simp [reading]) (same kept)
  | fail observed error reading => exact elsewhere (by simp [reading]) (same kept)
  | win observed m installing | lose observed m _ installing | again observed m installing =>
    exact elsewhere (by simp [installing]) (same kept)
  | late m starting => exact elsewhere (by simp [starting]) (same kept)
  | skip m t starting found unclaimed nothing =>
    refine elsewhere (by simp [starting]) (opens_of_set before sessions session' hanging ?_)
    rintro rfl rfl
    cases going
  | claim m t starting found unclaimed something =>
    by_cases here : n = m
    · subst here
      rw [Opens, calls]
      exact ⟨id, _, Function.update_self .., rfl⟩
    · exact elsewhere (by simp [starting])
        (opens_of_set before sessions session' hanging fun same => absurd same here)
  | spawn m t subscription sys' opening found opened =>
    refine settled opening (sessions.trans ((System.subscribeFrom_spec opened).1.setSession_sessions m _)) ?_
    rintro ⟨-, -, ⟨⟩⟩
  | refuse m t error sys' opening found failed =>
    refine settled opening (sessions.trans ((System.subscribeFrom_spec failed).1.setSession_sessions m _)) ?_
    rintro ⟨-, ⟨⟩, -⟩
  | miss m opening absent =>
    refine elsewhere ?_ (same kept)
    rw [opening]
    rintro ⟨⟩
    rw [absent] at session
    cases session

theorem opens_of_hanging {n : Nat} {s' : Session} (effect : Effect move c c')
    (before : ∀ s, c.system.session? n = some s → s.Hanging → c.Opens n) (session' : c'.system.session? n = some s')
    (hanging : s'.Hanging) : c'.Opens n := by
  have ⟨started, going, unborn⟩ := hanging
  have stale : ¬ s'.Fresh := fun fresh => by
    rw [fresh] at started
    cases started
  obtain ⟨s, session⟩ := session_present effect session' stale
  have inside : n < c.system.sessions.length := (List.getElem?_eq_some_iff.mp session).1
  have same : c.system.sessions[n]? = some s' → c.Opens n := fun found => before s' found hanging
  cases effect with
  | aside frame sessions =>
    rw [System.session?, sessions] at session'
    rw [Opens, frame.calls]
    exact same session'
  | called id source bounds absent calls slots sessions =>
    rw [System.session?, sessions] at session'
    rw [Opens, calls]
    exact still (· = .opening n) (fun call current => by simp [absent] at current) (same session')
  | created source bounds execution time sessions slots calls =>
    rw [System.session?, sessions, List.getElem?_append_left inside] at session'
    rw [Opens, calls]
    exact same session'
  | stopped m t frame found sessions =>
    rw [Opens, frame.calls]
    refine opens_of_set before sessions session' hanging ?_
    rintro rfl rfl
    obtain ⟨worker, done⟩ := t.stop_worker
    exact before t found ⟨t.stop_continues.started ▸ started, done ▸ going, worker ▸ unborn⟩
  | turned k m t t' events frame task found turn sessions =>
    rw [Opens, frame.calls]
    refine opens_of_set before sessions session' hanging ?_
    rintro rfl rfl
    exact absurd unborn (Session.turn_awake turn).2.1
  | spawned m t subscription frame access found _ _ sessions =>
    rw [Opens, frame.calls]
    refine opens_of_set before sessions session' hanging ?_
    rintro rfl rfl
    cases unborn
  | skipped m t frame access found _ _ sessions | refused m t error frame access found _ _ sessions =>
    rw [Opens, frame.calls]
    refine opens_of_set before sessions session' hanging ?_
    rintro rfl rfl
    cases going
  | stepped origin id call phase sys current turn calls sessions =>
    exact opens_after_turn turn current calls sessions before session session' hanging

theorem idle_of_absent {n : Nat} (tended : c.Tended) (absent : c.system.session? n = none) :
    c.actor? move ≠ some (.worker n) := by
  intro actor
  obtain ⟨k, task, -⟩ := steps_of_actor actor
  obtain ⟨s, found, -⟩ := tended.sound.2.born task
  rw [System.session?, found] at absent
  cases absent

theorem tended_step (tended : c.Tended) (effect : Effect move c c') : c'.Tended where
  sound := sound_step tended.sound effect
  attributed := (effect_counted tended.attributed effect).1
  tidy := by
    intro n s' session'
    rcases Nat.lt_or_ge n c.system.sessions.length with inside | beyond
    · have session : c.system.session? n = some c.system.sessions[n] := List.getElem?_eq_getElem inside
      obtain ⟨t, found, passed⟩ := passage tended.sound.1 tended.attributed effect session
      obtain rfl : s' = t := Option.some.inj (session'.symm.trans found)
      cases passed with
      | works k events actor task turn => exact (tended.tidy session).turn turn _
      | served idle served =>
        rw [handed_of_watch (effect_handed effect) session session', served.no_handover, List.append_nil]
        exact (tended.tidy session).served served
    · rw [handed_of_absent effect (List.getElem?_eq_none beyond), tended.absent beyond]
      exact (fresh_of_new effect session' beyond).tidy
  absent := by
    intro n beyond
    cases session : c.system.session? n with
    | some s =>
      obtain ⟨s', session', -⟩ := passage tended.sound.1 tended.attributed effect session
      rw [System.session?, List.getElem?_eq_none beyond] at session'
      cases session'
    | none => exact (handed_of_absent effect session).trans (tended.absent (List.getElem?_eq_none_iff.mp session))
  manned := by
    intro n s' session' born
    have stale : ¬ s'.Fresh := fun fresh => by
      rw [fresh] at born
      exact born rfl
    obtain ⟨s, session⟩ := session_present effect session' stale
    by_cases unborn : s.worker = .unborn
    · exact task_of_birth effect session session' unborn born
    · obtain ⟨k, task⟩ := tended.manned session unborn
      exact ⟨k, workers_stay effect k n task⟩
  hanging := fun session' hanging => opens_of_hanging effect (fun _ => tended.hanging) session' hanging

theorem tended_opened (settings : Settings) (executor : Executor) (script : Script) :
    (opened settings executor script).Tended where
  sound := sound_opened settings executor script
  attributed := by simp [System.Attributed, opened, System.ofSettings, Event.counted?]
  tidy := nofun
  absent := fun _ => rfl
  manned := nofun
  hanging := nofun

theorem tended_run {moves : List Move} (tended : c.Tended) (h : run moves c = some c') : c'.Tended :=
  run_keeps (P := Tended) (fun _ _ _ tended made => tended_step tended (apply_effect made)) tended h

theorem tended_after {settings : Settings} {executor : Executor} {script : Script} {moves : List Move}
    (h : run moves (opened settings executor script) = some c) : c.Tended :=
  tended_run (tended_opened settings executor script) h

end Chronicle
end Journal
