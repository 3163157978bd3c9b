import Journal.Proofs.Restore.Calls
import Journal.Proofs.Restore.Supply
import Mathlib.Data.List.Induction

/-!
Every session comes to its end, and none idles. A start with nothing offered to it finishes the session and opens no
consumer; otherwise every receive of the worker gives an entry at its first look, and the worker has ended after at
most one receive for each entry that was offered.
-/
namespace Journal
namespace Chronicle

variable {c c' : Chronicle} {move : Move} {moves : List Move} {n : Nat} {s s' : Session}

inductive Begun (c c' : Chronicle) (s : Session) : Session → Prop where
  | skipped (nothing : s.nothingToReplay = true) (closed : c'.system.openings = c.system.openings) :
      Begun c c' s ({ s with started := true }.finish c.system.now)
  | claimed (something : s.nothingToReplay = false) : Begun c c' s { s with started := true }
  | spawned (something : s.nothingToReplay = false) (subscription : Subscription)
      (opened : c'.system.openings = c.system.openings + 1) : Begun c c' s ({ s with started := true }.spawn subscription)
  | refused (something : s.nothingToReplay = false) (error : TransportError)
      (opened : c'.system.openings = c.system.openings + 1) :
      Begun c c' s ({ s with started := true }.failOpening c.system.now error).1

theorem begun_of_start (session : c.system.session? n = some s) (unclaimed : s.started = false)
    (made : c.apply (.start n) = some c') : ∃ s', c'.system.session? n = some s' ∧ Begun c c' s s' := by
  simp only [apply] at made
  split at made
  · cases made
    unfold System.startSession
    rcases System.claimSession_cases .caller n c.system with
      ⟨-, claimed⟩ | ⟨t, found, -, ⟨nothing, same⟩ | ⟨something, same⟩⟩
    · rw [claimed s session] at unclaimed
      cases unclaimed
    · obtain rfl : s = t := Option.some.inj (session.symm.trans found)
      rw [same]
      exact ⟨_, System.session?_setSession_self session _,
        .skipped nothing (System.openings_report rfl (by simp [Event.opens]))⟩
    · obtain rfl : s = t := Option.some.inj (session.symm.trans found)
      rw [same]
      have claimed := System.session?_setSession_self session { s with started := true }
      rcases System.openSession_cases .caller claimed with
        ⟨subscription, sys, opened, result⟩ | ⟨error, sys, opened, result⟩
      · have there := claimed
        rw [System.session?, ← (System.subscribeFrom_spec opened).1.sessions] at there
        have openings : sys.openings = c.system.openings + 1 := (System.openings_subscribeFrom opened :)
        simp only [result]
        exact ⟨_, System.session?_setSession_self there _, .spawned something subscription openings⟩
      · have there := claimed
        rw [System.session?, ← (System.subscribeFrom_spec opened).1.sessions] at there
        have openings : sys.openings = c.system.openings + 1 := (System.openings_subscribeFrom opened :)
        have silent : ∀ e ∈ ({ s with started := true }.failOpening c.system.now error).2, e.opens = false := by
          simp [Session.failOpening, Event.opens]
        simp only [result]
        exact ⟨_, System.session?_setSession_self there _,
          .refused something error ((System.openings_report rfl silent).trans openings)⟩
  · cases made

theorem begun (made : c.apply move = some c') (session : c.system.session? n = some s)
    (session' : c'.system.session? n = some s') (unclaimed : s.started = false) (claimed : s'.started = true) :
    Begun c c' s s' := by
  have stays : ∀ {sessions : List Session}, c'.system.sessions = sessions → sessions[n]? = some s → Begun c c' s s' := by
    intro sessions same here
    rw [System.session?, same, here] at session'
    cases session'
    rw [unclaimed] at claimed
    cases claimed
  have outside (start : move = .start n) : Begun c c' s s' := by
    subst start
    obtain ⟨t, found, begun⟩ := begun_of_start session unclaimed made
    rwa [Option.some.inj (session'.symm.trans found)]
  -- The session that is set is another one, or its start shows.
  have set : ∀ {m : Nat} {t t' : Session}, c.system.session? m = some t →
      c'.system.sessions = c.system.sessions.set m t' → (n = m → s = t → s' = t' → Begun c c' s s') → Begun c c' s s' := by
    intro m t t' found same here
    rcases getElem?_after_set t' found session with ⟨rfl, rfl, there⟩ | ⟨-, there⟩
    · rw [System.session?, same, there] at session'
      exact here rfl rfl (Option.some.inj session').symm
    · exact stays same there
  cases apply_effect made with
  | aside _ sessions | called _ _ _ _ _ _ sessions => exact stays sessions session
  | created _ _ _ _ sessions => exact stays sessions (getElem?_grown session _)
  | stopped m t _ found sessions =>
    refine set found sessions ?_
    rintro rfl rfl rfl
    rw [s.stop_continues.started, unclaimed] at claimed
    cases claimed
  | turned k m t t' events _ task found turn sessions =>
    refine set found sessions ?_
    rintro rfl rfl rfl
    rw [(Session.turn_continues turn).started, unclaimed] at claimed
    cases claimed
  | skipped m t _ _ found _ _ sessions _ _ start | spawned m t _ _ _ found _ _ sessions _ _ _ start
  | refused m t _ _ _ found _ _ sessions _ _ start =>
    refine set found sessions ?_
    rintro rfl rfl -
    exact outside start
  | stepped origin id call phase sys current turn calls sessions slots workers reports =>
    have open' : c'.system.openings = sys.openings := by rw [System.openings, reports, System.openings]
    cases turn with
    | skip m t starting found _ nothing =>
      refine set found sessions ?_
      rintro rfl rfl rfl
      exact .skipped nothing (open'.trans (System.openings_report rfl (by simp [Event.opens])))
    | claim m t starting found _ something =>
      refine set found sessions ?_
      rintro rfl rfl rfl
      exact .claimed something
    | create => exact stays sessions (getElem?_grown session _)
    | read _ _ _ _ _ asked => exact stays (sessions.trans (System.inquire_spec asked).1.sessions) session
    | spawn m t subscription sys' opening found opened =>
      refine set found (sessions.trans ((System.subscribeFrom_spec opened).1.setSession_sessions m _)) ?_
      rintro rfl rfl rfl
      rw [Session.spawn, unclaimed] at claimed
      cases claimed
    | refuse m t error sys' opening found failed =>
      refine set found (sessions.trans ((System.subscribeFrom_spec failed).1.setSession_sessions m _)) ?_
      rintro rfl rfl rfl
      have same : (s.failOpening c.system.now error).1.started = s.started := rfl
      rw [same, unclaimed] at claimed
      cases claimed
    | _ => exact stays sessions session

def offeredTo (c : Chronicle) (n : Nat) (s : Session) : List Entry := s.offered (c.notes.ground n)

def Provident (c : Chronicle) : Prop :=
  ∀ (n : Nat) (s : Session), c.system.session? n = some s → s.Supplied (c.notes.ground n)

theorem nothing_iff (plain : Plain c) (session : c.system.session? n = some s) :
    s.nothingToReplay = true ↔ c.offeredTo n s = [] := by
  have trusts := plain.trusts n s session
  exact Session.nothing_iff_offered ((plain.ordered _).sublist trusts.grown.sublist) trusts.ceiling

theorem supplied_begun (plain : Plain c) (supplied : s.Supplied (c.notes.ground n)) (session : c.system.session? n = some s)
    (unclaimed : s.started = false) (begun : Begun c c' s s') : s'.Supplied (c.notes.ground n) := by
  have trusts : Session.Faithful _ _ _ _ _ s := plain.trusts n s session
  have orderly := plain.sound.1
  have unborn := orderly.unborn_of_unclaimed session unclaimed
  have going := orderly.going_of_unclaimed session unclaimed
  have claim (something : s.nothingToReplay = false) : Session.Supplied (c.notes.ground n) { s with started := true } := by
    refine .claim (fun none => ?_) trusts unborn going
    rw [(nothing_iff plain session).mpr none] at something
    cases something
  cases begun with
  | skipped nothing => exact supplied.skip ((nothing_iff plain session).mp nothing) c.system.now
  | claimed something => exact claim something
  | spawned something subscription =>
    have served : Session.Served c.system.now _ _ := .spawn (s := { s with started := true }) unborn going subscription
    exact (claim something).served trusts.claim served rfl
  | refused something error =>
    exact (claim something).served trusts.claim (.refuse (s := { s with started := true }) unborn going error) rfl

theorem supplied_passage (plain : Plain c) (tended : c.Tended) (supplied : s.Supplied (c.notes.ground n))
    (session : c.system.session? n = some s) (made : c.apply move = some c') :
    ∃ s', c'.system.session? n = some s' ∧ c'.notes.ground n = c.notes.ground n ∧ s'.bounds = s.bounds ∧
      s'.Supplied (c.notes.ground n) ∧
      (c.actor? move = some (.worker n) ∧ Session.Spends (c.offeredTo n s) s s' ∧ s'.stopped = s.stopped ∨
        c.actor? move ≠ some (.worker n) ∧ s.Served c.system.now s') := by
  have effect := apply_effect made
  have ground := (noted_once effect (List.getElem?_eq_some_iff.mp session).1).2
  obtain ⟨s', session', passed⟩ := passage tended.sound.1 tended.attributed effect session
  refine ⟨s', session', ground, ?_⟩
  cases passed with
  | works k events actor task turn =>
    have started := (tended.tidy session).toConsistent.born (Session.turn_worker_born turn)
    obtain ⟨supplied', spends⟩ := supplied.turn (plain.trusts n s session) (plain.ordered _) started rfl turn
    exact ⟨(Session.turn_continues turn).bounds, supplied', .inl ⟨actor, spends, (Session.turn_turned turn).stopped⟩⟩
  | served idle served =>
    refine ⟨served.kept.2.1, ?_, .inr ⟨idle, served⟩⟩
    cases unclaimed : s.started with
    | true =>
      obtain ⟨t, found, persists⟩ := onward effect n s session
      obtain rfl : s' = t := Option.some.inj (session'.symm.trans found)
      exact supplied.served (plain.trusts n s session) served (by rw [unclaimed, persists.started unclaimed])
    | false =>
      cases claimed : s'.started with
      | true => exact supplied_begun plain supplied session unclaimed (begun made session session' unclaimed claimed)
      | false => exact supplied.served (plain.trusts n s session) served (by rw [unclaimed, claimed])

theorem provident_step (plain : Plain c) (tended : c.Tended) (provident : c.Provident) (made : c.apply move = some c') :
    c'.Provident := by
  intro n s' session'
  cases session : c.system.session? n with
  | none => exact (fresh_of_new (apply_effect made) session' (List.getElem?_eq_none_iff.mp session)).supplied _
  | some s =>
    obtain ⟨t, found, ground, -, supplied, -⟩ := supplied_passage plain tended (provident n s session) session made
    obtain rfl : s' = t := Option.some.inj (session'.symm.trans found)
    rw [ground]
    exact supplied

theorem receives_at_once (plain : Plain c) (tended : c.Tended) (session : c.system.session? n = some s)
    (supplied : s.Supplied (c.notes.ground n)) {subscription : Subscription} {deadline : Nat} {parked : Bool}
    (worker : s.worker = .receiving subscription deadline parked) :
    parked = false ∧ ∃ e, (c.offeredTo n s)[s.tally.total]? = some e ∧
      ∀ now, (subscription.receive c.system.log now deadline false).1 = .entry e := by
  have trusts : Session.Faithful _ _ _ _ _ s := plain.trusts n s session
  have consistent := (tended.tidy session).toConsistent
  have started := consistent.born (by simp [worker])
  have left : s.tally.total < (c.offeredTo n s).length :=
    supplied.left started (consistent.going (by simp [worker, Worker.isAlive]))
  have stands := trusts.stands
  rw [worker] at stands
  obtain ⟨consumer, rfl, name, tracks, ahead⟩ := stands
  obtain ⟨more, parts⟩ : c.offeredTo n s <+: Start.select s.bounds.start _ := trusts.grown.filter _
  have next : (c.offeredTo n s)[s.tally.total]? = some (c.offeredTo n s)[s.tally.total] := List.getElem?_eq_getElem left
  have first : (consumer.rest s.bounds.start (c.system.log.entries (c.system.pool.topicOf s.source))).head? =
      some (c.offeredTo n s)[s.tally.total] := by
    rw [ahead, List.head?_drop, ← parts, List.getElem?_append_left left, next]
  obtain ⟨consumer', looked, -⟩ := Consumer.look_spec (plain.ordered _) tracks
  refine ⟨?_, _, next, fun now => ?_⟩
  · cases parked with
    | false => rfl
    | true => exact absurd worker (supplied.awake _ _)
  · simp only [Subscription.receive, Consumer.receive, name, Bool.false_and, Bool.false_eq_true, if_false, looked, first]

theorem supplied_goes_on (tended : c.Tended) (session : c.system.session? n = some s)
    (supplied : s.Supplied (c.notes.ground n)) (alive : s.worker.isAlive = true) :
    ∃ k : Nat, c.system.tasks[k]? = some (.worker n) ∧
      ((∀ stopFirst, (c.apply (.run stopFirst k)).isSome = true) ∨
        s.worker.inFlight ≠ [] ∧ c.system.executor.isHeld = true ∧
          ∀ outcome, (c.apply (.answer k outcome)).isSome = true) := by
  refine goes_on_of_able tended session alive fun free k stopFirst => ?_
  have hurried : s.worker.deadline? = none := by
    cases worker : s.worker with
    | receiving subscription deadline parked =>
      cases parked with
      | false => rfl
      | true => exact absurd worker (supplied.awake subscription deadline)
    | _ => rfl
  by_cases calm : s.worker.inFlight = []
  · exact Session.step_isSome _ _ _ _ _ _ alive calm (by simp [hurried])
  · have released := free.resolve_left calm
    cases worker : s.worker with
    | submitting => simp [Session.step, worker, released]
    | _ => exact absurd (by simp [worker, Worker.inFlight]) calm

def Listens (c c' : Chronicle) (n : Nat) : Prop :=
  (c.system.workerOf n).listens = false ∧ (c'.system.workerOf n).listens = true

instance (c c' : Chronicle) (n : Nat) : Decidable (Listens c c' n) := inferInstanceAs (Decidable (_ ∧ _))

def receives (n : Nat) : List Move → Chronicle → Nat
  | [], _ => 0
  | move :: later, c =>
    ((c.apply move).map fun c' => (if Listens c c' n then 1 else 0) + receives n later c').getD 0

theorem worked_snoc {start : Chronicle} (went : run moves start = some c) (made : c.apply move = some c') :
    worked n (moves ++ [move]) start =
      worked n moves start + if c.actor? move = some (.worker n) then 1 else 0 := by
  induction moves generalizing start with
  | nil =>
    cases went
    simp [worked, made]
  | cons first moves ih =>
    obtain ⟨next, one, rest⟩ := Option.bind_eq_some_iff.mp went
    simp [worked, one, ih rest, Nat.add_assoc]

theorem receives_snoc {start : Chronicle} (went : run moves start = some c) (made : c.apply move = some c') :
    receives n (moves ++ [move]) start = receives n moves start + if Listens c c' n then 1 else 0 := by
  induction moves generalizing start with
  | nil =>
    cases went
    simp [receives, made]
  | cons first moves ih =>
    obtain ⟨next, one, rest⟩ := Option.bind_eq_some_iff.mp went
    simp [receives, one, ih rest, Nat.add_assoc]

/-- What the worker of a session has used up since the beginning. -/
structure Spent (n : Nat) (moves : List Move) (start c : Chronicle) (s : Session) : Prop where
  unborn : s.worker = .unborn → worked n moves start = 0
  turns : worked n moves start + s.turnsLeft (c.offeredTo n s) ≤ 3 * (c.offeredTo n s).length + 1
  receives : receives n moves start + s.receivesLeft (c.offeredTo n s) ≤ (c.offeredTo n s).length

theorem receivesLeft_le (offered : List Entry) (s : Session) : s.receivesLeft offered ≤ offered.length := by
  unfold Session.receivesLeft
  dsimp only
  split <;> omega

theorem served_spends (offered : List Entry) (served : s.Served c.system.now s') :
    (s.worker = .unborn ∨ s'.worker ≠ .unborn) ∧ (s'.worker.listens = true → s.worker.listens = true) ∧
      s'.receivesLeft offered ≤ s.receivesLeft offered ∧
      (s'.turnsLeft offered = s.turnsLeft offered ∨ s.worker = .unborn ∧ s'.turnsLeft offered ≤ 3 * offered.length + 1) := by
  have kept := served.kept.2.2.2
  have same (worker : s'.worker = s.worker) : (s.worker = .unborn ∨ s'.worker ≠ .unborn) ∧
      (s'.worker.listens = true → s.worker.listens = true) ∧ s'.receivesLeft offered ≤ s.receivesLeft offered ∧
      (s'.turnsLeft offered = s.turnsLeft offered ∨
        s.worker = .unborn ∧ s'.turnsLeft offered ≤ 3 * offered.length + 1) := by
    refine ⟨?_, ?_, ?_, .inl ?_⟩
    · rw [worker]
      exact em _
    · rw [worker]
      exact id
    · simp only [Session.receivesLeft, kept, worker, Nat.le_refl]
    · simp only [Session.turnsLeft, kept, worker]
  cases served with
  | stays | claim | skip | refuse => exact same rfl
  | stop => exact same s.stop_worker.1
  | spawn unborn =>
    refine ⟨.inl unborn, (by rintro ⟨⟩), ?_, .inr ⟨unborn, ?_⟩⟩
    · simp [Session.receivesLeft, Session.spawn, unborn]
    · simp only [Session.turnsLeft, Session.spawn]
      omega

theorem spent_step {start : Chronicle} (plain : Plain c) (tended : c.Tended) (provident : c.Provident)
    (went : run moves start = some c) (made : c.apply move = some c') (session : c.system.session? n = some s)
    (session' : c'.system.session? n = some s') (spent : Spent n moves start c s) :
    Spent n (moves ++ [move]) start c' s' := by
  obtain ⟨t, found, ground, bounds, -, step⟩ := supplied_passage plain tended (provident n s session) session made
  obtain rfl : s' = t := Option.some.inj (session'.symm.trans found)
  have same : c'.offeredTo n s' = c.offeredTo n s := by
    rw [offeredTo, ground, Session.offered_of_bounds bounds, offeredTo]
  have listens : Listens c c' n ↔ s.worker.listens = false ∧ s'.worker.listens = true := by
    simp [Listens, System.workerOf, session, session']
  obtain ⟨unborn, turns, receives⟩ := spent
  have counted := worked_snoc (n := n) went made
  have heard := receives_snoc (n := n) went made
  simp only [listens] at heard
  rcases step with ⟨actor, spends, -⟩ | ⟨idle, served⟩
  · rw [if_pos actor] at counted
    have less := spends.turn
    have fewer := spends.receive
    refine ⟨fun still => ?_, ?_, ?_⟩
    · have born : s.worker ≠ .unborn := fun unborn => by simp [Session.turnsLeft, unborn] at less
      obtain ⟨u, found', persists⟩ := onward (apply_effect made) n s session
      obtain rfl : s' = u := Option.some.inj (session'.symm.trans found')
      exact absurd still (persists.born born)
    · rw [same]
      omega
    · rw [same]
      omega
  · rw [if_neg idle] at counted
    obtain ⟨birth, deaf, fewer, turns'⟩ := served_spends (c.offeredTo n s) served
    have silent : ¬ (s.worker.listens = false ∧ s'.worker.listens = true) := by
      rintro ⟨before, after⟩
      simp [deaf after] at before
    rw [if_neg silent] at heard
    refine ⟨fun still => ?_, ?_, ?_⟩
    · rw [counted, unborn (birth.resolve_right fun born => born still)]
    · rw [same]
      rcases turns' with turns' | ⟨before, turns'⟩
      · omega
      · have none := unborn before
        omega
    · rw [same]
      omega

theorem provident_run (plain : Plain c) (tended : c.Tended) (provident : c.Provident) (went : run moves c = some c') :
    Plain c' ∧ c'.Tended ∧ c'.Provident := by
  refine run_keeps (P := fun c => Plain c ∧ c.Tended ∧ c.Provident) ?_ ⟨plain, tended, provident⟩ went
  intro c move c' ⟨plain, tended, provident⟩ made
  exact ⟨plain_step plain made, tended_step tended (apply_effect made), provident_step plain tended provident made⟩

section

variable {settings : Settings} {executor : Executor}

theorem session?_opened (n : Nat) : (opened settings executor {}).system.session? n = none := rfl

theorem provident_after (went : run moves (opened settings executor {}) = some c) : Plain c ∧ c.Tended ∧ c.Provident := by
  refine provident_run (plain_opened ..) (tended_opened ..) (fun n s session => ?_) went
  rw [session?_opened] at session
  cases session

theorem session_along {P : List Move → Chronicle → Session → Prop} {Q : List Move → Prop} (nothing : Q [])
    (new : ∀ {moves : List Move} {move : Move} {c c' : Chronicle}, run moves (opened settings executor {}) = some c →
      c.apply move = some c' → c.system.session? n = none → Q moves →
        Q (moves ++ [move]) ∧ ∀ s, c'.system.session? n = some s → s.Fresh → P (moves ++ [move]) c' s)
    (step : ∀ {moves : List Move} {move : Move} {c c' : Chronicle} {s s' : Session},
      run moves (opened settings executor {}) = some c → c.apply move = some c' → c.system.session? n = some s →
        c'.system.session? n = some s' → P moves c s → P (moves ++ [move]) c' s')
    (went : run moves (opened settings executor {}) = some c) :
    (∀ s, c.system.session? n = some s → P moves c s) ∧ (c.system.session? n = none → Q moves) := by
  induction moves using List.reverseRecOn generalizing c with
  | nil =>
    cases went
    exact ⟨fun s session => (by rw [session?_opened] at session; cases session), fun _ => nothing⟩
  | append_singleton moves move ih =>
    obtain ⟨before, went, made⟩ := run_of_snoc went
    obtain ⟨present, absent⟩ := ih went
    cases session : before.system.session? n with
    | none =>
      obtain ⟨silent, first⟩ := new went made session (absent session)
      refine ⟨fun s session' => first s session' ?_, fun _ => silent⟩
      exact fresh_of_new (apply_effect made) session' (List.getElem?_eq_none_iff.mp session)
    | some t =>
      refine ⟨fun s session' => step went made session session' (present t session), ?_⟩
      obtain ⟨u, found, -⟩ := onward (apply_effect made) n t session
      simp [found]

theorem spent_after (went : run moves (opened settings executor {}) = some c) (session : c.system.session? n = some s) :
    Spent n moves (opened settings executor {}) c s := by
  refine (session_along (P := fun moves => Spent n moves (opened settings executor {}))
    (Q := fun moves => worked n moves (opened settings executor {}) = 0 ∧ receives n moves (opened settings executor {}) = 0)
    ⟨rfl, rfl⟩ ?_ ?_ went).1 s session
  · intro moves move c c' went made absent ⟨idle, silent⟩
    obtain ⟨-, tended, -⟩ := provident_after went
    have unborn := (unborn_of_absent (apply_effect made) absent).2
    have deaf : ¬ Listens c c' n := by
      rintro ⟨-, listens⟩
      rw [unborn] at listens
      cases listens
    have counted := worked_snoc (n := n) went made
    have heard := receives_snoc (n := n) went made
    rw [if_neg (idle_of_absent tended absent), idle] at counted
    rw [if_neg deaf, silent] at heard
    refine ⟨⟨counted, heard⟩, fun s session _ => ⟨fun _ => counted, ?_, ?_⟩⟩
    · rw [System.workerOf, session, Option.map_some, Option.getD_some] at unborn
      rw [counted, Session.turnsLeft_of_dead (by rw [unborn]; rfl)]
      omega
    · rw [heard, Nat.zero_add]
      exact receivesLeft_le _ s
  · intro moves move c c' s s' went made session session' spent
    obtain ⟨plain, tended, provident⟩ := provident_after went
    exact spent_step plain tended provident went made session session' spent

end

/-- By steps of its worker alone the session comes to its end. -/
structure Finishes (c : Chronicle) (n : Nat) (s : Session) (later : List Move) (c' : Chronicle) (s' : Session) : Prop where
  went : run later c = some c'
  own : worked n later c = later.length
  session : c'.system.session? n = some s'
  done : s'.done = true
  bounds : s'.bounds = s.bounds
  stopped : s'.stopped = s.stopped
  ground : c'.notes.ground n = c.notes.ground n

theorem Finishes.cons {c₁ : Chronicle} {s₁ : Session} {later : List Move} (finishes : Finishes c₁ n s₁ later c' s')
    (actor : c.actor? move = some (.worker n)) (made : c.apply move = some c₁) (bounds : s₁.bounds = s.bounds)
    (stopped : s₁.stopped = s.stopped) (ground : c₁.notes.ground n = c.notes.ground n) :
    Finishes c n s (move :: later) c' s' where
  went := by simp [run, made, finishes.went]
  own := by simp [worked, actor, made, finishes.own, Nat.add_comm]
  session := finishes.session
  done := finishes.done
  bounds := finishes.bounds.trans bounds
  stopped := finishes.stopped.trans stopped
  ground := finishes.ground.trans ground

theorem done_of_dead (tended : c.Tended) (session : c.system.session? n = some s) (born : s.worker ≠ .unborn)
    (dead : s.worker.isAlive = false) : s.done = true := by
  refine (tended.tidy session).ending ?_
  cases worker : s.worker <;> simp [worker, Worker.isAlive] at dead born
  rfl

theorem comes_to_its_end (left : Nat) (plain : Plain c) (tended : c.Tended) (provident : c.Provident)
    (session : c.system.session? n = some s) (alive : s.worker.isAlive = true)
    (turns : s.turnsLeft (c.offeredTo n s) ≤ left) :
    ∃ (later : List Move) (c' : Chronicle) (s' : Session), Finishes c n s later c' s' ∧ later.length ≤ left := by
  induction left generalizing c s with
  | zero =>
    have going := (tended.tidy session).toConsistent.going alive
    have born : s.worker ≠ .unborn := fun unborn => by simp [unborn, Worker.isAlive] at alive
    have less := (provident n s session).left ((tended.tidy session).toConsistent.born born) going
    rw [offeredTo] at turns
    cases worker : s.worker <;> simp [worker, Worker.isAlive] at alive <;> simp only [Session.turnsLeft, worker] at turns <;>
      omega
  | succ left ih =>
    obtain ⟨k, task, able⟩ := supplied_goes_on tended session (provident n s session) alive
    obtain ⟨move, c₁, actor, made⟩ : ∃ move c₁, c.actor? move = some (.worker n) ∧ c.apply move = some c₁ := by
      rcases able with steps | ⟨-, -, answers⟩
      · obtain ⟨c₁, made⟩ := Option.isSome_iff_exists.mp (steps true)
        exact ⟨_, c₁, by simp [actor?, task], made⟩
      · obtain ⟨c₁, made⟩ := Option.isSome_iff_exists.mp (answers (.error (.unavailable "")))
        exact ⟨_, c₁, by simp [actor?, task], made⟩
    obtain ⟨s₁, session₁, ground, bounds, -, step⟩ := supplied_passage plain tended (provident n s session) session made
    obtain ⟨-, spends, stopped⟩ := step.resolve_right fun idle => idle.1 actor
    have fewer := spends.turn
    have tended₁ := tended_step tended (apply_effect made)
    cases alive₁ : s₁.worker.isAlive with
    | true =>
      have turns₁ : s₁.turnsLeft (c₁.offeredTo n s₁) ≤ left := by
        rw [offeredTo, ground, Session.offered_of_bounds bounds]
        exact Nat.le_of_lt_succ (Nat.lt_of_lt_of_le fewer turns)
      obtain ⟨later, c', s', finishes, short⟩ := ih (plain_step plain made) tended₁
        (provident_step plain tended provident made) session₁ alive₁ turns₁
      exact ⟨move :: later, c', s', finishes.cons actor made bounds stopped ground, Nat.succ_le_succ short⟩
    | false =>
      obtain ⟨t, found, persists⟩ := onward (apply_effect made) n s session
      obtain rfl : s₁ = t := Option.some.inj (session₁.symm.trans found)
      have born := persists.born fun unborn => by simp [unborn, Worker.isAlive] at alive
      have done := done_of_dead tended₁ session₁ born alive₁
      have ended : Finishes c₁ n s₁ [] c₁ s₁ := ⟨rfl, rfl, session₁, done, rfl, rfl, rfl⟩
      exact ⟨[move], c₁, s₁, ended.cons actor made bounds stopped ground, by simp⟩

/-- What is known of a session at every moment: it has been reached by `moves` from `start`. -/
structure NeverIdles (start : Chronicle) (moves : List Move) (c : Chronicle) (n : Nat) (s : Session) : Prop where
  starts : ∀ (move : Move) (c' : Chronicle) (s' : Session), c.apply move = some c' → c'.system.session? n = some s' →
    s.started = false → s'.started = true →
      (c.offeredTo n s = [] ↔ s'.done = true ∧ c'.system.openings = c.system.openings)
  spared : c.offeredTo n s = [] → s.worker = .unborn ∧ s.error = none ∧ (s.started = true → s.done = true)
  opened : c.offeredTo n s ≠ [] → s.started = true →
    s.worker ≠ .unborn ∨ c.Opens n ∨ ∃ error, s.error = some (.opening error)
  prompt : ∀ {subscription : Subscription} {deadline : Nat} {parked : Bool},
    s.worker = .receiving subscription deadline parked → parked = false ∧ ∃ e, (c.offeredTo n s)[s.tally.total]? = some e ∧
      ∀ now, (subscription.receive c.system.log now deadline false).1 = .entry e
  bounded : receives n moves start ≤ (c.offeredTo n s).length ∧ worked n moves start ≤ 3 * (c.offeredTo n s).length + 1
  goesOn : s.worker.isAlive = true → ∃ k : Nat, c.system.tasks[k]? = some (.worker n) ∧
    ((∀ stopFirst, (c.apply (.run stopFirst k)).isSome = true) ∨
      s.worker.inFlight ≠ [] ∧ c.system.executor.isHeld = true ∧ ∀ outcome, (c.apply (.answer k outcome)).isSome = true)
  ends : s.worker.isAlive = true → ∃ (later : List Move) (c' : Chronicle) (s' : Session),
    Finishes c n s later c' s' ∧ worked n moves start + later.length ≤ 3 * (c.offeredTo n s).length + 1

theorem starts_of_plain (plain : Plain c) (session : c.system.session? n = some s) (made : c.apply move = some c')
    (session' : c'.system.session? n = some s') (unclaimed : s.started = false) (claimed : s'.started = true) :
    c.offeredTo n s = [] ↔ s'.done = true ∧ c'.system.openings = c.system.openings := by
  rw [← nothing_iff plain session]
  cases begun made session session' unclaimed claimed with
  | skipped nothing closed => exact ⟨fun _ => ⟨rfl, closed⟩, fun _ => nothing⟩
  | claimed something => simp [something, plain.sound.1.going_of_unclaimed session unclaimed]
  | spawned something subscription opened | refused something error opened => simp [something, opened]

/-- At every moment of every run no session idles, and every worker is on the way to its end. -/
theorem every_session_ends_without_idling {settings : Settings} {executor : Executor}
    (ran : run moves (opened settings executor {}) = some c) (session : c.system.session? n = some s) :
    NeverIdles (opened settings executor {}) moves c n s := by
  obtain ⟨plain, tended, provident⟩ := provident_after ran
  have supplied := provident n s session
  obtain ⟨-, turns, heard⟩ := spent_after ran session
  have finished : s.started = true → c.offeredTo n s = [] → s.done = true := by
    intro started none
    by_contra going
    have left := supplied.left started (by simpa using going)
    rw [show s.offered (c.notes.ground n) = [] from none] at left
    cases left
  constructor
  case starts =>
    intro move c' s' made session' unclaimed claimed
    exact starts_of_plain plain session made session' unclaimed claimed
  case spared => exact fun none => ⟨(supplied.spared none).1, (supplied.spared none).2, fun started => finished started none⟩
  case opened =>
    intro something started
    by_cases born : s.worker = .unborn
    · cases done : s.done with
      | false => exact .inr (.inl (tended.hanging session ⟨started, done, born⟩))
      | true => exact .inr (.inr (supplied.refused something done born))
    · exact .inl born
  case prompt => exact fun worker => receives_at_once plain tended session supplied worker
  case bounded => exact ⟨by omega, by omega⟩
  case goesOn => exact supplied_goes_on tended session supplied
  case ends =>
    intro alive
    obtain ⟨later, c', s', finishes, short⟩ := comes_to_its_end _ plain tended provident session alive (Nat.le_refl _)
    exact ⟨later, c', s', finishes, by omega⟩

def replayOfTwo : List Move :=
  let first : Operation :=
    { tx := .ofNat 5, method := .put, schema := "person", space := "people", entity := "Person", id := "p1"
      version := ⟨0, 0, 0⟩, body := none }
  [.append .put none first, .append .put none { first with tx := .ofNat 6 },
    .append .delete none { first with tx := .ofNat 7 }, .call none { lower := some (.ofNat 5), lowerInclusive := false },
    .advance 0, .advance 0, .advance 0, .advance 0, .advance 0, .advance 0, .run true 0, .run true 0,
    .append .put none { first with tx := .ofNat 8 }, .run true 0, .run true 0,
    .run true 0, .run true 0, .run true 0]

theorem two_entries_are_received_at_once : ∃ (c : Chronicle) (s : Session),
    run replayOfTwo (opened { restore := { pollInterval := 0 } } .logging {}) = some c ∧ c.system.session? 0 = some s ∧
      s.tally = ⟨2, 0, 0⟩ ∧ s.done = true ∧ (c.offeredTo 0 s).length = 2 ∧
      receives 0 replayOfTwo (opened { restore := { pollInterval := 0 } } .logging {}) = 2 ∧
      NeverIdles (opened { restore := { pollInterval := 0 } } .logging {}) replayOfTwo c 0 s := by
  have ends : ((run replayOfTwo (opened { restore := { pollInterval := 0 } } .logging {})).bind fun c =>
      (c.system.session? 0).map fun s => (s.tally, s.done, (c.offeredTo 0 s).length)) = some (⟨2, 0, 0⟩, true, 2) := by
    decide +kernel
  have heard : receives 0 replayOfTwo (opened { restore := { pollInterval := 0 } } .logging {}) = 2 := by decide +kernel
  obtain ⟨c, ran, found⟩ := Option.bind_eq_some_iff.mp ends
  obtain ⟨s, session, state⟩ := Option.map_eq_some_iff.mp found
  obtain ⟨tally, done, offered⟩ := by simpa only [Prod.mk.injEq] using state
  exact ⟨c, s, ran, session, tally, done, offered, heard, every_session_ends_without_idling ran session⟩

end Chronicle
end Journal
