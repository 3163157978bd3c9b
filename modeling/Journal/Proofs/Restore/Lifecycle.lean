import Journal.Proofs.Places
import Journal.Proofs.Restore.Faithful
import Journal.Proofs.Restore.Life
import Mathlib.Logic.Relation

/-!
A session is created, started and done, in this order, and each of these once. Whatever is called and however the
calls and the steps of the worker follow on each other, only the first start acts; every entry that is processed is
counted once; and a session that is done never changes again.
-/
namespace Journal

namespace Session

/-- What the fields of a session say of each other. -/
structure Consistent (s : Session) : Prop where
  finished : s.finishedAt.isSome = s.done
  failed : s.error ≠ none → s.done = true
  closed : s.done = true → s.started = true ∧ s.worker.isAlive = false
  born : s.worker ≠ .unborn → s.started = true
  fresh : s.started = false → s.tally = {}

/-- The worker goes on, or it ends and the session is done. -/
inductive Fate (s s' : Session) : Prop where
  | goes (alive : s'.worker.isAlive = true) (done : s'.done = s.done) (finished : s'.finishedAt = s.finishedAt)
      (error : s'.error = s.error)
  | ends (dead : s'.worker.isAlive = false) (done : s'.done = true) (finished : s'.finishedAt.isSome = true)

/-- Either no entry was counted, or one was, by one more in one of the counters. -/
def Counts (before after : Tally) (counted : List Ulid) : Prop :=
  counted = [] ∧ after = before ∨
    ∃ id, counted = [id] ∧ (after = before.restore ∨ after = before.fail ∨ after = before.ignore)

structure Turned (s s' : Session) (counted : List Ulid) : Prop where
  fate : Fate s s'
  counts : Counts s.tally s'.tally counted
  stopped : s'.stopped = s.stopped

variable {s s' : Session} {settings : RestoreSettings} {now : Nat} {log : Log} {events : List Event}

theorem Fate.of_same {t : Session} (fate : Fate s s') (done : s.done = t.done) (finished : s.finishedAt = t.finishedAt)
    (error : s.error = t.error) : Fate t s' := by
  cases fate with
  | goes alive done' finished' error' =>
    exact .goes alive (done'.trans done) (finished'.trans finished) (error'.trans error)
  | ends dead done' finished' => exact .ends dead done' finished'

theorem finish_finished (now : Nat) (s : Session) : (s.finish now).finishedAt.isSome = true := by
  cases present : s.finishedAt <;> simp [finish, present]

theorem complete_fate (now : Nat) (reason : Finish) (s : Session) : Fate s (s.complete now reason).1 :=
  .ends rfl rfl (finish_finished now _)

theorem abort_fate (now : Nat) (error : RestoreError) (s : Session) : Fate s (s.abort now error).1 :=
  .ends rfl rfl (finish_finished now _)

theorem proceed_fate (now : Nat) (subscription : Subscription) (id : Ulid) (s : Session) :
    Fate s (s.proceed now subscription id).1 ∧ (s.proceed now subscription id).1.tally = s.tally ∧
      (s.proceed now subscription id).1.stopped = s.stopped := by
  unfold proceed
  split
  · exact ⟨complete_fate now .reachedCeiling s, rfl, rfl⟩
  · exact ⟨.goes rfl rfl rfl rfl, rfl, rfl⟩

theorem Taken.turned {policy : UnrecognizedPolicy} {subscription : Subscription} {d : Delivery} {result : Reported}
    (taken : s.Taken policy now subscription d result) : Turned s result.1 (result.2.filterMap Event.counted?) := by
  cases taken with
  | idle => exact ⟨.goes rfl rfl rfl rfl, .inl ⟨rfl, rfl⟩, rfl⟩
  | failed | corrupt => exact ⟨abort_fate now _ s, .inl ⟨rfl, rfl⟩, rfl⟩
  | pastEnd | pastCeiling => exact ⟨complete_fate now _ s, .inl ⟨rfl, rfl⟩, rfl⟩
  | @refused e op => exact ⟨.ends rfl rfl (finish_finished now _), .inr ⟨e.id, rfl, .inr (.inr rfl)⟩, rfl⟩
  | @ignored e op =>
    obtain ⟨fate, tally, stopped⟩ := proceed_fate now subscription e.id { s with tally := s.tally.ignore }
    obtain ⟨quiet, -⟩ := proceed_quiet now subscription e.id { s with tally := s.tally.ignore }
    exact ⟨fate.of_same rfl rfl rfl, .inr ⟨e.id, congrArg (e.id :: ·) quiet, .inr (.inr tally)⟩, stopped⟩
  | submitted => exact ⟨.goes rfl rfl rfl rfl, .inl ⟨rfl, rfl⟩, rfl⟩

theorem turn_turned (turn : s.Turn settings now log s' events) : Turned s s' (events.filterMap Event.counted?) := by
  cases turn with
  | begin | listen => exact ⟨.goes rfl rfl rfl rfl, .inl ⟨rfl, rfl⟩, rfl⟩
  | halt => exact ⟨complete_fate now .stopped s, .inl ⟨rfl, rfl⟩, rfl⟩
  | heed =>
    have fate := complete_fate now .stopped { s with stopPermit := false }
    exact ⟨fate.of_same rfl rfl rfl, .inl ⟨rfl, rfl⟩, rfl⟩
  | receive subscription deadline parked result worker received =>
    rcases receive_cases received with ⟨_, _, _, -, -, taken⟩ | ⟨subscription', -, -, rfl⟩
    · exact taken.turned
    · exact ⟨.goes rfl rfl rfl rfl, .inl ⟨rfl, rfl⟩, rfl⟩
  | count subscription entry saga op outcome reported worker silent =>
    obtain ⟨tally, event, change, told, after, tells⟩ := s.count_spec now subscription entry saga op outcome
    obtain ⟨fate, same, stopped⟩ := proceed_fate now subscription entry.id { s with tally }
    have quiet : reported.filterMap Event.counted? = [] := counted_of_executed silent
    rw [after, tells, List.filterMap_append, quiet, List.filterMap_cons_some told,
      (proceed_quiet now subscription entry.id { s with tally }).1]
    refine ⟨fate.of_same rfl rfl rfl, .inr ⟨entry.id, rfl, ?_⟩, stopped⟩
    rcases change with rfl | rfl
    · exact .inl same
    · exact .inr (.inl same)

theorem Consistent.going (consistent : s.Consistent) (alive : s.worker.isAlive = true) : s.done = false := by
  cases closed : s.done with
  | false => rfl
  | true => simp [(consistent.closed closed).2] at alive

theorem Consistent.unclaimed (consistent : s.Consistent) (unclaimed : s.started = false) :
    s.done = false ∧ s.worker = .unborn := by
  constructor
  · cases closed : s.done with
    | false => rfl
    | true => simp [(consistent.closed closed).1] at unclaimed
  · by_cases unborn : s.worker = .unborn
    · exact unborn
    · simp [consistent.born unborn] at unclaimed

theorem Consistent.turn (consistent : s.Consistent) (turn : s.Turn settings now log s' events) : s'.Consistent := by
  have started : s'.started = true := (turn_continues turn).started.trans (consistent.born (turn_worker_born turn))
  have claimed : s'.started = false → s'.tally = {} := fun unclaimed => by simp [started] at unclaimed
  cases (turn_turned turn).fate with
  | goes alive done finished error =>
    have going : s'.done = false := done.trans (consistent.going (turn_alive turn))
    have unharmed : s'.error ≠ none → s'.done = true := by
      rw [error, done]
      exact consistent.failed
    exact ⟨by rw [finished, done, consistent.finished], unharmed, fun closed => by simp [going] at closed,
      fun _ => started, claimed⟩
  | ends dead done finished =>
    exact ⟨finished.trans done.symm, fun _ => done, fun _ => ⟨started, dead⟩, fun _ => started, claimed⟩

theorem Consistent.mark (consistent : s.Consistent) (going : s.done = false) :
    Consistent { s with started := true } where
  finished := consistent.finished
  failed := consistent.failed
  closed := fun closed => by simp [going] at closed
  born := fun _ => rfl
  fresh := fun unclaimed => by cases unclaimed

theorem Consistent.claim (consistent : s.Consistent) (unclaimed : s.started = false) :
    Consistent { s with started := true } :=
  consistent.mark (consistent.unclaimed unclaimed).1

theorem Consistent.finish (consistent : s.Consistent) (claimed : s.started = true) (unborn : s.worker = .unborn)
    (error : Option SessionError) (now : Nat) : ({ s with error := error }.finish now).Consistent where
  finished := finish_finished now _
  failed := fun _ => rfl
  closed := fun _ => ⟨claimed, by simp [Session.finish, unborn, Worker.isAlive]⟩
  born := fun _ => claimed
  fresh := consistent.fresh

theorem Consistent.spawn (consistent : s.Consistent) (claimed : s.started = true) (going : s.done = false)
    (subscription : Subscription) : (s.spawn subscription).Consistent where
  finished := consistent.finished
  failed := consistent.failed
  closed := fun closed => by simp [Session.spawn, going] at closed
  born := fun _ => claimed
  fresh := consistent.fresh

theorem Consistent.stop (consistent : s.Consistent) : s.stop.1.Consistent := by
  obtain ⟨_, _, marked⟩ := s.stop_flags
  rw [marked]
  exact ⟨consistent.finished, consistent.failed, consistent.closed, consistent.born, consistent.fresh⟩

end Session

def Event.opens : Event → Bool
  | .openingConsumer .. => true
  | _ => false

namespace Session

variable {s s' : Session} {settings : RestoreSettings} {now : Nat} {log : Log} {events : List Event}

theorem proceed_opens_nothing (now : Nat) (subscription : Subscription) (id : Ulid) (s : Session) :
    ∀ e ∈ (s.proceed now subscription id).2, e.opens = false := by
  unfold proceed
  split <;> simp [complete, Event.opens]

theorem Taken.opens_nothing {policy : UnrecognizedPolicy} {subscription : Subscription} {d : Delivery}
    {result : Reported} (taken : s.Taken policy now subscription d result) : ∀ e ∈ result.2, e.opens = false := by
  cases taken with
  | idle | submitted => simp
  | failed | corrupt => simp [abort, Event.opens]
  | pastEnd | pastCeiling => simp [complete, Event.opens]
  | refused => simp [abort, Event.opens]
  | ignored => exact List.forall_mem_cons.mpr ⟨rfl, proceed_opens_nothing now subscription _ _⟩

theorem turn_opens_nothing (turn : s.Turn settings now log s' events) : ∀ e ∈ events, e.opens = false := by
  cases turn with
  | begin | halt | listen | heed => simp [complete, Event.opens]
  | receive subscription deadline parked result worker received =>
    rcases receive_cases received with ⟨_, _, _, -, -, taken⟩ | ⟨subscription', -, -, rfl⟩
    · exact taken.opens_nothing
    · simp
  | count subscription entry saga op outcome reported worker silent =>
    intro e member
    rcases List.mem_append.mp member with early | late
    · obtain ⟨_, _, _, rfl⟩ := silent e early
      rfl
    · obtain ⟨tally, event, -, told, -, tells⟩ := s.count_spec now subscription entry saga op outcome
      rw [tells] at late
      rcases List.mem_cons.mp late with rfl | late
      · cases e with
        | openingConsumer => cases told
        | _ => rfl
      · exact proceed_opens_nothing _ _ _ _ e late

end Session

def System.openings (sys : System) : Nat := sys.reports.countP fun report => report.2.opens

theorem System.openings_report {origin : Origin} {events : List Event} {sys sys' : System}
    (reports : sys'.reports = events.reverse.map (origin, ·) ++ sys.reports) (none : ∀ e ∈ events, e.opens = false) :
    sys'.openings = sys.openings := by
  have silent : (events.reverse.map (origin, ·)).countP (fun report => report.2.opens) = 0 := by
    apply List.countP_eq_zero.mpr
    intro report member
    obtain ⟨e, inside, rfl⟩ := List.mem_map.mp member
    simp [none e (List.mem_reverse.mp inside)]
  rw [openings, reports, List.countP_append, silent, Nat.zero_add]
  rfl

theorem System.openings_subscribeFrom {origin : Origin} {source : String} {start : Option Start} {sys sys' : System}
    {result : Except TransportError Subscription} (h : sys.subscribeFrom origin source start = (result, sys')) :
    sys'.openings = sys.openings + 1 := by
  have announced : (sys.report origin [.openingConsumer source (sys.pool.topicOf source)]).openings =
      sys.openings + 1 := List.countP_cons_of_pos rfl
  rw [← announced]
  unfold subscribeFrom subscribe at h
  simp only at h
  split at h
  · cases h
    rfl
  · split at h
    · cases h
      rfl
    · cases h
      refine openings_report rfl fun e member => ?_
      split at member
      · cases member
      · rw [List.mem_singleton.mp member]
        rfl

namespace Life

variable {l l' : Life} {s s' : Session} {action : Action}

/-- The invariant: only the first start has claimed the session, and it alone opens the consumer and spawns the
worker. -/
structure Lived (l : Life) (s : Session) : Prop where
  session : l.system.session? 0 = some s
  consistent : s.Consistent
  claimed : s.started = true ↔ l.startups ≠ []
  first : ∀ (k : Nat) (call : Startup), l.startups[k]? = some call → (call = .returned (.ok false) ↔ k ≠ 0)
  opening : .opening ∈ l.startups → s.worker = .unborn ∧ s.done = false ∧ l.system.openings = 0
  unopened : l.startups = [] → l.system.openings = 0
  openings : l.system.openings ≤ 1
  unborn : s.worker = .unborn → l.system.tasks = []
  manned : s.worker ≠ .unborn → l.system.tasks = [.worker 0]

theorem Lived.tasks (lived : Lived l s) : ∀ task ∈ l.system.tasks, task = .worker 0 := by
  intro task member
  by_cases unborn : s.worker = .unborn
  · simp [lived.unborn unborn] at member
  · rw [lived.manned unborn] at member
    exact List.mem_singleton.mp member

theorem Lived.returned (lived : Lived l s) {i : Nat} (call : l.startups[i]? = some .opening)
    (result : Except TransportError Bool) (acted : result ≠ .ok false) :
    (∀ (k : Nat) (call : Startup), (l.startups.set i (.returned result))[k]? = some call →
        (call = .returned (.ok false) ↔ k ≠ 0)) ∧ .opening ∉ l.startups.set i (.returned result) := by
  have only (k : Nat) (opening : l.startups[k]? = some .opening) : k = 0 := by
    by_cases zero : k = 0
    · exact zero
    · cases (lived.first k _ opening).mpr zero
  obtain rfl := only i call
  have inside : 0 < l.startups.length := (List.getElem?_eq_some_iff.mp call).1
  constructor
  · intro k call' found
    cases k with
    | zero =>
      rw [List.getElem?_set_self inside] at found
      cases found
      simp [acted]
    | succ k =>
      rw [List.getElem?_set_ne (by simp)] at found
      exact lived.first (k + 1) call' found
  · intro member
    obtain ⟨k, found⟩ := List.mem_iff_getElem?.mp member
    cases k with
    | zero =>
      rw [List.getElem?_set_self inside] at found
      cases found
    | succ k =>
      rw [List.getElem?_set_ne (by simp)] at found
      cases only (k + 1) found

theorem Lived.resumed (lived : Lived l s) {i : Nat} (call : l.startups[i]? = some .opening) :
    s.started = true ∧ s.done = false ∧ s.worker = .unborn ∧ l.system.openings = 0 := by
  have member := List.mem_of_getElem? call
  obtain ⟨unborn, going, unopened⟩ := lived.opening member
  exact ⟨lived.claimed.mpr (List.ne_nil_of_mem member), going, unborn, unopened⟩

theorem Lived.opened (lived : Lived l s) {i : Nat} (call : l.startups[i]? = some .opening) {sys : System}
    {result : Except TransportError Subscription}
    (opened : l.system.subscribeFrom .caller s.source s.bounds.start = (result, sys)) :
    sys.session? 0 = some s ∧ sys.tasks = [] ∧ sys.openings = 1 := by
  obtain ⟨-, -, unborn, unopened⟩ := lived.resumed call
  have keeps := (System.subscribeFrom_spec opened).1
  refine ⟨?_, keeps.tasks.trans (lived.unborn unborn), by rw [System.openings_subscribeFrom opened, unopened]⟩
  rw [System.session?, keeps.sessions]
  exact lived.session

theorem Lived.settled (lived : Lived l s) {i : Nat} (call : l.startups[i]? = some .opening)
    {result : Except TransportError Bool} (acted : result ≠ .ok false) (session : l'.system.session? 0 = some s')
    (consistent : s'.Consistent) (started : s'.started = true) (startups : l'.startups = l.startups.set i (.returned result))
    (openings : l'.system.openings = 1) (unborn : s'.worker = .unborn → l'.system.tasks = [])
    (manned : s'.worker ≠ .unborn → l'.system.tasks = [.worker 0]) : Lived l' s' := by
  obtain ⟨first, closed⟩ := lived.returned call result acted
  have called : l'.startups ≠ [] := by
    rw [startups]
    simpa using List.ne_nil_of_mem (List.mem_of_getElem? call)
  exact
    { session, consistent, unborn, manned
      claimed := ⟨fun _ => called, fun _ => started⟩
      first := startups ▸ first
      opening := fun member => absurd (startups ▸ member) closed
      unopened := fun none => absurd none called
      openings := Nat.le_of_eq openings }

theorem first_snoc {calls : List Startup} {call : Startup}
    (first : ∀ (k : Nat) (call : Startup), calls[k]? = some call → (call = .returned (.ok false) ↔ k ≠ 0))
    (last : call = .returned (.ok false) ↔ calls ≠ []) :
    ∀ (k : Nat) (c : Startup), (calls ++ [call])[k]? = some c → (c = .returned (.ok false) ↔ k ≠ 0) := by
  intro k c found
  rcases getElem?_snoc_cases found with before | ⟨rfl, rfl⟩
  · exact first k c before
  · rw [last, Ne, Ne, List.length_eq_zero_iff]

theorem Lived.turn (lived : Lived l s) {events : List Event}
    (turn : s.Turn l.system.restore l.system.now l.system.log s' events)
    (session : l'.system.session? 0 = some s') (startups : l'.startups = l.startups)
    (tasks : l'.system.tasks = l.system.tasks)
    (reports : l'.system.reports = events.reverse.map (.task 0, ·) ++ l.system.reports) : Lived l' s' := by
  have born := Session.turn_worker_born turn
  have continues := Session.turn_continues turn
  have openings := System.openings_report reports (Session.turn_opens_nothing turn)
  exact
    { session
      consistent := lived.consistent.turn turn
      claimed := by rw [continues.started, startups, lived.claimed]
      first := startups ▸ lived.first
      opening := fun opening => absurd (lived.opening (startups ▸ opening)).1 born
      unopened := fun none => openings.trans (lived.unopened (startups ▸ none))
      openings := openings ▸ lived.openings
      unborn := fun unborn => absurd unborn (continues.born born)
      manned := fun _ => tasks.trans (lived.manned born) }

theorem Lived.unstarted (lived : Lived l s) (unclaimed : s.started = false) : l.startups = [] := by
  by_cases none : l.startups = []
  · exact none
  · simp [lived.claimed.mpr none] at unclaimed

theorem lived_step (lived : Lived l s) (change : Change l s action l' s') : Lived l' s' := by
  obtain ⟨session, consistent, claimed, first, opening, unopened, openings, unborn, manned⟩ := id lived
  cases change with
  | aside aside =>
    have same : l'.system.openings = l.system.openings := by rw [System.openings, aside.reports]; rfl
    exact
      { session := by rw [System.session?, aside.sessions]; exact session
        consistent
        claimed := by rw [aside.startups, claimed]
        first := aside.startups ▸ first
        opening := fun member => same ▸ opening (aside.startups ▸ member)
        unopened := fun none => same.trans (unopened (aside.startups ▸ none))
        openings := same ▸ openings
        unborn := fun none => aside.tasks.trans (unborn none)
        manned := fun some => aside.tasks.trans (manned some) }
  | late started =>
    have called : l.startups ≠ [] := claimed.mp started
    exact
      { session, consistent, openings, unborn, manned
        claimed := by simp [started]
        first := first_snoc first (by simp [called])
        opening := fun member => opening (by simpa using member)
        unopened := by simp }
  | skip unclaimed nothing =>
    have none := lived.unstarted unclaimed
    obtain ⟨going, unborn'⟩ := consistent.unclaimed unclaimed
    have same : ((l.system.setSession 0 ({ s with started := true }.finish l.system.now)).report .caller
        [.nothingToRestore s.source s.executionId s.ceiling]).openings = l.system.openings :=
      System.openings_report rfl (by simp [Event.opens])
    exact
      { session := System.session?_setSession_self session _
        consistent := (consistent.claim unclaimed).finish rfl unborn' s.error l.system.now
        claimed := by simp [Session.finish]
        first := first_snoc first (by simp [none])
        opening := by simp [none]
        unopened := by simp
        openings := same ▸ openings
        unborn := fun _ => unborn unborn'
        manned := fun born => absurd unborn' born }
  | claim unclaimed something =>
    have none := lived.unstarted unclaimed
    obtain ⟨going, unborn'⟩ := consistent.unclaimed unclaimed
    exact
      { session := System.session?_setSession_self session _
        consistent := consistent.claim unclaimed
        claimed := by simp
        first := first_snoc first (by simp [none])
        opening := fun _ => ⟨unborn', going, unopened none⟩
        unopened := by simp
        openings, unborn, manned }
  | @spawn i subscription sys call opened =>
    obtain ⟨started, going, -⟩ := lived.resumed call
    obtain ⟨present, idle, once⟩ := lived.opened call opened
    refine lived.settled call (by simp) (System.session?_setSession_self present _)
      (consistent.spawn started going subscription) started rfl once (by rintro ⟨⟩) fun _ => ?_
    show sys.tasks ++ [Task.worker 0] = [Task.worker 0]
    rw [idle]
    rfl
  | @refuse i error sys call failed =>
    obtain ⟨started, -, unborn', -⟩ := lived.resumed call
    obtain ⟨present, idle, once⟩ := lived.opened call failed
    have same : ((sys.setSession 0 (s.failOpening l.system.now error).1).report .caller
        (s.failOpening l.system.now error).2).openings = sys.openings :=
      System.openings_report rfl (by simp [Session.failOpening, Event.opens])
    exact lived.settled call (by simp) (System.session?_setSession_self present _)
      (consistent.finish started unborn' _ l.system.now) started rfl (same.trans once) (fun _ => idle)
      fun born => absurd unborn' born
  | stop =>
    obtain ⟨worker, done⟩ := Session.stop_worker s
    have started := (Session.stop_continues s).started
    have quiet : ∀ e ∈ s.stop.2, e.opens = false := fun e member => by
      rw [s.stop_tells e member]
      rfl
    have same : ((l.system.setSession 0 s.stop.1).report .caller s.stop.2).openings = l.system.openings :=
      System.openings_report rfl quiet
    exact
      { session := System.session?_setSession_self session _
        consistent := consistent.stop
        claimed := by rw [started, claimed]
        first
        opening := fun member => by rw [worker, done, same]; exact opening member
        unopened := fun none => same.trans (unopened none)
        openings := same ▸ openings
        unborn := fun none => unborn (worker ▸ none)
        manned := fun born => manned (worker ▸ born) }
  | @turn stopFirst s' executor events task stepped =>
    have present : { l.system.draw with executor }.session? 0 = some s := session
    exact lived.turn (Session.step_turn stepped) (System.session?_setSession_self present _) rfl rfl rfl
  | @answer outcome subscription entry saga op task worker =>
    have turn : s.Turn l.system.restore l.system.now l.system.log _ _ := Session.count_turn worker outcome
    exact lived.turn turn (System.session?_setSession_self session _) rfl rfl rfl

inductive Advance : Bool × Bool → Bool × Bool → Prop where
  | start : Advance (false, false) (true, false)
  | finish : Advance (true, false) (true, true)

theorem advances_of_started (started : s.started = true) (going : s.done = false) (kept : s'.started = true) :
    Relation.ReflTransGen Advance (s.started, s.done) (s'.started, s'.done) := by
  rw [started, going, kept]
  cases s'.done with
  | false => exact .refl
  | true => exact .single .finish

theorem change_advances (lived : Lived l s) (change : Change l s action l' s') :
    Relation.ReflTransGen Advance (s.started, s.done) (s'.started, s'.done) := by
  have turned {events : List Event} (turn : s.Turn l.system.restore l.system.now l.system.log s' events) :
      Relation.ReflTransGen Advance (s.started, s.done) (s'.started, s'.done) := by
    have started := lived.consistent.born (Session.turn_worker_born turn)
    exact advances_of_started started (lived.consistent.going (Session.turn_alive turn))
      ((Session.turn_continues turn).started.trans started)
  cases change with
  | aside | late => exact .refl
  | skip unclaimed nothing =>
    rw [unclaimed, (lived.consistent.unclaimed unclaimed).1]
    exact .tail (.single .start) .finish
  | claim unclaimed something =>
    rw [unclaimed, (lived.consistent.unclaimed unclaimed).1]
    exact .single .start
  | spawn call opened => exact .refl
  | refuse call failed =>
    obtain ⟨started, going, -⟩ := lived.resumed call
    exact advances_of_started started going started
  | stop =>
    rw [(Session.stop_continues s).started, (Session.stop_worker s).2]
  | turn task stepped => exact turned (Session.step_turn stepped)
  | answer task worker => exact turned (Session.count_turn worker _)

theorem change_counts (change : Change l s action l' s') : ∃ news, l'.system.reports = news ++ l.system.reports ∧
    Session.Counts s.tally s'.tally (news.filterMap fun report => report.2.counted?) := by
  have quiet {sys : System} (quiet : System.Quiet .caller l.system sys) (same : s'.tally = s.tally) :
      ∃ news, sys.reports = news ++ l.system.reports ∧
        Session.Counts s.tally s'.tally (news.filterMap fun report => report.2.counted?) := by
    obtain ⟨events, reports, silent⟩ := quiet
    refine ⟨_, reports, .inl ⟨?_, same⟩⟩
    rw [List.filterMap_map]
    exact List.filterMap_eq_nil_iff.mpr silent
  have turned {events : List Event} (turn : s.Turn l.system.restore l.system.now l.system.log s' events)
      (reports : l'.system.reports = events.reverse.map (.task 0, ·) ++ l.system.reports) :
      ∃ news, l'.system.reports = news ++ l.system.reports ∧
        Session.Counts s.tally s'.tally (news.filterMap fun report => report.2.counted?) := by
    refine ⟨_, reports, ?_⟩
    have told : (events.reverse.map ((Origin.task 0), ·)).filterMap (fun report => report.2.counted?) =
        (events.filterMap Event.counted?).reverse := by
      rw [List.filterMap_map, ← List.filterMap_reverse]
      rfl
    rw [told]
    rcases (Session.turn_turned turn).counts with ⟨none, same⟩ | ⟨id, one, more⟩
    · exact .inl ⟨by rw [none]; rfl, same⟩
    · exact .inr ⟨id, by rw [one]; rfl, more⟩
  cases change with
  | aside aside => exact ⟨[], aside.reports, .inl ⟨rfl, rfl⟩⟩
  | late | claim => exact ⟨[], rfl, .inl ⟨rfl, rfl⟩⟩
  | skip => exact quiet (System.quiet_report (l.system.setSession 0 _) (by simp [Event.counted?])) rfl
  | spawn call opened => exact quiet (System.subscribeFrom_spec opened).2.2.1 rfl
  | @refuse i error sys call failed =>
    have opening := (System.subscribeFrom_spec failed).2.2.1
    have silent : ∀ e ∈ (s.failOpening l.system.now error).2, e.counted? = none := by
      simp [Session.failOpening, Event.counted?]
    exact quiet (opening.trans (System.quiet_report (sys.setSession 0 _) silent)) rfl
  | stop =>
    have silent : ∀ e ∈ s.stop.2, e.counted? = none := fun e member => by
      rw [s.stop_tells e member]
      rfl
    obtain ⟨_, _, marked⟩ := s.stop_flags
    exact quiet (System.quiet_report (l.system.setSession 0 _) silent) (by rw [marked])
  | turn task stepped => exact turned (Session.step_turn stepped) rfl
  | answer task worker => exact turned (Session.count_turn worker _) rfl

theorem change_frozen (lived : Lived l s) (done : s.done = true) (change : Change l s action l' s') : s' = s := by
  obtain ⟨started, dead⟩ := lived.consistent.closed done
  cases change with
  | aside | late => rfl
  | skip unclaimed | claim unclaimed =>
    rw [started] at unclaimed
    cases unclaimed
  | spawn call | refuse call =>
    have going := (lived.resumed call).2.1
    rw [done] at going
    cases going
  | stop => simp [Session.stop, done]
  | turn task stepped => simp [Session.turn_alive (Session.step_turn stepped)] at dead
  | answer task worker => simp [worker, Worker.isAlive] at dead

theorem change_stopped (change : Change l s action l' s') :
    s'.stopped = true ↔ s.stopped = true ∨ action = .stop ∧ s.done = false := by
  cases change with
  | aside aside idle going => simp [going]
  | late | skip | claim | spawn | refuse => simp [Session.finish, Session.spawn, Session.failOpening]
  | stop => cases done : s.done <;> simp [Session.stop, done]
  | turn task stepped => simp [(Session.turn_turned (Session.step_turn stepped)).stopped]
  | @answer outcome subscription entry saga op task worker =>
    have turn : s.Turn l.system.restore l.system.now l.system.log _ _ := Session.count_turn worker outcome
    simp [(Session.turn_turned turn).stopped]

/-- What a session that goes on shows. -/
structure Onward (p p' : Progress) : Prop where
  moved : Relation.ReflTransGen Advance (p.started, p.done) (p'.started, p'.done)
  restored : p.tally.restored ≤ p'.tally.restored
  failed : p.tally.failed ≤ p'.tally.failed
  ignored : p.tally.ignored ≤ p'.tally.ignored
  frozen : p.done = true → p' = p

theorem Onward.refl (p : Progress) : Onward p p := ⟨.refl, Nat.le_refl _, Nat.le_refl _, Nat.le_refl _, fun _ => rfl⟩

theorem Onward.trans {p q r : Progress} (first : Onward p q) (second : Onward q r) : Onward p r where
  moved := first.moved.trans second.moved
  restored := Nat.le_trans first.restored second.restored
  failed := Nat.le_trans first.failed second.failed
  ignored := Nat.le_trans first.ignored second.ignored
  frozen := by
    intro done
    obtain rfl := first.frozen done
    exact second.frozen done

theorem counts_le {before after : Tally} {counted : List Ulid} (counts : Session.Counts before after counted) :
    before.restored ≤ after.restored ∧ before.failed ≤ after.failed ∧ before.ignored ≤ after.ignored := by
  rcases counts with ⟨-, rfl⟩ | ⟨id, -, rfl | rfl | rfl⟩ <;> simp [Tally.restore, Tally.fail, Tally.ignore]

theorem lived_perform (lived : Lived l s) (made : l.perform action = some l') :
    ∃ s', Lived l' s' ∧ Change l s action l' s' ∧ Onward s.progress s'.progress := by
  obtain ⟨s', change⟩ := perform_change lived.session lived.tasks made
  obtain ⟨news, -, counts⟩ := change_counts change
  obtain ⟨restored, failed, ignored⟩ := counts_le counts
  exact ⟨s', lived_step lived change, change, change_advances lived change, restored, failed, ignored,
    fun done => congrArg _ (change_frozen lived done change)⟩

theorem lived_run {actions : List Action} (lived : Lived l s) (h : run actions l = some l') :
    ∃ s', Lived l' s' ∧ Onward s.progress s'.progress := by
  induction actions generalizing l s with
  | nil =>
    cases h
    exact ⟨s, lived, .refl _⟩
  | cons action later ih =>
    obtain ⟨next, made, rest⟩ := Option.bind_eq_some_iff.mp h
    obtain ⟨t, lived', -, first⟩ := lived_perform lived made
    obtain ⟨s', lived'', second⟩ := ih lived' rest
    exact ⟨s', lived'', first.trans second⟩

theorem lived_created (settings : Settings) (executor : Executor) (script : Script) (now : Nat) (source : String)
    (bounds : Bounds) (newest : Option Entry) :
    ∃ s, Lived (created settings executor script now source bounds newest) s ∧ s.stopped = false := by
  refine ⟨_, ⟨rfl, ⟨rfl, ?_, ?_, ?_, fun _ => rfl⟩, ?_, ?_, ?_, fun _ => rfl, ?_, fun _ => rfl, ?_⟩, rfl⟩ <;>
    simp [created, System.createSession, System.ofSettings, System.openings, System.draw, Event.opens]

theorem Lived.shown (lived : Lived l s) : l.system.progressOf 0 = some s.progress := by
  rw [System.progressOf, lived.session]
  rfl

/-- A stop came before the session was done. -/
def StopCame (actions : List Action) (l : Life) : Prop :=
  ∃ before later c p, actions = before ++ .stop :: later ∧ run before l = some c ∧
    c.system.progressOf 0 = some p ∧ p.done = false

theorem stopCame_cons {later : List Action} (made : l.perform action = some l') :
    StopCame (action :: later) l ↔
      (∃ p, action = .stop ∧ l.system.progressOf 0 = some p ∧ p.done = false) ∨ StopCame later l' := by
  constructor
  · rintro ⟨before, after, c, p, parts, ran, shown, going⟩
    cases before with
    | nil =>
      cases parts
      cases ran
      exact .inl ⟨p, rfl, shown, going⟩
    | cons first before =>
      cases parts
      rw [run, made] at ran
      exact .inr ⟨before, after, c, p, rfl, ran, shown, going⟩
  · rintro (⟨p, rfl, shown, going⟩ | ⟨before, after, c, p, rfl, ran, shown, going⟩)
    · exact ⟨[], later, l, p, rfl, rfl, shown, going⟩
    · refine ⟨action :: before, after, c, p, rfl, ?_, shown, going⟩
      rw [run, made]
      exact ran

theorem stopped_iff {actions : List Action} (lived : Lived l s) (h : run actions l = some l') (lived' : Lived l' s') :
    s'.stopped = true ↔ s.stopped = true ∨ StopCame actions l := by
  induction actions generalizing l s with
  | nil =>
    cases h
    obtain rfl : s = s' := Option.some.inj (lived.session.symm.trans lived'.session)
    simp [StopCame]
  | cons action later ih =>
    obtain ⟨next, made, rest⟩ := Option.bind_eq_some_iff.mp h
    obtain ⟨t, lived'', change, -⟩ := lived_perform lived made
    rw [ih lived'' rest, change_stopped change, stopCame_cons made, lived.shown, or_assoc]
    simp [Session.progress]

/-- What holds at every moment of the life of a session. -/
structure Lifecycle (l : Life) (p : Progress) : Prop where
  shown : l.system.progressOf 0 = some p
  started : p.started = true ↔ l.startups ≠ []
  ordered : p.done = true → p.started = true
  first : ∀ (k : Nat) (call : Startup), l.startups[k]? = some call → (call = .returned (.ok false) ↔ k ≠ 0)
  consumer : l.system.openings ≤ 1
  worker : l.system.tasks = [] ∨ l.system.tasks = [.worker 0]
  finished : p.finishedAt.isSome = p.done
  failed : p.error ≠ none → p.done = true
  alive : p.workerAlive = true → p.started = true ∧ p.done = false
  fresh : p.started = false → p.tally = {}

/-- An action counts one entry or none. -/
def CountsOnce (l l' : Life) (p p' : Progress) : Prop :=
  ∃ news, l'.system.reports = news ++ l.system.reports ∧
    Session.Counts p.tally p'.tally (news.filterMap fun report => report.2.counted?)

theorem Lived.lifecycle (lived : Lived l s) : Lifecycle l s.progress where
  shown := lived.shown
  started := lived.claimed
  ordered := fun done => (lived.consistent.closed done).1
  first := lived.first
  consumer := lived.openings
  worker := by
    by_cases unborn : s.worker = .unborn
    · exact .inl (lived.unborn unborn)
    · exact .inr (lived.manned unborn)
  finished := lived.consistent.finished
  failed := fun failed => lived.consistent.failed fun none => failed (by simp [Session.progress, none])
  alive := by
    intro alive
    have born : s.worker ≠ .unborn := by
      intro unborn
      simp [Session.progress, unborn, Worker.isAlive] at alive
    exact ⟨lived.consistent.born born, lived.consistent.going alive⟩
  fresh := lived.consistent.fresh

/-- Whatever is called in a run and in whatever order, the session goes through its life once. -/
theorem every_session_lives_once {settings : Settings} {executor : Executor} {script : Script} {now : Nat}
    {source : String} {bounds : Bounds} {newest : Option Entry} {actions : List Action}
    (h : run actions (created settings executor script now source bounds newest) = some l) :
    ∃ p, Lifecycle l p ∧
      (p.stopped = true ↔ StopCame actions (created settings executor script now source bounds newest)) ∧
      (∀ action l', l.perform action = some l' →
        ∃ p', l'.system.progressOf 0 = some p' ∧ CountsOnce l l' p p') ∧
      ∀ later l', run later l = some l' → ∃ p', l'.system.progressOf 0 = some p' ∧ Onward p p' := by
  obtain ⟨t, first, unstopped⟩ := lived_created settings executor script now source bounds newest
  obtain ⟨s, lived, -⟩ := lived_run first h
  refine ⟨s.progress, lived.lifecycle, ?_, fun action l' made => ?_, fun later l' ran => ?_⟩
  · have stopped := stopped_iff first h lived
    simpa [unstopped, Session.progress] using stopped
  · obtain ⟨s', lived', change, -⟩ := lived_perform lived made
    exact ⟨s'.progress, lived'.shown, change_counts change⟩
  · obtain ⟨s', lived', onward⟩ := lived_run lived ran
    exact ⟨s'.progress, lived'.shown, onward⟩

def threeStarts : List Action :=
  [.look, .start, .start, .resume 0, .wait, .turn true, .wake 0, .stop, .start, .wake 0, .turn true, .wake 0, .stop,
    .look]

theorem a_session_of_three_starts_lives_once : ∃ l p,
    run threeStarts (created {} .logging {} 0 "a" {} (some ⟨.ofNat 5, "last", []⟩)) = some l ∧ Lifecycle l p ∧
      l.startups.length = 3 ∧ p.done = true ∧ p.stopped = true ∧
      ∀ later l', run later l = some l' → l'.system.progressOf 0 = some p := by
  have ends : (run threeStarts (created {} .logging {} 0 "a" {} (some ⟨.ofNat 5, "last", []⟩))).map (fun l =>
      (l.startups.length, (l.system.progressOf 0).map fun p => (p.done, p.stopped))) = some (3, some (true, true)) := by
    decide +kernel
  obtain ⟨l, ran, state⟩ := Option.map_eq_some_iff.mp ends
  obtain ⟨calls, flags⟩ := Prod.mk.inj state
  obtain ⟨q, shown, flags⟩ := Option.map_eq_some_iff.mp flags
  obtain ⟨p, lifecycle, -, -, onward⟩ := every_session_lives_once ran
  obtain rfl : p = q := Option.some.inj (lifecycle.shown.symm.trans shown)
  obtain ⟨done, stopped⟩ := Prod.mk.inj flags
  refine ⟨l, p, ran, lifecycle, calls, done, stopped, fun later l' rest => ?_⟩
  obtain ⟨p', shown', on⟩ := onward later l' rest
  rw [shown', on.frozen done]

end Life
end Journal
