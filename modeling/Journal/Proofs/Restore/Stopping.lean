import Journal.Proofs.Restore.Deliveries
import Journal.Proofs.Restore.Tending

/-!
A stop is prompt. It sets a flag, which the worker tests at the head of its loop, and leaves a permit, which ends a
wait; one of the two is always before the worker. What may still be counted depends only on where the stop has found
the worker: nothing before its loop, the entry in flight during a submission, and at most one entry during a receive.
After the stop the worker takes at most four steps, none of which waits for time to pass.
-/
namespace Journal

namespace Worker

def listens : Worker → Bool
  | .receiving .. => true
  | _ => false

def rests : Worker → Bool
  | .receiving .. | .submitting .. => false
  | _ => true

def stepsLeft : Worker → Nat
  | .ended => 0
  | .ready _ => 1
  | .unborn | .spawned _ | .submitting .. => 2
  | .receiving _ _ parked => if parked then 3 else 4

theorem stepsLeft_le (w : Worker) : w.stepsLeft ≤ 4 := by
  cases w with
  | receiving subscription deadline parked => cases parked <;> simp [stepsLeft]
  | _ => simp [stepsLeft]

theorem calm_of_rests {w : Worker} (rests : w.rests = true) : w.inFlight = [] ∧ w.listens = false := by
  cases w with
  | receiving | submitting => cases rests
  | _ => exact ⟨rfl, rfl⟩

theorem calm_of_listens {w : Worker} (listens : w.listens = true) : w.inFlight = [] := by
  cases w with
  | receiving => rfl
  | _ => cases listens

end Worker

/-- What is counted and handed over after a stop that has found the worker as `found` and the counters as `before`.
The entry that is still taken in a receive is one that was near. -/
inductive Heeded (near : Entry → Prop) (found : Worker) (before : Tally) :
    Worker → Tally → List Ulid → List (Saga × Operation) → Prop where
  | untouched {now : Worker} (calm : found.inFlight = []) (rests : now.rests = true) :
      Heeded near found before now before [] []
  | listening {now : Worker} (listened : found.listens = true) (listens : now.listens = true) :
      Heeded near found before now before [] []
  | flying (flies : found.inFlight ≠ []) : Heeded near found before found before [] []
  | landed {subscription : Subscription} {e : Entry} {saga : Saga} {op : Operation} {now : Worker} {after : Tally}
      (flight : found = .submitting subscription e saga op) (rests : now.rests = true)
      (counts : after = before.restore ∨ after = before.fail) : Heeded near found before now after [e.id] []
  | taken {subscription : Subscription} {e : Entry} {saga : Saga} {op : Operation} (listened : found.listens = true)
      (close : near e) (replay : e.replay? = some (saga, op)) :
      Heeded near found before (.submitting subscription e saga op) before [] [(saga, op)]
  | passed {e : Entry} {now : Worker} {after : Tally} (listened : found.listens = true) (close : near e)
      (rests : now.rests = true) (counts : after = before.restore ∨ after = before.fail ∨ after = before.ignore) :
      Heeded near found before now after [e.id] e.replay?.toList

namespace Heeded

variable {near : Entry → Prop} {first second third : Worker} {a b c : Tally} {counted counted' : List Ulid}
  {handed handed' : List (Saga × Operation)}

theorem refl (near : Entry → Prop) (w : Worker) (t : Tally) : Heeded near w t w t [] [] := by
  cases w with
  | receiving => exact .listening rfl rfl
  | submitting => exact .flying (by simp [Worker.inFlight])
  | _ => exact .untouched rfl rfl

theorem mono {near' : Entry → Prop} (wider : ∀ e, near e → near' e) (heeded : Heeded near first a second b counted handed) :
    Heeded near' first a second b counted handed := by
  cases heeded with
  | untouched calm rests => exact .untouched calm rests
  | listening listened listens => exact .listening listened listens
  | flying flies => exact .flying flies
  | landed flight rests counts => exact .landed flight rests counts
  | taken listened close replay => exact .taken listened (wider _ close) replay
  | passed listened close rests counts => exact .passed listened (wider _ close) rests counts

theorem of_rests (rests : first.rests = true) (heeded : Heeded near first a second b counted handed) :
    second.rests = true ∧ b = a ∧ counted = [] ∧ handed = [] := by
  obtain ⟨calm, deaf⟩ := Worker.calm_of_rests rests
  cases heeded with
  | untouched _ rests => exact ⟨rests, rfl, rfl, rfl⟩
  | flying flies => exact absurd calm flies
  | landed flight => simp [flight, Worker.rests] at rests
  | listening listened | taken listened | passed listened => simp [deaf] at listened

theorem trans (early : Heeded near first a second b counted handed)
    (late : Heeded near second b third c counted' handed') :
    Heeded near first a third c (counted ++ counted') (handed ++ handed') := by
  cases early with
  | untouched calm rests =>
    obtain ⟨rests, rfl, rfl, rfl⟩ := of_rests rests late
    exact .untouched calm rests
  | flying flies => exact late
  | landed flight rests counts =>
    obtain ⟨rests, rfl, rfl, rfl⟩ := of_rests rests late
    exact .landed flight rests counts
  | passed listened close rests counts =>
    obtain ⟨rests, rfl, rfl, rfl⟩ := of_rests rests late
    simpa using Heeded.passed listened close rests counts
  | listening listened listens =>
    cases late with
    | untouched _ rests => exact .untouched (Worker.calm_of_listens listened) rests
    | listening _ listens => exact .listening listened listens
    | flying flies => exact absurd (Worker.calm_of_listens listens) flies
    | landed flight => simp [flight, Worker.listens] at listens
    | taken _ close replay => exact .taken listened close replay
    | passed _ close rests counts => exact .passed listened close rests counts
  | taken listened close replay =>
    cases late with
    | untouched calm => cases calm
    | flying => exact .taken listened close replay
    | landed flight rests counts =>
      cases flight
      have passed := Heeded.passed listened close rests (counts.imp_right Or.inl)
      rw [replay] at passed
      exact passed
    | listening listens | taken listens | passed listens => cases listens

end Heeded

namespace Session

/-- A stop was called for the session, and unless it is done it still has the permit. -/
structure Signalled (s : Session) : Prop where
  stopped : s.stopped = true
  permit : s.done = false → s.stopPermit = true

variable {now : Nat} {s s' : Session} {settings : RestoreSettings} {log : Log} {events : List Event} {near : Entry → Prop}

theorem signalled_by_stop (going : s.done = false) : s.stop.1.Signalled := by
  simp only [stop, going]
  exact ⟨rfl, fun _ => rfl⟩

theorem Signalled.stop_again (signalled : s.Signalled) : s.stop = (s, []) := by
  unfold stop
  split
  · rfl
  · rename_i going
    have permit := signalled.permit (by simpa using going)
    have stopped := signalled.stopped
    cases s
    simp_all

theorem Signalled.turn (signalled : s.Signalled) (going : s.done = false) (turn : s.Turn settings now log s' events) :
    s'.Signalled := by
  refine ⟨(turn_turned turn).stopped.trans signalled.stopped, fun going' => ?_⟩
  rcases (turn_awake turn).1 with same | ⟨done, -⟩
  · rw [same, signalled.permit going]
  · simp [done] at going'

theorem Signalled.served (signalled : s.Signalled) (served : s.Served now s') : s'.Signalled := by
  cases served with
  | stays => exact signalled
  | stop =>
    rw [signalled.stop_again]
    exact signalled
  | claim | spawn => exact ⟨signalled.stopped, signalled.permit⟩
  | skip | refuse => exact ⟨signalled.stopped, nofun⟩

theorem proceed_rests (now : Nat) (subscription : Subscription) (id : Ulid) (s : Session) :
    (s.proceed now subscription id).1.worker.rests = true ∧ (s.proceed now subscription id).1.worker.stepsLeft ≤ 1 ∧
      (s.proceed now subscription id).1.tally = s.tally := by
  unfold proceed
  split
  · exact ⟨rfl, Nat.zero_le _, rfl⟩
  · exact ⟨rfl, Nat.le_refl _, rfl⟩

theorem Taken.heeded {policy : UnrecognizedPolicy} {subscription : Subscription} {d : Delivery} {result : Reported}
    (taken : s.Taken policy now subscription d result) (listens : s.worker.listens = true)
    (close : ∀ e, d = .entry e → near e) :
    Heeded near s.worker s.tally result.1.worker result.1.tally (result.2.filterMap Event.counted?)
      (s.worker.handover result.1.worker) ∧ result.1.worker.stepsLeft ≤ 2 := by
  have calm := Worker.calm_of_listens listens
  have hands : ∀ w : Worker, s.worker.handover w = w.inFlight := fun w => Worker.handover_of_calm calm
  cases taken with
  | idle => exact ⟨by rw [hands]; exact .untouched calm rfl, by simp [Worker.stepsLeft]⟩
  | failed | pastEnd | pastCeiling | corrupt => exact ⟨by rw [hands]; exact .untouched calm rfl, Nat.zero_le _⟩
  | @refused e op _ _ decoded unknown =>
    have silent : e.replay? = none := by simp [Entry.replay?, decoded, unknown]
    refine ⟨?_, Nat.zero_le _⟩
    rw [hands]
    have passed : Heeded near s.worker s.tally .ended s.tally.ignore [e.id] e.replay?.toList :=
      .passed listens (close e rfl) rfl (.inr (.inr rfl))
    rw [silent] at passed
    exact passed
  | @ignored e op _ _ decoded unknown =>
    have silent : e.replay? = none := by simp [Entry.replay?, decoded, unknown]
    obtain ⟨rests, short, tally⟩ := proceed_rests now subscription e.id { s with tally := s.tally.ignore }
    obtain ⟨quiet, -⟩ := proceed_quiet now subscription e.id { s with tally := s.tally.ignore }
    have told : (Event.ignored e.id e.position op.method).counted? = some e.id := rfl
    refine ⟨?_, Nat.le_succ_of_le short⟩
    dsimp only
    rw [hands, (Worker.calm_of_rests rests).1, tally, List.filterMap_cons_some told, quiet]
    have passed : Heeded near s.worker s.tally _ s.tally.ignore [e.id] e.replay?.toList :=
      .passed listens (close e rfl) rests (.inr (.inr rfl))
    rw [silent] at passed
    exact passed
  | @submitted e op saga _ _ decoded replay =>
    have replayed : e.replay? = some (saga, op) := by simp [Entry.replay?, decoded, replay]
    exact ⟨by rw [hands]; exact .taken listens (close e rfl) replayed, by simp [Worker.stepsLeft]⟩

theorem Signalled.heeded (signalled : s.Signalled) (turn : s.Turn settings now log s' events)
    (close : ∀ subscription deadline parked e, s.worker = .receiving subscription deadline parked →
      (subscription.receive log now deadline parked).1 = .entry e → near e) :
    Heeded near s.worker s.tally s'.worker s'.tally (events.filterMap Event.counted?) (s.worker.handover s'.worker) ∧
      s'.worker.stepsLeft < s.worker.stepsLeft := by
  cases turn with
  | begin subscription worker =>
    rw [worker]
    exact ⟨.untouched rfl rfl, Nat.lt_succ_self 1⟩
  | halt subscription worker =>
    rw [worker]
    exact ⟨.untouched rfl rfl, Nat.one_pos⟩
  | listen subscription worker going => simp [signalled.stopped] at going
  | heed subscription deadline parked worker =>
    rw [worker]
    refine ⟨.untouched rfl rfl, ?_⟩
    cases parked <;> simp [complete, finish, Worker.stepsLeft]
  | receive subscription deadline parked result worker received =>
    have far : 3 ≤ s.worker.stepsLeft := by
      rw [worker]
      cases parked <;> simp [Worker.stepsLeft]
    rcases receive_cases received with ⟨given, subscription', d, came, delivered, taken⟩ | ⟨subscription', early, -, rfl⟩
    · have given_near : ∀ e, d = .entry e → near e := by
        rintro e rfl
        refine close subscription deadline parked e worker ?_
        rw [came]
        cases given <;> cases delivered
        rfl
      obtain ⟨heeded, short⟩ := taken.heeded (by rw [worker]; rfl) given_near
      exact ⟨heeded, by omega⟩
    · subst early
      rw [worker]
      exact ⟨.listening rfl rfl, by simp [Worker.stepsLeft]⟩
  | count subscription e saga op outcome reported worker silent =>
    obtain ⟨tally, event, change, told, after, tells⟩ := s.count_spec now subscription e saga op outcome
    obtain ⟨rests, short, same⟩ := proceed_rests now subscription e.id { s with tally }
    have quiet : reported.filterMap Event.counted? = [] := counted_of_executed silent
    rw [after, tells, List.filterMap_append, quiet, List.filterMap_cons_some told, (proceed_quiet now subscription e.id _).1,
      same, worker]
    exact ⟨.landed rfl rests change, Nat.lt_of_le_of_lt short (Nat.lt_succ_self 1)⟩

theorem Served.heeded (served : s.Served now s') (near : Entry → Prop) :
    Heeded near s.worker s.tally s'.worker s'.tally [] [] ∧ s'.worker.stepsLeft ≤ s.worker.stepsLeft := by
  rw [served.kept.2.2.2]
  cases served with
  | stays | claim | skip | refuse => exact ⟨.refl near _ _, Nat.le_refl _⟩
  | stop =>
    rw [s.stop_worker.1]
    exact ⟨.refl near _ _, Nat.le_refl _⟩
  | spawn unborn =>
    rw [unborn]
    exact ⟨.untouched rfl rfl, Nat.le_refl _⟩

theorem turn_of_stopped {t : Tally} (turn : s.Turn settings now log s' events) (told : .restoreFinished .stopped t ∈ events) :
    s'.done = true ∧ s'.stopped = s.stopped ∧ s'.error = s.error ∧ s'.tally = s.tally ∧ t = s.tally := by
  have proceeds : ∀ (subscription : Subscription) (id : Ulid) (r : Session),
      Event.restoreFinished .stopped t ∉ (r.proceed now subscription id).2 := by
    intro subscription id r
    unfold proceed
    split <;> simp [complete]
  cases turn with
  | begin | listen => simp at told
  | halt | heed =>
    have same : t = s.tally := by simpa [complete] using told
    exact ⟨rfl, rfl, rfl, rfl, same⟩
  | receive subscription deadline parked result worker received =>
    rcases receive_cases received with ⟨given, subscription', d, -, -, taken⟩ | ⟨subscription', -, -, rfl⟩
    · cases taken with
      | ignored =>
        rcases List.mem_cons.mp told with other | later
        · cases other
        · exact absurd later (proceeds _ _ _)
      | _ => simp [complete, abort] at told
    · cases told
  | count subscription e saga op outcome reported worker silent =>
    obtain ⟨tally, event, -, counted, -, tells⟩ := s.count_spec now subscription e saga op outcome
    rcases List.mem_append.mp told with early | late
    · obtain ⟨_, _, _, other⟩ := silent _ early
      cases other
    · rw [tells] at late
      rcases List.mem_cons.mp late with rfl | later
      · cases counted
      · exact absurd later (proceeds _ _ _)

theorem Signalled.step_isSome (signalled : s.Signalled) (going : s.done = false) (alive : s.worker.isAlive = true)
    (fresh : Ulid) (origin : Origin) (stopFirst : Bool) {executor : Executor}
    (free : s.worker.inFlight = [] ∨ executor.isHeld = false) :
    (s.step settings now log fresh origin stopFirst executor).isSome = true := by
  unfold step
  cases worker : s.worker with
  | unborn | ended => simp [worker, Worker.isAlive] at alive
  | spawned => rfl
  | ready =>
    simp only
    split <;> rfl
  | receiving subscription deadline parked =>
    simp only [heedStop, signalled.permit going, if_true, Option.isSome_map]
    split <;> simp
  | submitting subscription e saga op =>
    have released : executor.isHeld = false := by
      rcases free with calm | released
      · simp [worker, Worker.inFlight] at calm
      · exact released
    simp [released]

end Session

theorem Consumer.seek_topic (entries : List Entry) (c : Consumer) : (seek entries c).topic = c.topic := by
  induction entries generalizing c with
  | nil => rfl
  | cons e entries ih =>
    simp only [seek]
    split
    · rfl
    · split
      · rfl
      · exact ih _

theorem Subscription.receive_again {subscription subscription' : Subscription} {log : Log} {now deadline : Nat}
    (h : subscription.receive log now deadline false = (.waiting, subscription')) :
    (subscription'.receive log now deadline true).1 = .waiting := by
  have early : ¬ deadline ≤ now := fun due => absurd (congrArg Prod.fst h) (Subscription.receive_due due false)
  cases subscription with
  | prepared deliveries =>
    obtain ⟨d, later, rfl, -⟩ := Subscription.receive_prepared h
    simp [receive, early]
  | topic c =>
    have seen : (c.look (log.entries c.topic)).2.seen = (log.entries c.topic).length ∧
        (c.look (log.entries c.topic)).2.topic = c.topic := by
      obtain ⟨seen, -⟩ := Consumer.seek_bounds ((log.entries c.topic).drop c.cursor)
        { c with seen := (log.entries c.topic).length }
      have topic := Consumer.seek_topic ((log.entries c.topic).drop c.cursor)
        { c with seen := (log.entries c.topic).length }
      unfold Consumer.look
      dsimp only
      split <;> exact ⟨seen, topic⟩
    simp only [receive, Consumer.receive, Bool.false_and, Bool.false_eq_true, if_false, if_neg early] at h
    split at h
    · cases h
    · rename_i c' looked
      cases h
      obtain ⟨length, topic⟩ : c'.seen = (log.entries c.topic).length ∧ c'.topic = c.topic := by rwa [looked] at seen
      simp [receive, Consumer.receive, topic, length, early]

namespace Chronicle

variable {c c' : Chronicle} {n k : Nat} {s s' : Session}

/-- A stop that reaches a session: of the session itself, or of the source whose slot it holds. -/
def Aims (c : Chronicle) (n : Nat) (move : Move) : Prop :=
  move = .stop n ∨ ∃ source, move = .stopSource source ∧ c.system.slot? source = some n

def worked (n : Nat) : List Move → Chronicle → Nat
  | [], _ => 0
  | move :: later, c =>
    (if c.actor? move = some (.worker n) then 1 else 0) + ((c.apply move).map (worked n later)).getD 0

def Offers (c : Chronicle) (n : Nat) (e : Entry) : Prop :=
  ∃ (s : Session) (subscription : Subscription) (deadline : Nat) (parked : Bool), c.system.session? n = some s ∧
    s.worker = .receiving subscription deadline parked ∧ s.stopPermit = true ∧
    (subscription.receive c.system.log c.system.now deadline parked).1 = .entry e

/-- At some moment of a run the worker takes a step while the entry and the stop are both there. -/
def Near (n : Nat) (moves : List Move) (c : Chronicle) (e : Entry) : Prop :=
  ∃ (earlier later : List Move) (move : Move) (c' : Chronicle), moves = earlier ++ move :: later ∧
    run earlier c = some c' ∧ c'.actor? move = some (.worker n) ∧ c'.Offers n e

theorem note_self (c : Chronicle) : c.note c.system = c := by
  have same : c.notes.watch c.system c.system = c.notes := by simp [Notes.watch, Worker.handover_self]
  simp only [note, same]

theorem stopSession_again (session : c.system.session? n = some s) (signalled : s.Signalled) :
    c.system.stopSession .caller n = c.system := by
  obtain ⟨inside, here⟩ := List.getElem?_eq_some_iff.mp session
  have same : c.system.sessions.set n s = c.system.sessions := by rw [← here, List.set_getElem_self]
  simp [System.stopSession, System.withSession_eq session, signalled.stop_again, System.setSession, System.report, same]

theorem aimed_stop {stop : Move} (aims : c.Aims n stop) (made : c.apply stop = some c') :
    c' = c.note (c.system.stopSession .caller n) := by
  rcases aims with rfl | ⟨source, rfl, slot⟩
  · cases made
    rfl
  · simp only [apply, System.stop, slot] at made
    cases made
    rfl

theorem aimed_stop_again {stop : Move} (aims : c.Aims n stop) (session : c.system.session? n = some s)
    (signalled : s.Signalled) : c.apply stop = some c := by
  rcases aims with rfl | ⟨source, rfl, slot⟩
  · simp only [apply, stopSession_again session signalled, note_self]
  · simp only [apply, System.stop, slot, stopSession_again session signalled, note_self]

theorem run_worker {stopFirst : Bool} {executor : Executor} {events : List Event}
    (task : c.system.tasks[k]? = some (.worker n)) (session : c.system.session? n = some s)
    (stepped : s.step c.system.restore c.system.now c.system.log c.system.freshId (.task k) stopFirst c.system.executor =
      some (s', executor, events)) :
    c.apply (.run stopFirst k) =
      some (c.note (({ c.system.draw with executor }.setSession n s').report (.task k) events)) := by
  have taken : c.system.stepTask stopFirst k =
      some (({ c.system.draw with executor }.setSession n s').report (.task k) events) := by
    simp [System.stepTask, task, session, stepped]
  simp [apply, taken, task]

theorem heeded_step {move : Move} {near : Entry → Prop} (tended : c.Tended) (session : c.system.session? n = some s)
    (signalled : s.Signalled) (made : c.apply move = some c')
    (close : ∀ e, c.actor? move = some (.worker n) → c.Offers n e → near e) :
    ∃ s' counted handed, c'.system.session? n = some s' ∧ s'.Signalled ∧
      c'.system.countedBy n = c.system.countedBy n ++ counted ∧ c'.notes.handed n = c.notes.handed n ++ handed ∧
      Heeded near s.worker s.tally s'.worker s'.tally counted handed ∧
      (if c.actor? move = some (.worker n) then 1 else 0) + s'.worker.stepsLeft ≤ s.worker.stepsLeft := by
  have effect := apply_effect made
  obtain ⟨s', session', passed⟩ := passage tended.sound.1 tended.attributed effect session
  have handed := handed_of_watch (effect_handed effect) session session'
  cases passed with
  | works k events actor task turn reports counted =>
    have going := (tended.tidy session).toConsistent.going (Session.turn_alive turn)
    have offered : ∀ subscription deadline parked e, s.worker = .receiving subscription deadline parked →
        (subscription.receive c.system.log c.system.now deadline parked).1 = .entry e → near e :=
      fun subscription deadline parked e worker given =>
        close e actor ⟨s, subscription, deadline, parked, session, worker, signalled.permit going, given⟩
    obtain ⟨heeded, shorter⟩ := signalled.heeded turn offered
    refine ⟨s', _, _, session', signalled.turn going turn, counted, handed, heeded, ?_⟩
    rw [if_pos actor]
    omega
  | served idle served counted =>
    obtain ⟨heeded, shorter⟩ := served.heeded near
    refine ⟨s', [], [], session', signalled.served served, ?_, ?_, heeded, ?_⟩
    · rw [counted, List.append_nil]
    · rw [handed, served.no_handover]
    · rw [if_neg idle]
      omega

theorem heeded_run {later : List Move} (tended : c.Tended) (session : c.system.session? n = some s)
    (signalled : s.Signalled) (went : run later c = some c') :
    ∃ s' counted handed, c'.system.session? n = some s' ∧ s'.Signalled ∧
      c'.system.countedBy n = c.system.countedBy n ++ counted ∧ c'.notes.handed n = c.notes.handed n ++ handed ∧
      Heeded (Near n later c) s.worker s.tally s'.worker s'.tally counted handed ∧
      worked n later c + s'.worker.stepsLeft ≤ s.worker.stepsLeft := by
  induction later generalizing c s with
  | nil =>
    cases went
    exact ⟨s, [], [], session, signalled, by simp, by simp, .refl _ _ _, by simp [worked]⟩
  | cons move later ih =>
    obtain ⟨next, made, rest⟩ := Option.bind_eq_some_iff.mp went
    have first : ∀ e, c.actor? move = some (.worker n) → c.Offers n e → Near n (move :: later) c e :=
      fun e actor offers => ⟨[], later, move, c, rfl, rfl, actor, offers⟩
    obtain ⟨t, counted, handed, found, signalled, told, hands, heeded, shorter⟩ :=
      heeded_step tended session signalled made first
    obtain ⟨s', counted', handed', session', signalled', told', hands', heeded', shorter'⟩ :=
      ih (tended_step tended (apply_effect made)) found signalled rest
    have wider : ∀ e, Near n later next e → Near n (move :: later) c e := by
      rintro e ⟨earlier, after, step, mid, rfl, ran, actor, offers⟩
      exact ⟨move :: earlier, after, step, mid, rfl, by simp [run, made, ran], actor, offers⟩
    refine ⟨s', counted ++ counted', handed ++ handed', session', signalled', ?_, ?_, heeded.trans (heeded'.mono wider), ?_⟩
    · rw [told', told, List.append_assoc]
    · rw [hands', hands, List.append_assoc]
    · simp only [worked, made, Option.map_some, Option.getD_some]
      omega

/-- The session is at its end without an error and has counted nothing since, and no time has passed. -/
def EndsAtOnce (c c' : Chronicle) (n : Nat) (s : Session) : Prop :=
  c'.system.now = c.system.now ∧ ∃ s', c'.system.session? n = some s' ∧ s'.done = true ∧ s'.error = none ∧
    s'.tally = s.tally

theorem worker_heeds {subscription : Subscription} {deadline : Nat} {parked : Bool}
    (task : c.system.tasks[k]? = some (.worker n)) (session : c.system.session? n = some s)
    (worker : s.worker = .receiving subscription deadline parked) (permit : s.stopPermit = true) (harmless : s.error = none)
    (stopFirst : Bool)
    (chosen : stopFirst = true ∨ s.receive c.system.restore c.system.now c.system.log subscription deadline parked = none) :
    ∃ c', c.apply (.run stopFirst k) = some c' ∧ EndsAtOnce c c' n s := by
  have stepped : s.step c.system.restore c.system.now c.system.log c.system.freshId (.task k) stopFirst c.system.executor =
      some (({ s with stopPermit := false }.complete c.system.now .stopped).1, c.system.executor,
        ({ s with stopPermit := false }.complete c.system.now .stopped).2) := by
    simp only [Session.step, worker, Session.heedStop, permit, if_true]
    rcases chosen with rfl | none
    · rfl
    · rw [none]
      cases stopFirst <;> rfl
  exact ⟨_, run_worker task session stepped, rfl, _, System.session?_setSession_self session _, rfl, harmless, rfl⟩

theorem idle_worker_ends {subscription : Subscription} {deadline : Nat} {parked : Bool} (tended : c.Tended)
    (session : c.system.session? n = some s) (signalled : s.Signalled)
    (worker : s.worker = .receiving subscription deadline parked)
    (idle : (subscription.receive c.system.log c.system.now deadline parked).1 = .waiting)
    (task : c.system.tasks[k]? = some (.worker n)) (first second : Bool) :
    ∃ c', (c.apply (.run first k) = some c' ∨ run [.run first k, .run second k] c = some c') ∧ EndsAtOnce c c' n s := by
  have going : s.done = false := (tended.tidy session).toConsistent.going (by rw [worker]; rfl)
  have permit := signalled.permit going
  have harmless : s.error = none := by
    by_contra failed
    simp [(tended.tidy session).failed failed] at going
  obtain ⟨subscription', looked⟩ : ∃ subscription', subscription.receive c.system.log c.system.now deadline parked =
      (.waiting, subscription') := ⟨_, Prod.ext idle rfl⟩
  by_cases now : first = true ∨ s.receive c.system.restore c.system.now c.system.log subscription deadline parked = none
  · obtain ⟨c', made, ends⟩ := worker_heeds task session worker permit harmless first now
    exact ⟨c', .inl made, ends⟩
  · obtain ⟨receives, waits⟩ := not_or.mp now
    rw [Bool.not_eq_true] at receives
    -- The first look only parks the worker.
    have parks : parked = false := by
      cases parked with
      | false => rfl
      | true => simp [Session.receive, looked] at waits
    subst parks receives
    have stepped : s.step c.system.restore c.system.now c.system.log c.system.freshId (.task k) false c.system.executor =
        some ({ s with worker := .receiving subscription' deadline true }, c.system.executor, []) := by
      simp [Session.step, worker, Session.receive, looked]
    obtain ⟨c₁, made, restore, now, log, tasks, parked⟩ : ∃ c₁, c.apply (.run false k) = some c₁ ∧
        c₁.system.restore = c.system.restore ∧ c₁.system.now = c.system.now ∧ c₁.system.log = c.system.log ∧
        c₁.system.tasks = c.system.tasks ∧
        c₁.system.session? n = some { s with worker := .receiving subscription' deadline true } :=
      ⟨_, run_worker task session stepped, rfl, rfl, rfl, rfl, System.session?_setSession_self session _⟩
    have nothing : Session.receive c₁.system.restore c₁.system.now c₁.system.log subscription' deadline true
        { s with worker := .receiving subscription' deadline true } = none := by
      obtain ⟨subscription'', again⟩ : ∃ subscription'', subscription'.receive c.system.log c.system.now deadline true =
          (.waiting, subscription'') := ⟨_, Prod.ext (Subscription.receive_again looked) rfl⟩
      simp [Session.receive, now, log, again]
    obtain ⟨c', made', now', s', session', ends⟩ :=
      worker_heeds (tasks ▸ task) parked rfl permit harmless second (.inr nothing)
    exact ⟨c', .inr (by simp [run, made, made']), now'.trans now, s', session', ends⟩

/-- What is known of a session at every moment after a stop: `c'` is the moment of the stop, which has found the session
as `s`, and `c''` the moment to which the run `later` has led since. -/
structure PromptStop (c' : Chronicle) (n : Nat) (s : Session) (later : List Move) (c'' : Chronicle) (s'' : Session) :
    Prop where
  signal : s''.stopped = true ∧ (s''.done = false → s''.stopPermit = true)
  again : ∀ stop, c''.Aims n stop → c''.apply stop = some c''
  heeded : ∃ counted handed, c''.system.countedBy n = c'.system.countedBy n ++ counted ∧
    c''.notes.handed n = c'.notes.handed n ++ handed ∧
    Heeded (Near n later c') s.worker s.tally s''.worker s''.tally counted handed
  unbegun : s.worker = .unborn ∨ (∃ subscription, s.worker = .spawned subscription) →
    s''.tally = {} ∧ c''.notes.handed n = []
  bounded : worked n later c' + s''.worker.stepsLeft ≤ 4 ∧ (s''.worker.isAlive = true → 0 < s''.worker.stepsLeft)
  prompt : s''.worker.isAlive = true → ∃ k : Nat, c''.system.tasks[k]? = some (.worker n) ∧
    ((∀ stopFirst, (c''.apply (.run stopFirst k)).isSome = true) ∨
      s''.worker.inFlight ≠ [] ∧ c''.system.executor.isHeld = true ∧ ∀ outcome, (c''.apply (.answer k outcome)).isSome = true)
  idle : ∀ {subscription : Subscription} {deadline : Nat} {parked : Bool},
    s''.worker = .receiving subscription deadline parked →
    (subscription.receive c''.system.log c''.system.now deadline parked).1 = .waiting →
    ∃ k : Nat, c''.system.tasks[k]? = some (.worker n) ∧ ∀ first second, ∃ c₃,
      (c''.apply (.run first k) = some c₃ ∨ run [.run first k, .run second k] c'' = some c₃) ∧ EndsAtOnce c'' c₃ n s''
  ended : ∀ (move : Move) (c₃ : Chronicle) (origin : Origin) (t : Tally) (told : List (Origin × Event)),
    c''.apply move = some c₃ → c''.actor? move = some (.worker n) → c₃.system.reports = told ++ c''.system.reports →
    (origin, .restoreFinished .stopped t) ∈ told → ∃ s₃, c₃.system.session? n = some s₃ ∧ s₃.done = true ∧
      s₃.stopped = true ∧ s₃.error = none ∧ s₃.tally = s''.tally ∧ t = s''.tally

/-- The entries that were counted are a prefix of those that are due. -/
def CountsPrefix (c : Chronicle) (n : Nat) (s : Session) : Prop :=
  s.tally.total ≤ (c.dueTo n s).length ∧ c.system.countedBy n = ((c.dueTo n s).take s.tally.total).map Entry.id

theorem countsPrefix_of_plain (plain : Plain c) (session : c.system.session? n = some s) : CountsPrefix c n s :=
  ⟨(plain.trusts n s session).inside, (plain.trusts n s session).counted⟩

theorem stepsLeft_pos {w : Worker} (alive : w.isAlive = true) : 0 < w.stepsLeft := by
  cases w with
  | unborn | ended => cases alive
  | receiving subscription deadline parked => cases parked <;> simp [Worker.stepsLeft]
  | _ => simp [Worker.stepsLeft]

theorem goes_on_of_able (tended : c.Tended) (session : c.system.session? n = some s) (alive : s.worker.isAlive = true)
    (able : s.worker.inFlight = [] ∨ c.system.executor.isHeld = false → ∀ (k : Nat) (stopFirst : Bool),
      (s.step c.system.restore c.system.now c.system.log c.system.freshId (.task k) stopFirst
        c.system.executor).isSome = true) :
    ∃ k : Nat, c.system.tasks[k]? = some (.worker n) ∧
      ((∀ stopFirst, (c.apply (.run stopFirst k)).isSome = true) ∨
        s.worker.inFlight ≠ [] ∧ c.system.executor.isHeld = true ∧
          ∀ outcome, (c.apply (.answer k outcome)).isSome = true) := by
  obtain ⟨k, task⟩ := tended.manned session (by rintro unborn; simp [unborn, Worker.isAlive] at alive)
  refine ⟨k, task, ?_⟩
  by_cases free : s.worker.inFlight = [] ∨ c.system.executor.isHeld = false
  · left
    intro stopFirst
    obtain ⟨⟨s', executor, events⟩, stepped⟩ := Option.isSome_iff_exists.mp (able free k stopFirst)
    rw [run_worker task session stepped]
    rfl
  · obtain ⟨flies, held⟩ := not_or.mp free
    refine .inr ⟨flies, by simpa using held, fun outcome => ?_⟩
    cases worker : s.worker with
    | submitting subscription e saga op => simp [apply, System.answered, task, session, worker]
    | _ => exact absurd (by simp [worker, Worker.inFlight]) flies

theorem worker_goes_on (tended : c.Tended) (session : c.system.session? n = some s) (signalled : s.Signalled)
    (alive : s.worker.isAlive = true) : ∃ k : Nat, c.system.tasks[k]? = some (.worker n) ∧
      ((∀ stopFirst, (c.apply (.run stopFirst k)).isSome = true) ∨
        s.worker.inFlight ≠ [] ∧ c.system.executor.isHeld = true ∧
          ∀ outcome, (c.apply (.answer k outcome)).isSome = true) :=
  goes_on_of_able tended session alive fun free _ _ =>
    signalled.step_isSome ((tended.tidy session).toConsistent.going alive) alive _ _ _ free

theorem promptStop_of_run {later : List Move} {c'' : Chronicle} (tended : c'.Tended) (tended'' : c''.Tended)
    (session : c'.system.session? n = some s.stop.1) (going : s.done = false) (went : run later c' = some c'') :
    ∃ s'', c''.system.session? n = some s'' ∧ PromptStop c' n s later c'' s'' := by
  obtain ⟨s'', counted, handed, session'', signalled, told, hands, heeded, bounded⟩ :=
    heeded_run tended session (Session.signalled_by_stop going) went
  have served : s.Served 0 s.stop.1 := .stop
  have found : s.stop.1.worker = s.worker ∧ s.stop.1.tally = s.tally := ⟨s.stop_worker.1, served.kept.2.2.2⟩
  rw [found.1, found.2] at heeded
  rw [found.1] at bounded
  refine ⟨s'', session'', ?_⟩
  constructor
  case signal => exact ⟨signalled.stopped, signalled.permit⟩
  case again => exact fun stop aims => aimed_stop_again aims session'' signalled
  case heeded => exact ⟨counted, handed, told, hands, heeded⟩
  case unbegun =>
    intro idle
    obtain ⟨fresh, silent⟩ := (tended.tidy session).idle (found.1.symm ▸ idle)
    have rests : s.worker.rests = true := by rcases idle with unborn | ⟨_, spawned⟩ <;> simp [*, Worker.rests]
    obtain ⟨-, same, -, none⟩ := heeded.of_rests rests
    rw [same, hands, silent, none, ← found.2, fresh]
    exact ⟨rfl, rfl⟩
  case bounded => exact ⟨Nat.le_trans bounded s.worker.stepsLeft_le, stepsLeft_pos⟩
  case prompt => exact worker_goes_on tended'' session'' signalled
  case idle =>
    intro subscription deadline parked worker nothing
    obtain ⟨k, task⟩ := tended''.manned session'' (by simp [worker])
    exact ⟨k, task, idle_worker_ends tended'' session'' signalled worker nothing task⟩
  case ended =>
    intro move c₃ origin t told made actor reports ended
    obtain ⟨s₃, session₃, passed⟩ := passage tended''.sound.1 tended''.attributed (apply_effect made) session''
    cases passed with
    | served idle => exact absurd actor idle
    | works k events _ task turn reports' =>
      rw [reports', List.append_cancel_right_eq] at reports
      rw [← reports] at ended
      obtain ⟨e, member, same⟩ := List.mem_map.mp ended
      obtain ⟨-, rfl⟩ := Prod.mk.inj same
      obtain ⟨done, stopped, error, tally, final⟩ := Session.turn_of_stopped turn (List.mem_reverse.mp member)
      have alive := (tended''.tidy session'').toConsistent.going (Session.turn_alive turn)
      have harmless : s''.error = none := by
        by_contra failed
        simp [(tended''.tidy session'').failed failed] at alive
      exact ⟨s₃, session₃, done, stopped.trans signalled.stopped, error.trans harmless, tally, final⟩

/-- At every moment after a stop that has found a session not done, the session has heeded the stop so far. -/
theorem every_stop_is_prompt {settings : Settings} {executor : Executor} {script : Script} {moves later : List Move}
    {stop : Move} {c'' : Chronicle} (ran : run moves (opened settings executor script) = some c)
    (session : c.system.session? n = some s) (going : s.done = false) (aims : c.Aims n stop)
    (stopped : c.apply stop = some c') (went : run later c' = some c'') :
    ∃ s'', c''.system.session? n = some s'' ∧ PromptStop c' n s later c'' s'' ∧
      (script = {} → CountsPrefix c'' n s'') := by
  have tended := tended_step (tended_after ran) (apply_effect stopped)
  have session' : c'.system.session? n = some s.stop.1 := by
    rw [aimed_stop aims stopped]
    simp only [note, System.stopSession, System.withSession_eq session]
    exact System.session?_setSession_self session _
  obtain ⟨s'', session'', prompt⟩ := promptStop_of_run tended (tended_run tended went) session' going went
  refine ⟨s'', session'', prompt, ?_⟩
  rintro rfl
  have plain := run_keeps (fun _ _ _ plain made => plain_step plain made) (plain_step (plain_after ran) stopped) went
  exact countsPrefix_of_plain plain session''

def stoppedReplay : List Move :=
  let first : Operation :=
    { tx := .ofNat 5, method := .put, schema := "person", space := "people", entity := "Person", id := "p1"
      version := ⟨0, 0, 0⟩, body := none }
  [.append .put none first, .append .delete none { first with tx := .ofNat 6 }, .call none {}, .advance 0, .advance 0,
    .advance 0, .advance 0, .advance 0, .advance 0, .run true 0, .run true 0]

theorem one_of_two_entries_is_replayed_after_a_stop : ∃ (c c' c'' : Chronicle) (s s'' : Session),
    run stoppedReplay (opened {} .logging {}) = some c ∧ c.system.session? 0 = some s ∧ s.done = false ∧
      s.worker.listens = true ∧ c.Aims 0 (.stopSource none) ∧ c.apply (.stopSource none) = some c' ∧
      run [.run false 0, .run false 0, .run false 0] c' = some c'' ∧ c''.system.session? 0 = some s'' ∧
      s''.tally = ⟨1, 0, 0⟩ ∧ s''.done = true ∧
      PromptStop c' 0 s [.run false 0, .run false 0, .run false 0] c'' s'' ∧ CountsPrefix c'' 0 s'' := by
  have before : (run stoppedReplay (opened {} .logging {})).map (fun c => ((c.system.session? 0).map
      fun s => (s.done, s.worker.listens), c.system.slot? none)) = some (some (false, true), some 0) := by decide +kernel
  have after : ((((run stoppedReplay (opened {} .logging {})).bind (·.apply (.stopSource none))).bind
      (run [.run false 0, .run false 0, .run false 0])).bind (·.system.session? 0)).map (fun s => (s.tally, s.done)) =
      some (⟨1, 0, 0⟩, true) := by decide +kernel
  obtain ⟨c, ran, state⟩ := Option.map_eq_some_iff.mp before
  obtain ⟨found, slot⟩ := Prod.mk.inj state
  obtain ⟨s, session, flags⟩ := Option.map_eq_some_iff.mp found
  obtain ⟨going, listens⟩ := Prod.mk.inj flags
  have aims : c.Aims 0 (.stopSource none) := .inr ⟨none, rfl, slot⟩
  rw [ran, Option.bind_some] at after
  obtain ⟨t, found'', state''⟩ := Option.map_eq_some_iff.mp after
  obtain ⟨c'', later, session''⟩ := Option.bind_eq_some_iff.mp found''
  obtain ⟨c', stopped, went⟩ := Option.bind_eq_some_iff.mp later
  obtain ⟨tally, done⟩ := Prod.mk.inj state''
  obtain ⟨s'', same, prompt, counts⟩ := every_stop_is_prompt ran session going aims stopped went
  obtain rfl : t = s'' := Option.some.inj (session''.symm.trans same)
  exact ⟨c, c', c'', s, t, ran, session, going, listens, aims, stopped, went, session'', tally, done, prompt, counts rfl⟩

end Chronicle
end Journal
