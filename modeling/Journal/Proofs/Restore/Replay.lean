import Journal.Proofs.Restore.Faithful
import Journal.Proofs.Restore.SingleFlight
import Journal.Proofs.System.Counting
import Journal.Proofs.System.Extension

/-!
Replay is exact. Whatever else happens, the entries that a session has counted are the front of those that were on
its topic when the newest one was read for it and that lie within its bounds, and what it has handed to the executor
is the replayed part of that front with at most the one entry after it.
-/
namespace Journal
namespace Chronicle

def Sighting (log : Log) (names : LogSettings) (notes : Notes) (id : CallId) (call : StartCall) : Prop :=
  ∀ (observed : Option Nat) (inquiry : Inquiry), call.phase = .reading observed inquiry →
    inquiry = .asking ∨ inquiry = .answered (.ok (notes.sighted id).getLast?) ∧
      notes.sighted id <+: log.entries (names.topicOf call.source)

def Trusts (c : Chronicle) (n : Nat) (s : Session) : Prop :=
  s.Faithful (c.system.pool.topicOf s.source) (c.system.log.entries (c.system.pool.topicOf s.source))
    (c.notes.ground n) (c.system.countedBy n) (c.notes.handed n)

/-- The invariant of a chronicle without prepared answers. -/
structure Plain (c : Chronicle) : Prop where
  sound : c.Sound
  script : c.system.script = {}
  ordered : c.system.log.Ordered
  attributed : c.system.Attributed
  sighting : ∀ (id : CallId) (call : StartCall), c.call? id = some call →
    Sighting c.system.log c.system.pool.settings c.notes id call
  trusts : ∀ (n : Nat) (s : Session), c.system.session? n = some s → c.Trusts n s
  fresh : ∀ n : Nat, c.system.sessions.length ≤ n → c.notes.handed n = []

theorem Sighting.extends {log log' : Log} {names : LogSettings} {notes notes' : Notes} {id : CallId} {call : StartCall}
    (sighting : Sighting log names notes id call) (grows : Log.Grows log log')
    (sighted : notes'.sighted id = notes.sighted id) : Sighting log' names notes' id call := by
  intro observed inquiry reading
  rcases sighting observed inquiry reading with asking | ⟨answered, grown⟩
  · exact .inl asking
  · exact .inr ⟨by rw [sighted, answered], sighted ▸ grown.trans (grows.extended _)⟩

theorem Trusts.extends {c c' : Chronicle} {n : Nat} {s : Session} (trusts : c.Trusts n s)
    (ordered : c.system.log.Ordered) (extended : c.system.Extends c'.system) (ground : c'.notes.ground n = c.notes.ground n)
    (counted : c'.system.countedBy n = c.system.countedBy n) (handed : c'.notes.handed n = c.notes.handed n) :
    c'.Trusts n s := by
  have names : c'.system.pool.topicOf s.source = c.system.pool.topicOf s.source := by
    simp only [Pool.topicOf, extended.names]
  unfold Trusts
  rw [names, ground, counted, handed]
  exact Session.Faithful.topic_grown trusts (ordered _) (extended.grows.extended _)

theorem follow_handed (id : CallId) (call call' : StartCall) (before after : System) (notes : Notes) :
    (notes.follow id call call' before after).handed = (notes.watch before after).handed := by
  unfold Notes.follow
  split <;> rfl

theorem follow_ground {id : CallId} {call call' : StartCall} {before after : System} {notes : Notes}
    (other : ∀ (observed : Option Nat) (n : Nat), call'.phase ≠ .installing observed n) :
    (notes.follow id call call' before after).ground = notes.ground := by
  unfold Notes.follow
  split
  · rfl
  · rename_i observed n _ made
    exact absurd made (other observed n)
  all_goals rfl

theorem follow_sighted {id other : CallId} (different : other ≠ id) (call call' : StartCall) (before after : System)
    (notes : Notes) : (notes.follow id call call' before after).sighted other = notes.sighted other := by
  unfold Notes.follow
  split <;> simp [Notes.watch, Function.update_of_ne different]

theorem turn_quiet {origin : Origin} {call : StartCall} {sys sys' : System} {phase : StartPhase}
    (turn : System.CallTurn origin call sys phase sys') : System.Quiet origin sys sys' := by
  have told : ∀ (n : Nat) (event : Session → Event), (∀ s, (event s).counted? = none) →
      ∀ e ∈ sys.reportOf n event, e.counted? = none := by
    intro n event silent e member
    unfold System.reportOf at member
    cases found : sys.session? n <;> simp_all
  cases turn with
  | join n => exact System.quiet_report sys (told n _ fun _ => rfl)
  | ask | create | fail | again | late | claim | miss => exact .refl origin _
  | read _ _ _ _ _ asked => exact ⟨[], (System.inquire_spec asked).2.2.1, by simp⟩
  | win observed n => exact System.quiet_report { sys with slots := sys.slots.insert call.source n } (told n _ fun _ => rfl)
  | lose observed n m => exact System.quiet_report sys (told m _ fun _ => rfl)
  | skip n s => exact System.quiet_report (sys.setSession n _) (by simp [Event.counted?])
  | spawn n s subscription sys' opening session opened => exact (System.subscribeFrom_spec opened).2.2.1
  | refuse n s error sys' opening session failed =>
    exact (System.subscribeFrom_spec failed).2.2.1.trans
      (System.quiet_report (sys'.setSession n _) (by simp [Session.failOpening, Event.counted?]))

theorem countedBy_fresh {c : Chronicle} (crewed : Crewed c.system.sessions c.system.tasks) {n : Nat}
    (beyond : c.system.sessions.length ≤ n) : c.system.countedBy n = [] := by
  apply List.filterMap_eq_nil_iff.mpr
  intro report _
  have stranger : c.system.worksFor n report.1 = false := by
    unfold System.worksFor
    split
    · rfl
    · split
      · rename_i k m task
        simp only [beq_eq_false_iff_ne]
        rintro rfl
        obtain ⟨s, found, -⟩ := crewed.born task
        rw [List.getElem?_eq_none beyond] at found
        cases found
      · rfl
  simp [stranger]

def Kept (c' : Chronicle) : Prop :=
  (∀ (n : Nat) (s : Session), c'.system.session? n = some s → c'.Trusts n s) ∧
    ∀ n : Nat, c'.system.sessions.length ≤ n → c'.notes.handed n = []

variable {c c' : Chronicle}

theorem kept_same (plain : Plain c) (extended : c.system.Extends c'.system)
    (sessions : c'.system.sessions = c.system.sessions) (ground : c'.notes.ground = c.notes.ground)
    (handed : c'.notes.handed = (c.notes.watch c.system c'.system).handed)
    (counted : ∀ n, c'.system.countedBy n = c.system.countedBy n) : Kept c' := by
  have same : c'.notes.handed = c.notes.handed := by
    rw [handed]
    funext n
    simp [Notes.watch, System.workerOf_eq sessions, Worker.handover_self]
  refine ⟨fun n s session => ?_, fun n beyond => ?_⟩
  · rw [System.session?, sessions] at session
    exact (plain.trusts n s session).extends plain.ordered extended (by rw [ground]) (counted n) (by rw [same])
  · rw [sessions] at beyond
    rw [same]
    exact plain.fresh n beyond

theorem kept_set {n : Nat} {s s' : Session} (plain : Plain c) (extended : c.system.Extends c'.system)
    (session : c.system.session? n = some s) (sessions : c'.system.sessions = c.system.sessions.set n s')
    (source : s'.source = s.source) (ground : c'.notes.ground = c.notes.ground)
    (handed : c'.notes.handed = (c.notes.watch c.system c'.system).handed)
    (others : ∀ m, m ≠ n → c'.system.countedBy m = c.system.countedBy m)
    (own : s'.Faithful (c.system.pool.topicOf s.source) (c.system.log.entries (c.system.pool.topicOf s.source))
      (c.notes.ground n) (c'.system.countedBy n) (c.notes.handed n ++ s.worker.handover s'.worker)) : Kept c' := by
  have inside : n < c.system.sessions.length := (List.getElem?_eq_some_iff.mp session).1
  have here : c'.system.session? n = some s' := by rw [System.session?, sessions, List.getElem?_set_self inside]
  have elsewhere : ∀ m, m ≠ n → c'.system.session? m = c.system.session? m := by
    intro m other
    rw [System.session?, sessions, List.getElem?_set_ne (Ne.symm other), System.session?]
  have handedHere : c'.notes.handed n = c.notes.handed n ++ s.worker.handover s'.worker := by
    simp [handed, Notes.watch, System.workerOf, session, here]
  have handedElsewhere : ∀ m, m ≠ n → c'.notes.handed m = c.notes.handed m := by
    intro m other
    simp [handed, Notes.watch, System.workerOf, elsewhere m other, Worker.handover_self]
  refine ⟨fun m t found => ?_, fun m beyond => ?_⟩
  · by_cases same : m = n
    · subst same
      rw [here] at found
      cases found
      have names : c'.system.pool.topicOf s'.source = c.system.pool.topicOf s.source := by
        simp only [Pool.topicOf, extended.names, source]
      unfold Trusts
      rw [names, handedHere, ground]
      exact own.topic_grown (plain.ordered _) (extended.grows.extended _)
    · rw [elsewhere m same] at found
      exact (plain.trusts m t found).extends plain.ordered extended (by rw [ground]) (others m same)
        (handedElsewhere m same)
  · rw [sessions, List.length_set] at beyond
    rw [handedElsewhere m (by omega)]
    exact plain.fresh m beyond

theorem kept_calm {n : Nat} {s s' : Session} (plain : Plain c) (extended : c.system.Extends c'.system)
    (session : c.system.session? n = some s) (sessions : c'.system.sessions = c.system.sessions.set n s')
    (source : s'.source = s.source) (ground : c'.notes.ground = c.notes.ground)
    (handed : c'.notes.handed = (c.notes.watch c.system c'.system).handed)
    (counted : ∀ m, c'.system.countedBy m = c.system.countedBy m) (calm : s.worker.handover s'.worker = [])
    (own : s'.Faithful (c.system.pool.topicOf s.source) (c.system.log.entries (c.system.pool.topicOf s.source))
      (c.notes.ground n) (c.system.countedBy n) (c.notes.handed n)) : Kept c' := by
  refine kept_set plain extended session sessions source ground handed (fun m _ => counted m) ?_
  rw [counted, calm, List.append_nil]
  exact own

theorem kept_snoc {s : Session} {ground : List Entry} (plain : Plain c) (extended : c.system.Extends c'.system)
    (sessions : c'.system.sessions = c.system.sessions ++ [s]) (unborn : s.worker = .unborn)
    (grounds : c'.notes.ground = Function.update c.notes.ground c.system.sessions.length ground)
    (handed : c'.notes.handed = (c.notes.watch c.system c'.system).handed)
    (counted : ∀ n, c'.system.countedBy n = c.system.countedBy n)
    (own : s.Faithful (c.system.pool.topicOf s.source) (c.system.log.entries (c.system.pool.topicOf s.source))
      ground [] []) : Kept c' := by
  have before : ∀ {n : Nat}, n < c.system.sessions.length → c'.system.session? n = c.system.session? n := by
    intro n inside
    rw [System.session?, sessions, List.getElem?_append_left inside, System.session?]
  have last : c'.system.session? c.system.sessions.length = some s := by simp [System.session?, sessions]
  have same : c'.notes.handed = c.notes.handed := by
    rw [handed]
    funext n
    have workers : c'.system.workerOf n = c.system.workerOf n := by
      rcases Nat.lt_trichotomy n c.system.sessions.length with less | here | more
      · rw [System.workerOf, before less, System.workerOf]
      · subst here
        rw [System.workerOf, last, System.workerOf, System.session?, List.getElem?_eq_none (Nat.le_refl _)]
        exact unborn
      · have beyond : c'.system.sessions.length ≤ n := by
          rw [sessions, List.length_append, List.length_singleton]
          omega
        simp [System.workerOf, System.session?, List.getElem?_eq_none beyond, List.getElem?_eq_none (Nat.le_of_lt more)]
    simp only [Notes.watch, workers, Worker.handover_self, List.append_nil]
  refine ⟨fun n t found => ?_, fun n beyond => ?_⟩
  · have inside : n < c'.system.sessions.length := (List.getElem?_eq_some_iff.mp found).1
    rw [sessions, List.length_append, List.length_singleton] at inside
    rcases Nat.lt_or_eq_of_le (Nat.le_of_lt_succ inside) with less | rfl
    · rw [before less] at found
      exact (plain.trusts n t found).extends plain.ordered extended
        (by rw [grounds, Function.update_of_ne (Nat.ne_of_lt less)]) (counted n) (by rw [same])
    · rw [last] at found
      cases found
      have names : c'.system.pool.topicOf s.source = c.system.pool.topicOf s.source := by
        simp only [Pool.topicOf, extended.names]
      unfold Trusts
      rw [names, grounds, Function.update_self, counted, countedBy_fresh plain.sound.2 (Nat.le_refl _), same,
        plain.fresh _ (Nat.le_refl _)]
      exact own.topic_grown (plain.ordered _) (extended.grows.extended _)
  · rw [sessions, List.length_append] at beyond
    rw [same]
    exact plain.fresh n (by omega)

theorem kept_turn {origin : Origin} {id : CallId} {call : StartCall} {phase : StartPhase} {sys : System}
    (plain : Plain c) (extended : c.system.Extends c'.system) (current : c.call? id = some call)
    (turn : System.CallTurn origin call c.system phase sys) (sessions : c'.system.sessions = sys.sessions)
    (counted : ∀ n, c'.system.countedBy n = c.system.countedBy n)
    (notes : c'.notes = c.notes.follow id call { call with phase } c.system sys) : Kept c' := by
  have handed : c'.notes.handed = (c.notes.watch c.system c'.system).handed := by
    rw [notes, follow_handed]
    funext n
    simp [Notes.watch, System.workerOf_eq sessions]
  have orderly := plain.sound.1
  cases turn with
  | create observed newest reading =>
    rcases plain.sighting id call current observed _ reading with asking | ⟨answered, grown⟩
    · cases asking
    · cases answered
      have grounds : c'.notes.ground =
          Function.update c.notes.ground c.system.sessions.length (c.notes.sighted id) := by
        simp only [notes, Notes.follow, reading]
      exact kept_snoc plain extended sessions rfl grounds handed counted (Session.faithful_created _ grown)
  | skip n s starting session unclaimed nothing =>
    have unborn := orderly.unborn_of_unclaimed session unclaimed
    exact kept_calm plain extended session sessions rfl (by rw [notes, follow_ground (by simp)]) handed counted
      (Worker.handover_self _)
      ((Session.Faithful.claim (plain.trusts n s session)).skip (plain.ordered _) unborn nothing c.system.now)
  | claim n s starting session unclaimed something =>
    exact kept_calm plain extended session sessions rfl (by rw [notes, follow_ground (by simp)]) handed counted
      (Worker.handover_self _) (Session.Faithful.claim (plain.trusts n s session))
  | spawn n s subscription sys' opening session opened =>
    obtain ⟨keeps, -, -, first⟩ := System.subscribeFrom_spec opened
    obtain ⟨-, going, unborn⟩ := orderly.of_opening current opening session
    have set := sessions.trans (keeps.setSession_sessions n (s.spawn subscription))
    refine kept_calm plain extended session set rfl (by rw [notes, follow_ground (by simp)]) handed counted
      (by rw [unborn]; rfl) ?_
    rw [(first plain.script).2 subscription rfl]
    exact Session.Faithful.spawn (plain.trusts n s session) unborn going
  | refuse n s error sys' opening session failed =>
    obtain ⟨keeps, -⟩ := System.subscribeFrom_spec failed
    obtain ⟨-, -, unborn⟩ := orderly.of_opening current opening session
    have set := sessions.trans (keeps.setSession_sessions n (s.failOpening c.system.now error).1)
    exact kept_calm plain extended session set rfl (by rw [notes, follow_ground (by simp)]) handed counted
      (Worker.handover_self _) (Session.Faithful.failOpening (plain.trusts n s session) unborn c.system.now error)
  | read observed inquiry inquiry' sys' reading asked =>
    refine kept_same plain extended (sessions.trans (System.inquire_spec asked).1.sessions) ?_ handed counted
    rw [notes, follow_ground (by simp)]
  | _ => exact kept_same plain extended sessions (by rw [notes, follow_ground (by simp)]) handed counted

theorem counted_turn {origin : Origin} {call : StartCall} {phase : StartPhase} {sys : System}
    (attributed : c.system.Attributed) (turn : System.CallTurn origin call c.system phase sys)
    (workers : System.SameWorkers sys c'.system) (reports : c'.system.reports = sys.reports) :
    c'.system.Attributed ∧ ∀ n, c'.system.countedBy n = c.system.countedBy n := by
  obtain ⟨more, tasks, -⟩ := turn_tasks turn
  have stay : System.WorkersStay c.system c'.system := fun k n task =>
    (workers k n).mpr (System.workersStay_of_append tasks k n task)
  obtain ⟨events, told, silent⟩ := turn_quiet turn
  exact System.countedBy_quiet attributed stay ⟨events, reports.trans told, silent⟩

theorem kept_step {move : Move} (plain : Plain c) (extended : c.system.Extends c'.system)
    (effect : Effect move c c') : c'.system.Attributed ∧ Kept c' := by
  cases effect with
  | aside frame sessions workers quiet =>
    obtain ⟨attributed, counted⟩ := System.countedBy_quiet plain.attributed (System.workersStay_of_same workers) quiet
    exact ⟨attributed, kept_same plain extended sessions frame.notes.ground frame.notes.handed counted⟩
  | called id source bounds fresh calls slots sessions workers reports notes =>
    obtain ⟨attributed, counted⟩ := System.countedBy_silent plain.attributed (System.workersStay_of_same workers) reports
    refine ⟨attributed, kept_same plain extended sessions notes.ground (notes.handed.trans ?_) counted⟩
    funext n
    simp [Notes.watch, System.workerOf_eq sessions, Worker.handover_self]
  | created source bounds execution time sessions slots calls workers reports notes =>
    obtain ⟨attributed, counted⟩ := System.countedBy_silent plain.attributed (System.workersStay_of_same workers) reports
    exact ⟨attributed, kept_snoc plain extended sessions rfl notes.ground notes.handed counted
      (Session.faithful_created _ List.prefix_rfl)⟩
  | stopped n s frame session sessions workers quiet =>
    obtain ⟨attributed, counted⟩ := System.countedBy_quiet plain.attributed (System.workersStay_of_same workers) quiet
    exact ⟨attributed, kept_calm plain extended session sessions s.stop_continues.source frame.notes.ground
      frame.notes.handed counted (by rw [s.stop_worker.1, Worker.handover_self])
      (Session.Faithful.stop (plain.trusts n s session))⟩
  | turned k n s s' events frame task session turn sessions workers reports =>
    obtain ⟨attributed, own, others⟩ := System.countedBy_turned plain.attributed task workers reports
    refine ⟨attributed, kept_set plain extended session sessions (Session.turn_continues turn).source frame.notes.ground
      frame.notes.handed others ?_⟩
    rw [own]
    exact Session.Faithful.turn (plain.trusts n s session) (plain.ordered _) rfl turn
  | skipped n s frame access session unclaimed nothing sessions workers quiet =>
    obtain ⟨attributed, counted⟩ := System.countedBy_quiet plain.attributed (System.workersStay_of_same workers) quiet
    have unborn := plain.sound.1.unborn_of_unclaimed session unclaimed
    exact ⟨attributed, kept_calm plain extended session sessions rfl frame.notes.ground frame.notes.handed counted
      (Worker.handover_self _)
      ((Session.Faithful.claim (plain.trusts n s session)).skip (plain.ordered _) unborn nothing c.system.now)⟩
  | spawned n s subscription frame access session unclaimed something sessions first tasks quiet =>
    obtain ⟨attributed, counted⟩ :=
      System.countedBy_quiet plain.attributed (System.workersStay_of_append tasks) quiet
    have unborn := plain.sound.1.unborn_of_unclaimed session unclaimed
    have going := plain.sound.1.going_of_unclaimed session unclaimed
    refine ⟨attributed, kept_calm plain extended session sessions rfl frame.notes.ground frame.notes.handed counted
      (by rw [unborn]; rfl) ?_⟩
    rw [first plain.script]
    exact Session.Faithful.spawn (Session.Faithful.claim (plain.trusts n s session)) unborn going
  | refused n s error frame access session unclaimed something sessions workers quiet =>
    obtain ⟨attributed, counted⟩ := System.countedBy_quiet plain.attributed (System.workersStay_of_same workers) quiet
    have unborn := plain.sound.1.unborn_of_unclaimed session unclaimed
    exact ⟨attributed, kept_calm plain extended session sessions rfl frame.notes.ground frame.notes.handed counted
      (Worker.handover_self _)
      (Session.Faithful.failOpening (Session.Faithful.claim (plain.trusts n s session)) unborn c.system.now error)⟩
  | stepped origin id call phase sys current turn calls sessions slots workers reports notes =>
    obtain ⟨attributed, counted⟩ := counted_turn plain.attributed turn workers reports
    exact ⟨attributed, kept_turn plain extended current turn sessions counted notes⟩

theorem sighting_moved {id : CallId} {call' : StartCall} (plain : Plain c) (extended : c.system.Extends c'.system)
    (calls : c'.call? = Function.update c.call? id (some call'))
    (others : ∀ other, other ≠ id → c'.notes.sighted other = c.notes.sighted other)
    (own : Sighting c'.system.log c'.system.pool.settings c'.notes id call') (other : CallId) (call : StartCall)
    (found : c'.call? other = some call) :
    Sighting c'.system.log c'.system.pool.settings c'.notes other call := by
  rw [calls] at found
  rcases found_moved found with ⟨rfl, rfl⟩ | ⟨different, there⟩
  · exact own
  · rw [extended.names]
    exact (plain.sighting other call there).extends extended.grows (others other different)

theorem sighting_turn {origin : Origin} {id : CallId} {call : StartCall} {phase : StartPhase} {sys : System}
    (plain : Plain c) (extended : c.system.Extends c'.system) (current : c.call? id = some call)
    (turn : System.CallTurn origin call c.system phase sys)
    (notes : c'.notes = c.notes.follow id call { call with phase } c.system sys) :
    Sighting c'.system.log c'.system.pool.settings c'.notes id { call with phase } := by
  intro observed inquiry reading
  cases turn with
  | ask observed' looking slot finished =>
    cases reading
    exact .inl rfl
  | read observed' earlier inquiry' sys' before asked =>
    cases reading
    obtain ⟨-, -, -, answers⟩ := System.inquire_spec asked
    rcases plain.sighting id call current _ earlier before with rfl | ⟨rfl, -⟩
    · have here : c'.notes.sighted id = c.system.log.entries (c.system.pool.topicOf call.source) := by
        simp only [notes, Notes.follow, before, Function.update_self]
      refine .inr ⟨?_, ?_⟩
      · rw [(answers plain.script).2 rfl, here]
        rfl
      · rw [here, extended.names]
        exact extended.grows.extended _
    · cases asked
  | _ => cases reading

theorem sighting_step {move : Move} (plain : Plain c) (extended : c.system.Extends c'.system)
    (effect : Effect move c c') (id : CallId) (call : StartCall) (found : c'.call? id = some call) :
    Sighting c'.system.log c'.system.pool.settings c'.notes id call := by
  have same : c'.call? = c.call? → c'.notes.sighted = c.notes.sighted →
      Sighting c'.system.log c'.system.pool.settings c'.notes id call := by
    intro calls sighted
    rw [calls] at found
    rw [extended.names]
    exact (plain.sighting id call found).extends extended.grows (by rw [sighted])
  cases effect with
  | aside frame | stopped _ _ frame | turned _ _ _ _ _ frame | skipped _ _ frame | spawned _ _ _ frame
  | refused _ _ _ frame => exact same frame.calls frame.notes.sighted
  | created source bounds execution time sessions slots calls workers reports notes => exact same calls notes.sighted
  | called other source bounds fresh calls slots sessions workers reports notes =>
    exact sighting_moved plain extended calls (fun _ _ => by rw [notes.sighted]) (fun _ _ reading => by cases reading) id call
      found
  | stepped origin other call' phase sys current turn calls sessions slots workers reports notes =>
    exact sighting_moved plain extended calls (fun _ different => by rw [notes, follow_sighted different])
      (sighting_turn plain extended current turn notes) id call found

theorem plain_step {move : Move} (plain : Plain c) (made : c.apply move = some c') : Plain c' := by
  have effect := apply_effect made
  have extended := apply_extends made
  obtain ⟨attributed, trusts, fresh⟩ := kept_step plain extended effect
  exact ⟨sound_step plain.sound effect, extended.plain plain.script, extended.grows.ordered plain.ordered, attributed,
    sighting_step plain extended effect, trusts, fresh⟩

theorem plain_opened (settings : Settings) (executor : Executor) : Plain (opened settings executor {}) where
  sound := sound_opened settings executor {}
  script := rfl
  ordered := fun _ => List.Pairwise.nil
  attributed := by simp [System.Attributed, opened, System.ofSettings, Event.counted?]
  sighting := by
    intro id call current
    cases id <;> simp [call?, opened, System.ofSettings] at current
  trusts := fun n s session => by simp [System.session?, opened, System.ofSettings] at session
  fresh := fun _ _ => rfl

/-- The entries that a session has to replay: those that were on its topic when the newest one was read for it and
that lie within its bounds. -/
def dueTo (c : Chronicle) (n : Nat) (s : Session) : List Entry :=
  (c.notes.ground n).filter fun e => s.bounds.holds e.id

/-- What is known of the replay of a session at every moment. -/
structure ExactReplay (c : Chronicle) (n : Nat) (s : Session) : Prop where
  ground : c.notes.ground n <+: c.system.log.entries (c.system.pool.topicOf s.source)
  ceiling : s.ceiling = (c.notes.ground n).getLast?.map Entry.id
  ascending : Ascending (c.dueTo n s)
  counted : c.system.countedBy n = ((c.dueTo n s).take s.tally.total).map Entry.id
  total : s.tally.total ≤ (c.dueTo n s).length
  handed : c.notes.handed n = ((c.dueTo n s).take s.tally.total).filterMap Entry.replay? ++ s.worker.inFlight
  inFlight : s.worker.inFlight = [] ∨
    ∃ (e : Entry) (saga : Saga) (op : Operation), (c.dueTo n s)[s.tally.total]? = some e ∧ e.decode = .ok op ∧
      Saga.forReplay op.method = some saga ∧ s.worker.inFlight = [(saga, op)]
  sagas : ∀ (saga : Saga) (op : Operation), (saga, op) ∈ c.notes.handed n →
    op.method = .put ∧ saga = .createOrOverwriteNoLog ∨ op.method = .delete ∧ saga = .deleteNoLog
  whole : s.done = true → s.error = none → s.stopped = false → s.tally.total = (c.dueTo n s).length

end Chronicle

theorem Saga.forReplay_cases {method : Method} {saga : Saga} (replay : Saga.forReplay method = some saga) :
    method = .put ∧ saga = .createOrOverwriteNoLog ∨ method = .delete ∧ saga = .deleteNoLog := by
  cases method <;> simp [Saga.forReplay] at replay <;> simp [replay]

namespace Chronicle

variable {c c' : Chronicle}

theorem exactReplay_of_trusts {n : Nat} {s : Session} (ordered : c.system.log.Ordered) (trusts : c.Trusts n s) :
    ExactReplay c n s := by
  have flight : s.worker.inFlight = [] ∨
      ∃ (e : Entry) (saga : Saga) (op : Operation), (c.dueTo n s)[s.tally.total]? = some e ∧
        e.replay? = some (saga, op) ∧ s.worker.inFlight = [(saga, op)] := by
    have stands := trusts.stands
    cases worker : s.worker with
    | submitting subscription e saga op =>
      rw [worker] at stands
      exact .inr ⟨e, saga, op, stands.2.1, stands.2.2, rfl⟩
    | _ => exact .inl rfl
  have ascending : Ascending (c.notes.ground n) := (ordered _).sublist trusts.grown.sublist
  refine ⟨trusts.grown, trusts.ceiling, ascending.sublist List.filter_sublist, trusts.counted, trusts.inside,
    trusts.handed, ?_, ?_, trusts.whole⟩
  · rcases flight with none | ⟨e, saga, op, next, replay, same⟩
    · exact .inl none
    · obtain ⟨decoded, forReplay⟩ := Entry.replay?_eq_some replay
      exact .inr ⟨e, saga, op, next, decoded, forReplay, same⟩
  · intro saga op member
    rw [trusts.handed] at member
    rcases List.mem_append.mp member with before | last
    · obtain ⟨e, -, replay⟩ := List.mem_filterMap.mp before
      exact Saga.forReplay_cases (Entry.replay?_eq_some replay).2
    · rcases flight with none | ⟨e, saga', op', -, replay, same⟩
      · rw [none] at last
        cases last
      · rw [same] at last
        cases List.mem_singleton.mp last
        exact Saga.forReplay_cases (Entry.replay?_eq_some replay).2

theorem plain_after {settings : Settings} {executor : Executor} {moves : List Move}
    (h : run moves (opened settings executor {}) = some c) : Plain c :=
  run_keeps (P := Plain) (fun _ _ _ plain made => plain_step plain made) (plain_opened settings executor) h

end Chronicle
end Journal
