import Journal.Console
import Journal.Proofs.Restore.Answering
import Journal.Proofs.Restore.Request
import Journal.Rehearsal

/-!
A start that fails leaves nothing half done. A request with an invalid id is refused before a call is made. A call that
cannot read the newest entry has changed nothing, and one that cannot open its consumer leaves its own session, done
and with the error, in the slot. So the sessions in the slots are done or have a worker whenever no call is under way.
-/
namespace Journal

namespace System

theorem subscribeFrom_error {origin : Origin} {source : String} {start : Option Start} {sys sys' : System}
    {error : TransportError} (failed : sys.subscribeFrom origin source start = (.error error, sys')) :
    sys'.log = sys.log := by
  unfold subscribeFrom subscribe at failed
  dsimp only at failed
  split at failed
  · cases failed
  · split at failed <;> cases failed
    rfl

theorem startStep_log {origin : Origin} {call call' : StartCall} {sys sys' : System}
    (taken : sys.startStep origin call = some (call', sys')) :
    sys'.log = sys.log ∨ ∃ n, call' = { call with phase := .returned (.ok n) } := by
  obtain ⟨turn, same⟩ := startStep_turn taken
  generalize call'.phase = phase at turn same
  subst same
  cases turn with
  | read _ _ _ _ _ asked => exact .inl (inquire_spec asked).2.1
  | spawn n => exact .inr ⟨n, rfl⟩
  | refuse _ _ _ _ _ _ failed =>
    have same := subscribeFrom_error failed
    exact .inl same
  | _ => exact .inl rfl

end System

namespace StartPhase

def error? : StartPhase → Option RestoreError
  | .returned (.error error) => some error
  | _ => none

theorem error?_eq_some {phase : StartPhase} {error : RestoreError} (answer : phase.error? = some error) :
    phase = .returned (.error error) := by
  unfold error? at answer
  split at answer <;> cases answer
  rfl

end StartPhase

namespace Chronicle

variable {c c' start before : Chronicle} {move begin : Move} {moves : List Move} {id : CallId} {call call' : StartCall}
  {n : Nat} {source : String} {bounds : Bounds} {request : Option String}

def Unemptied (c : Chronicle) : Prop :=
  ∀ (id : CallId) (call : StartCall) (n : Nat), c.call? id = some call → call.phase.observed? = some n →
    (c.system.slots.get? call.source).isSome = true

theorem unemptied_step (orderly : c.Orderly) (unemptied : c.Unemptied) (effect : Effect move c c') : c'.Unemptied := by
  intro id call' n current' observed
  have follows := follows orderly effect
  have remains : ∀ {name : String}, (c.system.slots.get? name).isSome = true →
      (c'.system.slots.get? name).isSome = true := by
    intro name held
    obtain ⟨m, slot⟩ := Option.isSome_iff_exists.mp held
    obtain ⟨m', slot', -⟩ := follows.slot slot
    rw [slot']
    rfl
  cases there : c.call? id with
  | none =>
    rw [call_new effect there current'] at observed
    cases observed
  | some call =>
    have held := unemptied id call n there
    cases call_passage effect there with
    | rests _ same =>
      obtain rfl : call = call' := Option.some.inj (same.symm.trans current')
      exact remains (held observed)
    | steps origin phase sys actor turn same =>
      obtain rfl : _ = call' := Option.some.inj (same.symm.trans current')
      apply remains
      cases turn with
      | ask observed' looking slot =>
        obtain rfl : observed' = some n := observed
        rw [slot]
        rfl
      | read _ _ _ _ reading | create _ _ reading =>
        rw [reading] at held
        exact held observed
      | _ => cases observed

theorem unemptied_run (tended : c.Tended) (unemptied : c.Unemptied) (went : run moves c = some c') : c'.Unemptied := by
  have both : ∀ (x : Chronicle) (move : Move) (x' : Chronicle), x.Tended ∧ x.Unemptied → x.apply move = some x' →
      x'.Tended ∧ x'.Unemptied :=
    fun x move x' ⟨tended, unemptied⟩ made =>
      ⟨tended_step tended (apply_effect made), unemptied_step tended.sound.1 unemptied (apply_effect made)⟩
  exact (run_keeps both ⟨tended, unemptied⟩ went).2

theorem unemptied_opened (settings : Settings) (executor : Executor) (script : Script) :
    (opened settings executor script).Unemptied := by
  intro id call n current
  cases id <;> simp [call?, opened, System.ofSettings] at current

theorem observed_empty (unemptied : c.Unemptied) (current : c.call? id = some call) {observed : Option Nat}
    (installing : call.phase = .installing observed n) (empty : c.system.slots.get? call.source = none) :
    observed = none := by
  cases seen : observed with
  | none => rfl
  | some m =>
    have held := unemptied id call m current (by rw [installing]; exact seen)
    simp [empty] at held

theorem maker_old (effect : Effect move c c') (current : c.call? id = some call) (current' : c'.call? id = some call')
    (elsewhere : ∀ observed inquiry, call.phase = .reading observed inquiry →
      ∀ observed' n, call'.phase ≠ .installing observed' n) (maker : c'.notes.maker n = some id) :
    c.notes.maker n = some id := by
  by_contra before
  obtain ⟨-, same, observed, inquiry, there, reading, next⟩ := maker_new effect maker before
  obtain rfl : call = same := Option.some.inj (current.symm.trans there)
  obtain rfl : _ = call' := Option.some.inj (next.symm.trans current')
  exact elsewhere observed inquiry reading observed n rfl

theorem call_log (made : c.apply move = some c') (current : c.call? id = some call)
    (actor : c.actor? move = some (.call id)) :
    c'.system.log = c.system.log ∨ ∃ n, c'.call? id = some { call with phase := .returned (.ok n) } := by
  cases move with
  | advance i =>
    obtain rfl : CallId.caller i = id := by simpa [actor?] using actor
    obtain ⟨call', there, made⟩ := Option.bind_eq_some_iff.mp made
    obtain rfl : call = call' := Option.some.inj (current.symm.trans there)
    obtain ⟨⟨call', sys⟩, taken, made⟩ := Option.bind_eq_some_iff.mp made
    cases made
    have inside : i < c.callers.length := (List.getElem?_eq_some_iff.mp there).1
    rcases System.startStep_log taken with same | ⟨n, rfl⟩
    · exact .inl same
    · exact .inr ⟨n, by simp [call?, inside]⟩
  | run stopFirst k =>
    have here : id = .task k := by
      unfold actor? at actor
      dsimp only at actor
      split at actor <;> cases actor
      rfl
    subst here
    have task := call?_task.mp current
    have inside : k < c.system.tasks.length := (List.getElem?_eq_some_iff.mp task).1
    obtain ⟨sys, taken, made⟩ := Option.bind_eq_some_iff.mp made
    simp only [System.stepTask, task] at taken
    obtain ⟨⟨call', next⟩, stepped, rfl⟩ := Option.map_eq_some_iff.mp taken
    obtain ⟨more, tasks, -⟩ := turn_tasks (System.startStep_turn stepped).1
    have inside' : k < next.tasks.length := by
      rw [tasks, List.length_append]
      omega
    have there : (next.setTask k (.start call')).tasks[k]? = some (.start call') := by
      simp [System.setTask, inside']
    simp only [task, there] at made
    cases made
    rcases System.startStep_log stepped with same | ⟨n, rfl⟩
    · exact .inl same
    · exact .inr ⟨n, call?_task.mpr there⟩
  | answer k outcome =>
    obtain ⟨sys, answered, -⟩ := Option.map_eq_some_iff.mp made
    exfalso
    unfold actor? at actor
    unfold System.answered at answered
    dsimp only at actor
    split at actor <;> rename_i task <;> simp [task] at answered actor
  | _ => cases actor

theorem call_slots (orderly : c.Orderly) (effect : Effect move c c') (current : c.call? id = some call)
    (actor : c.actor? move = some (.call id)) (name : String) :
    c'.system.slots.get? name = c.system.slots.get? name ∨ name = call.source ∧ ∃ n, c'.notes.maker n = some id := by
  cases call_passage effect current with
  | rests idle => exact absurd actor idle
  | steps origin phase sys _ turn current' sessions slots =>
    rw [slots]
    cases turn with
    | win observed n installing =>
      have apt := orderly.apt current
      rw [installing] at apt
      by_cases here : name = call.source
      · exact .inr ⟨here, n, maker_stays orderly effect apt.2.1⟩
      · exact .inl (by simp [System.report, Table.get?_insert_other here])
    | read _ _ _ _ _ asked => exact .inl (by rw [(System.inquire_spec asked).1.slots])
    | spawn _ _ _ _ _ _ opened => exact .inl (by simp [System.setSession, (System.subscribeFrom_spec opened).1.slots])
    | refuse _ _ _ _ _ _ failed =>
      exact .inl (by simp [System.setSession, System.report, (System.subscribeFrom_spec failed).1.slots])
    | _ => exact .inl rfl

/-- Sessions and slots of a kind, and the log, are as they were. -/
structure Spares (kept : Nat → Prop) (held : String → Prop) (c c' : Chronicle) : Prop where
  sessions : ∀ n, kept n → c'.system.session? n = c.system.session? n
  slots : ∀ name, held name → c'.system.slots.get? name = c.system.slots.get? name
  log : c'.system.log = c.system.log

def Undisturbed (start : Chronicle) (moves : List Move) (id : CallId) : Prop :=
  ∀ (i : Nat) (x : Chronicle) (move : Move), At start moves i x → moves[i]? = some move →
    x.actor? move = some (.call id)

/-- Neither the beginning of a call nor any of its steps changes anything else; so nothing else has changed if nobody
else did anything. -/
structure Leaves (kept : Nat → Prop) (held : String → Prop) (before start : Chronicle) (moves : List Move) (id : CallId)
    (c : Chronicle) : Prop where
  begins : Spares kept held before start
  steps : ∀ (i : Nat) (x x' : Chronicle), StepsAt start moves id i x x' → Spares kept held x x'
  alone : Undisturbed start moves id → Spares kept held before c

variable {kept : Nat → Prop} {held : String → Prop}

theorem Spares.trans {x : Chronicle} (first : Spares kept held c c') (second : Spares kept held c' x) :
    Spares kept held c x where
  sessions := fun n mine => (second.sessions n mine).trans (first.sessions n mine)
  slots := fun name mine => (second.slots name mine).trans (first.slots name mine)
  log := second.log.trans first.log

theorem leaves_of_steps (went : run moves start = some c) (begins : Spares kept held before start)
    (steps : ∀ (i : Nat) (x x' : Chronicle), StepsAt start moves id i x x' → Spares kept held x x') :
    Leaves kept held before start moves id c := by
  refine ⟨begins, steps, fun alone => ?_⟩
  have front : ∀ i, i ≤ moves.length → ∀ x, At start moves i x → Spares kept held before x := by
    intro i
    induction i with
    | zero =>
      intro _ x moment
      cases moment.2
      exact begins
    | succ i ih =>
      intro inside x' after
      obtain ⟨x, moment⟩ := at_each went (Nat.le_of_succ_le inside)
      obtain ⟨move, here, made⟩ := moment.step after
      have spares := steps i x x' ⟨moment, after, move, here, alone i x move moment here⟩
      exact (ih (Nat.le_of_succ_le inside) x moment).trans spares
  exact front moves.length (Nat.le_refl _) c (at_end went)

def Unread (start : Chronicle) (moves : List Move) (id : CallId) (c : Chronicle) (error : RestoreError) : Prop :=
  (∀ n, c.notes.maker n ≠ some id) ∧
    ∃ (i : Nat) (x x' : Chronicle) (call : StartCall) (observed : Option Nat) (cause : TransportError),
      StepsAt start moves id i x x' ∧ x.call? id = some call ∧
        call.phase = .reading observed (.answered (.error cause)) ∧ error = .transport cause

/-- The session of a call right after its consumer could not be opened. -/
structure Stillborn (x : Chronicle) (id : CallId) (source : String) (n : Nat) (cause : TransportError) (s : Session) :
    Prop where
  maker : x.notes.maker n = some id
  slot : x.system.slots.get? source = some n
  session : x.system.session? n = some s
  source : s.source = source
  started : s.started = true
  done : s.done = true
  error : s.error = some (.opening cause)
  tally : s.tally = {}
  worker : s.worker = .unborn
  unmanned : ¬ x.Mans n

def Unopened (start : Chronicle) (moves : List Move) (id : CallId) (source : String) (c : Chronicle) (n : Nat)
    (error : RestoreError) : Prop :=
  (∀ m, c.notes.maker m = some id → m = n) ∧
    ∃ (i : Nat) (x x' : Chronicle) (cause : TransportError) (s : Session),
      StepsAt start moves id i x x' ∧ error = .transport cause ∧ Stillborn x' id source n cause s

def Makes (start : Chronicle) (moves : List Move) (id : CallId) (source : String) (c : Chronicle) : StartPhase → Prop
  | .looking | .reading .. => ∀ m, c.notes.maker m ≠ some id
  | .installing _ n | .starting n | .opening n => ∀ m, c.notes.maker m = some id → m = n
  | .returned (.ok _) => True
  | .returned (.error error) => Unread start moves id c error ∨ ∃ n, Unopened start moves id source c n error

theorem stillborn_of_refuse {origin : Origin} {s : Session} {cause : TransportError} {sys : System} (tended : c.Tended)
    (made : c.apply move = some c') (current : c.call? id = some call) (opening : call.phase = .opening n)
    (session : c.system.session? n = some s)
    (failed : c.system.subscribeFrom origin s.source s.bounds.start = (.error cause, sys))
    (sessions : c'.system.sessions = sys.sessions.set n (s.failOpening c.system.now cause).1)
    (slots : c'.system.slots = sys.slots) (source : s.source = call.source) :
    Stillborn c' id call.source n cause (s.failOpening c.system.now cause).1 := by
  have orderly : c.Orderly := tended.sound.1
  have apt := orderly.apt current
  rw [opening] at apt
  obtain ⟨maker, won, t, found, started, going, unborn⟩ := apt
  obtain rfl : s = t := Option.some.inj (session.symm.trans found)
  obtain ⟨-, u, found', holds⟩ := orderly.winner won
  obtain rfl : s = u := Option.some.inj (session.symm.trans found')
  have tidy := tended.tidy session
  have inside : n < c.system.sessions.length := (List.getElem?_eq_some_iff.mp session).1
  have keeps := (System.subscribeFrom_spec failed).1
  have session' : c'.system.session? n = some (s.failOpening c.system.now cause).1 := by
    rw [System.session?, sessions, keeps.sessions, List.getElem?_set_self inside]
  have faultless : s.error = none := by
    by_contra failed
    simp [tidy.failed failed] at going
  have uncounted := (tidy.idle (.inl unborn)).1
  refine ⟨maker_stays orderly (apply_effect made) maker, ?_, session', source, started, rfl, ?_, uncounted, unborn, ?_⟩
  · rw [slots, keeps.slots, ← source]
    exact holds going
  · simp [Session.failOpening, Session.finish, faultless]
  · rintro ⟨k, task⟩
    obtain ⟨u, found, born⟩ := (tended_step tended (apply_effect made)).sound.2.born task
    rw [System.session?, found] at session'
    cases session'
    exact born unborn

theorem Makes.later {phase : StartPhase} (makes : Makes start moves id source c phase) (move : Move)
    (made : ∀ n, c'.notes.maker n = some id → c.notes.maker n = some id) :
    Makes start (moves ++ [move]) id source c' phase := by
  cases phase with
  | looking | reading => exact fun n maker => makes n (made n maker)
  | installing | starting | opening => exact fun n maker => makes n (made n maker)
  | returned result =>
    cases result with
    | ok n => trivial
    | error error =>
      rcases makes with ⟨none, i, x, x', call, observed, cause, steps, rest⟩ | ⟨n, one, i, x, x', cause, s, steps, rest⟩
      · exact .inl ⟨fun n maker => none n (made n maker), i, x, x', call, observed, cause, steps.later move, rest⟩
      · exact .inr ⟨n, fun m maker => one m (made m maker), i, x, x', cause, s, steps.later move, rest⟩

theorem makes_step (tended : start.Tended) (went : run moves start = some c) (made : c.apply move = some c')
    (current : c.call? id = some call) (current' : c'.call? id = some call')
    (own : ∀ n s, c.notes.maker n = some id → c.system.session? n = some s → s.source = call.source)
    (unemptied : c.Unemptied) (makes : Makes start moves id call.source c call.phase) :
    Makes start (moves ++ [move]) id call'.source c' call'.phase := by
  have tended_c : c.Tended := tended_run tended went
  have orderly : c.Orderly := tended_c.sound.1
  have effect := apply_effect made
  have apt := orderly.apt current
  cases call_passage effect current with
  | rests idle same =>
    obtain rfl : call = call' := Option.some.inj (same.symm.trans current')
    refine makes.later move fun n => maker_old effect current current' fun observed inquiry reading _ _ installing => ?_
    rw [reading] at installing
    cases installing
  | steps origin phase sys actor turn same sessions slots notes =>
    obtain rfl : _ = call' := Option.some.inj (same.symm.trans current')
    have older : (∀ observed n, phase ≠ .installing observed n) →
        ∀ n, c'.notes.maker n = some id → c.notes.maker n = some id :=
      fun elsewhere n => maker_old effect current same fun _ _ _ => elsewhere
    cases turn with
    | join | lose | late | skip | spawn | miss => trivial
    | ask observed looking =>
      rw [looking] at makes
      exact fun n maker => makes n (older nofun n maker)
    | read observed inquiry inquiry' sys reading =>
      rw [reading] at makes
      exact fun n maker => makes n (older nofun n maker)
    | create observed newest reading =>
      rw [reading] at makes
      intro n maker
      exact (maker_new effect maker (makes n)).1
    | fail observed cause reading =>
      rw [reading] at makes
      exact .inl ⟨fun n maker => makes n (older nofun n maker), _, c, c', call, observed, cause,
        steps_now went made actor, current, reading, rfl⟩
    | win observed n installing =>
      rw [installing] at makes
      exact fun m maker => makes m (older nofun m maker)
    | again observed n installing empty other =>
      exact absurd (observed_empty unemptied current installing empty).symm other
    | claim n s starting =>
      rw [starting] at makes
      exact fun m maker => makes m (older nofun m maker)
    | refuse n s cause sys opening session failed =>
      rw [opening] at makes apt
      have left := stillborn_of_refuse tended_c made current opening session failed sessions slots (own n s apt.1 session)
      exact .inr ⟨n, fun m maker => makes m (older nofun m maker), _, c, c', cause, _, steps_now went made actor, rfl, left⟩

theorem makes_run {settings : Settings} {executor : Executor} {script : Script} {earlier : List Move}
    (ran : run earlier (opened settings executor script) = some before) (begins : Begins before begin start id request bounds)
    (went : run moves start = some c) (current : c.call? id = some call) :
    Makes start moves id (before.system.pool.sourceOrDefault request) c call.phase := by
  have tended : start.Tended := tended_step (tended_after ran) (apply_effect begins.made)
  have unemptied : start.Unemptied :=
    unemptied_step (tended_after ran).sound.1
      (unemptied_run (tended_opened settings executor script) (unemptied_opened settings executor script) ran)
      (apply_effect begins.made)
  induction moves using List.reverseRecOn generalizing c call with
  | nil =>
    cases went
    rw [begins.found.call] at current
    cases current
    exact maker_of_begins ran begins
  | append_singleton moves move ih =>
    obtain ⟨x, went, made⟩ := run_of_snoc went
    obtain ⟨last, there, tale⟩ := tale_of_begins ran begins went
    have makes := ih went there
    rw [← tale.asked.1] at makes
    have one : run [move] x = some c := by simp [run, made]
    have source' : call.source = last.source := (asked_run there current one).1
    have own : ∀ n s, x.notes.maker n = some id → x.system.session? n = some s → s.source = last.source :=
      fun n s maker session => (tale.own n s maker session).source.trans tale.asked.1.symm
    have next := makes_step tended went made there current own (unemptied_run tended unemptied went) makes
    rwa [source', tale.asked.1] at next

theorem returned_run {result : Except RestoreError Nat} (current : c.call? id = some call)
    (returned : call.phase = .returned result) (went : run moves c = some c') : c'.call? id = some call := by
  refine run_keeps (P := fun c => c.call? id = some call) ?_ current went
  intro x move x' current made
  cases call_passage (apply_effect made) current with
  | rests _ current' => exact current'
  | steps origin phase sys actor turn =>
    exfalso
    cases turn with
    | join _ phase | ask _ phase | read _ _ _ _ phase | create _ _ phase | fail _ _ phase | win _ _ phase
    | lose _ _ _ phase | again _ _ phase | late _ phase | skip _ _ phase | claim _ _ phase | spawn _ _ _ _ phase
    | refuse _ _ _ _ phase | miss _ phase =>
      rw [phase] at returned
      cases returned

/-- How a call has failed, and what it has left alone. -/
inductive FailedCall (before start : Chronicle) (moves : List Move) (c : Chronicle) (id : CallId) (source : String)
    (bounds : Bounds) (error : RestoreError) : Prop where
  | unread (unread : Unread start moves id c error)
      (leaves : Leaves (fun _ => True) (fun _ => True) before start moves id c)
  | unopened (n : Nat) (unopened : Unopened start moves id source c n error) (absent : before.system.session? n = none)
      (bounded : ∀ s, c.system.session? n = some s → s.bounds = bounds)
      (leaves : Leaves (· ≠ n) (· ≠ source) before start moves id c)

theorem spares_of_failed {error : RestoreError} (tended : start.Tended) (present : (start.call? id).isSome = true)
    (went : run moves start = some c) (current : c.call? id = some call) (failed : call.phase = .returned (.error error))
    (mine : ∀ m, c.notes.maker m = some id → ¬ kept m)
    (slot : ∀ m, c.notes.maker m = some id → ¬ held call.source) (i : Nat) (x x' : Chronicle)
    (steps : StepsAt start moves id i x x') : Spares kept held x x' := by
  have tended_x : x.Tended := tended_run tended steps.before.2
  obtain ⟨move, actor, made⟩ := steps.made
  obtain ⟨before, there⟩ := Option.isSome_iff_exists.mp (call_run present steps.before.2)
  have remains : ∀ m, x'.notes.maker m = some id → c.notes.maker m = some id := fun m maker =>
    maker_remains (tended_run tended steps.after.2) maker (steps.after.rest went)
  have source' : before.source = call.source := (asked_run there current (steps.before.rest went)).1.symm
  refine ⟨fun m other => ?_, fun name other => ?_, ?_⟩
  · exact call_leaves_others tended_x.sound.1 (apply_effect made) there actor fun maker => mine m (remains m maker) other
  · rcases call_slots tended_x.sound.1 (apply_effect made) there actor name with same | ⟨rfl, m, maker⟩
    · exact same
    · exact absurd (source' ▸ other) (slot m (remains m maker))
  · rcases call_log made there actor with same | ⟨m, answered⟩
    · exact same
    · have stays := returned_run answered rfl (steps.after.rest went)
      obtain rfl := Option.some.inj (current.symm.trans stays)
      cases failed

def Quiescent (c : Chronicle) : Prop :=
  ∀ (id : CallId) (call : StartCall), c.call? id = some call → ∃ result, call.phase = .returned result

def Runs (c : Chronicle) (n : Nat) (s : Session) : Prop := s.done = false ∧ s.worker.isAlive = true ∧ c.Mans n

theorem runs_of_quiescent (tended : c.Tended) (quiescent : c.Quiescent) (slot : c.system.slots.get? source = some n) :
    ∃ s, c.system.session? n = some s ∧ s.source = source ∧ (s.done = true ∨ c.Runs n s) := by
  have orderly : c.Orderly := tended.sound.1
  obtain ⟨won, s, session, same⟩ := orderly.stored slot
  refine ⟨s, session, same, ?_⟩
  cases done : s.done with
  | true => exact .inl rfl
  | false =>
    right
    -- Otherwise a call would be about to start it, or to open its consumer.
    have begun : n ∈ c.notes.begun := by
      by_contra waits
      obtain ⟨id, call, current, starting⟩ := orderly.pending won waits
      obtain ⟨result, returned⟩ := quiescent id call current
      rw [starting] at returned
      cases returned
    obtain ⟨-, t, found, started⟩ := orderly.begun_won begun
    obtain rfl : s = t := Option.some.inj (session.symm.trans found)
    have born : s.worker ≠ .unborn := by
      intro unborn
      obtain ⟨id, call, current, opening⟩ := tended.hanging session ⟨started, done, unborn⟩
      obtain ⟨result, returned⟩ := quiescent id call current
      rw [opening] at returned
      cases returned
    refine ⟨done, ?_, tended.manned session born⟩
    cases worker : s.worker with
    | unborn => exact absurd worker born
    | ended => simp [(tended.tidy session).ending worker] at done
    | _ => rfl

/-- A call that has returned, waits for a late answer, or takes a step that brings it nearer to its end. -/
inductive GoesOn (c : Chronicle) (id : CallId) (call : StartCall) : Prop where
  | returned (result : Except RestoreError Nat) (phase : call.phase = .returned result)
  | waits (observed : Option Nat) (deadline : Nat) (newest : Newest)
      (phase : call.phase = .reading observed (.delayed deadline newest)) (early : c.system.now < deadline)
  | steps (move : Move) (c' : Chronicle) (call' : StartCall) (actor : c.actor? move = some (.call id))
      (made : c.apply move = some c') (current' : c'.call? id = some call')
      (nearer : call'.phase.stepsLeft < call.phase.stepsLeft)

theorem call_moves (current : c.call? id = some call) (able : ∀ origin, (c.system.startStep origin call).isSome = true) :
    ∃ move c', c.actor? move = some (.call id) ∧ c.apply move = some c' := by
  cases id with
  | caller i =>
    obtain ⟨⟨call', sys⟩, taken⟩ := Option.isSome_iff_exists.mp (able .caller)
    have here : c.callers[i]? = some call := current
    exact ⟨.advance i, _, rfl, by simp only [apply, here, taken, Option.bind_eq_bind, Option.bind_some]; rfl⟩
  | task k =>
    obtain ⟨⟨call', sys⟩, taken⟩ := Option.isSome_iff_exists.mp (able (.task k))
    have task := call?_task.mp current
    have stepped : c.system.stepTask true k = some (sys.setTask k (.start call')) := by
      simp [System.stepTask, task, taken]
    have made : (c.apply (.run true k)).isSome = true := by
      simp only [apply, stepped, Option.bind_eq_bind, Option.bind_some]
      split <;> rfl
    obtain ⟨c', made⟩ := Option.isSome_iff_exists.mp made
    exact ⟨.run true k, c', by simp [actor?, task], made⟩

theorem goesOn (unemptied : c.Unemptied) (current : c.call? id = some call) : GoesOn c id call := by
  have able : (∀ origin, (c.system.startStep origin call).isSome = true) → GoesOn c id call := by
    intro able
    obtain ⟨move, c', actor, made⟩ := call_moves current able
    cases call_passage (apply_effect made) current with
    | rests idle => exact absurd actor idle
    | steps origin phase sys _ turn current' =>
      have nearer := System.turn_nearer turn fun n => unemptied id call n current
      exact .steps move c' _ actor made current' nearer
  by_cases returned : ∃ result, call.phase = .returned result
  · obtain ⟨result, phase⟩ := returned
    exact .returned result phase
  · by_cases late : ∃ observed deadline newest, call.phase = .reading observed (.delayed deadline newest)
    · obtain ⟨observed, deadline, newest, phase⟩ := late
      rcases Nat.lt_or_ge c.system.now deadline with early | due
      · exact .waits observed deadline newest phase early
      · apply able
        intro origin
        simp [System.startStep, phase, System.inquire, due]
    · apply able
      intro origin
      apply System.startStep_isSome
      · exact fun result phase => returned ⟨result, phase⟩
      · exact fun observed deadline newest phase => late ⟨observed, deadline, newest, phase⟩

def Same (before c : Chronicle) : Prop :=
  c.system.sessions = before.system.sessions ∧ c.system.slots = before.system.slots

structure Installs (before c : Chronicle) (source : String) (n : Nat) : Prop where
  absent : before.system.session? n = none
  present : (c.system.session? n).isSome = true
  slot : c.system.slots.get? source = some n
  sessions : ∀ m, m ≠ n → c.system.session? m = before.system.session? m
  slots : ∀ name, name ≠ source → c.system.slots.get? name = before.system.slots.get? name

structure Joins (before c : Chronicle) (source : String) (n : Nat) : Prop where
  slot : before.system.slots.get? source = some n
  live : before.system.isDone n = false
  same : Same before c

def Solo (before c : Chronicle) (source : String) : StartPhase → Prop
  | .looking => Same before c
  | .reading observed _ => Same before c ∧ before.system.slots.get? source = observed
  | .installing observed n => n = before.system.sessions.length ∧ c.system.slots = before.system.slots ∧
      before.system.slots.get? source = observed ∧ ∃ s, c.system.sessions = before.system.sessions ++ [s]
  | .starting n | .opening n => Installs before c source n
  | .returned (.ok n) => Joins before c source n ∨ Installs before c source n
  | .returned (.error _) => True

theorem Installs.of_same (installs : Installs before c source n) (sessions : c'.system.sessions = c.system.sessions)
    (slots : c'.system.slots = c.system.slots) : Installs before c' source n where
  absent := installs.absent
  present := by
    rw [System.session?, sessions]
    exact installs.present
  slot := by rw [slots, installs.slot]
  sessions := by
    intro m other
    rw [System.session?, sessions]
    exact installs.sessions m other
  slots := by
    rw [slots]
    exact installs.slots

theorem Installs.set {s s' : Session} {sessions : List Session} (installs : Installs before c source n)
    (session : c.system.session? n = some s) (slots : c'.system.slots = c.system.slots)
    (kept : sessions = c.system.sessions) (same : c'.system.sessions = sessions.set n s') : Installs before c' source n where
  absent := installs.absent
  present := by
    have inside : n < c.system.sessions.length := (List.getElem?_eq_some_iff.mp session).1
    rw [System.session?, same, kept, List.getElem?_set_self inside]
    rfl
  slot := by rw [slots, installs.slot]
  sessions := by
    intro m other
    rw [System.session?, same, kept, List.getElem?_set_ne (Ne.symm other)]
    exact installs.sessions m other
  slots := by
    rw [slots]
    exact installs.slots

theorem solo_turn {origin : Origin} {phase : StartPhase} {sys : System} (solo : Solo before c call.source call.phase)
    (turn : System.CallTurn origin call c.system phase sys) (sessions : c'.system.sessions = sys.sessions)
    (slots : c'.system.slots = sys.slots) : Solo before c' call.source phase := by
  cases turn with
  | join n looking slot live =>
    rw [looking] at solo
    obtain ⟨sessions', slots'⟩ := solo
    refine .inl ⟨by rw [← slots', slot], ?_, sessions.trans sessions', slots.trans slots'⟩
    simpa [System.isDone, System.session?, sessions'] using live
  | ask observed looking slot finished =>
    rw [looking] at solo
    obtain ⟨sessions', slots'⟩ := solo
    exact ⟨⟨sessions.trans sessions', slots.trans slots'⟩, by rw [← slots', slot]⟩
  | read observed inquiry inquiry' sys reading asked =>
    rw [reading] at solo
    obtain ⟨⟨sessions', slots'⟩, slot⟩ := solo
    have keeps := (System.inquire_spec asked).1
    exact ⟨⟨(sessions.trans keeps.sessions).trans sessions', (slots.trans keeps.slots).trans slots'⟩, slot⟩
  | create observed newest reading =>
    rw [reading] at solo
    obtain ⟨⟨sessions', slots'⟩, slot⟩ := solo
    refine ⟨by rw [sessions'], slots.trans slots', slot, ?_⟩
    rw [sessions, ← sessions']
    exact ⟨_, rfl⟩
  | fail | refuse => trivial
  | win observed n installing slot =>
    rw [installing] at solo
    obtain ⟨rfl, slots', -, s, sessions'⟩ := solo
    have same : c'.system.sessions = before.system.sessions ++ [s] := sessions.trans sessions'
    refine ⟨List.getElem?_eq_none (Nat.le_refl _), by simp [System.session?, same], ?_, ?_, ?_⟩
    · rw [slots]
      exact Table.get?_insert_self ..
    · intro m other
      rw [System.session?, same]
      exact getElem?_snoc_other other
    · intro name other
      rw [slots, ← slots']
      exact Table.get?_insert_other other ..
  | lose observed candidate n installing slot other | again observed candidate installing slot other =>
    -- Nobody else could have put anything into the slot.
    rw [installing] at solo
    obtain ⟨-, slots', slot', -⟩ := solo
    rw [← slots', slot] at slot'
    exact absurd slot' other
  | late n starting =>
    rw [starting] at solo
    exact .inr (Installs.of_same solo sessions slots)
  | miss n opening =>
    rw [opening] at solo
    exact .inr (Installs.of_same solo sessions slots)
  | skip n s starting session =>
    rw [starting] at solo
    exact .inr (Installs.set solo session slots rfl sessions)
  | claim n s starting session =>
    rw [starting] at solo
    exact Installs.set solo session slots rfl sessions
  | spawn n s subscription sys opening session opened =>
    rw [opening] at solo
    have keeps := (System.subscribeFrom_spec opened).1
    exact .inr (Installs.set solo session (slots.trans keeps.slots) keeps.sessions sessions)

theorem solo_run (begins : Begins before begin start id request bounds) (went : run moves start = some c)
    (alone : Undisturbed start moves id) : ∀ i x call, At start moves i x → x.call? id = some call →
      Solo before x (before.system.pool.sourceOrDefault request) call.phase := by
  have found := begins.found
  intro i
  induction i with
  | zero =>
    intro x call moment current
    cases moment.2
    rw [found.call] at current
    cases current
    exact ⟨found.sessions, found.slots⟩
  | succ i ih =>
    intro x' call' after current'
    obtain ⟨x, moment⟩ := at_each went (Nat.le_of_succ_le after.1)
    obtain ⟨move, here, made⟩ := moment.step after
    obtain ⟨call, current⟩ := Option.isSome_iff_exists.mp (call_run begins.present moment.2)
    have source : call.source = before.system.pool.sourceOrDefault request := (asked_run found.call current moment.2).1
    have solo := ih x call moment current
    rw [← source] at solo ⊢
    cases call_passage (apply_effect made) current with
    | rests idle => exact absurd (alone i x move moment here) idle
    | steps origin phase sys actor turn same sessions slots =>
      obtain rfl : _ = call' := Option.some.inj (same.symm.trans current')
      exact solo_turn solo turn sessions slots

/-- What becomes of a request with an id that is none: it is answered with the fault of that id, and nothing changes. -/
structure Rejected (sys : System) (request : RestoreRequest) (error : RestoreError) : Prop where
  reason : ∃ bound text cause, request.bound? bound = some text ∧ Ulid.ofText text = .error cause ∧
    error = .invalidId bound text cause
  console : ∀ generator, Console.restore request ⟨sys, generator⟩ =
    (Console.failureOf error.message error.causes, ⟨sys, generator⟩)
  rehearsal : ∀ (r : Rehearsal) (value : Json), r.system = sys → RestoreRequest.ofValue value = .ok request →
    r.perform (.start value) = (.restore (.error error), r)

theorem rejected_of_bounds (sys : System) {request : RestoreRequest} {error : RestoreError}
    (refused : request.bounds = .error error) : Rejected sys request error where
  reason := RestoreRequest.bounds_error refused
  console := fun generator => by simp [Console.restore, refused]
  rehearsal := fun r value _ read => by simp [Rehearsal.perform, read, refused]

/-- What is known of starts at every moment. -/
structure Unwedged (c : Chronicle) : Prop where
  rejected : ∀ (request : RestoreRequest) (error : RestoreError), request.bounds = .error error →
    Rejected c.system request error
  failed : ∀ {begin : Move} {start c' : Chronicle} {later : List Move} {id : CallId} {request : Option String}
    {bounds : Bounds} {call : StartCall} {error : RestoreError}, Begins c begin start id request bounds →
    run later start = some c' → c'.call? id = some call → call.phase = .returned (.error error) →
    FailedCall c start later c' id (c.system.pool.sourceOrDefault request) bounds error
  goesOn : ∀ (id : CallId) (call : StartCall), c.call? id = some call → GoesOn c id call
  slots : c.Quiescent → ∀ (source : String) (n : Nat), c.system.slots.get? source = some n →
    ∃ s, c.system.session? n = some s ∧ s.source = source ∧ (s.done = true ∨ c.Runs n s)
  joins : c.Quiescent → ∀ {begin : Move} {start c' : Chronicle} {later : List Move} {id : CallId} {request : Option String}
    {bounds : Bounds} {call : StartCall} {n : Nat}, Begins c begin start id request bounds →
    run later start = some c' → Undisturbed start later id → c'.call? id = some call → call.phase = .returned (.ok n) →
    (Joins c c' (c.system.pool.sourceOrDefault request) n ∧ ∃ s, c.system.session? n = some s ∧ c.Runs n s) ∨
      Installs c c' (c.system.pool.sourceOrDefault request) n

theorem failedCall_of_begins {settings : Settings} {executor : Executor} {script : Script} {earlier : List Move}
    {error : RestoreError} (ran : run earlier (opened settings executor script) = some before)
    (begins : Begins before begin start id request bounds) (went : run moves start = some c)
    (current : c.call? id = some call) (failed : call.phase = .returned (.error error)) :
    FailedCall before start moves c id (before.system.pool.sourceOrDefault request) bounds error := by
  have tended : start.Tended := tended_step (tended_after ran) (apply_effect begins.made)
  have found := begins.found
  have starts : ∀ kept held, Spares kept held before start := fun kept held =>
    ⟨fun _ _ => by rw [System.session?, found.sessions]; rfl, fun _ _ => by rw [found.slots], found.log⟩
  obtain ⟨call', current', tale⟩ := tale_of_begins ran begins went
  obtain rfl : call = call' := Option.some.inj (current.symm.trans current')
  have makes := makes_run ran begins went current
  rw [failed] at makes
  rcases makes with unread | ⟨n, unopened⟩
  · refine .unread unread (leaves_of_steps went (starts _ _) ?_)
    have unmade := unread.1
    exact spares_of_failed tended begins.present went current failed (fun m maker => absurd maker (unmade m))
      (fun m maker => absurd maker (unmade m))
  · obtain ⟨one, i, x, x', cause, s, steps, because, left⟩ := unopened
    have maker : c.notes.maker n = some id :=
      maker_remains (tended_run tended steps.after.2) left.maker (steps.after.rest went)
    have absent : before.system.session? n = none := by
      cases session : before.system.session? n with
      | none => rfl
      | some s =>
        have same : start.system.session? n = before.system.session? n := by rw [System.session?, found.sessions]; rfl
        have there : (start.system.session? n).isSome = true := by rw [same, session]; rfl
        exact absurd ((maker_run there went).symm.trans maker) (maker_of_begins ran begins n)
    refine .unopened n ⟨one, i, x, x', cause, s, steps, because, left⟩ absent
      (fun s session => (tale.own n s maker session).bounds) (leaves_of_steps went (starts _ _) ?_)
    refine spares_of_failed tended begins.present went current failed (fun m mine => ?_) (fun m mine => ?_)
    · simpa using one m mine
    · simpa using tale.asked.1

/-- A failed start leaves no trace but its own session, and no start stands in the way of a later one. -/
theorem failed_starts_leave_no_trace {settings : Settings} {executor : Executor} {script : Script} {moves : List Move}
    (ran : run moves (opened settings executor script) = some c) : Unwedged c := by
  have tended := tended_after ran
  have unemptied : c.Unemptied :=
    unemptied_run (tended_opened settings executor script) (unemptied_opened settings executor script) ran
  refine ⟨fun request error => rejected_of_bounds c.system, failedCall_of_begins ran,
    fun id call current => goesOn unemptied current, fun quiescent source n => runs_of_quiescent tended quiescent, ?_⟩
  intro quiescent begin start c' later id request bounds call n begins went alone current answer
  have solo := solo_run begins went alone _ c' call (at_end went) current
  rw [answer] at solo
  rcases solo with joins | installs
  · obtain ⟨s, session, -, finished | runs⟩ := runs_of_quiescent tended quiescent joins.slot
    · have live := joins.live
      simp [System.isDone, session, finished] at live
    · exact .inl ⟨joins, s, session, runs⟩
  · exact .inr installs

def consumersFail : List Move :=
  let write : Operation :=
    { tx := .ofNat 5, method := .put, schema := "person", space := "people", entity := "Person", id := "p1"
      version := ⟨0, 0, 0⟩, body := none }
  [.append .put none write, .outage .consumer true]

def failingSteps : List Move := List.replicate 6 (.advance 0)

theorem a_call_without_a_consumer_fails : ∃ (before start c : Chronicle) (call : StartCall) (error : RestoreError) (s : Session),
    run consumersFail (opened {} .logging {}) = some before ∧ Begins before (.call none {}) start (.caller 0) none {} ∧
      run failingSteps start = some c ∧ c.call? (.caller 0) = some call ∧ call.phase = .returned (.error error) ∧
      c.system.slot? none = some 0 ∧ c.system.session? 0 = some s ∧ s.done = true ∧ s.error.isSome = true ∧
      Unwedged before ∧
      FailedCall before start failingSteps c (.caller 0) (before.system.pool.sourceOrDefault none) {} error := by
  have first : (run consumersFail (opened {} .logging {})).map (fun c => c.callers.length) = some 0 := by decide +kernel
  have last : (((run consumersFail (opened {} .logging {})).bind (·.apply (.call none {}))).bind (run failingSteps)).map
      (fun c => (((c.call? (.caller 0)).bind (·.phase.error?)).isSome, c.system.slot? none,
        (c.system.session? 0).map fun s => (s.done, s.error.isSome))) =
      some (true, some 0, some (true, true)) := by decide +kernel
  obtain ⟨before, ran, callers⟩ := Option.map_eq_some_iff.mp first
  have absent : before.call? (.caller 0) = none := List.getElem?_eq_none (Nat.le_of_eq callers)
  obtain ⟨c, ends, state⟩ := Option.map_eq_some_iff.mp last
  rw [ran, Option.bind_some] at ends
  obtain ⟨start, begun, went⟩ := Option.bind_eq_some_iff.mp ends
  obtain ⟨answer, state⟩ := Prod.mk.inj state
  obtain ⟨slot, flags⟩ := Prod.mk.inj state
  obtain ⟨error, answer⟩ := Option.isSome_iff_exists.mp answer
  obtain ⟨call, current, answered⟩ := Option.bind_eq_some_iff.mp answer
  obtain ⟨s, session, kept⟩ := Option.map_eq_some_iff.mp flags
  obtain ⟨done, faulty⟩ := Prod.mk.inj kept
  have present : (start.call? (.caller 0)).isSome = true := by
    cases begun
    simp [call?, callers]
  have begins : Begins before (.call none {}) start (.caller 0) none {} := ⟨.inl rfl, begun, absent, present⟩
  have phase := StartPhase.error?_eq_some answered
  have unwedged := failed_starts_leave_no_trace ran
  exact ⟨before, start, c, call, error, s, ran, begins, went, current, phase, slot, session, done, faulty, unwedged,
    unwedged.failed begins went current phase⟩

end Chronicle
end Journal
