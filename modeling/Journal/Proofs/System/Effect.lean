import Journal.Proofs.Places
import Journal.Proofs.System.Chronicle
import Journal.Proofs.System.Writing

/-!
What a move can do to the sessions, the slots and the calls. Most moves leave all of them alone; the others are
a new call, a new session, a session that goes on, a start from outside and a step of a call.
-/
namespace Journal

namespace System

def SameWorkers (sys sys' : System) : Prop :=
  ∀ k n : Nat, sys'.tasks[k]? = some (.worker n) ↔ sys.tasks[k]? = some (.worker n)

theorem sameWorkers_of_eq {sys sys' : System} (same : sys'.tasks = sys.tasks) : SameWorkers sys sys' := by
  intro k n
  rw [same]

theorem workerOf_eq {sys sys' : System} (same : sys'.sessions = sys.sessions) (n : Nat) :
    sys'.workerOf n = sys.workerOf n := by
  simp [workerOf, session?, same]

end System

structure Notes.Agree (notes notes' : Notes) : Prop where
  sighted : notes'.sighted = notes.sighted
  ground : notes'.ground = notes.ground
  maker : notes'.maker = notes.maker
  installed : notes'.installed = notes.installed
  lost : notes'.lost = notes.lost
  begun : notes'.begun = notes.begun
  handed : notes'.handed = notes.handed

namespace Chronicle

/-- What a move leaves alone that does not concern calls or slots. -/
structure Frame (c c' : Chronicle) : Prop where
  slots : c'.system.slots = c.system.slots
  calls : c'.call? = c.call?
  notes : Notes.Agree (c.notes.watch c.system c'.system) c'.notes

theorem Frame.noted {c c' : Chronicle} (frame : Frame c c') (n : Nat) :
    c'.notes.maker n = c.notes.maker n ∧ c'.notes.ground n = c.notes.ground n := by
  rw [frame.notes.maker, frame.notes.ground]
  exact ⟨rfl, rfl⟩

/-- The effect of a move, with who took a step by it. -/
inductive Effect (move : Move) (c c' : Chronicle) : Prop where
  | aside (frame : Frame c c') (sessions : c'.system.sessions = c.system.sessions)
      (workers : System.SameWorkers c.system c'.system)
      (quiet : System.Quiet .caller c.system c'.system) (idle : c.actor? move = none)
  | called (id : CallId) (source : Option String) (bounds : Bounds) (fresh : c.call? id = none)
      (calls : c'.call? = Function.update c.call? id (some (c.system.startCall source bounds)))
      (slots : c'.system.slots = c.system.slots) (sessions : c'.system.sessions = c.system.sessions)
      (workers : System.SameWorkers c.system c'.system) (reports : c'.system.reports = c.system.reports)
      (notes : Notes.Agree c.notes c'.notes) (asked : move.asks? = some source) (idle : c.actor? move = none)
  | created (source : String) (bounds : Bounds) (execution : Ulid) (time : Nat)
      (sessions : c'.system.sessions = c.system.sessions ++
        [{ source, executionId := execution, bounds, createdAt := time
           ceiling := (c.system.log.last? (c.system.pool.topicOf source)).map Entry.id }])
      (slots : c'.system.slots = c.system.slots) (calls : c'.call? = c.call?)
      (workers : System.SameWorkers c.system c'.system) (reports : c'.system.reports = c.system.reports)
      (notes : Notes.Agree { c.notes.watch c.system c'.system with
        ground := Function.update c.notes.ground c.system.sessions.length
          (c.system.log.entries (c.system.pool.topicOf source)) } c'.notes) (idle : c.actor? move = none)
  | stopped (n : Nat) (s : Session) (frame : Frame c c') (session : c.system.session? n = some s)
      (sessions : c'.system.sessions = c.system.sessions.set n s.stop.1)
      (workers : System.SameWorkers c.system c'.system) (quiet : System.Quiet .caller c.system c'.system)
      (asked : move.stops = true)
  | turned (k n : Nat) (s s' : Session) (events : List Event) (frame : Frame c c')
      (task : c.system.tasks[k]? = some (.worker n)) (session : c.system.session? n = some s)
      (turn : s.Turn c.system.restore c.system.now c.system.log s' events)
      (sessions : c'.system.sessions = c.system.sessions.set n s')
      (workers : System.SameWorkers c.system c'.system)
      (reports : c'.system.reports = events.reverse.map (.task k, ·) ++ c.system.reports)
      (actor : c.actor? move = some (.worker n))
  | skipped (n : Nat) (s : Session) (frame : Frame c c') (access : c.notes.isOpen n = true)
      (session : c.system.session? n = some s) (unclaimed : s.started = false) (nothing : s.nothingToReplay = true)
      (sessions : c'.system.sessions = c.system.sessions.set n ({ s with started := true }.finish c.system.now))
      (workers : System.SameWorkers c.system c'.system) (quiet : System.Quiet .caller c.system c'.system)
      (outside : move = .start n)
  | spawned (n : Nat) (s : Session) (subscription : Subscription) (frame : Frame c c')
      (access : c.notes.isOpen n = true) (session : c.system.session? n = some s) (unclaimed : s.started = false)
      (something : s.nothingToReplay = false)
      (sessions : c'.system.sessions = c.system.sessions.set n ({ s with started := true }.spawn subscription))
      (plain : c.system.script = {} →
        subscription = .topic { topic := c.system.pool.topicOf s.source, start := s.bounds.start })
      (tasks : c'.system.tasks = c.system.tasks ++ [.worker n]) (quiet : System.Quiet .caller c.system c'.system)
      (outside : move = .start n)
  | refused (n : Nat) (s : Session) (error : TransportError) (frame : Frame c c')
      (access : c.notes.isOpen n = true) (session : c.system.session? n = some s) (unclaimed : s.started = false)
      (something : s.nothingToReplay = false)
      (sessions : c'.system.sessions =
        c.system.sessions.set n ({ s with started := true }.failOpening c.system.now error).1)
      (workers : System.SameWorkers c.system c'.system) (quiet : System.Quiet .caller c.system c'.system)
      (outside : move = .start n)
  | stepped (origin : Origin) (id : CallId) (call : StartCall) (phase : StartPhase) (sys : System)
      (current : c.call? id = some call) (turn : System.CallTurn origin call c.system phase sys)
      (calls : c'.call? = Function.update c.call? id (some { call with phase }))
      (sessions : c'.system.sessions = sys.sessions) (slots : c'.system.slots = sys.slots)
      (workers : System.SameWorkers sys c'.system) (reports : c'.system.reports = sys.reports)
      (notes : c'.notes = c.notes.follow id call { call with phase } c.system sys)
      (actor : c.actor? move = some (.call id))

def SameStarts (sys sys' : System) : Prop :=
  ∀ (k : Nat) (call : StartCall), sys'.tasks[k]? = some (.start call) ↔ sys.tasks[k]? = some (.start call)

theorem call?_task {c : Chronicle} {k : Nat} {call : StartCall} :
    c.call? (.task k) = some call ↔ c.system.tasks[k]? = some (.start call) := by
  cases task : c.system.tasks[k]? with
  | none => simp [call?, task]
  | some t => cases t <;> simp [call?, task]

theorem call?_of_tasks {c c' : Chronicle} (callers : c'.callers = c.callers)
    (tasks : SameStarts c.system c'.system) : c'.call? = c.call? := by
  funext id
  cases id with
  | caller i => simp [call?, callers]
  | task k =>
    apply Option.ext
    intro call
    rw [call?_task, call?_task]
    exact tasks k call

theorem frame_of_keeps {c : Chronicle} {sys' : System} (keeps : System.Keeps c.system sys') :
    Frame c (c.note sys') where
  slots := keeps.slots
  calls := call?_of_tasks rfl (fun k call => by simp only [note, keeps.tasks])
  notes := ⟨rfl, rfl, rfl, rfl, rfl, rfl, rfl⟩

theorem aside_of_keeps {move : Move} {c : Chronicle} {sys' : System} (keeps : System.Keeps c.system sys')
    (quiet : System.Quiet .caller c.system sys') (idle : c.actor? move = none) : Effect move c (c.note sys') :=
  .aside (frame_of_keeps keeps) keeps.sessions (System.sameWorkers_of_eq keeps.tasks) quiet idle

theorem frame_of_set {c : Chronicle} {sys' : System} (slots : sys'.slots = c.system.slots)
    (tasks : SameStarts c.system sys') : Frame c (c.note sys') :=
  ⟨slots, call?_of_tasks rfl tasks, ⟨rfl, rfl, rfl, rfl, rfl, rfl, rfl⟩⟩

theorem stop_effect {move : Move} (c : Chronicle) (n : Nat) (asked : move.stops = true) (idle : c.actor? move = none) :
    Effect move c (c.note (c.system.stopSession .caller n)) := by
  cases session : c.system.session? n with
  | none =>
    have same : c.system.stopSession .caller n = c.system := by
      simp [System.stopSession, System.withSession, session]
    rw [same]
    exact aside_of_keeps (.refl _) (.refl _ _) idle
  | some s =>
    refine .stopped n s (frame_of_set ?_ ?_) session ?_ ?_ ?_ asked <;>
      simp only [note, System.stopSession, System.withSession_eq session, System.report, System.setSession]
    · intro k call
      rfl
    · exact System.sameWorkers_of_eq rfl
    · apply System.quiet_report (c.system.setSession n s.stop.1)
      intro e member
      rw [s.stop_tells e member]
      rfl

theorem start_effect (c : Chronicle) (n : Nat) (access : c.notes.isOpen n = true) :
    Effect (.start n) c (c.note (c.system.startSession .caller n).2) := by
  unfold System.startSession
  rcases System.claimSession_cases .caller n c.system with
    ⟨same, -⟩ | ⟨s, session, unclaimed, ⟨nothing, same⟩ | ⟨something, same⟩⟩
  · rw [same]
    exact aside_of_keeps (.refl _) (.refl _ _) rfl
  · rw [same]
    exact .skipped n s (frame_of_set rfl (fun k call => Iff.rfl)) access session unclaimed nothing rfl
      (System.sameWorkers_of_eq rfl) (System.quiet_report (c.system.setSession n _) (by simp [Event.counted?])) rfl
  · rw [same]
    have claimed : (c.system.setSession n { s with started := true }).session? n = some { s with started := true } :=
      System.session?_setSession_self session _
    have twice (a b : Session) : (c.system.sessions.set n a).set n b = c.system.sessions.set n b := by simp
    rcases System.openSession_cases .caller claimed with
      ⟨subscription, sys', opened, result⟩ | ⟨error, sys', opened, result⟩
    · obtain ⟨keeps, -, quiet, plain⟩ := System.subscribeFrom_spec opened
      simp only [result]
      refine .spawned n s subscription (frame_of_set keeps.slots ?_) access session unclaimed something ?_ ?_ ?_ quiet rfl
      · intro k call
        simp only [keeps.tasks]
        exact getElem?_snoc (by simp)
      · simp only [note, System.setSession, keeps.sessions, twice]
      · intro none
        exact (plain none).2 subscription rfl
      · simp only [note, keeps.tasks, System.setSession]
    · obtain ⟨keeps, -, quiet, -⟩ := System.subscribeFrom_spec opened
      simp only [result]
      refine .refused n s error (frame_of_set keeps.slots ?_) access session unclaimed something ?_ ?_ ?_ rfl
      · intro k call
        simp only [System.report, System.setSession, keeps.tasks]
      · simp only [note, System.report, System.setSession, keeps.sessions, twice]
      · exact System.sameWorkers_of_eq keeps.tasks
      · exact quiet.trans (System.quiet_report (sys'.setSession n _) (by simp [Session.failOpening, Event.counted?]))

theorem sameStarts_of_set {sys sys' : System} {k : Nat} {before after : Task} (task : sys.tasks[k]? = some before)
    (tasks : sys'.tasks = sys.tasks.set k after) (old : ∀ call, before ≠ .start call)
    (new : ∀ call, after ≠ .start call) : SameStarts sys sys' := by
  intro j call
  rw [tasks]
  exact getElem?_set_other task (old call) (new call)

theorem sameWorkers_of_set {sys sys' : System} {k : Nat} {before after : Task} (task : sys.tasks[k]? = some before)
    (tasks : sys'.tasks = sys.tasks.set k after) (old : ∀ n, before ≠ .worker n) (new : ∀ n, after ≠ .worker n) :
    System.SameWorkers sys sys' := by
  intro j n
  rw [tasks]
  exact getElem?_set_other task (old n) (new n)

theorem answer_effect {c : Chronicle} {k : Nat} {outcome : Except SagaError Handoff} {sys' : System}
    (h : c.system.answered k outcome = some sys') : Effect (.answer k outcome) c (c.note sys') := by
  unfold System.answered at h
  split at h
  · rename_i n task
    split at h
    · rename_i s session
      split at h
      · rename_i subscription entry saga op worker
        cases h
        rw [System.withSession_eq session]
        exact .turned k n s _ _ (frame_of_set rfl (fun j call => Iff.rfl)) task session
          (.count subscription entry saga op outcome [] worker (by simp)) rfl (System.sameWorkers_of_eq rfl) rfl
          (by simp [actor?, task])
      · cases h
    · cases h
  · cases h

theorem worker_effect {c : Chronicle} {stopFirst : Bool} {k n : Nat} {sys' : System}
    (task : c.system.tasks[k]? = some (.worker n)) (h : c.system.stepTask stopFirst k = some sys') :
    Effect (.run stopFirst k) c (c.note sys') := by
  simp only [System.stepTask, task] at h
  obtain ⟨s, session, h⟩ := Option.bind_eq_some_iff.mp h
  obtain ⟨⟨s', executor, events⟩, taken, h⟩ := Option.bind_eq_some_iff.mp h
  cases h
  exact .turned k n s s' events (frame_of_set rfl (fun j call => Iff.rfl)) task session (Session.step_turn taken) rfl
    (System.sameWorkers_of_eq rfl) rfl (by simp [actor?, task])

theorem reception_effect {c : Chronicle} {stopFirst : Bool} {k : Nat} {reception : Reception} {sys' : System}
    (task : c.system.tasks[k]? = some (.reception reception)) (h : c.system.stepTask stopFirst k = some sys') :
    Effect (.run stopFirst k) c (c.note sys') := by
  simp only [System.stepTask, task] at h
  obtain ⟨next, -, h⟩ := Option.map_eq_some_iff.mp h
  cases h
  refine .aside (frame_of_set rfl ?_) rfl ?_ (.refl _ _) (by simp [actor?, task])
  · exact sameStarts_of_set task rfl (by simp) (by simp)
  · exact sameWorkers_of_set task rfl (by simp) (by simp)

theorem turn_tasks {origin : Origin} {call : StartCall} {sys sys' : System} {phase : StartPhase}
    (turn : System.CallTurn origin call sys phase sys') :
    ∃ more : List Task, sys'.tasks = sys.tasks ++ more ∧ ∀ t ∈ more, ∃ n, t = .worker n := by
  cases turn with
  | read _ _ _ _ _ asked => exact ⟨[], by simp [(System.inquire_spec asked).1.tasks], by simp⟩
  | spawn n _ _ _ _ _ opened => exact ⟨[.worker n], by simp [(System.subscribeFrom_spec opened).1.tasks], by simp⟩
  | refuse _ _ _ _ _ _ failed =>
    exact ⟨[], by simp [System.report, System.setSession, (System.subscribeFrom_spec failed).1.tasks], by simp⟩
  | _ => exact ⟨[], by simp [System.report, System.setSession, System.createSession, System.draw], by simp⟩

theorem turn_starts {origin : Origin} {call : StartCall} {sys sys' : System} {phase : StartPhase}
    (turn : System.CallTurn origin call sys phase sys') : SameStarts sys sys' := by
  obtain ⟨more, tasks, workers⟩ := turn_tasks turn
  intro k found
  rw [tasks]
  rcases Nat.lt_or_ge k sys.tasks.length with less | later
  · rw [List.getElem?_append_left less]
  · rw [List.getElem?_append_right later, List.getElem?_eq_none later]
    constructor
    · intro member
      obtain ⟨n, e⟩ := workers _ (List.mem_of_getElem? member)
      cases e
    · intro none
      cases none

theorem start_task_effect {c : Chronicle} {stopFirst : Bool} {k : Nat} {call : StartCall} {sys' : System}
    (task : c.system.tasks[k]? = some (.start call)) (h : c.system.stepTask stopFirst k = some sys') :
    ∃ call', sys'.tasks[k]? = some (.start call') ∧
      Effect (.run stopFirst k) c
        { c with system := sys', notes := c.notes.follow (.task k) call call' c.system sys' } := by
  simp only [System.stepTask, task] at h
  obtain ⟨⟨call', sys⟩, taken, h⟩ := Option.map_eq_some_iff.mp h
  cases h
  obtain ⟨turn, same⟩ := System.startStep_turn taken
  have old : sys.tasks[k]? = some (.start call) := (turn_starts turn k call).mpr task
  have longer : k < sys.tasks.length := (List.getElem?_eq_some_iff.mp old).1
  refine ⟨call', by simp [System.setTask, longer], .stepped (.task k) (.task k) call call'.phase sys
    (call?_task.mpr task) turn ?_ rfl rfl (sameWorkers_of_set old rfl (by simp) (by simp)) rfl ?_
    (by simp [actor?, task])⟩
  · funext id
    by_cases here : id = .task k
    · subst here
      rw [Function.update_self, ← same]
      exact call?_task.mpr (by simp [System.setTask, longer])
    · rw [Function.update_of_ne here]
      cases id with
      | caller i => rfl
      | task j =>
        have other : k ≠ j := fun e => here (by rw [e])
        apply Option.ext
        intro found
        rw [call?_task, call?_task, ← turn_starts turn]
        simp [System.setTask, List.getElem?_set_ne other]
  · rw [same]
    rfl

theorem advance_effect {c : Chronicle} {i : Nat} {call call' : StartCall} {sys : System}
    (current : c.callers[i]? = some call) (taken : c.system.startStep .caller call = some (call', sys)) :
    Effect (.advance i) c { system := sys, callers := c.callers.set i call'
                            notes := c.notes.follow (.caller i) call call' c.system sys } := by
  obtain ⟨turn, same⟩ := System.startStep_turn taken
  have inside : i < c.callers.length := (List.getElem?_eq_some_iff.mp current).1
  refine .stepped .caller (.caller i) call call'.phase sys current turn ?_ rfl rfl (System.sameWorkers_of_eq rfl) rfl
    (by rw [same]) rfl
  funext id
  by_cases here : id = .caller i
  · subst here
    rw [Function.update_self, ← same]
    simp [call?, inside]
  · rw [Function.update_of_ne here]
    cases id with
    | caller j =>
      have other : i ≠ j := fun e => here (by rw [e])
      simp [call?, List.getElem?_set_ne other]
    | task k =>
      apply Option.ext
      intro found
      rw [call?_task, call?_task]
      exact turn_starts turn k found

theorem call?_called (c : Chronicle) (call : StartCall) :
    call? { c with callers := c.callers ++ [call] } =
      Function.update c.call? (.caller c.callers.length) (some call) := by
  funext id
  by_cases here : id = .caller c.callers.length
  · subst here
    simp [call?]
  · rw [Function.update_of_ne here]
    cases id with
    | task k => rfl
    | caller j =>
      have other : j ≠ c.callers.length := fun e => here (by rw [e])
      simp only [call?, getElem?_snoc_other other]

theorem call?_spawned (c : Chronicle) (call : StartCall) :
    call? (c.note { c.system with tasks := c.system.tasks ++ [.start call] }) =
      Function.update c.call? (.task c.system.tasks.length) (some call) := by
  funext id
  by_cases here : id = .task c.system.tasks.length
  · subst here
    simp [call?, note]
  · rw [Function.update_of_ne here]
    cases id with
    | caller j => rfl
    | task j =>
      have other : j ≠ c.system.tasks.length := fun e => here (by rw [e])
      simp only [call?, note, getElem?_snoc_other other]

theorem run_effect {c c' : Chronicle} {stopFirst : Bool} {k : Nat} (h : c.apply (.run stopFirst k) = some c') :
    Effect (.run stopFirst k) c c' := by
  obtain ⟨sys, taken, h⟩ := Option.bind_eq_some_iff.mp h
  cases task : c.system.tasks[k]? with
  | none =>
    simp only [System.stepTask, task] at taken
    cases taken
  | some t =>
    cases t with
    | start call =>
      obtain ⟨call', after, effect⟩ := start_task_effect task taken
      simp only [task, after] at h
      cases h
      exact effect
    | worker n =>
      simp only [task] at h
      cases h
      exact worker_effect task taken
    | reception reception =>
      simp only [task] at h
      cases h
      exact reception_effect task taken

theorem apply_effect {c c' : Chronicle} {move : Move} (h : c.apply move = some c') : Effect move c c' := by
  cases move with
  | openProducer topic =>
    cases h
    obtain ⟨keeps, -, -, quiet⟩ := System.openProducer_spec (rfl : c.system.openProducer .caller topic = _)
    exact aside_of_keeps keeps quiet rfl
  | producer source =>
    cases h
    obtain ⟨keeps, -, -, quiet, -⟩ := System.producer_spec (rfl : c.system.producer .caller source = _)
    exact aside_of_keeps keeps quiet rfl
  | publish topic entry =>
    cases h
    obtain ⟨keeps, -, -, quiet, -⟩ :=
      System.publish_spec (rfl : c.system.publish .caller topic entry = _)
    exact aside_of_keeps keeps quiet rfl
  | append step source op =>
    rcases written : c.system.append .caller step source op with ⟨result, sys⟩
    obtain ⟨keeps, -, quiet, -⟩ := System.append_spec written
    simp only [apply, written] at h
    cases result with
    | error error =>
      cases h
      exact aside_of_keeps keeps quiet rfl
    | ok appended =>
      cases h
      obtain ⟨slots, calls, -⟩ := frame_of_keeps keeps
      exact .aside ⟨slots, calls, ⟨rfl, rfl, rfl, rfl, rfl, rfl, rfl⟩⟩ keeps.sessions
        (System.sameWorkers_of_eq keeps.tasks) quiet rfl
  | subscribe topic start =>
    cases h
    obtain ⟨keeps, -, quiet, -⟩ :=
      System.subscribe_spec (rfl : c.system.subscribe .caller topic start = _)
    exact aside_of_keeps keeps quiet rfl
  | outage | clock =>
    cases h
    exact aside_of_keeps ⟨rfl, rfl, rfl, rfl, rfl, rfl, fun keyed => keyed⟩ (.refl _ _) rfl
  | engine executor =>
    cases h
    exact .aside (frame_of_set rfl fun k call => Iff.rfl) rfl (System.sameWorkers_of_eq rfl) (.refl _ _) rfl
  | answer task outcome =>
    obtain ⟨sys', answered, rfl⟩ := Option.map_eq_some_iff.mp h
    exact answer_effect answered
  | listen subscription deadline =>
    cases h
    exact .aside (frame_of_set rfl (fun k call => getElem?_snoc (by simp))) rfl
      (fun k n => getElem?_snoc (by simp)) (.refl _ _) rfl
  | call source bounds =>
    cases h
    exact .called (.caller c.callers.length) source bounds (by simp [call?]) (call?_called c _) rfl rfl
      (System.sameWorkers_of_eq rfl) rfl ⟨rfl, rfl, rfl, rfl, rfl, rfl, rfl⟩ rfl rfl
  | spawn source bounds =>
    cases h
    refine .called (.task c.system.tasks.length) source bounds (by simp [call?]) (call?_spawned c _) rfl rfl
      (fun k n => getElem?_snoc (by simp)) rfl ⟨rfl, rfl, rfl, rfl, rfl, rfl, ?_⟩ rfl rfl
    funext n
    simp [note, Notes.watch, System.workerOf, System.session?, Worker.handover_self]
  | advance i =>
    obtain ⟨call, current, h⟩ := Option.bind_eq_some_iff.mp h
    obtain ⟨⟨call', sys⟩, taken, h⟩ := Option.bind_eq_some_iff.mp h
    cases h
    exact advance_effect current taken
  | create source bounds =>
    cases h
    exact .created source bounds c.system.freshId c.system.now rfl rfl (call?_of_tasks rfl (fun k call => Iff.rfl))
      (System.sameWorkers_of_eq rfl) rfl ⟨rfl, rfl, rfl, rfl, rfl, rfl, rfl⟩ rfl
  | start n =>
    simp only [apply] at h
    split at h
    · rename_i access
      cases h
      exact start_effect c n access
    · cases h
  | stop n =>
    cases h
    exact stop_effect c n rfl rfl
  | stopSource source =>
    cases h
    unfold System.stop
    split
    · exact aside_of_keeps (.refl _) (.refl _ _) rfl
    · exact stop_effect c _ rfl rfl
  | run stopFirst k => exact run_effect h

end Chronicle
end Journal
