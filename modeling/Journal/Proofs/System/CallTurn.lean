import Journal.Proofs.Restore.Turn
import Journal.System.Schedule

/-!
What a call that starts a restore can do in one step. Every step is one of the turns below, each with the
condition under which it is taken and the system after it; later arguments never look into the steps again.
-/
namespace Journal

def Pool.Keyed (pool : Pool) : Prop := ∀ topic p, pool.producers.get? topic = some p → p.topic = topic

namespace System

/-- The sessions, the slots, the tasks, the executor and the settings stay; the log and the reports may change. -/
structure Keeps (sys sys' : System) : Prop where
  sessions : sys'.sessions = sys.sessions
  slots : sys'.slots = sys.slots
  tasks : sys'.tasks = sys.tasks
  executor : sys'.executor = sys.executor
  names : sys'.pool.settings = sys.pool.settings
  restore : sys'.restore = sys.restore
  keyed : sys.pool.Keyed → sys'.pool.Keyed

theorem Keeps.refl (sys : System) : Keeps sys sys := ⟨rfl, rfl, rfl, rfl, rfl, rfl, fun keyed => keyed⟩

theorem Keeps.trans {a b c : System} (first : Keeps a b) (second : Keeps b c) : Keeps a c :=
  ⟨second.sessions.trans first.sessions, second.slots.trans first.slots, second.tasks.trans first.tasks,
    second.executor.trans first.executor, second.names.trans first.names, second.restore.trans first.restore,
    second.keyed ∘ first.keyed⟩

theorem keeps_report (origin : Origin) (events : List Event) (sys : System) :
    Keeps sys (sys.report origin events) := ⟨rfl, rfl, rfl, rfl, rfl, rfl, fun keyed => keyed⟩

def Quiet (origin : Origin) (sys sys' : System) : Prop :=
  ∃ events : List Event, sys'.reports = events.map (origin, ·) ++ sys.reports ∧ ∀ e ∈ events, e.counted? = none

theorem Quiet.refl (origin : Origin) (sys : System) : Quiet origin sys sys := ⟨[], rfl, by simp⟩

theorem Quiet.trans {origin : Origin} {a b c : System} (first : Quiet origin a b) (second : Quiet origin b c) :
    Quiet origin a c := by
  obtain ⟨earlier, told, silent⟩ := first
  obtain ⟨later, told', silent'⟩ := second
  refine ⟨later ++ earlier, by simp [told, told'], ?_⟩
  intro e member
  rcases List.mem_append.mp member with member | member
  · exact silent' e member
  · exact silent e member

theorem quiet_report {origin : Origin} {events : List Event} (sys : System)
    (silent : ∀ e ∈ events, e.counted? = none) : Quiet origin sys (sys.report origin events) :=
  ⟨events.reverse, rfl, by simpa using silent⟩

theorem inquire_spec {topic : String} {inquiry inquiry' : Inquiry} {sys sys' : System}
    (h : sys.inquire topic inquiry = some (inquiry', sys')) :
    Keeps sys sys' ∧ sys'.log = sys.log ∧ sys'.reports = sys.reports ∧
      (sys.script = {} → sys' = sys ∧ (inquiry = .asking → inquiry' = .answered (.ok (sys.log.last? topic)))) := by
  cases inquiry with
  | asking =>
    cases newest : sys.script.newest with
    | nil =>
      simp only [inquire, newest, Option.some.injEq, Prod.mk.injEq] at h
      obtain ⟨rfl, rfl⟩ := h
      exact ⟨.refl sys, rfl, rfl, fun _ => ⟨rfl, fun _ => rfl⟩⟩
    | cons first later =>
      simp only [inquire, newest] at h
      have prepared : sys.script ≠ {} := fun none => by simp [none] at newest
      split at h <;> cases h <;>
        exact ⟨⟨rfl, rfl, rfl, rfl, rfl, rfl, fun keyed => keyed⟩, rfl, rfl, fun none => absurd none prepared⟩
  | delayed deadline newest =>
    simp only [inquire] at h
    split at h
    · cases h
      exact ⟨.refl sys, rfl, rfl, fun _ => ⟨rfl, fun asking => by cases asking⟩⟩
    · cases h
  | answered result => cases h

theorem subscribe_spec {origin : Origin} {topic : String} {start : Option Start} {sys sys' : System}
    {result : Except TransportError Subscription} (h : sys.subscribe origin topic start = (result, sys')) :
    Keeps sys sys' ∧ (sys'.log = sys.log ∨ sys'.log = sys.log.withTopic topic) ∧ Quiet origin sys sys' ∧
      (sys.script = {} → sys'.script = {} ∧
        ∀ subscription, result = .ok subscription → subscription = .topic { topic, start }) := by
  unfold subscribe at h
  split at h
  · rename_i deliveries later prepared
    cases h
    exact ⟨⟨rfl, rfl, rfl, rfl, rfl, rfl, fun keyed => keyed⟩, .inl rfl, .refl origin _, fun none => by simp [none] at prepared⟩
  · split at h
    · cases h
      exact ⟨.refl sys, .inl rfl, .refl origin sys, fun none => ⟨none, fun _ e => by cases e⟩⟩
    · rename_i log opened
      cases h
      refine ⟨⟨rfl, rfl, rfl, rfl, rfl, rfl, fun keyed => keyed⟩, .inr ?_, ?_, fun none => ⟨none, fun _ e => by cases e; rfl⟩⟩
      · unfold Log.openConsumer at opened
        split at opened <;> cases opened
        rfl
      · apply quiet_report { sys with log }
        intro e member
        split at member <;> simp_all [Event.counted?]

theorem subscribeFrom_spec {origin : Origin} {source : String} {start : Option Start} {sys sys' : System}
    {result : Except TransportError Subscription} (h : sys.subscribeFrom origin source start = (result, sys')) :
    Keeps sys sys' ∧ (sys'.log = sys.log ∨ sys'.log = sys.log.withTopic (sys.pool.topicOf source)) ∧
      Quiet origin sys sys' ∧
      (sys.script = {} → sys'.script = {} ∧
        ∀ subscription, result = .ok subscription →
          subscription = .topic { topic := sys.pool.topicOf source, start }) := by
  have announced : Quiet origin sys (sys.report origin [.openingConsumer source (sys.pool.topicOf source)]) :=
    quiet_report sys (by simp [Event.counted?])
  obtain ⟨kept, grown, quiet, plain⟩ := subscribe_spec h
  exact ⟨(keeps_report origin _ sys).trans kept, grown, announced.trans quiet, plain⟩

/-- One step of a call with the phase and the system after it. -/
inductive CallTurn (origin : Origin) (call : StartCall) (sys : System) : StartPhase → System → Prop where
  | join (n : Nat) (phase : call.phase = .looking) (slot : sys.slots.get? call.source = some n)
      (live : sys.isDone n = false) :
      CallTurn origin call sys (.returned (.ok n))
        (sys.report origin (sys.reportOf n fun s => .alreadyRunning s.executionId))
  | ask (observed : Option Nat) (phase : call.phase = .looking) (slot : sys.slots.get? call.source = observed)
      (finished : ∀ n, observed = some n → sys.isDone n = true) :
      CallTurn origin call sys (.reading observed .asking) sys
  | read (observed : Option Nat) (inquiry inquiry' : Inquiry) (sys' : System)
      (phase : call.phase = .reading observed inquiry)
      (asked : sys.inquire (sys.pool.topicOf call.source) inquiry = some (inquiry', sys')) :
      CallTurn origin call sys (.reading observed inquiry') sys'
  | create (observed : Option Nat) (newest : Option Entry)
      (phase : call.phase = .reading observed (.answered (.ok newest))) :
      CallTurn origin call sys (.installing observed sys.sessions.length)
        (sys.createSession call.source call.bounds newest).2
  | fail (observed : Option Nat) (error : TransportError)
      (phase : call.phase = .reading observed (.answered (.error error))) :
      CallTurn origin call sys (.returned (.error (.transport error))) sys
  | win (observed : Option Nat) (candidate : Nat) (phase : call.phase = .installing observed candidate)
      (slot : sys.slots.get? call.source = observed) :
      CallTurn origin call sys (.starting candidate)
        ({ sys with slots := sys.slots.insert call.source candidate }.report origin
          ({ sys with slots := sys.slots.insert call.source candidate }.reportOf candidate
            fun s => .sessionInstalled s.executionId observed.isSome))
  | lose (observed : Option Nat) (candidate current : Nat) (phase : call.phase = .installing observed candidate)
      (slot : sys.slots.get? call.source = some current) (other : some current ≠ observed) :
      CallTurn origin call sys (.returned (.ok current))
        (sys.report origin (sys.reportOf current fun s => .lostStartRace s.executionId s.done))
  | again (observed : Option Nat) (candidate : Nat) (phase : call.phase = .installing observed candidate)
      (slot : sys.slots.get? call.source = none) (other : none ≠ observed) :
      CallTurn origin call sys .looking sys
  | late (n : Nat) (phase : call.phase = .starting n) (claimed : ∀ s, sys.session? n = some s → s.started = true) :
      CallTurn origin call sys (.returned (.ok n)) sys
  | skip (n : Nat) (s : Session) (phase : call.phase = .starting n) (session : sys.session? n = some s)
      (unclaimed : s.started = false) (nothing : s.nothingToReplay = true) :
      CallTurn origin call sys (.returned (.ok n))
        ((sys.setSession n ({ s with started := true }.finish sys.now)).report origin
          [.nothingToRestore s.source s.executionId s.ceiling])
  | claim (n : Nat) (s : Session) (phase : call.phase = .starting n) (session : sys.session? n = some s)
      (unclaimed : s.started = false) (something : s.nothingToReplay = false) :
      CallTurn origin call sys (.opening n) (sys.setSession n { s with started := true })
  | spawn (n : Nat) (s : Session) (subscription : Subscription) (sys' : System) (phase : call.phase = .opening n)
      (session : sys.session? n = some s)
      (opened : sys.subscribeFrom origin s.source s.bounds.start = (.ok subscription, sys')) :
      CallTurn origin call sys (.returned (.ok n))
        { sys'.setSession n (s.spawn subscription) with tasks := sys'.tasks ++ [.worker n] }
  | refuse (n : Nat) (s : Session) (error : TransportError) (sys' : System) (phase : call.phase = .opening n)
      (session : sys.session? n = some s)
      (failed : sys.subscribeFrom origin s.source s.bounds.start = (.error error, sys')) :
      CallTurn origin call sys (.returned (.error (.transport error)))
        ((sys'.setSession n (s.failOpening sys.now error).1).report origin (s.failOpening sys.now error).2)
  | miss (n : Nat) (phase : call.phase = .opening n) (absent : sys.session? n = none) :
      CallTurn origin call sys (.returned (.ok n)) sys

theorem session?_setSession_self {n : Nat} {s : Session} {sys : System} (present : sys.session? n = some s)
    (s' : Session) : (sys.setSession n s').session? n = some s' := by
  have inside : n < sys.sessions.length := (List.getElem?_eq_some_iff.mp present).1
  simp [session?, setSession, inside]

theorem session?_setSession_other {n m : Nat} (other : m ≠ n) (s' : Session) (sys : System) :
    (sys.setSession n s').session? m = sys.session? m := by
  simp [session?, setSession, List.getElem?_set_ne (Ne.symm other)]

theorem Keeps.setSession_sessions {sys sys' : System} (keeps : Keeps sys sys') (n : Nat) (s : Session) :
    (sys'.setSession n s).sessions = sys.sessions.set n s := by
  rw [setSession, keeps.sessions]

theorem withSession_eq {n : Nat} {s : Session} {sys : System} (present : sys.session? n = some s) (origin : Origin)
    (act : Session → Reported) :
    sys.withSession origin n act = (sys.setSession n (act s).1).report origin (act s).2 := by
  simp [withSession, present]

theorem claimSession_cases (origin : Origin) (n : Nat) (sys : System) :
    (sys.claimSession origin n = none ∧ ∀ s, sys.session? n = some s → s.started = true) ∨
      ∃ s, sys.session? n = some s ∧ s.started = false ∧
        ((s.nothingToReplay = true ∧ sys.claimSession origin n = some (false,
            (sys.setSession n ({ s with started := true }.finish sys.now)).report origin
              [.nothingToRestore s.source s.executionId s.ceiling])) ∨
          s.nothingToReplay = false ∧
            sys.claimSession origin n = some (true, sys.setSession n { s with started := true })) := by
  cases session : sys.session? n with
  | none => exact .inl ⟨by simp [claimSession, session], fun s h => by cases h⟩
  | some s =>
    cases unclaimed : s.started with
    | true => exact .inl ⟨by simp [claimSession, session, Session.claim, unclaimed], fun s h => by cases h; exact unclaimed⟩
    | false =>
      refine .inr ⟨s, rfl, unclaimed, ?_⟩
      have same : Session.nothingToReplay { s with started := true } = s.nothingToReplay := rfl
      cases nothing : s.nothingToReplay with
      | true =>
        refine .inl ⟨rfl, ?_⟩
        have twice (a b : Session) : (sys.setSession n a).setSession n b = sys.setSession n b := by
          simp [setSession]
        simp [claimSession, session, Session.claim, unclaimed, same, nothing,
          withSession_eq (session?_setSession_self session _), Session.skipReplay, twice]
        rfl
      | false => exact .inr ⟨rfl, by simp [claimSession, session, Session.claim, unclaimed, same, nothing]⟩

theorem openSession_cases (origin : Origin) {n : Nat} {sys : System} {s : Session}
    (session : sys.session? n = some s) :
    (∃ subscription sys', sys.subscribeFrom origin s.source s.bounds.start = (.ok subscription, sys') ∧
      sys.openSession origin n = (.ok (),
        { sys'.setSession n (s.spawn subscription) with tasks := sys'.tasks ++ [.worker n] })) ∨
    ∃ error sys', sys.subscribeFrom origin s.source s.bounds.start = (.error error, sys') ∧
      sys.openSession origin n = (.error error,
        (sys'.setSession n (s.failOpening sys.now error).1).report origin (s.failOpening sys.now error).2) := by
  rcases opened : sys.subscribeFrom origin s.source s.bounds.start with ⟨result, sys'⟩
  have same : sys'.session? n = some s := by
    simpa [session?, (subscribeFrom_spec opened).1.sessions] using session
  have now : sys'.now = sys.now := by
    simp only [subscribeFrom, subscribe, report] at opened
    split at opened
    · cases opened
      rfl
    · split at opened <;> cases opened <;> rfl
  cases result with
  | ok subscription =>
    exact .inl ⟨subscription, sys', rfl, by simp [openSession, session, opened, spawnWorker, same, setSession]⟩
  | error error =>
    exact .inr ⟨error, sys', rfl, by simp [openSession, session, opened, withSession_eq same, now]⟩

theorem startStep_turn {origin : Origin} {call call' : StartCall} {sys sys' : System}
    (h : sys.startStep origin call = some (call', sys')) :
    CallTurn origin call sys call'.phase sys' ∧ call' = { call with phase := call'.phase } := by
  unfold startStep at h
  cases phase : call.phase with
  | looking =>
    simp only [phase] at h
    cases slot : sys.slots.get? call.source with
    | none =>
      simp only [slot] at h
      cases h
      exact ⟨.ask none phase slot (fun n e => by cases e), rfl⟩
    | some n =>
      simp only [slot] at h
      split at h
      · rename_i finished
        cases h
        exact ⟨.ask (some n) phase slot (fun m e => by cases e; exact finished), rfl⟩
      · rename_i live
        cases h
        exact ⟨.join n phase slot (by simpa using live), rfl⟩
  | reading observed inquiry =>
    have asks : ∀ {inquiry'}, sys.inquire (sys.pool.topicOf call.source) inquiry = some (inquiry', sys') →
        call' = { call with phase := .reading observed inquiry' } →
        CallTurn origin call sys call'.phase sys' ∧ call' = { call with phase := call'.phase } := by
      rintro inquiry' asked rfl
      exact ⟨.read observed inquiry inquiry' sys' phase asked, rfl⟩
    cases inquiry with
    | answered result =>
      cases result with
      | ok newest =>
        simp only [phase] at h
        cases h
        exact ⟨.create observed newest phase, rfl⟩
      | error error =>
        simp only [phase] at h
        cases h
        exact ⟨.fail observed error phase, rfl⟩
    | asking | delayed =>
      simp only [phase] at h
      split at h
      · rename_i inquiry' sys'' asked
        cases h
        exact asks asked rfl
      · cases h
  | installing observed candidate =>
    simp only [phase, install] at h
    split at h
    · rename_i slot
      cases h
      exact ⟨.win observed candidate phase slot, rfl⟩
    · rename_i other
      split at h
      · rename_i slot
        cases h
        exact ⟨.again observed candidate phase slot (by simpa [slot] using other), rfl⟩
      · rename_i current slot
        cases h
        exact ⟨.lose observed candidate current phase slot (by simpa [slot] using other), rfl⟩
  | starting n =>
    simp only [phase] at h
    rcases claimSession_cases origin n sys with
      ⟨same, claimed⟩ | ⟨s, session, unclaimed, ⟨nothing, same⟩ | ⟨something, same⟩⟩ <;> rw [same] at h <;> cases h
    · exact ⟨.late n phase claimed, rfl⟩
    · exact ⟨.skip n s phase session unclaimed nothing, rfl⟩
    · exact ⟨.claim n s phase session unclaimed something, rfl⟩
  | opening n =>
    simp only [phase] at h
    cases session : sys.session? n with
    | none =>
      simp only [openSession, session] at h
      cases h
      exact ⟨.miss n phase session, rfl⟩
    | some s =>
      rcases openSession_cases origin session with
        ⟨subscription, opened, subscribed, same⟩ | ⟨error, opened, subscribed, same⟩ <;> rw [same] at h <;> cases h
      · exact ⟨.spawn n s subscription opened phase session subscribed, rfl⟩
      · exact ⟨.refuse n s error opened phase session subscribed, rfl⟩
  | returned result =>
    simp only [phase] at h
    cases h

theorem startStep_isSome (origin : Origin) {call : StartCall} (sys : System)
    (going : ∀ result, call.phase ≠ .returned result)
    (prompt : ∀ observed deadline newest, call.phase ≠ .reading observed (.delayed deadline newest)) :
    (sys.startStep origin call).isSome = true := by
  unfold startStep
  cases phase : call.phase with
  | looking =>
    dsimp only
    split
    · rfl
    · split <;> rfl
  | starting n | opening n =>
    dsimp only
    split <;> rfl
  | installing observed n => rfl
  | reading observed inquiry =>
    cases inquiry with
    | asking =>
      dsimp only [inquire]
      cases sys.script.newest with
      | nil => rfl
      | cons first later => by_cases now : first.delay = 0 <;> simp [now]
    | delayed deadline newest => exact absurd phase (prompt observed deadline newest)
    | answered result => cases result <;> rfl
  | returned result => exact absurd phase (going result)

end System

namespace StartPhase

def observed? : StartPhase → Option Nat
  | .reading observed _ | .installing observed _ => observed
  | _ => none

def stepsLeft : StartPhase → Nat
  | .looking => 7
  | .reading _ .asking => 6
  | .reading _ (.delayed ..) => 5
  | .reading _ (.answered _) => 4
  | .installing .. => 3
  | .starting _ => 2
  | .opening _ => 1
  | .returned _ => 0

theorem stepsLeft_le (phase : StartPhase) : phase.stepsLeft ≤ 7 := by
  cases phase with
  | reading observed inquiry => cases inquiry <;> simp [stepsLeft]
  | _ => simp [stepsLeft]

end StartPhase

namespace System

theorem inquire_nearer {topic : String} {inquiry inquiry' : Inquiry} {sys sys' : System} (observed : Option Nat)
    (asked : sys.inquire topic inquiry = some (inquiry', sys')) :
    (StartPhase.reading observed inquiry').stepsLeft < (StartPhase.reading observed inquiry).stepsLeft := by
  cases inquiry with
  | asking =>
    simp only [inquire] at asked
    split at asked
    · cases asked
      exact Nat.lt_of_sub_eq_succ rfl
    · split at asked <;> cases asked
      · cases ‹DelayedNewest›.newest <;> simp [StartPhase.stepsLeft]
      · simp [StartPhase.stepsLeft]
  | delayed deadline newest =>
    simp only [inquire] at asked
    split at asked <;> cases asked
    cases newest <;> simp [StartPhase.stepsLeft]
  | answered result => cases asked

theorem turn_nearer {origin : Origin} {call : StartCall} {phase : StartPhase} {sys sys' : System}
    (turn : CallTurn origin call sys phase sys')
    (held : ∀ n, call.phase.observed? = some n → (sys.slots.get? call.source).isSome = true) :
    phase.stepsLeft < call.phase.stepsLeft := by
  cases turn with
  | read observed inquiry inquiry' sys reading asked =>
    rw [reading]
    exact inquire_nearer observed asked
  | again observed n installing empty other =>
    obtain ⟨m, seen⟩ := Option.ne_none_iff_exists'.mp (Ne.symm other)
    have kept := held m (by rw [installing]; exact seen)
    simp [empty] at kept
  | join _ phase | ask _ phase | create _ _ phase | fail _ _ phase | win _ _ phase | lose _ _ _ phase | late _ phase
  | skip _ _ phase | claim _ _ phase | spawn _ _ _ _ phase | refuse _ _ _ _ phase | miss _ phase =>
    rw [phase]
    simp [StartPhase.stepsLeft]

end System
end Journal
