import Journal.Proofs.Restore.Taking
import Journal.Proofs.System.Chronicle

/-!
Runs of one session. It is started, stopped, waited for and looked at any number of times and in any order, and its
worker takes its steps in between. A start that has to open a consumer takes two steps. The clock, the log and the
executor may become anything at any time. An onlooker notes what the worker hears from its consumer, what it hands to
the executor and how that comes out.
-/
namespace Journal

inductive Startup where
  | opening
  | returned (result : Except TransportError Bool)
  deriving Repr

namespace Session

def hears (now : Nat) (log : Log) (stopFirst : Bool) (s : Session) : Option Delivery :=
  match s.worker with
  | .receiving subscription deadline parked =>
    if stopFirst && s.stopPermit then none else (subscription.receive log now deadline parked).1.delivery?
  | _ => none

def learns (fresh : Ulid) (origin : Origin) (executor : Executor) (s : Session) :
    Option (Except SagaError Handoff) :=
  match s.worker with
  | .submitting _ _ saga op => some (executor.answer fresh ⟨origin, saga, op⟩).1
  | _ => none

theorem count_turn {settings : RestoreSettings} {now : Nat} {log : Log} {s : Session} {subscription : Subscription}
    {entry : Entry} {saga : Saga} {op : Operation} (worker : s.worker = .submitting subscription entry saga op)
    (outcome : Except SagaError Handoff) :
    s.Turn settings now log (s.count now subscription entry saga op outcome).1
      (s.count now subscription entry saga op outcome).2 :=
  .count subscription entry saga op outcome [] worker (by simp)

end Session

/-- A system with one session. -/
structure Life where
  system : System
  startups : List Startup := []
  waits : List Wait := []
  looks : List Progress := []
  heard : List Delivery := []
  handed : List (Saga × Operation) := []
  outcomes : List (Except SagaError Handoff) := []

namespace Life

inductive Action where
  | start
  | resume (call : Nat)
  | stop
  | wait
  | wake (call : Nat)
  | look
  | turn (stopFirst : Bool)
  | answer (outcome : Except SagaError Handoff)
  | surroundings (now : Nat) (log : Log) (executor : Executor)

def Action.works : Action → Bool
  | .turn _ | .answer _ => true
  | _ => false

def created (settings : Settings) (executor : Executor) (script : Script) (now : Nat) (source : String)
    (bounds : Bounds) (newest : Option Entry) : Life :=
  let sys := System.ofSettings settings executor script
  { system := (System.createSession source bounds newest { sys with now }).2 }

def perform (l : Life) : Action → Option Life
  | .start =>
    match l.system.claimSession .caller 0 with
    | none => some { l with startups := l.startups ++ [.returned (.ok false)] }
    | some (false, sys) => some { l with system := sys, startups := l.startups ++ [.returned (.ok true)] }
    | some (true, sys) => some { l with system := sys, startups := l.startups ++ [.opening] }
  | .resume i =>
    match l.startups[i]? with
    | some .opening =>
      let (result, sys) := l.system.openSession .caller 0
      some { l with system := sys, startups := l.startups.set i (.returned (result.map fun _ => true)) }
    | _ => none
  | .stop => some { l with system := l.system.stopSession .caller 0 }
  | .wait => some { l with waits := l.waits ++ [.asking] }
  | .wake i => do
    let wait ← l.waits[i]?
    let wait ← wait.step (← l.system.session? 0)
    some { l with waits := l.waits.set i wait }
  | .look => some { l with looks := l.looks ++ (l.system.progressOf 0).toList }
  | .turn stopFirst => do
    let s ← l.system.session? 0
    let sys ← l.system.stepTask stopFirst 0
    some { l with
      system := sys
      heard := l.heard ++ (s.hears l.system.now l.system.log stopFirst).toList
      handed := l.handed ++ s.worker.handover (sys.workerOf 0)
      outcomes := l.outcomes ++ (s.learns l.system.freshId (.task 0) l.system.executor).toList }
  | .answer outcome =>
    (l.system.answered 0 outcome).map fun sys => { l with system := sys, outcomes := l.outcomes ++ [outcome] }
  | .surroundings now log executor => some { l with system := { l.system with now, log, executor } }

def run : List Action → Life → Option Life
  | [], l => some l
  | action :: later, l => (l.perform action).bind (run later)

theorem start_alone {l : Life} {result : Except TransportError Bool} {sys : System}
    (h : l.system.startSession .caller 0 = (result, sys)) :
    ∃ later, (later = [] ∨ later = [.resume l.startups.length]) ∧
      run (.start :: later) l = some { l with system := sys, startups := l.startups ++ [.returned result] } := by
  unfold System.startSession at h
  split at h
  · rename_i claimed
    cases h
    exact ⟨[], .inl rfl, by simp [run, perform, claimed]⟩
  · rename_i sys' claimed
    cases h
    exact ⟨[], .inl rfl, by simp [run, perform, claimed]⟩
  · rename_i sys' claimed
    rcases opened : sys'.openSession .caller 0 with ⟨result', sys''⟩
    simp only [opened] at h
    cases h
    exact ⟨[.resume l.startups.length], .inr rfl, by simp [run, perform, claimed, opened]⟩

structure Aside (l l' : Life) : Prop where
  sessions : l'.system.sessions = l.system.sessions
  tasks : l'.system.tasks = l.system.tasks
  restore : l'.system.restore = l.system.restore
  script : l'.system.script = l.system.script
  reports : l'.system.reports = l.system.reports
  startups : l'.startups = l.startups
  heard : l'.heard = l.heard
  handed : l'.handed = l.handed
  outcomes : l'.outcomes = l.outcomes

/-- An action with what it makes of the session. -/
inductive Change (l : Life) (s : Session) : Action → Life → Session → Prop where
  | aside {action : Action} {l' : Life} (aside : Aside l l') (idle : action.works = false) (going : action ≠ .stop)
      (unstarted : action ≠ .start) : Change l s action l' s
  | late (claimed : s.started = true) :
      Change l s .start { l with startups := l.startups ++ [.returned (.ok false)] } s
  | skip (unclaimed : s.started = false) (nothing : s.nothingToReplay = true) :
      Change l s .start
        { l with
          system := (l.system.setSession 0 ({ s with started := true }.finish l.system.now)).report .caller
            [.nothingToRestore s.source s.executionId s.ceiling]
          startups := l.startups ++ [.returned (.ok true)] }
        ({ s with started := true }.finish l.system.now)
  | claim (unclaimed : s.started = false) (something : s.nothingToReplay = false) :
      Change l s .start
        { l with
          system := l.system.setSession 0 { s with started := true }
          startups := l.startups ++ [.opening] }
        { s with started := true }
  | spawn {i : Nat} {subscription : Subscription} {sys : System} (call : l.startups[i]? = some .opening)
      (opened : l.system.subscribeFrom .caller s.source s.bounds.start = (.ok subscription, sys)) :
      Change l s (.resume i)
        { l with
          system := { sys.setSession 0 (s.spawn subscription) with tasks := sys.tasks ++ [.worker 0] }
          startups := l.startups.set i (.returned (.ok true)) }
        (s.spawn subscription)
  | refuse {i : Nat} {error : TransportError} {sys : System} (call : l.startups[i]? = some .opening)
      (failed : l.system.subscribeFrom .caller s.source s.bounds.start = (.error error, sys)) :
      Change l s (.resume i)
        { l with
          system := (sys.setSession 0 (s.failOpening l.system.now error).1).report .caller
            (s.failOpening l.system.now error).2
          startups := l.startups.set i (.returned (.error error)) }
        (s.failOpening l.system.now error).1
  | stop : Change l s .stop { l with system := (l.system.setSession 0 s.stop.1).report .caller s.stop.2 } s.stop.1
  | turn {stopFirst : Bool} {s' : Session} {executor : Executor} {events : List Event}
      (task : l.system.tasks[0]? = some (.worker 0))
      (stepped : s.step l.system.restore l.system.now l.system.log l.system.freshId (.task 0) stopFirst
        l.system.executor = some (s', executor, events)) :
      Change l s (.turn stopFirst)
        { l with
          system := ({ l.system.draw with executor }.setSession 0 s').report (.task 0) events
          heard := l.heard ++ (s.hears l.system.now l.system.log stopFirst).toList
          handed := l.handed ++ s.worker.handover s'.worker
          outcomes := l.outcomes ++ (s.learns l.system.freshId (.task 0) l.system.executor).toList }
        s'
  | answer {outcome : Except SagaError Handoff} {subscription : Subscription} {entry : Entry} {saga : Saga}
      {op : Operation} (task : l.system.tasks[0]? = some (.worker 0))
      (worker : s.worker = .submitting subscription entry saga op) :
      Change l s (.answer outcome)
        { l with
          system := (l.system.setSession 0 (s.count l.system.now subscription entry saga op outcome).1).report (.task 0)
            (s.count l.system.now subscription entry saga op outcome).2
          outcomes := l.outcomes ++ [outcome] }
        (s.count l.system.now subscription entry saga op outcome).1

theorem workerOf_setSession {sys : System} {n : Nat} {s : Session} (session : sys.session? n = some s) (s' : Session) :
    (sys.setSession n s').workerOf n = s'.worker := by
  rw [System.workerOf, System.session?_setSession_self session]
  rfl

theorem perform_change {l l' : Life} {s : Session} {action : Action} (session : l.system.session? 0 = some s)
    (manned : ∀ task ∈ l.system.tasks, task = .worker 0) (h : l.perform action = some l') :
    ∃ s', Change l s action l' s' := by
  cases action with
  | start =>
    simp only [perform] at h
    rcases System.claimSession_cases .caller 0 l.system with
      ⟨same, claimed⟩ | ⟨t, session', unclaimed, ⟨nothing, same⟩ | ⟨something, same⟩⟩
    · rw [same] at h
      cases h
      exact ⟨s, .late (claimed s session)⟩
    · obtain rfl : s = t := Option.some.inj (session.symm.trans session')
      rw [same] at h
      cases h
      exact ⟨_, .skip unclaimed nothing⟩
    · obtain rfl : s = t := Option.some.inj (session.symm.trans session')
      rw [same] at h
      cases h
      exact ⟨_, .claim unclaimed something⟩
  | resume i =>
    simp only [perform] at h
    split at h
    · rename_i call
      rcases System.openSession_cases .caller session with
        ⟨subscription, sys, opened, same⟩ | ⟨error, sys, failed, same⟩ <;> rw [same] at h <;> cases h
      · exact ⟨_, .spawn call opened⟩
      · exact ⟨_, .refuse call failed⟩
    · cases h
  | stop =>
    simp only [perform, System.stopSession, System.withSession_eq session] at h
    cases h
    exact ⟨_, .stop⟩
  | wait | look | surroundings =>
    cases h
    exact ⟨s, .aside ⟨rfl, rfl, rfl, rfl, rfl, rfl, rfl, rfl, rfl⟩ rfl (by simp) (by simp)⟩
  | wake i =>
    obtain ⟨wait, -, h⟩ := Option.bind_eq_some_iff.mp h
    obtain ⟨t, -, h⟩ := Option.bind_eq_some_iff.mp h
    obtain ⟨wait', -, h⟩ := Option.bind_eq_some_iff.mp h
    cases h
    exact ⟨s, .aside ⟨rfl, rfl, rfl, rfl, rfl, rfl, rfl, rfl, rfl⟩ rfl (by simp) (by simp)⟩
  | turn stopFirst =>
    obtain ⟨t, session', h⟩ := Option.bind_eq_some_iff.mp h
    obtain rfl : s = t := Option.some.inj (session.symm.trans session')
    obtain ⟨sys, stepped, h⟩ := Option.bind_eq_some_iff.mp h
    cases h
    cases task : l.system.tasks[0]? with
    | none => simp [System.stepTask, task] at stepped
    | some task' =>
      obtain rfl := manned task' (List.mem_of_getElem? task)
      simp only [System.stepTask, task] at stepped
      obtain ⟨t, session', stepped⟩ := Option.bind_eq_some_iff.mp stepped
      obtain rfl : s = t := Option.some.inj (session.symm.trans session')
      obtain ⟨⟨s', executor, events⟩, taken, h⟩ := Option.bind_eq_some_iff.mp stepped
      cases h
      have present : { l.system.draw with executor }.session? 0 = some s := session
      have after : (({ l.system.draw with executor }.setSession 0 s').report (.task 0) events).workerOf 0 = s'.worker :=
        workerOf_setSession present s'
      simp only [after]
      exact ⟨s', .turn task taken⟩
  | answer outcome =>
    obtain ⟨sys, answered, h⟩ := Option.map_eq_some_iff.mp h
    subst h
    unfold System.answered at answered
    split at answered
    · rename_i n task
      have same := manned _ (List.mem_of_getElem? task)
      cases same
      rw [session] at answered
      simp only at answered
      split at answered
      · rename_i subscription entry saga op worker
        rw [System.withSession_eq session] at answered
        cases answered
        exact ⟨_, .answer task worker⟩
      · cases answered
    · cases answered

end Life
end Journal
