import Journal.System.Restoring
import Journal.System.Writing
/-!
Tasks and time. Any task may take the next step. The schedule that is used here lets the task that was spawned
first run as long as it can, then the next; time passes only when no task can run.
-/
namespace Journal.System

def setTask (number : Nat) (task : Task) (sys : System) : System :=
  { sys with tasks := sys.tasks.set number task }

def stepTask (stopFirst : Bool) (number : Nat) (sys : System) : Option System :=
  let origin := Origin.task number
  match sys.tasks[number]? with
  | none => none
  | some (.start call) =>
    (sys.startStep origin call).map fun (call, sys) => sys.setTask number (.start call)
  | some (.reception reception) =>
    (sys.receiveStep reception).map fun reception => sys.setTask number (.reception reception)
  | some (.worker session) => do
    let s ← sys.session? session
    let (s, executor, events) ← s.step sys.restore sys.now sys.log sys.freshId origin stopFirst sys.executor
    some (({ sys.draw with executor }.setSession session s).report origin events)

def stepFirst (sys : System) : Option System :=
  (List.range sys.tasks.length).findSome? fun number => sys.stepTask true number

/-- More steps than the tasks can take before all of them wait: no task takes more than a few steps for each
entry that it can receive. -/
def patience (sys : System) : Nat :=
  let entries := sys.log.topics.foldl (fun count topic => count + topic.2.length) 0
  let prepared := sys.script.consumers.foldl (fun count deliveries => count + deliveries.length) 0
  let backlog (task : Task) : Nat :=
    match task with
    | .worker session =>
      match (sys.session? session).map Session.worker with
      | some (.spawned s) | some (.ready s) | some (.receiving s _ _) | some (.submitting s _ _ _) =>
        s.backlog sys.log
      | _ => 0
    | _ => entries + prepared
  sys.tasks.foldl (fun steps task => steps + 10 * (backlog task + 10)) 0

def runFor : (steps : Nat) → System → System
  | 0, sys => sys
  | steps + 1, sys =>
    match sys.stepFirst with
    | none => sys
    | some sys => runFor steps sys

def drain (sys : System) : System := runFor sys.patience sys

def wakeTime (sys : System) : Task → Option Nat
  | .start call =>
    match call.phase with
    | .reading _ (.delayed deadline _) => some deadline
    | _ => none
  | .reception (.pending _ deadline _) => some deadline
  | .reception (.received ..) => none
  | .worker session => (sys.session? session).bind fun s => s.worker.deadline?

def nextWake (sys : System) : Option Nat := (sys.tasks.filterMap sys.wakeTime).min?

structure Pause (α : Type) where
  poll : System → Option α × System
  wake : System → Option Nat

def earlier : Option Nat → Option Nat → Option Nat
  | none, b => b
  | a, none => a
  | some a, some b => some (min a b)

/-- The caller waits while the tasks run. Whenever all tasks wait, the caller looks, and then the clock goes on
to the next moment at which somebody wakes; the caller is then the first to look. Nothing if nobody ever
wakes, or after `moments` such moments. -/
def await {α : Type} (pause : Pause α) : (moments : Nat) → System → Option α × System
  | 0, sys => (none, sys)
  | moments + 1, sys =>
    match pause.poll sys with
    | (some a, sys) => (some a, sys)
    | (none, sys) =>
      match pause.poll sys.drain with
      | (some a, sys) => (some a, sys)
      | (none, sys) =>
        match earlier (pause.wake sys) sys.nextWake with
        | none => (none, sys)
        | some time => await pause moments { sys with now := max time sys.now }

end Journal.System
