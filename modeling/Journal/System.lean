import Journal.Append
import Journal.Pool
import Journal.Restore.Progress
import Journal.Restore.Request
/-!
A running system: the log with the pool in front of it, the executor, the restore sessions with the slot of each
source, and the tasks that run beside the caller. Everything it does is a step from one state to the next.
-/
namespace Journal

inductive Inquiry where
  | asking
  | delayed (deadline : Nat) (newest : Newest)
  | answered (result : Except TransportError (Option Entry))
  deriving Repr

/-- How far a call has come that starts a restore or joins the one that runs. -/
inductive StartPhase where
  | looking
  | reading (observed : Option Nat) (inquiry : Inquiry)
  | installing (observed : Option Nat) (candidate : Nat)
  | starting (session : Nat)
  | opening (session : Nat)
  | returned (result : Except RestoreError Nat)
  deriving Repr

structure StartCall where
  source : String
  bounds : Bounds
  phase : StartPhase := .looking
  deriving Repr

inductive Reception where
  | pending (subscription : Subscription) (deadline : Nat) (parked : Bool)
  | received (subscription : Subscription) (result : Except TransportError (Option Entry)) (time : Nat)
  deriving Repr

inductive Task where
  | start (call : StartCall)
  | worker (session : Nat)
  | reception (reception : Reception)
  deriving Repr

structure System where
  now : Nat := 0
  log : Log := {}
  script : Script := {}
  pool : Pool := {}
  restore : RestoreSettings := {}
  executor : Executor := .logging
  sessions : List Session := []
  slots : Table Nat := []
  tasks : List Task := []
  drawn : Nat := 0
  /-- What was reported, newest first. -/
  reports : List (Origin × Event) := []
  deriving Repr

namespace System

def report (origin : Origin) (events : List Event) (sys : System) : System :=
  { sys with reports := events.reverse.map (origin, ·) ++ sys.reports }

def freshId (sys : System) : Ulid := .ofParts sys.now sys.drawn

def draw (sys : System) : System := { sys with drawn := sys.drawn + 1 }

def session? (sys : System) (number : Nat) : Option Session := sys.sessions[number]?

def setSession (number : Nat) (s : Session) (sys : System) : System :=
  { sys with sessions := sys.sessions.set number s }

def slot? (sys : System) (source : Option String) : Option Nat :=
  sys.slots.get? (sys.pool.sourceOrDefault source)

def ofSettings (settings : Settings) (executor : Executor) (script : Script) : System :=
  { pool := { settings := settings.log }, restore := settings.restore, executor, script
    reports := [(.caller, .poolReady settings.log)] }

end System
end Journal
