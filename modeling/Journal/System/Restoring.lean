import Journal.System.Reading
/-!
Restores: sessions are created with the newest entry as their ceiling, put into the slot of their source, and
started. A call that starts a restore takes small steps, between which other calls and workers may run. A slot
changes only if it still holds what the call has observed, so of the calls that race one wins; the others give
the winner's session.
-/
namespace Journal.System

def createSession (source : String) (bounds : Bounds) (newest : Option Entry) (sys : System) : Nat × System :=
  let s : Session :=
    { source, executionId := sys.freshId, bounds, ceiling := newest.map Entry.id, createdAt := sys.now }
  (sys.sessions.length, { sys.draw with sessions := sys.sessions ++ [s] })

def withSession (origin : Origin) (number : Nat) (act : Session → Reported) (sys : System) : System :=
  match sys.session? number with
  | none => sys
  | some s =>
    let (s, events) := act s
    (sys.setSession number s).report origin events

def spawnWorker (number : Nat) (subscription : Subscription) (sys : System) : System :=
  match sys.session? number with
  | none => sys
  | some s =>
    { sys.setSession number (s.spawn subscription) with tasks := sys.tasks ++ [.worker number] }

/-- The first part of a start: the session is claimed, and is done if there is nothing to replay.
Gives whether a consumer is still to be opened; no answer if the session was claimed before. -/
def claimSession (origin : Origin) (number : Nat) (sys : System) : Option (Bool × System) := do
  let s ← (← sys.session? number).claim
  let sys := sys.setSession number s
  if s.nothingToReplay then some (false, sys.withSession origin number (Session.skipReplay sys.now))
  else some (true, sys)

def openSession (origin : Origin) (number : Nat) (sys : System) : Except TransportError Unit × System :=
  match sys.session? number with
  | none => (.ok (), sys)
  | some s =>
    match sys.subscribeFrom origin s.source s.bounds.start with
    | (.ok subscription, sys) => (.ok (), sys.spawnWorker number subscription)
    | (.error error, sys) =>
      (.error error, sys.withSession origin number (Session.failOpening sys.now error))

def startSession (origin : Origin) (number : Nat) (sys : System) : Except TransportError Bool × System :=
  match sys.claimSession origin number with
  | none => (.ok false, sys)
  | some (false, sys) => (.ok true, sys)
  | some (true, sys) =>
    let (result, sys) := sys.openSession origin number
    (result.map fun _ => true, sys)

def stopSession (origin : Origin) (number : Nat) (sys : System) : System :=
  sys.withSession origin number Session.stop

def isDone (sys : System) (number : Nat) : Bool :=
  match sys.session? number with
  | some s => s.done
  | none => true

def reportOf (sys : System) (number : Nat) (event : Session → Event) : List Event :=
  ((sys.session? number).map event).toList

def startCall (source : Option String) (bounds : Bounds) (sys : System) : StartCall :=
  { source := sys.pool.sourceOrDefault source, bounds }

/-- Puts the candidate into the slot if the slot is as it was observed. Otherwise the call gives what the slot
holds, or looks again if it is empty. -/
def install (origin : Origin) (source : String) (observed : Option Nat) (candidate : Nat) (sys : System) :
    StartPhase × System :=
  if sys.slots.get? source = observed then
    let sys := { sys with slots := sys.slots.insert source candidate }
    (.starting candidate,
      sys.report origin (sys.reportOf candidate fun s => .sessionInstalled s.executionId observed.isSome))
  else
    match sys.slots.get? source with
    | none => (.looking, sys)
    | some current =>
      (.returned (.ok current),
        sys.report origin (sys.reportOf current fun s => .lostStartRace s.executionId s.done))

def startStep (origin : Origin) (call : StartCall) (sys : System) : Option (StartCall × System) :=
  let next (phase : StartPhase) (sys : System) : Option (StartCall × System) := some ({ call with phase }, sys)
  match call.phase with
  | .looking =>
    match sys.slots.get? call.source with
    | none => next (.reading none .asking) sys
    | some current =>
      if sys.isDone current then next (.reading (some current) .asking) sys
      else
        next (.returned (.ok current))
          (sys.report origin (sys.reportOf current fun s => .alreadyRunning s.executionId))
  | .reading observed (.answered (.ok newest)) =>
    let (candidate, sys) := sys.createSession call.source call.bounds newest
    next (.installing observed candidate) sys
  | .reading _ (.answered (.error error)) => next (.returned (.error (.transport error))) sys
  | .reading observed inquiry =>
    match sys.inquire (sys.pool.topicOf call.source) inquiry with
    | some (inquiry, sys) => next (.reading observed inquiry) sys
    | none => none
  | .installing observed candidate =>
    let (phase, sys) := sys.install origin call.source observed candidate
    next phase sys
  | .starting number =>
    match sys.claimSession origin number with
    | some (true, sys) => next (.opening number) sys
    | some (false, sys) => next (.returned (.ok number)) sys
    | none => next (.returned (.ok number)) sys
  | .opening number =>
    match sys.openSession origin number with
    | (.ok _, sys) => next (.returned (.ok number)) sys
    | (.error error, sys) => next (.returned (.error (.transport error))) sys
  | .returned _ => none

def progressOf (sys : System) (number : Nat) : Option Progress := (sys.session? number).map Session.progress

def status (source : Option String) (sys : System) : Option Progress :=
  (sys.slot? source).bind sys.progressOf

def stop (origin : Origin) (source : Option String) (sys : System) : Option Progress × System :=
  match sys.slot? source with
  | none => (none, sys)
  | some number =>
    let sys := sys.stopSession origin number
    (sys.progressOf number, sys)

def list (sys : System) : List Progress := sys.slots.filterMap fun slot => sys.progressOf slot.2

end Journal.System
