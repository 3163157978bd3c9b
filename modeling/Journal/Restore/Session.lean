import Journal.Executor
import Journal.Log.Script
/-!
A session replays one source's log once. Its ceiling is the newest entry at its creation, so entries appended
while it runs are left to a later session. A session goes from created to started to done and never back.

The worker of a session takes small steps: between two of them anything else may happen. A step that gives
nothing has to wait. A stop sets a flag, which the worker tests at the head of its loop, and leaves a permit,
which ends a wait for the next entry.
-/
namespace Journal

inductive SessionError where
  | opening (error : TransportError)
  | replay (error : RestoreError)
  deriving DecidableEq, Repr

def SessionError.message : SessionError → String
  | .opening error => error.message
  | .replay error => error.message

inductive Worker where
  | unborn
  | spawned (subscription : Subscription)
  | ready (subscription : Subscription)
  /-- `parked` says that it has looked for an entry and waits. -/
  | receiving (subscription : Subscription) (deadline : Nat) (parked : Bool)
  | submitting (subscription : Subscription) (entry : Entry) (saga : Saga) (operation : Operation)
  | ended
  deriving DecidableEq, Repr

namespace Worker

def isAlive : Worker → Bool
  | .unborn | .ended => false
  | _ => true

def deadline? : Worker → Option Nat
  | .receiving _ deadline true => some deadline
  | _ => none

end Worker

structure Session where
  source : String
  executionId : Ulid
  bounds : Bounds
  ceiling : Option Ulid
  createdAt : Nat
  tally : Tally := {}
  started : Bool := false
  stopped : Bool := false
  done : Bool := false
  error : Option SessionError := none
  finishedAt : Option Nat := none
  worker : Worker := .unborn
  /-- A stop that the worker has not noticed yet. -/
  stopPermit : Bool := false
  /-- How often those who wait for the end were told of it. -/
  announcements : Nat := 0
  deriving DecidableEq, Repr

/-- What a step of a session does: the session after it and what it reports. -/
abbrev Reported := Session × List Event

namespace Session

def nothingToReplay (s : Session) : Bool :=
  match s.ceiling with
  | none => true
  | some ceiling => !Start.admitted s.bounds.start ceiling

def isPastCeiling (s : Session) (id : Ulid) : Bool :=
  match s.ceiling with
  | none => true
  | some ceiling => decide (ceiling < id)

def finish (now : Nat) (s : Session) : Session :=
  { s with finishedAt := s.finishedAt.or (some now), done := true, announcements := s.announcements + 1 }

def claim (s : Session) : Option Session := if s.started then none else some { s with started := true }

def skipReplay (now : Nat) (s : Session) : Reported :=
  (s.finish now, [.nothingToRestore s.source s.executionId s.ceiling])

def spawn (subscription : Subscription) (s : Session) : Session := { s with worker := .spawned subscription }

def failOpening (now : Nat) (error : TransportError) (s : Session) : Reported :=
  ({ s with error := s.error.or (some (.opening error)) }.finish now, [.consumerFailed s.source error])

/-- A session that is done stays as it finished. -/
def stop (s : Session) : Reported :=
  if s.done then (s, [])
  else
    ({ s with stopped := true, stopPermit := true },
      if s.stopped then [] else [.stopRequested s.source s.executionId])

def complete (now : Nat) (reason : Finish) (s : Session) : Reported :=
  ({ s with worker := .ended }.finish now, [.restoreFinished reason s.tally])

def abort (now : Nat) (error : RestoreError) (s : Session) : Reported :=
  ({ s with worker := .ended, error := s.error.or (some (.replay error)) }.finish now,
    [.restoreAborted error s.tally])

def proceed (now : Nat) (subscription : Subscription) (id : Ulid) (s : Session) : Reported :=
  if s.ceiling = some id then s.complete now .reachedCeiling
  else ({ s with worker := .ready subscription }, [])

def ignore (policy : UnrecognizedPolicy) (now : Nat) (subscription : Subscription) (entry : Entry)
    (method : Method) (s : Session) : Reported :=
  let s := { s with tally := s.tally.ignore }
  let (s, events) :=
    match policy with
    | .ignore => s.proceed now subscription entry.id
    | .abort => s.abort now (.unrecognizedMethod entry.id method.text)
  (s, .ignored entry.id entry.position method :: events)

/-- An entry was received. The upper bound is tested before the ceiling, and both before the entry is read. -/
def deliver (policy : UnrecognizedPolicy) (now : Nat) (subscription : Subscription) (entry : Entry)
    (s : Session) : Reported :=
  if s.bounds.isPastEnd entry.id then s.complete now .reachedEnd
  else if s.isPastCeiling entry.id then s.complete now .reachedCeiling
  else match entry.decode with
    | .error error => s.abort now (.codec error)
    | .ok op =>
      match Saga.forReplay op.method with
      | none => s.ignore policy now subscription entry op.method
      | some saga => ({ s with worker := .submitting subscription entry saga op }, [])

def count (now : Nat) (subscription : Subscription) (entry : Entry) (saga : Saga) (op : Operation)
    (outcome : Except SagaError Handoff) (s : Session) : Reported :=
  let replay : Replay := ⟨entry.id, saga, op.resource⟩
  let (tally, event) : Tally × Event :=
    match outcome with
    | .ok handoff =>
      if handoff.success then (s.tally.restore, .replayed replay handoff.executionId)
      else (s.tally.fail, .replayFailed replay handoff.executionId handoff.failureCause)
    | .error error => (s.tally.fail, .notSubmitted replay error.message)
  let (s, events) := { s with tally }.proceed now subscription entry.id
  (s, event :: events)

def receive (settings : RestoreSettings) (now : Nat) (log : Log) (subscription : Subscription)
    (deadline : Nat) (parked : Bool) (s : Session) : Option Reported :=
  match subscription.receive log now deadline parked with
  | (.entry entry, subscription) => some (s.deliver settings.unrecognized now subscription entry)
  | (.nothing, subscription) => some ({ s with worker := .ready subscription }, [])
  | (.failed error, _) => some (s.abort now (.transport error))
  | (.waiting, subscription) =>
    if parked then none else some ({ s with worker := .receiving subscription deadline true }, [])

def heedStop (now : Nat) (s : Session) : Option Reported :=
  if s.stopPermit then some ({ s with stopPermit := false }.complete now .stopped) else none

/-- The next step of the worker. `stopFirst` says which of an entry and a stop is taken when both are there;
`fresh` is the id for a saga that the logging executor runs. -/
def step (settings : RestoreSettings) (now : Nat) (log : Log) (fresh : Ulid) (origin : Origin)
    (stopFirst : Bool) (executor : Executor) (s : Session) : Option (Session × Executor × List Event) :=
  let kept (r : Reported) := (r.1, executor, r.2)
  match s.worker with
  | .unborn | .ended => none
  | .spawned subscription =>
    some ({ s with worker := .ready subscription }, executor,
      [.restoreStarted subscription.topicName s.bounds s.ceiling])
  | .ready subscription =>
    if s.stopped then some (kept (s.complete now .stopped))
    else
      some ({ s with worker := .receiving subscription (now + settings.pollInterval) false }, executor, [])
  | .receiving subscription deadline parked =>
    let received := s.receive settings now log subscription deadline parked
    let chosen := if stopFirst then (s.heedStop now).or received else received.or (s.heedStop now)
    chosen.map fun (s, events) =>
      match s.worker with
      | .submitting .. => (s, executor.enter, events)
      | _ => (s, executor, events)
  | .submitting subscription entry saga op =>
    if executor.isHeld then none
    else
      let (outcome, executor, reported) := executor.answer fresh ⟨origin, saga, op⟩
      let (s, events) := s.count now subscription entry saga op outcome
      some (s, executor, reported ++ events)

end Session

/-- One call that waits until a session is done. It takes note of the announcements before it tests the
flags, so an end that comes in between is not missed. -/
inductive Wait where
  | asking
  | noted (announcements : Nat)
  | parked (announcements : Nat)
  | ended
  deriving DecidableEq, Repr

def Wait.step (s : Session) : Wait → Option Wait
  | .asking => some (.noted s.announcements)
  | .noted n => some (if !s.started || s.done then .ended else .parked n)
  | .parked n => if s.announcements = n then none else some .asking
  | .ended => none

def Wait.settle (s : Session) (wait : Wait) : Wait :=
  let advance (w : Wait) : Wait := (w.step s).getD w
  advance (advance (advance wait))

end Journal
