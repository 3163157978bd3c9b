import Journal.Operation
import Journal.Restore.Bounds
import Journal.Restore.Error
import Journal.Restore.Outcome
import Journal.Settings
/-!
Events: what the system reports about its own doing, with their level, wording and fields.
-/
namespace Journal

/-- Who did something: the caller or one of the tasks, which are numbered in the order they were spawned. -/
inductive Origin where
  | caller
  | task (number : Nat)
  deriving DecidableEq, Repr

inductive Level where
  | error
  | warn
  | info
  | debug
  deriving DecidableEq, Repr

def Level.name : Level → String
  | .error => "ERROR"
  | .warn => "WARN"
  | .info => "INFO"
  | .debug => "DEBUG"

structure Replay where
  tx : Ulid
  saga : Saga
  resource : String
  deriving DecidableEq, Repr

inductive Event where
  | poolReady (settings : LogSettings)
  | topicCreated (topic : String)
  | producerOpened (topic : String)
  | appended (topic : String) (id : Ulid) (position : String)
  | producerKept (source topic : String)
  | openingConsumer (source topic : String)
  | noProducer (source : String) (error : TransportError)
  | appendFailed (source : String) (error : TransportError)
  | stepDone (source topic position : String)
  | sagaExecuted (saga : Saga) (execution : String) (operation : Operation)
  | alreadyRunning (execution : Ulid)
  | sessionInstalled (execution : Ulid) (replaced : Bool)
  | lostStartRace (execution : Ulid) (done : Bool)
  | nothingToRestore (source : String) (execution : Ulid) (ceiling : Option Ulid)
  | consumerFailed (source : String) (error : TransportError)
  | stopRequested (source : String) (execution : Ulid)
  | restoreStarted (topic : String) (bounds : Bounds) (ceiling : Option Ulid)
  | restoreFinished (reason : Finish) (tally : Tally)
  | restoreAborted (error : RestoreError) (tally : Tally)
  | ignored (tx : Ulid) (position : String) (method : Method)
  | replayed (replay : Replay) (execution : String)
  | replayFailed (replay : Replay) (execution : String) (cause : Option String)
  | notSubmitted (replay : Replay) (error : String)
  deriving Repr

namespace Event

def level : Event → Level
  | .noProducer .. | .appendFailed .. | .consumerFailed .. | .restoreAborted .. => .error
  | .ignored .. | .replayFailed .. | .notSubmitted .. => .warn
  | .poolReady .. | .producerOpened .. | .sagaExecuted .. | .sessionInstalled .. | .nothingToRestore ..
  | .restoreStarted .. | .restoreFinished .. => .info
  | .topicCreated .. | .appended .. | .producerKept .. | .openingConsumer .. | .stepDone .. | .alreadyRunning ..
  | .lostStartRace .. | .stopRequested .. | .replayed .. => .debug

def message : Event → String
  | .poolReady .. => "Transaction log pool initialized"
  | .topicCreated .. => "Created in-memory topic"
  | .producerOpened .. => "In-memory producer opened"
  | .appended .. => "Appended message"
  | .producerKept .. => "Created transaction log producer"
  | .openingConsumer .. => "Opening transaction log consumer"
  | .noProducer .. => "No transaction log producer"
  | .appendFailed .. => "Transaction log append failed"
  | .stepDone .. => "Appended to transaction log"
  | .sagaExecuted .. => "Saga executed"
  | .alreadyRunning .. => "Restore already running"
  | .sessionInstalled .. => "Restore session installed"
  | .lostStartRace .. => "Lost start race, returning session installed concurrently"
  | .nothingToRestore .. => "Nothing to restore"
  | .consumerFailed .. => "Failed to open restore consumer"
  | .stopRequested .. => "Restore stop requested"
  | .restoreStarted .. => "Restore started"
  | .restoreFinished .. => "Restore finished"
  | .restoreAborted .. => "Restore aborted"
  | .ignored .. => "Ignoring entry with unrecognized method"
  | .replayed .. => "Replayed entry"
  | .replayFailed .. => "Replay of entry failed"
  | .notSubmitted .. => "Replay of entry could not be submitted"

def optional : Option Ulid → String
  | none => "None"
  | some id => "Some(\"" ++ id.text ++ "\")"

def tallyFields (t : Tally) : List (String × String) :=
  [("restored", toString t.restored), ("failed", toString t.failed), ("ignored", toString t.ignored)]

def replayFields (r : Replay) : List (String × String) :=
  [("tx_id", r.tx.text), ("saga", r.saga.name), ("resource", r.resource)]

def fields : Event → List (String × String)
  | .poolReady s =>
    [("default_source", s.defaultSource), ("topic_prefix", s.topicPrefix),
      ("topic_per_source", toString s.topicPerSource)]
  | .topicCreated topic | .producerOpened topic => [("topic", topic)]
  | .appended topic id position => [("topic", topic), ("id", id.text), ("position", position)]
  | .producerKept source topic | .openingConsumer source topic => [("source", source), ("topic", topic)]
  | .noProducer source error | .appendFailed source error | .consumerFailed source error =>
    [("source", source), ("error", error.message)]
  | .stepDone source topic position => [("source", source), ("topic", topic), ("position", position)]
  | .sagaExecuted saga execution op =>
    [("saga", saga.name), ("execution_id", execution), ("tx_id", op.tx.text), ("method", op.method.text),
      ("resource", op.resource), ("version", op.version.text), ("has_body", toString op.body.isSome)]
  | .alreadyRunning execution => [("execution_id", execution.text)]
  | .sessionInstalled execution replaced =>
    [("execution_id", execution.text), ("replaced", toString replaced)]
  | .lostStartRace execution done => [("execution_id", execution.text), ("done", toString done)]
  | .nothingToRestore source execution ceiling =>
    [("source", source), ("execution_id", execution.text), ("ceiling", optional ceiling)]
  | .stopRequested source execution => [("source", source), ("execution_id", execution.text)]
  | .restoreStarted topic bounds ceiling =>
    [("topic", topic), ("from", optional bounds.lower), ("to", optional bounds.upper),
      ("ceiling", optional ceiling)]
  | .restoreFinished reason tally => ("reason", reason.name) :: tallyFields tally
  | .restoreAborted error tally => ("error", error.message) :: tallyFields tally
  | .ignored tx position method =>
    [("tx_id", tx.text), ("position", position), ("method", method.text)]
  | .replayed replay execution => replayFields replay ++ [("saga_execution_id", execution)]
  | .replayFailed replay execution cause =>
    replayFields replay ++ [("saga_execution_id", execution), ("cause", cause.getD "unknown")]
  | .notSubmitted replay error => replayFields replay ++ [("error", error)]

end Event
end Journal
