import Journal.Entry.Codec
import Journal.Log
import Journal.Operation
/-!
Append steps: the last part of a live write. A put keeps its body, a delete drops it. A step that does not
come to its end aborts the saga, so the log holds every write that was accepted.
-/
namespace Journal

inductive AppendStep where
  | put
  | delete
  deriving DecidableEq, Repr

namespace AppendStep

def name : AppendStep → String
  | .put => "txlog-append-put"
  | .delete => "txlog-append-delete"

def prepare : AppendStep → Operation → Operation
  | .put, op => { op with method := .put }
  | .delete, op => { op with method := .delete, body := none }

end AppendStep

inductive StepError where
  | appendFailed (step : AppendStep) (error : TransportError)
  | encodeFailed (step : AppendStep) (error : CodecError)
  deriving DecidableEq, Repr

namespace StepError

def message : StepError → String
  | .appendFailed step _ => "Step '" ++ step.name ++ "' aborted: transaction log append failed"
  | .encodeFailed step _ => "Step '" ++ step.name ++ "' aborted: entry could not be encoded"

def causes : StepError → List String
  | .appendFailed _ error => [error.message]
  | .encodeFailed _ error => error.message :: error.causes

end StepError

structure Appended where
  step : AppendStep
  topic : String
  id : Ulid
  position : String
  deriving DecidableEq, Repr

end Journal
