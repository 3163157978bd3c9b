import Journal.Json
import Journal.Timestamp
import Journal.Ulid
/-!
Writes of documents: what the saga engine is handed and what an entry of the log records.
-/
namespace Journal

/-- The log accepts every method text; only puts and deletes are replayed. -/
inductive Method where
  | put
  | delete
  | unrecognized (text : String)
  deriving DecidableEq, Repr

namespace Method

def text : Method → String
  | .put => "PUT"
  | .delete => "DELETE"
  | .unrecognized t => t

def ofText (s : String) : Method :=
  if s = "PUT" then .put else if s = "DELETE" then .delete else .unrecognized s

end Method

/-- The sagas without log do the same backend writes and append nothing. -/
inductive Saga where
  | createOrOverwrite
  | delete
  | createOrOverwriteNoLog
  | deleteNoLog
  deriving DecidableEq, Repr

namespace Saga

def name : Saga → String
  | .createOrOverwrite => "create-or-overwrite"
  | .delete => "delete"
  | .createOrOverwriteNoLog => "create-or-overwrite-no-txlog"
  | .deleteNoLog => "delete-no-txlog"

def all : List Saga := [.createOrOverwrite, .delete, .createOrOverwriteNoLog, .deleteNoLog]

def ofName? (s : String) : Option Saga := all.find? fun saga => saga.name = s

def forReplay : Method → Option Saga
  | .put => some .createOrOverwriteNoLog
  | .delete => some .deleteNoLog
  | .unrecognized _ => none

def appendsToLog : Saga → Bool
  | .createOrOverwrite | .delete => true
  | .createOrOverwriteNoLog | .deleteNoLog => false

end Saga

/-- The write of one document. A body that is null is not the same as no body. -/
structure Operation where
  tx : Ulid
  method : Method
  schema : String
  space : String
  entity : String
  id : String
  version : Timestamp
  body : Option Json
  deriving DecidableEq, Repr

namespace Operation

def withMethod (op : Operation) (method : Method) : Operation := { op with method }

def resource (op : Operation) : String := op.space ++ "/" ++ op.entity ++ "/" ++ op.id

def position (op : Operation) : String :=
  op.entity ++ "/" ++ op.id ++ "/" ++ toString op.version.milliseconds

def agrees (a b : Operation) : Bool :=
  a.version.sameInstant b.version && decide ({ a with version := b.version } = b)

end Operation
end Journal
