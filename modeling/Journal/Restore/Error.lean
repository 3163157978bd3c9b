import Journal.Entry.Codec
import Journal.Log
/-!
Why a restore could not be started or ended early.
-/
namespace Journal

inductive BoundName where
  | lower
  | upper
  deriving DecidableEq, Repr

def BoundName.field : BoundName → String
  | .lower => "fromId"
  | .upper => "toId"

inductive RestoreError where
  | transport (error : TransportError)
  | codec (error : CodecError)
  | invalidId (bound : BoundName) (value : String) (cause : Ulid.ReadError)
  | unrecognizedMethod (id : Ulid) (method : String)
  deriving DecidableEq, Repr

namespace RestoreError

def message : RestoreError → String
  | .transport error => "Transaction log unavailable: " ++ error.message
  | .codec error => "Corrupt transaction log entry: " ++ error.message
  | .invalidId bound value cause => "Invalid " ++ bound.field ++ " '" ++ value ++ "': " ++ cause.message
  | .unrecognizedMethod id method => "Entry " ++ id.text ++ " has unrecognized method '" ++ method ++ "'"

def causes : RestoreError → List String
  | .transport error => [error.message]
  | .codec error => error.message :: error.causes
  | .invalidId _ _ cause => [cause.message]
  | .unrecognizedMethod .. => []

end RestoreError
end Journal
