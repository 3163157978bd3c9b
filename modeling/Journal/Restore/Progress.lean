import Journal.Json
import Journal.Restore.Session
/-!
A view of a session at one moment, for those outside, and its JSON form.
-/
namespace Journal

structure Progress where
  source : String
  executionId : Ulid
  bounds : Bounds
  ceiling : Option Ulid
  tally : Tally
  started : Bool
  stopped : Bool
  done : Bool
  workerAlive : Bool
  error : Option String
  createdAt : Nat
  finishedAt : Option Nat
  deriving DecidableEq, Repr

def Session.progress (s : Session) : Progress where
  source := s.source
  executionId := s.executionId
  bounds := s.bounds
  ceiling := s.ceiling
  tally := s.tally
  started := s.started
  stopped := s.stopped
  done := s.done
  workerAlive := s.worker.isAlive
  error := s.error.map SessionError.message
  createdAt := s.createdAt
  finishedAt := s.finishedAt

namespace Progress

def timeText (milliseconds : Nat) : String := (Timestamp.ofMilliseconds milliseconds).text

def optional (s : Option String) : Json :=
  match s with
  | none => .null
  | some s => .string s

def json (p : Progress) : Json := .object [
  ("source", .string p.source),
  ("executionId", .string p.executionId.text),
  ("fromId", optional (p.bounds.lower.map Ulid.text)),
  ("fromInclusive", .bool p.bounds.lowerInclusive),
  ("toId", optional (p.bounds.upper.map Ulid.text)),
  ("toInclusive", .bool p.bounds.upperInclusive),
  ("ceilingId", optional (p.ceiling.map Ulid.text)),
  ("messagesRestored", .ofNat p.tally.restored),
  ("messagesFailed", .ofNat p.tally.failed),
  ("messagesIgnored", .ofNat p.tally.ignored),
  ("started", .bool p.started),
  ("stopped", .bool p.stopped),
  ("done", .bool p.done),
  ("workerAlive", .bool p.workerAlive),
  ("error", optional p.error),
  ("createdAt", .string (timeText p.createdAt)),
  ("finishedAt", optional (p.finishedAt.map timeText))]

end Progress
end Journal
