import Journal.Entry
/-!
The log: topics of entries in memory. Entries are only ever added at the end of a topic, and only with an id
above the last one. Three switches make producers, consumers and publishing fail.
-/
namespace Journal

inductive TransportError where
  | connection (text : String)
  | publish (topic text : String)
  | outOfOrder (topic : String) (id last : Ulid)
  | closed (topic : String)
  deriving DecidableEq, Repr

def TransportError.message : TransportError → String
  | .connection text => "Connection failed: " ++ text
  | .publish topic text => "Publish to topic '" ++ topic ++ "' failed: " ++ text
  | .outOfOrder topic id last =>
    "Message " ++ id.text ++ " on topic '" ++ topic ++ "' is not after last id " ++ last.text
  | .closed topic => "Topic '" ++ topic ++ "' is closed"

inductive Outage where
  | producer
  | consumer
  | publish
  deriving DecidableEq, Repr

structure Producer where
  topic : String
  handle : Nat
  deriving DecidableEq, Repr

structure Log where
  topics : Table (List Entry) := []
  outages : List Outage := []
  producersOpened : Nat := 0
  deriving DecidableEq, Repr

namespace Log

def hasTopic (log : Log) (topic : String) : Bool := log.topics.contains topic

def entries (log : Log) (topic : String) : List Entry := (log.topics.get? topic).getD []

def last? (log : Log) (topic : String) : Option Entry := (log.entries topic).getLast?

def fails (log : Log) (outage : Outage) : Bool := log.outages.contains outage

def setOutage (log : Log) (outage : Outage) (on : Bool) : Log :=
  let others := log.outages.filter (· ≠ outage)
  { log with outages := if on then outage :: others else others }

def withTopic (log : Log) (topic : String) : Log :=
  if log.hasTopic topic then log else { log with topics := log.topics.insert topic [] }

def openProducer (log : Log) (topic : String) : Except TransportError (Producer × Log) :=
  if log.fails .producer then .error (.connection ("Mock producer failure for topic '" ++ topic ++ "'"))
  else
    let log := log.withTopic topic
    .ok (⟨topic, log.producersOpened⟩, { log with producersOpened := log.producersOpened + 1 })

def openConsumer (log : Log) (topic : String) : Except TransportError Log :=
  if log.fails .consumer then .error (.connection ("Mock consumer failure for topic '" ++ topic ++ "'"))
  else .ok (log.withTopic topic)

/-- An entry that is not above the last one is refused, also when it is the last one once more. -/
def publish (log : Log) (topic : String) (entry : Entry) : Except TransportError Log :=
  if log.fails .publish then .error (.publish topic "Mock publish failure")
  else
    let stored := { log with topics := log.topics.insert topic (log.entries topic ++ [entry]) }
    match log.last? topic with
    | none => .ok stored
    | some last =>
      if entry.id ≤ last.id then .error (.outOfOrder topic entry.id last.id)
      else .ok stored

end Log
end Journal
