import Journal.Log
import Journal.Settings
/-!
The pool names the topic of every source and keeps one producer per topic, which is opened on first use.

Callers race: a producer is looked up without the lock first, then once more with it, and is opened while the
lock is held. `Acquisition` is one such call, `Acquisition.step` its next step; a call that finds the lock
held stays where it is.
-/
namespace Journal

structure Pool where
  settings : LogSettings := {}
  producers : Table Producer := []
  locked : Bool := false
  deriving DecidableEq, Repr

namespace LogSettings

/-- No source and the empty source stand for the default source. -/
def sourceOrDefault (s : LogSettings) : Option String → String
  | none => s.defaultSource
  | some source => if source = "" then s.defaultSource else source

def topicOf (s : LogSettings) (source : String) : String :=
  s.topicPrefix ++ (if s.topicPerSource then s.sourceOrDefault (some source) else s.defaultSource)

end LogSettings

inductive Acquisition where
  | looking
  | waiting
  | opening
  | done (result : Except TransportError Producer)
  deriving Repr

namespace Acquisition

def result? : Acquisition → Option (Except TransportError Producer)
  | .done result => some result
  | _ => none

def step (topic : String) (call : Acquisition) (pool : Pool) (log : Log) : Acquisition × Pool × Log :=
  match call with
  | .looking =>
    if pool.locked then (.looking, pool, log)
    else match pool.producers.get? topic with
      | some producer => (.done (.ok producer), pool, log)
      | none => (.waiting, pool, log)
  | .waiting =>
    if pool.locked then (.waiting, pool, log)
    else match pool.producers.get? topic with
      | some producer => (.done (.ok producer), pool, log)
      | none => (.opening, { pool with locked := true }, log)
  | .opening =>
    match log.openProducer topic with
    | .error error => (.done (.error error), { pool with locked := false }, log)
    | .ok (producer, log) =>
      let producers := pool.producers.insert topic producer
      (.done (.ok producer), { pool with producers, locked := false }, log)
  | .done result => (.done result, pool, log)

def alone (topic : String) (pool : Pool) (log : Log) : Acquisition × Pool × Log :=
  let (call, pool, log) := step topic .looking pool log
  let (call, pool, log) := step topic call pool log
  step topic call pool log

end Acquisition

namespace Pool

def sourceOrDefault (pool : Pool) (source : Option String) : String := pool.settings.sourceOrDefault source

def topicOf (pool : Pool) (source : String) : String := pool.settings.topicOf source

def producer (pool : Pool) (log : Log) (source : String) :
    Option (Except TransportError Producer) × Pool × Log :=
  let (call, pool, log) := Acquisition.alone (pool.topicOf source) pool log
  (call.result?, pool, log)

end Pool
end Journal
