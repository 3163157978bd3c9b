import Journal.System
/-!
Writing through the pool: producers, publishing, and the append steps.
-/
namespace Journal.System

def openingEvents (sys : System) (topic : String) : List Event :=
  (if sys.log.hasTopic topic then [] else [.topicCreated topic]) ++ [.producerOpened topic]

def openProducer (origin : Origin) (topic : String) (sys : System) : Except TransportError Producer × System :=
  match sys.log.openProducer topic with
  | .error error => (.error error, sys)
  | .ok (producer, log) => (.ok producer, { sys with log }.report origin (sys.openingEvents topic))

def producer (origin : Origin) (source : String) (sys : System) : Except TransportError Producer × System :=
  let topic := sys.pool.topicOf source
  match sys.pool.producer sys.log source with
  | (none, _, _) => (.error (.closed topic), sys)
  | (some (.error error), pool, log) => (.error error, { sys with pool, log })
  | (some (.ok producer), pool, log) =>
    let events := if sys.pool.producers.contains topic then []
      else sys.openingEvents topic ++ [.producerKept source topic]
    (.ok producer, { sys with pool, log }.report origin events)

def publish (origin : Origin) (topic : String) (entry : Entry) (sys : System) :
    Except TransportError Unit × System :=
  match sys.log.publish topic entry with
  | .error error => (.error error, sys)
  | .ok log => (.ok (), { sys with log }.report origin [.appended topic entry.id entry.position])

def publishFrom (origin : Origin) (source : String) (entry : Entry) (sys : System) :
    Except TransportError String × System :=
  match sys.producer origin source with
  | (.error error, sys) => (.error error, sys)
  | (.ok producer, sys) =>
    let (result, sys) := sys.publish origin producer.topic entry
    (result.map fun _ => producer.topic, sys)

def append (origin : Origin) (step : AppendStep) (source : Option String) (op : Operation) (sys : System) :
    Except StepError Appended × System :=
  let source := sys.pool.sourceOrDefault source
  let entry := Entry.encode (step.prepare op)
  match sys.producer origin source with
  | (.error error, sys) =>
    (.error (.appendFailed step error), sys.report origin [.noProducer source error])
  | (.ok producer, sys) =>
    match sys.publish origin producer.topic entry with
    | (.error error, sys) =>
      (.error (.appendFailed step error), sys.report origin [.appendFailed source error])
    | (.ok _, sys) =>
      (.ok ⟨step, producer.topic, entry.id, entry.position⟩,
        sys.report origin [.stepDone source producer.topic entry.position])

end Journal.System
