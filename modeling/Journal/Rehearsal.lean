import Journal.Rehearsal.Answer
import Journal.Rehearsal.Command
import Journal.System.Waiting
/-!
Rehearsals: a caller gives a system one command after another. The caller's own commands take no time; restore
workers run only while the caller waits, on a clock that goes on only when nothing else can be done.
-/
namespace Journal

structure Rehearsal where
  system : System
  consumers : Table Subscription := []
  sessions : Table Nat := []

namespace Rehearsal

def ofSettings (settings : Settings) (executor : Executor) (script : Script) : Rehearsal :=
  { system := .ofSettings settings executor script }

variable (r : Rehearsal)

def after {α : Type} (result : α × System) (answer : α → Answer) : Answer × Rehearsal :=
  (answer result.1, { r with system := result.2 })

def afterwards (sys : System) : Answer × Rehearsal := (.nothing, { r with system := sys })

def topicOf : Channel → String
  | .source source => r.system.pool.topicOf source
  | .topic topic => topic

def progressOf (number : Nat) : Option Progress := r.system.progressOf number

def restoreAnswer (sys : System) : Option (Except RestoreError Nat) → Answer
  | none => .stuck
  | some (.error error) => .restore (.error error)
  | some (.ok number) =>
    match sys.progressOf number with
    | none => .stuck
    | some progress => .restore (.ok progress)

def publish (channel : Channel) (entry : Entry) : Answer × Rehearsal :=
  match channel with
  | .source source => r.after (r.system.publishFrom .caller source entry) .topic
  | .topic topic =>
    match r.system.openProducer .caller topic with
    | (.error error, sys) => r.after (.error error, sys) .topic
    | (.ok producer, sys) =>
      r.after (sys.publish .caller producer.topic entry) fun result => .topic (result.map fun _ => producer.topic)

def subscribe (name : String) (channel : Channel) (start : Option Start) : Answer × Rehearsal :=
  let (result, sys) :=
    match channel with
    | .source source => r.system.subscribeFrom .caller source start
    | .topic topic => r.system.subscribe .caller topic start
  match result with
  | .error error => (.topic (.error error), { r with system := sys })
  | .ok subscription =>
    (.topic (.ok subscription.topicName),
      { r with system := sys, consumers := r.consumers.insert name subscription })

def beginReceive (subscription : Subscription) (timeout : Nat) : Reception × Option Nat × Rehearsal :=
  let sys := r.system
  let reception := Reception.pending subscription (sys.now + timeout) false
  match sys.receiveStep reception with
  | some (.received subscription result time) => (.received subscription result time, none, r)
  | some reception =>
    (reception, some sys.tasks.length, { r with system := { sys with tasks := sys.tasks ++ [.reception reception] } })
  | none => (reception, none, r)

def endReceive (task timeout : Nat) : Option Reception × Rehearsal :=
  let pause : System.Pause Reception :=
    { poll := fun sys =>
        match sys.tasks[task]? with
        | some (.reception (.received subscription result time)) => (some (.received subscription result time), sys)
        | _ => (none, sys)
      wake := fun _ => none }
  let (reception, sys) := r.system.await pause (timeout + 2)
  (reception, { r with system := sys })

def receiveDuring {α : Type} (name : String) (timeout : Nat) (meanwhile : Rehearsal → α × Rehearsal) :
    Option (Except TransportError (Option Entry) × Nat × α) × Rehearsal :=
  match r.consumers.get? name with
  | none => (none, r)
  | some subscription =>
    let begun := r.system.now
    let (reception, task, r) := r.beginReceive subscription timeout
    let (others, r) := meanwhile r
    let (reception, r) :=
      match task with
      | none => (some reception, r)
      | some task => r.endReceive task timeout
    match reception with
    | some (.received subscription result time) =>
      (some (result, time - begun, others), { r with consumers := r.consumers.insert name subscription })
    | _ => (none, r)

/-- Receives until nothing comes or an error does; each receive that gives an entry uses one up. -/
def drain (name : String) (timeout : Nat) (r : Rehearsal) (done : List Ulid) : (limit : Nat) → Answer × Rehearsal
  | 0 => (.stuck, r)
  | limit + 1 =>
    match r.receiveDuring name timeout fun r => ((), r) with
    | (none, r) => (.stuck, r)
    | (some (.error error, _), r) => (.drained done.reverse (some error), r)
    | (some (.ok none, _), r) => (.drained done.reverse none, r)
    | (some (.ok (some entry), _), r) => drain name timeout r (entry.id :: done) limit

def drainLimit (name : String) : Nat :=
  match r.consumers.get? name with
  | none => 1
  | some subscription => subscription.backlog r.system.log + r.system.log.topics.length + 1

def startSession (number : Nat) : Answer × Rehearsal :=
  r.after (r.system.startSession .caller number) fun result => .started (result.mapError .transport)

def createSession (name source : String) (bounds : Bounds) : Answer × Rehearsal :=
  match r.system.askNewest (r.system.pool.topicOf source) with
  | (.error error, sys) => (.restore (.error (.transport error)), { r with system := sys })
  | (.ok newest, sys) =>
    let (number, sys) := sys.createSession source bounds newest
    (restoreAnswer sys (some (.ok number)), { r with system := sys, sessions := r.sessions.insert name number })

def join (name source : String) (bounds : Bounds) : Answer × Rehearsal :=
  let (result, sys) := r.system.joinRestore (some source) bounds
  let sessions :=
    match result with
    | some (.ok number) => r.sessions.insert name number
    | _ => r.sessions
  (restoreAnswer sys result, { r with system := sys, sessions })

def execute (saga : Saga) (op : Operation) : Answer × Rehearsal :=
  let sys := { r.system with executor := r.system.executor.enter }
  if sys.executor.isHeld then (.stuck, { r with system := sys })
  else
    let (result, executor, events) := sys.executor.answer sys.freshId ⟨.caller, saga, op⟩
    r.after (result, { sys.draw with executor }.report .caller events) .handoff

def configure (change : Recorder → Recorder) : Answer × Rehearsal :=
  r.afterwards { r.system with executor := r.system.executor.configure change }

def counts : Answer :=
  match r.system.executor with
  | .recording recorder => .counts recorder.entered recorder.submissions.length
  | .logging => .counts 0 0

def onSession (name : String) (act : Nat → Answer × Rehearsal) : Answer × Rehearsal :=
  match r.sessions.get? name with
  | none => (.stuck, r)
  | some number => act number

def pass (delay : Nat) : Rehearsal := { r with system := r.system.awaitTime (r.system.now + delay) }

def perform (r : Rehearsal) : Command → Answer × Rehearsal
  | .write step source op => r.after (r.system.append .caller step source op) .appended
  | .append source op => r.after (r.system.publishFrom .caller source (Entry.encode op)) .topic
  | .publish channel entry => r.publish channel entry
  | .producer source =>
    let (result, sys) := r.system.producer .caller source
    (.producer result sys.log.producersOpened, { r with system := sys })
  | .newest channel => r.after (r.system.askNewest (r.topicOf channel)) .newest
  | .entries topic => (.entries (r.system.log.entries topic), r)
  | .topics => (.names r.system.log.topics.names, r)
  | .fail outage on => r.afterwards { r.system with log := r.system.log.setOutage outage on }
  | .subscribe name channel start => r.subscribe name channel start
  | .receive name timeout =>
    match r.receiveDuring name timeout fun r => ([], r) with
    | (none, r) => (.stuck, r)
    | (some (result, waited, others), r) => (.received result waited others, r)
  | .drain name timeout => drain name timeout r [] (r.drainLimit name)
  | .start request =>
    match RestoreRequest.ofValue request with
    | .error fault => (.unreadable fault, r)
    | .ok request =>
      match request.bounds with
      | .error error => (.restore (.error error), r)
      | .ok bounds =>
        let (result, sys) := r.system.joinRestore request.source bounds
        (restoreAnswer sys result, { r with system := sys })
  | .status source => (.progress (r.system.status source), r)
  | .stop source => r.after (r.system.stop .caller source) .progress
  | .list => (.list r.system.list, r)
  | .join name source bounds => r.join name source bounds
  | .race calls =>
    let (results, sys) := r.system.race calls
    let answer (result : Except RestoreError Nat) : Option (Except RestoreError Progress) :=
      match result with
      | .error error => some (.error error)
      | .ok number => (sys.progressOf number).map .ok
    match results.bind (·.mapM answer) with
    | none => (.stuck, { r with system := sys })
    | some answers => (.race answers, { r with system := sys })
  | .await source timeout =>
    match r.system.slot? (some source) with
    | none => (.ended none, r)
    | some number => r.after (r.system.awaitDone number timeout) .ended
  | .createSession name source bounds => r.createSession name source bounds
  | .startSession name => r.onSession name r.startSession
  | .stopSession name => r.onSession name fun number => r.afterwards (r.system.stopSession .caller number)
  | .awaitSession name timeout =>
    r.onSession name fun number => r.after (r.system.awaitDone number timeout) .ended
  | .showSession name =>
    r.onSession name fun number =>
      match r.progressOf number with
      | none => (.stuck, r)
      | some progress => (.session progress, r)
  | .hold on => r.configure fun recorder => { recorder with held := on }
  | .failDocument id => r.configure fun recorder => { recorder with failing := id :: recorder.failing }
  | .unavailable on => r.configure fun recorder => { recorder with unavailable := on }
  | .counts => (r.counts, r)
  | .execute saga op => r.execute saga op
  | .submissions =>
    let items := r.system.executor.submissions.map fun s => (s.origin, s)
    (.submissions (.of r.system.tasks.length items), r)
  | .settle duration => (.nothing, r.pass duration)
  | .reports =>
    let events := Grouped.of r.system.tasks.length r.system.reports.reverse
    (.reports events, { r with system := { r.system with reports := [] } })

mutual

def performStep (r : Rehearsal) : Step → Answer × Rehearsal
  | ⟨.receive name timeout, meanwhile⟩ =>
    match r.receiveDuring name timeout fun r => goOn r meanwhile with
    | (none, r) => (.stuck, r)
    | (some (result, waited, others), r) => (.received result waited others, r)
  | ⟨command, _⟩ => r.perform command

def goOn (r : Rehearsal) : List (Nat × Step) → List Answer × Rehearsal
  | [] => ([], r)
  | (delay, step) :: later =>
    let (answer, r) := performStep (r.pass delay) step
    let (answers, r) := goOn r later
    (answer :: answers, r)

end

def run : Rehearsal → List Step → List Answer
  | _, [] => []
  | r, step :: later =>
    let (answer, r) := r.performStep step
    answer :: run r later

end Rehearsal
end Journal
