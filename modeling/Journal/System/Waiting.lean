import Journal.System.Schedule
/-!
What a caller waits for: a moment, the newest entry, a restore that starts, the end of a session, and several
calls that race.
-/
namespace Journal

namespace System

def awaitTime (deadline : Nat) (sys : System) : System :=
  let pause : Pause Unit :=
    { poll := fun sys => (if deadline ≤ sys.now then some () else none, sys)
      wake := fun _ => some deadline }
  (sys.await pause (deadline - sys.now + 2)).2

def askNewest (topic : String) (sys : System) : Except TransportError (Option Entry) × System :=
  let direct (sys : System) := (.ok (sys.log.last? topic), sys)
  match sys.inquire topic .asking with
  | some (.answered result, sys) => (result, sys)
  | some (.delayed deadline newest, sys) =>
    let sys := sys.awaitTime deadline
    match sys.inquire topic (.delayed deadline newest) with
    | some (.answered result, sys) => (result, sys)
    | _ => direct sys
  | _ => direct sys

/-- Runs a start call for the caller. No call takes more than ten steps unless a slot is emptied. -/
def runStart (sys : System) (call : StartCall) : (steps : Nat) → Option (Except RestoreError Nat) × System
  | 0 => (none, sys)
  | steps + 1 =>
    match call.phase with
    | .returned result => (some result, sys)
    | phase =>
      match sys.startStep .caller call, phase with
      | some (call, sys), _ => runStart sys call steps
      | none, .reading _ (.delayed deadline _) => runStart (sys.awaitTime deadline) call steps
      | none, _ => (none, sys)

def joinRestore (source : Option String) (bounds : Bounds) (sys : System) :
    Option (Except RestoreError Nat) × System :=
  sys.runStart (sys.startCall source bounds) 16

def awaitDone (number timeout : Nat) (sys : System) : Option Bool × System :=
  let deadline := sys.now + timeout
  let isOver (wait : Wait) (sys : System) : Bool :=
    match sys.session? number with
    | none => true
    | some s => wait.settle s = .ended
  let first : Wait := ((sys.session? number).map (Wait.settle · .asking)).getD .ended
  let pause : Pause Bool :=
    { poll := fun sys =>
        (if isOver first sys then some true else if deadline ≤ sys.now then some false else none, sys)
      wake := fun _ => some deadline }
  sys.await pause (timeout + 2)

def race (calls : List (String × Bounds)) (sys : System) :
    Option (List (Except RestoreError Nat)) × System :=
  let tasks := calls.map fun call => Task.start (sys.startCall (some call.1) call.2)
  let numbers := List.range' sys.tasks.length tasks.length
  let result (sys : System) (number : Nat) : Option (Except RestoreError Nat) :=
    match sys.tasks[number]? with
    | some (.start { phase := .returned result, .. }) => some result
    | _ => none
  let pause : Pause (List (Except RestoreError Nat)) :=
    { poll := fun sys => (numbers.mapM (result sys), sys)
      wake := fun _ => none }
  let delays := sys.script.newest.foldl (fun time (answer : DelayedNewest) => time + answer.delay) 0
  { sys with tasks := sys.tasks ++ tasks }.await pause (delays + 2)

end System

end Journal
