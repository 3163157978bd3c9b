import Journal.Proofs.Console.Commands
import Journal.Proofs.System.Chronicle

/-!
The console while its restores run. A line is read when the one before it was answered. The call of a restore line takes
its steps one by one; between any two of them, and between any two lines, the workers may take steps and the clock may
move, backwards as well. The desk also keeps what the put and delete lines have asked for and what they were told.
-/
namespace Journal

def AppendStep.method : AppendStep → Method
  | .put => .put
  | .delete => .delete

def StartCall.pending? (call : StartCall) : Option StartCall :=
  match call.phase with
  | .returned _ => none
  | _ => some call

theorem StartCall.pending_cases (call : StartCall) :
    (∃ result, call.phase = .returned result ∧ call.pending? = none) ∨
      (∀ result, call.phase ≠ .returned result) ∧ call.pending? = some call := by
  unfold pending?
  cases call.phase with
  | returned result => exact .inl ⟨result, rfl, rfl⟩
  | _ => exact .inr ⟨by simp, rfl⟩

namespace Console

def atTime (time : Nat) (c : Console) : Console := { c with system := { c.system with now := time } }

def commandOf (line : String) : Option Command :=
  if Text.trimmed line = "" then none
  else match Command.ofText (Text.trimmed line) with
    | .error _ => none
    | .ok command => some command

def callOf (line : String) : Option (Option String × Bounds) :=
  match commandOf line with
  | some (.restore request) =>
    match request.bounds with
    | .error _ => none
    | .ok bounds => some (request.source, bounds)
  | _ => none

/-- A write as the append step is asked for it. -/
def Write.asked (moment : Moment) (step : AppendStep) (id : Ulid) (w : Write) : Journal.Write where
  step
  source := w.source
  op := operationOf moment.time.timestamp id step.method w

def writeOf (moment : Moment) (line : String) (c : Console) : Option Journal.Write := do
  let (step, w) ← (← commandOf line).write?
  let (id, _, _) ← c.generator.next moment.readings
  return w.asked moment step id

def receipt (names : LogSettings) (w : Journal.Write) : Json :=
  success [
    ("topic", .string (w.topic names)),
    ("txId", .string w.op.tx.text),
    ("position", .string w.operation.position)]

/-- A put or delete line and the answer to it. -/
structure Exchange where
  write : Journal.Write
  answer : Json

structure Desk where
  console : Console
  pending : Option StartCall := none
  exchanges : List Exchange := []
  /-- For each session, how many exchanges there were when it was created. -/
  earlier : List Nat := []

inductive Act where
  | line (moment : Moment) (text : String)
  | advance
  | work (stopFirst : Bool) (task : Nat)
  | clock (time : Nat)

namespace Desk

def opened (settings : Settings) : Desk := { console := .ofSettings settings }

def apply (d : Desk) : Act → Option Desk
  | .line moment line =>
    match d.pending, callOf line with
    | some _, _ => none
    | none, some (source, bounds) =>
      let console := d.console.atTime moment.time.milliseconds
      some { d with console, pending := some (console.system.startCall source bounds) }
    | none, none => do
      let (answer, console) ← d.console.answer moment line
      let exchange : Option Exchange := do return ⟨← writeOf moment line d.console, ← answer⟩
      some { d with console, exchanges := d.exchanges ++ exchange.toList }
  | .advance => do
    let (call, system) ← d.console.system.startStep .caller (← d.pending)
    let created := system.sessions.length - d.console.system.sessions.length
    some { d with
      console := { d.console with system }
      pending := call.pending?
      earlier := d.earlier ++ List.replicate created d.exchanges.length }
  | .work stopFirst task => do
    let system ← d.console.system.stepTask stopFirst task
    some { d with console := { d.console with system } }
  | .clock time => some { d with console := d.console.atTime time }

def run : List Act → Desk → Option Desk
  | [], d => some d
  | act :: later, d => (d.apply act).bind (run later)

end Desk

variable {moment : Moment} {line : String} {c : Console}

theorem commandOf_eq_some {command : Command} (read : commandOf line = some command) :
    Text.trimmed line ≠ "" ∧ Command.ofText (Text.trimmed line) = .ok command := by
  unfold commandOf at read
  split at read
  · cases read
  · rename_i solid
    split at read
    · cases read
    · rename_i found
      cases read
      exact ⟨solid, found⟩

theorem answer_of_none (silent : commandOf line = none) :
    ∃ answer, c.answer moment line = some (answer, c.atTime moment.time.milliseconds) := by
  by_cases blank : Text.trimmed line = ""
  · exact ⟨none, if_pos blank⟩
  · cases found : Command.ofText (Text.trimmed line) with
    | error fault =>
      refine ⟨some (failure ("Invalid command: " ++ fault.message)), ?_⟩
      simp only [answer, if_neg blank, found]
      rfl
    | ok command => simp [commandOf, blank, found] at silent

theorem answer_of_command {command : Command} (read : commandOf line = some command) :
    c.answer moment line = ((c.atTime moment.time.milliseconds).perform moment command).map
      fun result => (some result.1.canonical, result.2) := by
  obtain ⟨solid, found⟩ := commandOf_eq_some read
  simp only [answer, if_neg solid, found]
  rfl

theorem unasked_of_call {call : Option String × Bounds} (called : callOf line = some call) :
    (commandOf line).bind Command.write? = none := by
  unfold callOf at called
  split at called
  · rename_i read
    rw [read]
    rfl
  · cases called

theorem writeOf_of_unasked (unasked : (commandOf line).bind Command.write? = none) : writeOf moment line c = none := by
  unfold writeOf
  cases read : commandOf line with
  | none => rfl
  | some command =>
    rw [read, Option.bind_some] at unasked
    simp [unasked]

theorem fits_of_line {command : Command} (read : commandOf line = some command) : command.Fits :=
  Command.fits_of_text (commandOf_eq_some read).2

theorem perform_write {command : Command} {step : AppendStep} {w : Write} (asks : command.write? = some (step, w)) :
    c.perform moment command = c.write moment step step.method w := by
  cases command <;> cases asks <;> rfl

end Console
end Journal
