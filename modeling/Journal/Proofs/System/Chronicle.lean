import Journal.Proofs.System.CallTurn
import Mathlib.Logic.Function.Basic

/-!
Runs of a system in which anything may happen at any time. A move is one thing that a caller, a task, the
executor or the clock does; between the steps of one call or one worker there may be any number of other moves.
A chronicle is the system with the notes of an onlooker. The notes never influence a move.
-/
namespace Journal

/-- A call is made by a caller who runs it, or it is a task of its own. -/
inductive CallId where
  | caller (number : Nat)
  | task (number : Nat)
  deriving DecidableEq, Repr

inductive Move where
  | openProducer (topic : String)
  | producer (source : String)
  | publish (topic : String) (entry : Entry)
  | append (step : AppendStep) (source : Option String) (op : Operation)
  | subscribe (topic : String) (start : Option Start)
  | outage (outage : Outage) (on : Bool)
  /-- The executor is told something, such as to hold submissions or to fail those of a document. -/
  | engine (executor : Executor)
  /-- An executor of any other kind ends the submission of a worker with any outcome. -/
  | answer (task : Nat) (outcome : Except SagaError Handoff)
  | clock (time : Nat)
  | listen (subscription : Subscription) (deadline : Nat)
  | call (source : Option String) (bounds : Bounds)
  | spawn (source : Option String) (bounds : Bounds)
  | advance (caller : Nat)
  | create (source : String) (bounds : Bounds)
  | start (session : Nat)
  | stop (session : Nat)
  | stopSource (source : Option String)
  | run (stopFirst : Bool) (task : Nat)

namespace Move

def asks? : Move → Option (Option String)
  | .call source _ | .spawn source _ => some source
  | _ => none

def stops : Move → Bool
  | .stop _ | .stopSource _ => true
  | _ => false

end Move

inductive Actor where
  | call (id : CallId)
  | worker (session : Nat)
  deriving DecidableEq, Repr

structure Write where
  step : AppendStep
  source : Option String
  op : Operation
  deriving DecidableEq, Repr

namespace Write

def operation (w : Write) : Operation := w.step.prepare w.op

def entry (w : Write) : Entry := .encode w.operation

def topic (names : LogSettings) (w : Write) : String := names.topicOf (names.sourceOrDefault w.source)

end Write

structure Notes where
  /-- What was on its topic when a call read the newest entry. -/
  sighted : CallId → List Entry := fun _ => []
  /-- What was on the topic of a session when the newest entry was read for it. -/
  ground : Nat → List Entry := fun _ => []
  maker : Nat → Option CallId := fun _ => none
  installed : List Nat := []
  lost : List Nat := []
  begun : List Nat := []
  /-- What the worker of a session handed to the executor, oldest first. -/
  handed : Nat → List (Saga × Operation) := fun _ => []
  accepted : List Write := []

structure Chronicle where
  system : System
  callers : List StartCall := []
  notes : Notes := {}

namespace System

def workerOf (sys : System) (n : Nat) : Worker := ((sys.session? n).map Session.worker).getD .unborn

def answered (task : Nat) (outcome : Except SagaError Handoff) (sys : System) : Option System :=
  match sys.tasks[task]? with
  | some (.worker n) =>
    match sys.session? n with
    | some s =>
      match s.worker with
      | .submitting subscription entry saga op =>
        some (sys.withSession (.task task) n fun s => s.count sys.now subscription entry saga op outcome)
      | _ => none
    | none => none
  | _ => none

end System

namespace Notes

def watch (before after : System) (notes : Notes) : Notes :=
  { notes with handed := fun n => notes.handed n ++ (before.workerOf n).handover (after.workerOf n) }

/-- The onlooker follows a step of a call. A question may take several steps; the last look counts. -/
def follow (id : CallId) (call call' : StartCall) (before after : System) (notes : Notes) : Notes :=
  let seen := notes.watch before after
  match call.phase, call'.phase with
  | .reading .., .reading .. =>
    { seen with sighted := Function.update notes.sighted id (before.log.entries (before.pool.topicOf call.source)) }
  | .reading .., .installing _ n =>
    { seen with
      ground := Function.update notes.ground n (notes.sighted id)
      maker := Function.update notes.maker n (some id) }
  | .installing _ n, .starting _ => { seen with installed := notes.installed ++ [n] }
  | .installing _ n, _ => { seen with lost := notes.lost ++ [n] }
  | .starting n, _ => { seen with begun := notes.begun ++ [n] }
  | _, _ => seen

/-- A session can be started from outside once it was handed out: if no call made it, or after it won its slot. -/
def isOpen (notes : Notes) (n : Nat) : Bool := (notes.maker n).isNone || notes.installed.contains n

end Notes

namespace Chronicle

def opened (settings : Settings) (executor : Executor) (script : Script) : Chronicle :=
  { system := .ofSettings settings executor script }

def call? (c : Chronicle) : CallId → Option StartCall
  | .caller i => c.callers[i]?
  | .task k =>
    match c.system.tasks[k]? with
    | some (.start call) => some call
    | _ => none

def actor? (c : Chronicle) : Move → Option Actor
  | .advance i => some (.call (.caller i))
  | .run _ k | .answer k _ =>
    match c.system.tasks[k]? with
    | some (.worker n) => some (.worker n)
    | some (.start _) => some (.call (.task k))
    | _ => none
  | _ => none

def note (sys : System) (c : Chronicle) : Chronicle :=
  { c with system := sys, notes := c.notes.watch c.system sys }

def apply (c : Chronicle) : Move → Option Chronicle
  | .openProducer topic => some (c.note (c.system.openProducer .caller topic).2)
  | .producer source => some (c.note (c.system.producer .caller source).2)
  | .publish topic entry => some (c.note (c.system.publish .caller topic entry).2)
  | .append step source op =>
    let (result, sys) := c.system.append .caller step source op
    match result with
    | .ok _ =>
      let notes := c.notes.watch c.system sys
      some { c with
        system := sys
        notes := { notes with accepted := notes.accepted ++ [⟨step, source, op⟩] } }
    | .error _ => some (c.note sys)
  | .subscribe topic start => some (c.note (c.system.subscribe .caller topic start).2)
  | .outage outage on => some (c.note { c.system with log := c.system.log.setOutage outage on })
  | .engine executor => some (c.note { c.system with executor })
  | .answer task outcome => (c.system.answered task outcome).map c.note
  | .clock time => some (c.note { c.system with now := max time c.system.now })
  | .listen subscription deadline =>
    some (c.note { c.system with
      tasks := c.system.tasks ++ [.reception (.pending subscription deadline false)] })
  | .call source bounds => some { c with callers := c.callers ++ [c.system.startCall source bounds] }
  | .spawn source bounds =>
    some (c.note { c.system with tasks := c.system.tasks ++ [.start (c.system.startCall source bounds)] })
  | .advance i => do
    let call ← c.callers[i]?
    let (call', sys) ← c.system.startStep .caller call
    some {
      system := sys
      callers := c.callers.set i call'
      notes := c.notes.follow (.caller i) call call' c.system sys }
  | .create source bounds =>
    let topic := c.system.pool.topicOf source
    let (n, sys) := c.system.createSession source bounds (c.system.log.last? topic)
    let notes := c.notes.watch c.system sys
    some { c with
      system := sys
      notes := { notes with ground := Function.update notes.ground n (c.system.log.entries topic) } }
  | .start n => if c.notes.isOpen n then some (c.note (c.system.startSession .caller n).2) else none
  | .stop n => some (c.note (c.system.stopSession .caller n))
  | .stopSource source => some (c.note (c.system.stop .caller source).2)
  | .run stopFirst task => do
    let sys ← c.system.stepTask stopFirst task
    match c.system.tasks[task]?, sys.tasks[task]? with
    | some (.start call), some (.start call') =>
      some { c with system := sys, notes := c.notes.follow (.task task) call call' c.system sys }
    | _, _ => some (c.note sys)

def run : List Move → Chronicle → Option Chronicle
  | [], c => some c
  | move :: later, c => (c.apply move).bind (run later)

theorem run_keeps_along {P : Chronicle → Prop} {kind : Move → Prop}
    (step : ∀ c move c', P c → kind move → c.apply move = some c' → P c') {moves : List Move} {c c' : Chronicle}
    (kinds : ∀ move ∈ moves, kind move) (first : P c) (h : run moves c = some c') : P c' := by
  induction moves generalizing c with
  | nil =>
    cases h
    exact first
  | cons move later ih =>
    obtain ⟨next, made, rest⟩ := Option.bind_eq_some_iff.mp h
    have here := kinds move (List.mem_cons_self ..)
    exact ih (fun m member => kinds m (List.mem_cons_of_mem _ member)) (step c move next first here made) rest

theorem run_keeps {P : Chronicle → Prop} (step : ∀ c move c', P c → c.apply move = some c' → P c')
    {moves : List Move} {c c' : Chronicle} (first : P c) (h : run moves c = some c') : P c' :=
  have any : ∀ move ∈ moves, (fun _ : Move => True) move := fun _ _ => trivial
  run_keeps_along (fun c move c' held _ made => step c move c' held made) any first h

end Chronicle
end Journal
