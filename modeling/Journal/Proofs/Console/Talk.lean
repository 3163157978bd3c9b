import Journal.Proofs.Console.Clean
import Journal.Proofs.Json.Lines
import Mathlib.Data.List.ReduceOption

/-!
What is said at the desk. A line that is not blank is answered once, with one line of text, before the next line is
taken: at once or, if it makes a call, after the last step of the call. Between that step and the answer, the workers may
still take steps.
-/
namespace Journal

def StartCall.result? (call : StartCall) : Option (Except RestoreError Nat) :=
  match call.phase with
  | .returned result => some result
  | _ => none

theorem StartCall.result_cases (call : StartCall) :
    (call.pending? = none ∧ ∃ result, call.phase = .returned result ∧ call.result? = some result) ∨
      (call.pending? = some call ∧ call.result? = none ∧ ∀ result, call.phase ≠ .returned result) := by
  unfold pending? result?
  cases call.phase with
  | returned result => exact .inl ⟨rfl, result, rfl, rfl⟩
  | _ => exact .inr ⟨rfl, rfl, by simp⟩

namespace System

/-- No answer is prepared, and all tasks are workers. -/
structure Bare (sys : System) : Prop where
  script : sys.script = {}
  crew : ∀ task ∈ sys.tasks, ∃ n, task = .worker n

variable {sys sys' : System}

theorem Bare.of_same (bare : sys.Bare) (script : sys'.script = sys.script) (tasks : sys'.tasks = sys.tasks) :
    sys'.Bare where
  script := script.trans bare.script
  crew := tasks ▸ bare.crew

theorem Bare.append {origin : Origin} {step : AppendStep} {source : Option String} {op : Operation}
    {result : Except StepError Appended} (bare : sys.Bare)
    (written : sys.append origin step source op = (result, sys')) : sys'.Bare := by
  obtain ⟨keeps, script, -⟩ := append_spec written
  exact bare.of_same script keeps.tasks

theorem Bare.stop (bare : sys.Bare) (origin : Origin) (source : Option String) : (sys.stop origin source).2.Bare := by
  unfold System.stop
  split
  · exact bare
  · dsimp only
    unfold stopSession withSession
    split
    · exact bare
    · exact bare.of_same rfl rfl

theorem Bare.turn {origin : Origin} {call : StartCall} {phase : StartPhase} (bare : sys.Bare)
    (turn : CallTurn origin call sys phase sys') : sys'.Bare where
  script := (turn_steady turn).plain bare.script
  crew := by
    obtain ⟨more, tasks, workers⟩ := Chronicle.turn_tasks turn
    intro task member
    rw [tasks] at member
    exact (List.mem_append.mp member).elim (bare.crew task) (workers task)

theorem Bare.stepTask {stopFirst : Bool} {k : Nat} (bare : sys.Bare) (stepped : sys.stepTask stopFirst k = some sys') :
    sys'.Bare ∧ sys'.slots = sys.slots := by
  unfold System.stepTask at stepped
  split at stepped
  · cases stepped
  · rename_i call task
    obtain ⟨n, same⟩ := bare.crew _ (List.mem_of_getElem? task)
    cases same
  · rename_i reception task
    obtain ⟨n, same⟩ := bare.crew _ (List.mem_of_getElem? task)
    cases same
  · obtain ⟨s, -, stepped⟩ := Option.bind_eq_some_iff.mp stepped
    obtain ⟨⟨s', executor, events⟩, -, stepped⟩ := Option.bind_eq_some_iff.mp stepped
    cases stepped
    exact ⟨bare.of_same rfl rfl, rfl⟩

end System

namespace Console

/-- No prepared answer comes late, and the slot that the call has seen is not empty. -/
structure Lone (call : StartCall) (sys : System) : Prop where
  script : sys.script = {}
  prompt : ∀ observed deadline newest, call.phase ≠ .reading observed (.delayed deadline newest)
  held : ∀ n, call.phase.observed? = some n → (sys.slots.get? call.source).isSome = true

theorem Lone.of_plain {call : StartCall} {sys : System} (script : sys.script = {})
    (prompt : ∀ observed inquiry, call.phase ≠ .reading observed inquiry) (seen : call.phase.observed? = none) :
    Lone call sys where
  script := script
  prompt := fun observed deadline newest => prompt observed _
  held := fun n held => by simp [seen] at held

theorem Lone.turn {origin : Origin} {call : StartCall} {phase : StartPhase} {sys sys' : System} (lone : Lone call sys)
    (turn : System.CallTurn origin call sys phase sys') : Lone { call with phase } sys' := by
  cases turn with
  | ask observed looking slot =>
    refine ⟨lone.script, by simp, fun n seen => ?_⟩
    rw [slot, show observed = some n from seen]
    rfl
  | read observed inquiry inquiry' sys' reading asked =>
    obtain ⟨-, -, -, unprepared⟩ := System.inquire_spec asked
    obtain ⟨rfl, answered⟩ := unprepared lone.script
    refine ⟨lone.script, fun _ deadline newest late => ?_, fun n seen => lone.held n (by rw [reading]; exact seen)⟩
    cases late
    cases inquiry with
    | asking => cases answered rfl
    | delayed deadline' newest' => exact lone.prompt _ _ _ reading
    | answered result => cases asked
  | create observed newest reading =>
    exact ⟨lone.script, by simp, fun n seen => lone.held n (by rw [reading]; exact seen)⟩
  | spawn n s subscription sys' opening session opened =>
    obtain ⟨-, -, -, unprepared⟩ := System.subscribeFrom_spec opened
    exact .of_plain (unprepared lone.script).1 (by simp) rfl
  | refuse n s error sys' opening session failed =>
    obtain ⟨-, -, -, unprepared⟩ := System.subscribeFrom_spec failed
    exact .of_plain (unprepared lone.script).1 (by simp) rfl
  | _ => exact .of_plain lone.script (by simp) rfl

def restoreReply (result : Except RestoreError Nat) (sys : System) : Json :=
  match result with
  | .ok n => restoreAnswer (sys.progressOf n)
  | .error error => failureOf error.message error.causes

def Desk.reply? (moment : Moment) (line : String) (d : Desk) : Option Json :=
  match callOf line with
  | some _ => none
  | none => (d.console.answer moment line).bind Prod.fst

structure Talk where
  desk : Desk
  due : Option (Except RestoreError Nat) := none

namespace Talk

def opened (settings : Settings) : Talk := { desk := .opened settings }

def apply (t : Talk) : Act → Option (Option Json × Talk)
  | .line moment line =>
    match t.due with
    | some _ => none
    | none => (t.desk.apply (.line moment line)).map fun desk => (t.desk.reply? moment line, { t with desk })
  | .advance =>
    match t.due with
    | some result => some (some (restoreReply result t.desk.console.system).canonical, { t with due := none })
    | none => do
      let (call, _) ← t.desk.console.system.startStep .caller (← t.desk.pending)
      let desk ← t.desk.apply .advance
      some (none, { desk, due := call.result? })
  | act => (t.desk.apply act).map fun desk => (none, { t with desk })

def run : List Act → Talk → Option (List (Option Json) × Talk)
  | [], t => some ([], t)
  | act :: later, t => do
    let (said, t) ← t.apply act
    let (rest, t) ← run later t
    some (said :: rest, t)

/-- How many steps a restore line still takes at most until it is answered. -/
def owes (t : Talk) : Nat :=
  match t.due, t.desk.pending with
  | some _, _ => 1
  | none, some call => call.phase.stepsLeft + 1
  | none, none => 0

end Talk

namespace Act

def line? : Act → Option (Moment × String)
  | .line moment text => some (moment, text)
  | _ => none

def isSolid : Act → Bool
  | .line _ text => Text.trimmed text ≠ ""
  | _ => false

def isAdvance : Act → Bool
  | .advance => true
  | _ => false

end Act

namespace Desk

theorem apply_advance {call call' : StartCall} {sys : System} {d : Desk} (waits : d.pending = some call)
    (taken : d.console.system.startStep .caller call = some (call', sys)) :
    ∃ next, d.apply .advance = some next ∧ next.console = { d.console with system := sys } ∧
      next.pending = call'.pending? := by
  simp only [apply, waits, taken, Option.bind_eq_bind, Option.bind_some]
  exact ⟨_, rfl, rfl, rfl⟩

theorem run_of_runFor (steps : Nat) (d : Desk) :
    ∃ acts d', (∀ act ∈ acts, ∃ k, act = .work true k) ∧ run acts d = some d' ∧ d'.pending = d.pending ∧
      d'.console = { d.console with system := System.runFor steps d.console.system } := by
  induction steps generalizing d with
  | zero => exact ⟨[], d, List.forall_mem_nil _, rfl, rfl, rfl⟩
  | succ steps ih =>
    cases first : d.console.system.stepFirst with
    | none => exact ⟨[], d, List.forall_mem_nil _, rfl, rfl, by simp only [System.runFor, first]⟩
    | some sys =>
      obtain ⟨k, -, stepped⟩ := List.exists_of_findSome?_eq_some first
      have applied : d.apply (.work true k) = some { d with console := { d.console with system := sys } } := by
        simp only [apply, stepped, Option.bind_eq_bind, Option.bind_some]
      obtain ⟨acts, d', work, ran, pending, console⟩ := ih { d with console := { d.console with system := sys } }
      refine ⟨.work true k :: acts, d', List.forall_mem_cons.mpr ⟨⟨k, rfl⟩, work⟩, ?_, pending, ?_⟩
      · simpa [run, applied] using ran
      · simpa only [System.runFor, first] using console

end Desk

theorem solid_of_call {line : String} {call : Option String × Bounds} (called : callOf line = some call) :
    Text.trimmed line ≠ "" := by
  unfold callOf at called
  split at called
  · rename_i read
    exact (commandOf_eq_some read).1
  · cases called

variable {moment : Moment} {line : String} {c c' : Console} {answer : Option Json}

theorem answer_isSome (answered : c.answer moment line = some (answer, c')) :
    answer.isSome = decide (Text.trimmed line ≠ "") := by
  by_cases blank : Text.trimmed line = ""
  · simp only [Console.answer, if_pos blank] at answered
    cases answered
    simp [blank]
  · cases found : Command.ofText (Text.trimmed line) with
    | error fault =>
      simp only [Console.answer, if_neg blank, found] at answered
      cases answered
      simp [blank]
    | ok command =>
      simp only [Console.answer, if_neg blank, found] at answered
      obtain ⟨result, -, same⟩ := Option.map_eq_some_iff.mp answered
      cases same
      simp [blank]

theorem perform_bare {command : Command} {json : Json} (bare : c.system.Bare)
    (uncalled : ∀ request, command = .restore request → ∃ error, request.bounds = .error error)
    (performed : c.perform moment command = some (json, c')) : c'.system.Bare := by
  have writes : ∀ step method w, c.write moment step method w = some (json, c') → c'.system.Bare := by
    intro step method w wrote
    obtain ⟨⟨id, generator, rest⟩, -, wrote⟩ := Option.bind_eq_some_iff.mp wrote
    rcases written : c.system.append .caller step w.source (operationOf moment.time.timestamp id method w) with ⟨result, sys⟩
    have bare' := bare.append written
    simp only [written] at wrote
    cases result <;> cases wrote <;> exact bare'
  cases command with
  | put w => exact writes .put .put w performed
  | delete w => exact writes .delete .delete w performed
  | restore request =>
    obtain ⟨error, refused⟩ := uncalled request rfl
    simp only [perform, restore, refused] at performed
    cases performed
    exact bare
  | status source | list =>
    cases performed
    exact bare
  | stop source =>
    cases performed
    exact bare.stop .caller source

theorem answer_total (passed : ((commandOf line).bind Command.write?).isSome = true →
      ∃ reading ∈ moment.readings, c.generator.previous.milliseconds < reading.clock) :
    (c.answer moment line).isSome = true := by
  cases read : commandOf line with
  | none =>
    obtain ⟨answer, same⟩ := @answer_of_none moment line c read
    rw [same]
    rfl
  | some command =>
    rw [read, Option.bind_some] at passed
    rw [answer_of_command read, Option.isSome_map]
    cases command with
    | put w | delete w => exact perform_isSome _ (passed rfl)
    | _ => rfl

theorem answer_bare (bare : c.system.Bare) (uncalled : callOf line = none)
    (answered : c.answer moment line = some (answer, c')) : c'.system.Bare := by
  have later : (c.atTime moment.time.milliseconds).system.Bare := bare.of_same rfl rfl
  cases read : commandOf line with
  | none =>
    obtain ⟨_, same⟩ := @answer_of_none moment line c read
    cases answered.symm.trans same
    exact later
  | some command =>
    rw [answer_of_command read] at answered
    obtain ⟨⟨json, console⟩, performed, same⟩ := Option.map_eq_some_iff.mp answered
    cases same
    refine perform_bare later ?_ performed
    rintro request rfl
    simp only [callOf, read] at uncalled
    split at uncalled
    · exact ⟨_, ‹_›⟩
    · cases uncalled

namespace Talk

inductive Step (t : Talk) : Act → Option Json → Talk → Prop where
  | calls {moment : Moment} {line : String} {call : Option String × Bounds} {t' : Talk} (due : t.due = none)
      (pending : t.desk.pending = none) (called : callOf line = some call)
      (console : t'.desk.console = t.desk.console.atTime moment.time.milliseconds)
      (pending' : t'.desk.pending = some (t'.desk.console.system.startCall call.1 call.2)) (due' : t'.due = none) :
      Step t (.line moment line) none t'
  | answers {moment : Moment} {line : String} {answer : Option Json} {t' : Talk} (due : t.due = none)
      (pending : t.desk.pending = none) (uncalled : callOf line = none)
      (answered : t.desk.console.answer moment line = some (answer, t'.desk.console))
      (pending' : t'.desk.pending = none) (due' : t'.due = none) : Step t (.line moment line) answer t'
  | steps {call call' : StartCall} {t' : Talk} (due : t.due = none) (pending : t.desk.pending = some call)
      (taken : t.desk.console.system.startStep .caller call = some (call', t'.desk.console.system))
      (pending' : t'.desk.pending = call'.pending?) (due' : t'.due = call'.result?) : Step t .advance none t'
  | tells {result : Except RestoreError Nat} (due : t.due = some result) :
      Step t .advance (some (restoreReply result t.desk.console.system).canonical) { t with due := none }
  | works {stopFirst : Bool} {k : Nat} {t' : Talk}
      (stepped : t.desk.console.system.stepTask stopFirst k = some t'.desk.console.system)
      (pending' : t'.desk.pending = t.desk.pending) (due' : t'.due = t.due) : Step t (.work stopFirst k) none t'
  | ticks {time : Nat} {t' : Talk} (console : t'.desk.console = t.desk.console.atTime time)
      (pending' : t'.desk.pending = t.desk.pending) (due' : t'.due = t.due) : Step t (.clock time) none t'

variable {t t' : Talk} {act : Act} {said : Option Json}

theorem apply_line {moment : Moment} {line : String} (applied : t.apply (.line moment line) = some (said, t')) :
    t.due = none ∧ ∃ desk, t.desk.apply (.line moment line) = some desk ∧ said = t.desk.reply? moment line ∧
      t' = { t with desk } := by
  cases due : t.due with
  | some result => simp [apply, due] at applied
  | none =>
    simp only [apply, due] at applied
    obtain ⟨desk, taken, same⟩ := Option.map_eq_some_iff.mp applied
    cases same
    exact ⟨rfl, desk, taken, rfl, rfl⟩

theorem apply_step (applied : t.apply act = some (said, t')) : Step t act said t' := by
  cases act with
  | line moment line =>
    obtain ⟨due, desk, taken, rfl, rfl⟩ := apply_line applied
    cases pending : t.desk.pending with
    | some call => simp [Desk.apply, pending] at taken
    | none =>
      cases called : callOf line with
      | some call =>
        simp only [Desk.apply, pending, called, Option.some.injEq] at taken
        subst taken
        simp only [Desk.reply?, called]
        exact .calls due pending called rfl rfl due
      | none =>
        simp only [Desk.apply, pending, called] at taken
        obtain ⟨⟨answer, console⟩, answered, same⟩ := Option.bind_eq_some_iff.mp taken
        cases same
        simp only [Desk.reply?, called, answered, Option.bind_some]
        exact .answers due pending called answered rfl due
  | advance =>
    cases due : t.due with
    | some result =>
      simp only [apply, due] at applied
      cases applied
      exact .tells due
    | none =>
      simp only [apply, due] at applied
      obtain ⟨call, pending, applied⟩ := Option.bind_eq_some_iff.mp applied
      obtain ⟨⟨call', sys⟩, taken, applied⟩ := Option.bind_eq_some_iff.mp applied
      obtain ⟨desk, stepped, same⟩ := Option.bind_eq_some_iff.mp applied
      cases same
      obtain ⟨next, stepped', console, pending'⟩ := Desk.apply_advance pending taken
      obtain rfl : next = desk := Option.some.inj (stepped'.symm.trans stepped)
      exact .steps due pending (by rw [console]; exact taken) pending' rfl
  | work stopFirst k =>
    obtain ⟨desk, taken, same⟩ := Option.map_eq_some_iff.mp applied
    cases same
    obtain ⟨sys, stepped, same⟩ := Option.bind_eq_some_iff.mp taken
    cases same
    exact .works stepped rfl rfl
  | clock time =>
    cases applied
    exact .ticks rfl rfl rfl

/-- What holds at every moment of a talk. -/
structure Sound (t : Talk) : Prop where
  bare : t.desk.console.system.Bare
  apart : ∀ result ∈ t.due, t.desk.pending = none
  waiting : ∀ call ∈ t.desk.pending, Lone call t.desk.console.system ∧ ∀ result, call.phase ≠ .returned result

theorem sound_opened (settings : Settings) : (opened settings).Sound where
  bare := ⟨rfl, List.forall_mem_nil _⟩
  apart := fun _ held => by cases held
  waiting := fun _ held => by cases held

theorem Sound.of_none (bare : t.desk.console.system.Bare) (due : t.due = none)
    (waiting : ∀ call ∈ t.desk.pending, Lone call t.desk.console.system ∧ ∀ result, call.phase ≠ .returned result) :
    t.Sound where
  bare := bare
  apart := by
    intro result held
    rw [due] at held
    cases held
  waiting := waiting

theorem Sound.of_free (bare : t.desk.console.system.Bare) (pending : t.desk.pending = none) : t.Sound where
  bare := bare
  apart := fun _ _ => pending
  waiting := by
    intro call held
    rw [pending] at held
    cases held

theorem Sound.step (sound : t.Sound) (step : Step t act said t') : t'.Sound := by
  cases step with
  | @calls moment line call _ due pending called console pending' due' =>
    have bare : t'.desk.console.system.Bare := by
      rw [console]
      exact sound.bare.of_same rfl rfl
    refine .of_none bare due' fun call' held => ?_
    cases pending'.symm.trans held
    exact ⟨.of_plain bare.script (by simp [System.startCall]) rfl, by simp [System.startCall]⟩
  | answers due pending uncalled answered pending' due' =>
    exact .of_free (answer_bare sound.bare uncalled answered) pending'
  | @steps call call' _ due pending taken pending' due' =>
    obtain ⟨turn, same⟩ := System.startStep_turn taken
    obtain ⟨lone, going⟩ := sound.waiting call pending
    have bare := sound.bare.turn turn
    rcases call'.result_cases with ⟨free, -⟩ | ⟨open', none, going'⟩
    · exact .of_free bare (pending'.trans free)
    · refine .of_none bare (due'.trans none) fun call'' held => ?_
      cases (pending'.trans open').symm.trans held
      refine ⟨?_, going'⟩
      rw [same]
      exact lone.turn turn
  | tells due => exact .of_none sound.bare rfl sound.waiting
  | works stepped pending' due' =>
    obtain ⟨bare, slots⟩ := sound.bare.stepTask stepped
    refine ⟨bare, by rw [due', pending']; exact sound.apart, fun call held => ?_⟩
    obtain ⟨lone, going⟩ := sound.waiting call (pending' ▸ held)
    exact ⟨⟨bare.script, lone.prompt, fun n seen => slots ▸ lone.held n seen⟩, going⟩
  | ticks console pending' due' =>
    refine ⟨?_, by rw [due', pending']; exact sound.apart, fun call held => ?_⟩
    · rw [console]
      exact sound.bare.of_same rfl rfl
    · obtain ⟨lone, going⟩ := sound.waiting call (pending' ▸ held)
      rw [console]
      exact ⟨⟨lone.script, lone.prompt, lone.held⟩, going⟩

theorem Step.counted (step : Step t act said t') (sound : t.Sound) :
    (if act.isSolid = true then 1 else 0) + min t.owes 1 = (if said.isSome = true then 1 else 0) + min t'.owes 1 := by
  cases step with
  | calls due pending called console pending' due' =>
    simp [Act.isSolid, solid_of_call called, owes, due, pending, due', pending']
  | answers due pending uncalled answered pending' due' =>
    simp only [Act.isSolid, answer_isSome answered, owes, due, pending, due', pending']
    rfl
  | @steps call call' _ due pending taken pending' due' =>
    rcases call'.result_cases with ⟨free, result, -, given⟩ | ⟨open', none, going'⟩
    · simp [Act.isSolid, owes, due, pending, due', pending', free, given]
    · simp [Act.isSolid, owes, due, pending, due', pending', open', none]
  | tells due => simp [Act.isSolid, owes, due, sound.apart _ due]
  | works _ pending' due' | ticks _ pending' due' => simp [Act.isSolid, owes, due', pending']

theorem Step.nearer (step : Step t act said t') (sound : t.Sound) (silent : act.line? = none) :
    t'.owes + (if act.isAdvance = true then 1 else 0) ≤ t.owes := by
  cases step with
  | calls | answers => cases silent
  | @steps call call' _ due pending taken pending' due' =>
    obtain ⟨turn, same⟩ := System.startStep_turn taken
    obtain ⟨lone, going⟩ := sound.waiting call pending
    have left := System.turn_nearer turn lone.held
    rcases call'.result_cases with ⟨free, result, -, given⟩ | ⟨open', none, going'⟩
    · simp only [owes, due, pending, due', given, pending', free, Act.isAdvance, if_true]
      omega
    · simp only [owes, due, pending, due', none, pending', open', Act.isAdvance, if_true]
      omega
  | tells due => simp [owes, due, sound.apart _ due, Act.isAdvance]
  | works _ pending' due' | ticks _ pending' due' => simp [owes, due', pending', Act.isAdvance]

variable {acts later : List Act} {answers : List (Option Json)} {settings : Settings}

theorem run_cons (ran : run (act :: later) t = some (answers, t')) :
    ∃ said next rest, answers = said :: rest ∧ t.apply act = some (said, next) ∧ run later next = some (rest, t') := by
  obtain ⟨⟨said, next⟩, applied, ran⟩ := Option.bind_eq_some_iff.mp ran
  obtain ⟨⟨rest, last⟩, ran, same⟩ := Option.bind_eq_some_iff.mp ran
  cases same
  exact ⟨said, next, rest, rfl, applied, ran⟩

theorem run_of_cons {next : Talk} (applied : t.apply act = some (said, next)) (ran : run later next = some (answers, t')) :
    run (act :: later) t = some (said :: answers, t') := by
  simp only [run, applied, ran, Option.bind_eq_bind, Option.bind_some]

theorem counted_run (sound : t.Sound) (ran : run acts t = some (answers, t')) :
    t'.Sound ∧ acts.countP Act.isSolid + min t.owes 1 = answers.countP Option.isSome + min t'.owes 1 := by
  induction acts generalizing t answers with
  | nil =>
    cases ran
    exact ⟨sound, rfl⟩
  | cons act later ih =>
    obtain ⟨said, next, rest, rfl, applied, ran⟩ := run_cons ran
    have step := apply_step applied
    obtain ⟨sound', counted⟩ := ih (sound.step step) ran
    have here := step.counted sound
    rw [List.countP_cons, List.countP_cons]
    exact ⟨sound', by omega⟩

theorem nearer_run (sound : t.Sound) (silent : ∀ act ∈ acts, act.line? = none)
    (ran : run acts t = some (answers, t')) : t'.owes + acts.countP Act.isAdvance ≤ t.owes := by
  induction acts generalizing t answers with
  | nil =>
    cases ran
    exact Nat.le_refl _
  | cons act later ih =>
    obtain ⟨quiet, silent⟩ := List.forall_mem_cons.mp silent
    obtain ⟨said, next, rest, rfl, applied, ran⟩ := run_cons ran
    have step := apply_step applied
    have nearer := ih (sound.step step) silent ran
    have here := step.nearer sound quiet
    rw [List.countP_cons]
    omega

theorem run_take (ran : run acts t = some (answers, t')) (k : Nat) :
    ∃ t'', run (acts.take k) t = some (answers.take k, t'') := by
  induction acts generalizing t answers k with
  | nil =>
    cases ran
    exact ⟨t', by simp [run]⟩
  | cons act later ih =>
    obtain ⟨said, next, rest, rfl, applied, ran⟩ := run_cons ran
    cases k with
    | zero => exact ⟨t, rfl⟩
    | succ k =>
      obtain ⟨t'', ran⟩ := ih ran k
      exact ⟨t'', run_of_cons applied ran⟩

theorem owes_le (t : Talk) : t.owes ≤ 8 := by
  unfold owes
  split
  · decide
  · rename_i call _ _
    exact Nat.succ_le_succ call.phase.stepsLeft_le
  · decide

theorem owes_eq_zero (free : t.owes = 0) : t.due = none ∧ t.desk.pending = none := by
  unfold owes at free
  split at free
  · cases free
  · cases free
  · exact ⟨‹_›, ‹_›⟩

theorem advance_isSome (sound : t.Sound) (waits : 0 < t.owes) : (t.apply .advance).isSome = true := by
  cases due : t.due with
  | some result => simp [apply, due]
  | none =>
    cases pending : t.desk.pending with
    | none => simp [owes, due, pending] at waits
    | some call =>
      obtain ⟨lone, going⟩ := sound.waiting call pending
      obtain ⟨⟨call', sys⟩, taken⟩ := Option.isSome_iff_exists.mp
        (System.startStep_isSome .caller t.desk.console.system going lone.prompt)
      obtain ⟨next, applied, -⟩ := Desk.apply_advance pending taken
      simp [apply, due, pending, taken, applied]

theorem line_isSome {moment : Moment} {line : String} (free : t.owes = 0)
    (passed : ((commandOf line).bind Command.write?).isSome = true →
      ∃ reading ∈ moment.readings, t.desk.console.generator.previous.milliseconds < reading.clock) :
    (t.apply (.line moment line)).isSome = true := by
  obtain ⟨due, pending⟩ := owes_eq_zero free
  have taken : (t.desk.apply (.line moment line)).isSome = true := by
    cases called : callOf line with
    | some call => simp [Desk.apply, pending, called]
    | none =>
      have answered := answer_total passed
      obtain ⟨result, answered⟩ := Option.isSome_iff_exists.mp answered
      simp [Desk.apply, pending, called, answered]
  simpa [apply, due] using taken

/-- The lines have been answered in order, and the next one will be. -/
structure Answered (acts : List Act) (answers : List (Option Json)) (t : Talk) : Prop where
  counted : acts.countP Act.isSolid = answers.countP Option.isSome + min t.owes 1
  plain : ∀ answer, some answer ∈ answers → '\n' ∉ answer.text.toList
  taken : t.owes = 0 → ∀ moment line, (((commandOf line).bind Command.write?).isSome = true →
    ∃ reading ∈ moment.readings, t.desk.console.generator.previous.milliseconds < reading.clock) →
      (t.apply (.line moment line)).isSome = true
  going : 0 < t.owes → (t.apply .advance).isSome = true
  soon : t.owes ≤ 8 ∧ ∀ later more t', (∀ act ∈ later, act.line? = none) → run later t = some (more, t') →
    t'.owes + later.countP Act.isAdvance ≤ t.owes

theorem answered_of_run (ran : run acts (opened settings) = some (answers, t)) : Answered acts answers t := by
  obtain ⟨sound, counted⟩ := counted_run (sound_opened settings) ran
  exact
    { counted := counted
      plain := fun answer _ => answer.newline_not_mem_text
      taken := fun free _ _ passed => line_isSome free passed
      going := advance_isSome sound
      soon := ⟨owes_le t, fun _ _ _ silent ran => nearer_run sound silent ran⟩ }

end Talk

namespace Talk

variable {t t' : Talk} {answers answers' : List (Option Json)} {first second : List Act}

theorem run_of_append (ran : run first t = some (answers, t')) {t'' : Talk}
    (ran' : run second t' = some (answers', t'')) : run (first ++ second) t = some (answers ++ answers', t'') := by
  induction first generalizing t answers with
  | nil =>
    cases ran
    exact ran'
  | cons act later ih =>
    obtain ⟨said, next, rest, rfl, applied, ran⟩ := run_cons ran
    exact run_of_cons applied (ih ran)

theorem run_of_desk {acts : List Act} {d d' : Desk} (work : ∀ act ∈ acts, ∃ k, act = .work true k)
    (ran : Desk.run acts d = some d') (due : Option (Except RestoreError Nat)) :
    run acts ⟨d, due⟩ = some (List.replicate acts.length none, ⟨d', due⟩) := by
  induction acts generalizing d with
  | nil =>
    cases ran
    rfl
  | cons act later ih =>
    obtain ⟨⟨k, rfl⟩, later⟩ := List.forall_mem_cons.mp work
    obtain ⟨next, applied, ran⟩ := Option.bind_eq_some_iff.mp ran
    refine run_of_cons ?_ (ih later ran)
    simp only [apply, applied, Option.map_some]

theorem run_of_runStart {steps : Nat} {call : StartCall} {d : Desk} (waits : d.pending = some call)
    (lone : Lone call d.console.system) (going : ∀ result, call.phase ≠ .returned result)
    (enough : call.phase.stepsLeft < steps) :
    ∃ acts result sys d', (∀ act ∈ acts, act = .advance) ∧ d.console.system.runStart call steps = (some result, sys) ∧
      run acts ⟨d, none⟩ = some (List.replicate acts.length none, ⟨d', some result⟩) ∧ d'.pending = none ∧
      d'.console = { d.console with system := sys } := by
  induction steps generalizing call d with
  | zero => cases enough
  | succ steps ih =>
    obtain ⟨⟨call', sys⟩, taken⟩ := Option.isSome_iff_exists.mp
      (System.startStep_isSome .caller d.console.system going lone.prompt)
    obtain ⟨next, applied, console, pending⟩ := Desk.apply_advance waits taken
    have told : apply ⟨d, none⟩ .advance = some (none, ⟨next, call'.result?⟩) := by
      simp [apply, waits, taken, applied]
    obtain ⟨turn, same⟩ := System.startStep_turn taken
    have nearer := System.turn_nearer turn lone.held
    have left : call'.phase.stepsLeft < steps := by omega
    have first : d.console.system.runStart call (steps + 1) = sys.runStart call' steps := by
      rw [System.runStart]
      split
      · exact absurd ‹_› (going _)
      · simp only [taken]
    rcases call'.result_cases with ⟨free, result, returned, given⟩ | ⟨open', none, going'⟩
    · have ends : sys.runStart call' steps = (some result, sys) := by
        cases steps with
        | zero => cases left
        | succ rest => simp only [System.runStart, returned]
      rw [given] at told
      exact ⟨[.advance], result, sys, next, by simp, first.trans ends, run_of_cons told rfl, pending.trans free, console⟩
    · have lone' : Lone call' next.console.system := by
        rw [console, same]
        exact lone.turn turn
      obtain ⟨acts, result, sys', d', steady, ends, ran, free, console'⟩ :=
        ih (pending.trans open') lone' going' left
      rw [console] at ends console'
      rw [none] at told
      exact ⟨.advance :: acts, result, sys', d', by simpa using steady, first.trans ends, run_of_cons told ran, free,
        console'⟩

theorem run_of_answer {moment : Moment} {line : String} {answer : Option Json} {console : Console} {d : Desk}
    (free : d.pending = none) (script : d.console.system.script = {})
    (answered : d.console.answer moment line = some (answer, console)) :
    ∃ acts answers d', (∀ act ∈ acts, act = .advance) ∧
      run (.line moment line :: acts) ⟨d, none⟩ = some (answers, ⟨d', none⟩) ∧ d'.pending = none ∧
      d'.console = console ∧ answers.reduceOption = answer.toList := by
  cases called : callOf line with
  | none =>
    have applied : ∃ next, apply ⟨d, none⟩ (.line moment line) = some (answer, ⟨next, none⟩) ∧ next.pending = none ∧
        next.console = console := by
      simp only [apply, Desk.apply, Desk.reply?, free, called, answered, Option.bind_eq_bind, Option.bind_some,
        Option.map_some]
      exact ⟨_, rfl, rfl, rfl⟩
    obtain ⟨next, applied, free', console'⟩ := applied
    refine ⟨[], [answer], next, List.forall_mem_nil _, run_of_cons applied rfl, free', console', ?_⟩
    cases answer <;> rfl
  | some call =>
    obtain ⟨source, bounds⟩ := call
    have applied : ∃ next, apply ⟨d, none⟩ (.line moment line) = some (none, ⟨next, none⟩) ∧
        next.console = d.console.atTime moment.time.milliseconds ∧
        next.pending = some (next.console.system.startCall source bounds) := by
      simp only [apply, Desk.apply, Desk.reply?, free, called, Option.map_some]
      exact ⟨_, rfl, rfl, rfl⟩
    obtain ⟨next, applied, console', waits⟩ := applied
    have lone : Lone (next.console.system.startCall source bounds) next.console.system := by
      rw [console']
      exact .of_plain script (by simp [System.startCall]) rfl
    have enough : (next.console.system.startCall source bounds).phase.stepsLeft < 16 :=
      Nat.lt_of_le_of_lt (StartPhase.stepsLeft_le _) (by decide)
    obtain ⟨acts, result, sys, d', steady, ends, ran, free', shape⟩ :=
      run_of_runStart waits lone (by simp [System.startCall]) enough
    have told : apply ⟨d', some result⟩ .advance =
        some (some (restoreReply result d'.console.system).canonical, ⟨d', none⟩) := rfl
    refine ⟨acts ++ [.advance], _, d', ?_, run_of_cons applied (run_of_append ran (run_of_cons told rfl)), free', ?_⟩
    · intro act member
      exact (List.mem_append.mp member).elim (steady act) List.mem_singleton.mp
    rw [console'] at ends shape
    unfold callOf at called
    split at called
    case h_2 => cases called
    rename_i request read
    split at called <;> cases called
    rename_i given
    have system : d'.console.system = sys := by rw [shape]
    simp only [answer_of_command read, perform, restore, given, System.joinRestore, ends] at answered
    rw [List.reduceOption_cons_of_none, List.reduceOption_append, List.reduceOption_replicate_none, List.nil_append,
      List.reduceOption_singleton, system]
    cases result <;> cases answered <;> exact ⟨shape, rfl⟩

end Talk

/-- The answers of the program to its lines: after each line, the workers go on as long as they can. -/
def replies : List (Moment × String) → Console → Option (List Json × Console)
  | [], c => some ([], c)
  | (moment, line) :: later, c => do
    let (answer, c) ← c.answer moment line
    let (rest, c) ← replies later c.settle
    some (answer.toList ++ rest, c)

namespace Talk

theorem run_of_replies {lines : List (Moment × String)} {d : Desk} {given : List Json} {console : Console}
    (sound : Sound ⟨d, none⟩) (free : d.pending = none) (replied : replies lines d.console = some (given, console)) :
    ∃ acts answers d', run acts ⟨d, none⟩ = some (answers, ⟨d', none⟩) ∧ d'.pending = none ∧ d'.console = console ∧
      acts.filterMap Act.line? = lines ∧ answers.reduceOption = given := by
  induction lines generalizing d given with
  | nil =>
    cases replied
    exact ⟨[], [], d, rfl, free, rfl, rfl, rfl⟩
  | cons line later ih =>
    obtain ⟨moment, text⟩ := line
    obtain ⟨⟨answer, console₁⟩, answered, replied⟩ := Option.bind_eq_some_iff.mp replied
    obtain ⟨⟨rest, console₂⟩, replied, same⟩ := Option.bind_eq_some_iff.mp replied
    cases same
    obtain ⟨advances, answers₁, d₁, steady, ran₁, free₁, console₁', told₁⟩ :=
      run_of_answer free sound.bare.script answered
    obtain ⟨works, d₂, workers, settles, free₂, console₂'⟩ := Desk.run_of_runFor d₁.console.system.patience d₁
    have ran₂ := run_of_append ran₁ (run_of_desk workers settles none)
    obtain ⟨sound₂, -⟩ := counted_run sound ran₂
    have settled : d₂.console = console₁.settle := by
      rw [console₂', console₁']
      rfl
    obtain ⟨acts, answers, d', ran, free', console', lines, told⟩ :=
      ih sound₂ (free₂.trans free₁) (settled ▸ replied)
    refine ⟨_, _, d', run_of_append ran₂ ran, free', console', ?_, ?_⟩
    · have silent : (advances ++ works).filterMap Act.line? = [] := by
        refine List.filterMap_eq_nil_iff.mpr fun act member => ?_
        rcases List.mem_append.mp member with before | after
        · rw [steady act before]
          rfl
        · obtain ⟨k, rfl⟩ := workers act after
          rfl
      rw [List.filterMap_append, List.cons_append, List.filterMap_cons, silent, lines]
      rfl
    · rw [List.reduceOption_append, List.reduceOption_append, told₁, told, List.reduceOption_replicate_none,
        List.append_nil]

end Talk
end Console
end Journal
