import Journal.Proofs.Console.Talk

/-!
Lines that do nothing. Lines that only look, and lines with which nothing can be done, might as well not have been given:
all that comes of the other lines comes of them all the same, whatever the workers do meanwhile.
-/
namespace Journal.Console

/-- A line that is blank or no command, one that looks at restores, or one that asks for a restore between ids that
cannot be read. -/
def isIdle (line : String) : Bool :=
  match commandOf line with
  | none | some (.status _) | some .list => true
  | some (.restore request) => request.bounds.toOption.isNone
  | some _ => false

theorem idle_spec {moment : Moment} {line : String} (idle : isIdle line = true) (c : Console) :
    callOf line = none ∧ (commandOf line).bind Command.write? = none ∧
      ∃ answer, c.answer moment line = some (answer, c.atTime moment.time.milliseconds) := by
  cases read : commandOf line with
  | none => exact ⟨by simp [callOf, read], rfl, answer_of_none read⟩
  | some command =>
    rw [answer_of_command read]
    simp only [isIdle, read] at idle
    cases command with
    | put w | delete w | stop source => cases idle
    | status source | list => exact ⟨by simp [callOf, read], rfl, _, rfl⟩
    | restore request =>
      cases given : request.bounds with
      | ok bounds => simp [given, Except.toOption] at idle
      | error error =>
        refine ⟨by simp [callOf, read, given], rfl, ?_⟩
        simp only [perform, restore, given]
        exact ⟨_, rfl⟩

theorem Desk.apply_idle {moment : Moment} {line : String} {d d' : Desk} (idle : isIdle line = true)
    (applied : d.apply (.line moment line) = some d') : d.apply (.clock moment.time.milliseconds) = some d' := by
  obtain ⟨uncalled, unasked, answer, answered⟩ := @idle_spec moment line idle d.console
  cases pending : d.pending with
  | some call => simp [apply, pending] at applied
  | none =>
    simp only [apply, pending, uncalled, answered, writeOf_of_unasked unasked] at applied
    rw [← applied]
    simp [apply, pending]

/-- The same act or, instead of an idle line, the time going on as it does. -/
inductive Hushed : Act → Act → Prop where
  | same (act : Act) : Hushed act act
  | idle (moment : Moment) {line : String} (idle : isIdle line = true) :
      Hushed (.line moment line) (.clock moment.time.milliseconds)

/-- The same answer or, instead of the answer to an idle line, none. -/
inductive Omits : Act × Option Json → Act × Option Json → Prop where
  | same (told : Act × Option Json) : Omits told told
  | idle (moment : Moment) {line : String} (answer : Option Json) (idle : isIdle line = true) :
      Omits (.line moment line, answer) (.clock moment.time.milliseconds, none)

namespace Talk

variable {t t' : Talk} {act act' : Act} {said : Option Json} {acts acts' : List Act} {answers : List (Option Json)}

theorem apply_idle {moment : Moment} {line : String} (idle : isIdle line = true)
    (applied : t.apply (.line moment line) = some (said, t')) :
    t.apply (.clock moment.time.milliseconds) = some (none, t') := by
  obtain ⟨-, desk, taken, -, rfl⟩ := apply_line applied
  simp only [apply, Desk.apply_idle idle taken, Option.map_some]

theorem apply_hushed (hushed : Hushed act act') (applied : t.apply act = some (said, t')) :
    ∃ said', t.apply act' = some (said', t') ∧ Omits (act, said) (act', said') := by
  cases hushed with
  | same => exact ⟨said, applied, .same _⟩
  | idle moment idle => exact ⟨none, apply_idle idle applied, .idle moment said idle⟩

theorem run_hushed (hushed : List.Forall₂ Hushed acts acts') (ran : run acts t = some (answers, t')) :
    ∃ answers', run acts' t = some (answers', t') ∧ List.Forall₂ Omits (acts.zip answers) (acts'.zip answers') := by
  induction hushed generalizing t answers with
  | nil =>
    cases ran
    exact ⟨[], rfl, .nil⟩
  | cons here later ih =>
    obtain ⟨said, next, rest, rfl, applied, ran⟩ := run_cons ran
    obtain ⟨said', applied', omits⟩ := apply_hushed here applied
    obtain ⟨rest', ran', all⟩ := ih ran
    exact ⟨said' :: rest', run_of_cons applied' ran', .cons omits all⟩

end Talk

/-- Whatever is said to the console, and however its restores run on meanwhile: the lines are answered one by one, and
without some of the idle lines, whichever, the other lines are answered as they were and leave the same desk: the same
topics, the same sessions, and the same id to come. -/
theorem idle_lines_leave_no_trace {settings : Settings} {acts : List Act} {answers : List (Option Json)} {t : Talk}
    (ran : Talk.run acts (.opened settings) = some (answers, t)) :
    (∀ k, ∃ t', Talk.run (acts.take k) (.opened settings) = some (answers.take k, t') ∧
      Talk.Answered (acts.take k) (answers.take k) t') ∧
    ∀ acts', List.Forall₂ Hushed acts acts' → ∃ answers', Talk.run acts' (.opened settings) = some (answers', t) ∧
      List.Forall₂ Omits (acts.zip answers) (acts'.zip answers') := by
  constructor
  · intro k
    obtain ⟨t', ran'⟩ := Talk.run_take ran k
    exact ⟨t', ran', Talk.answered_of_run ran'⟩
  · intro acts' hushed
    exact Talk.run_hushed hushed ran

def Act.hush : Act → Act
  | .line moment text => if isIdle text then .clock moment.time.milliseconds else .line moment text
  | act => act

theorem Act.hushed (act : Act) : Hushed act act.hush := by
  cases act with
  | line moment text =>
    by_cases idle : isIdle text = true
    · simp only [hush, if_pos idle]
      exact .idle moment idle
    · simp only [hush, if_neg idle]
      exact .same _
  | _ => exact .same _

def chattyMorning : List Act :=
  [.line (morning 0) "[\"put\",\"a\",null,null,\"Person\",\"p1\",[7]]", .line (morning 1) "list",
    .line (morning 2) "[\"restore\",\"a\"]"] ++ List.replicate 6 .advance ++
  [.work false 0, .advance, .line (morning 3) "[\"status\",\"a\"]", .line (morning 4) " ",
    .line (morning 5) "[\"restore\",\"b\",\"7\"]", .line (morning 6) "[\"delete\",\"a\",null,null,\"Person\",\"p1\",null]"]

theorem four_of_seven_lines_are_idle : ∃ answers answers' t,
    Talk.run chattyMorning (.opened oneTopic) = some (answers, t) ∧
      Talk.run (chattyMorning.map Act.hush) (.opened oneTopic) = some (answers', t) ∧
      List.Forall₂ Omits (chattyMorning.zip answers) ((chattyMorning.map Act.hush).zip answers') ∧
      Talk.Answered chattyMorning answers t ∧ answers.countP Option.isSome = 6 ∧ answers'.countP Option.isSome = 3 := by
  have chatty : (Talk.run chattyMorning (.opened oneTopic)).map (fun r => r.1.countP Option.isSome) = some 6 := by
    decide +kernel
  have quiet : (Talk.run (chattyMorning.map Act.hush) (.opened oneTopic)).map (fun r => r.1.countP Option.isSome) =
      some 3 := by
    decide +kernel
  obtain ⟨⟨answers, t⟩, ran, six⟩ := Option.map_eq_some_iff.mp chatty
  obtain ⟨-, hush⟩ := idle_lines_leave_no_trace ran
  have hushed : List.Forall₂ Hushed chattyMorning (chattyMorning.map Act.hush) :=
    List.forall₂_map_right_iff.mpr (List.forall₂_same.mpr fun act _ => act.hushed)
  obtain ⟨answers', ran', omits⟩ := hush _ hushed
  rw [ran'] at quiet
  exact ⟨answers, answers', t, ran, ran', omits, Talk.answered_of_run ran, six, Option.some.inj quiet⟩

end Journal.Console
