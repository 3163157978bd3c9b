import Journal.Proofs.Console.Talk

/-!
The console as its program runs it. A line is answered at once, a restore line with all the steps of its call, and after
each line the workers go on as long as they can. All of this is what may happen at a desk, so the restores of the program
are clean as well.
-/
namespace Journal.Console

def converse : List (Moment × String) → Console → Option Console
  | [], c => some c
  | (moment, line) :: later, c => do
    let (_, c) ← c.answer moment line
    converse later c.settle

theorem replies_of_converse {lines : List (Moment × String)} {c console : Console}
    (conversed : converse lines c = some console) : ∃ given, replies lines c = some (given, console) := by
  induction lines generalizing c with
  | nil =>
    cases conversed
    exact ⟨[], rfl⟩
  | cons line later ih =>
    obtain ⟨moment, text⟩ := line
    obtain ⟨⟨answer, console₁⟩, answered, conversed⟩ := Option.bind_eq_some_iff.mp conversed
    obtain ⟨given, replied⟩ := ih conversed
    exact ⟨answer.toList ++ given, by simp [replies, answered, replied]⟩

namespace Talk

variable {t t' : Talk} {said : Option Json} {answers : List (Option Json)}

theorem desk_apply {act : Act} (applied : t.apply act = some (said, t')) :
    t.desk.apply act = some t'.desk ∨ act = .advance ∧ t'.desk = t.desk := by
  cases act with
  | line moment line =>
    obtain ⟨-, desk, taken, -, rfl⟩ := apply_line applied
    exact .inl taken
  | advance =>
    cases due : t.due with
    | some result =>
      simp only [apply, due] at applied
      cases applied
      exact .inr ⟨rfl, rfl⟩
    | none =>
      simp only [apply, due] at applied
      obtain ⟨call, -, applied⟩ := Option.bind_eq_some_iff.mp applied
      obtain ⟨taken, -, applied⟩ := Option.bind_eq_some_iff.mp applied
      obtain ⟨desk, stepped, same⟩ := Option.bind_eq_some_iff.mp applied
      cases same
      exact .inl stepped
  | work stopFirst k =>
    obtain ⟨desk, taken, same⟩ := Option.map_eq_some_iff.mp applied
    cases same
    exact .inl taken
  | clock time =>
    cases applied
    exact .inl rfl

theorem desk_run {acts : List Act} (ran : run acts t = some (answers, t')) :
    ∃ acts', Desk.run acts' t.desk = some t'.desk ∧ acts'.filterMap Act.line? = acts.filterMap Act.line? := by
  induction acts generalizing t answers with
  | nil =>
    cases ran
    exact ⟨[], rfl, rfl⟩
  | cons act later ih =>
    obtain ⟨said, next, rest, rfl, applied, ran⟩ := run_cons ran
    obtain ⟨acts', ran', lines⟩ := ih ran
    rcases desk_apply applied with stepped | ⟨rfl, same⟩
    · refine ⟨act :: acts', by simp [Desk.run, stepped, ran'], ?_⟩
      rw [List.filterMap_cons, List.filterMap_cons, lines]
    · exact ⟨acts', same ▸ ran', lines⟩

end Talk

theorem Act.ordinary_of_line {act : Act} (given : ∀ line ∈ act.line?, (Act.line line.1 line.2).Ordinary) :
    act.Ordinary := by
  cases act with
  | line moment text => exact given (moment, text) rfl
  | _ => trivial

theorem conversations_are_clean {settings : Settings} {lines : List (Moment × String)} {console : Console}
    (ordinary : ∀ line ∈ lines, (Act.line line.1 line.2).Ordinary)
    (conversed : converse lines (.ofSettings settings) = some console) :
    ∃ acts d, Desk.run acts (.opened settings) = some d ∧ d.console = console ∧ acts.filterMap Act.line? = lines ∧
      d.Clean settings acts := by
  obtain ⟨given, replied⟩ := replies_of_converse conversed
  obtain ⟨acts, answers, d, told, -, console', lines', -⟩ :=
    Talk.run_of_replies (Talk.sound_opened settings) rfl replied
  obtain ⟨acts', ran, same⟩ := Talk.desk_run told
  have ordinary' : ∀ act ∈ acts', act.Ordinary := by
    intro act member
    refine Act.ordinary_of_line fun line given => ordinary line ?_
    rw [← lines', ← same]
    exact List.mem_filterMap.mpr ⟨act, member, given⟩
  obtain ⟨c, follows⟩ := follows_run ordinary' (follows_opened settings) ran
  exact ⟨acts', d, ran, console', same.trans lines', clean_of_follows follows⟩

end Journal.Console
