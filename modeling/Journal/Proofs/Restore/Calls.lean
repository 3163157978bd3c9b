import Journal.Proofs.Restore.Tending

/-!
One call among all the others. A move is a step of the call, which takes one of its turns, or it leaves the call where
it is. The notes on a session are made once and stay, and a call changes no session but those that it has made.
-/
namespace Journal
namespace Chronicle

variable {c c' : Chronicle} {move : Move} {moves : List Move} {id : CallId} {call : StartCall} {n : Nat}

theorem run_append (earlier later : List Move) (c : Chronicle) :
    run (earlier ++ later) c = (run earlier c).bind (run later) := by
  induction earlier generalizing c with
  | nil => rfl
  | cons move earlier ih =>
    simp only [List.cons_append, run, Option.bind_assoc]
    congr 1
    funext next
    exact ih next

theorem run_snoc (h : run moves c = some c') (made : c'.apply move = some call') :
    run (moves ++ [move]) c = some call' := by
  simp [run_append, h, run, made]

theorem run_of_snoc (h : run (moves ++ [move]) c = some c') :
    ∃ last, run moves c = some last ∧ last.apply move = some c' := by
  rw [run_append] at h
  obtain ⟨last, went, made⟩ := Option.bind_eq_some_iff.mp h
  exact ⟨last, went, by simpa [run] using made⟩

theorem extends_run (went : run moves c = some c') : c.system.Extends c'.system :=
  run_keeps (P := fun c' => c.system.Extends c'.system) (fun _ _ _ extended made => extended.trans (apply_extends made))
    (System.Steady.refl _).toExtends went

theorem onward_run (went : run moves c = some c') : Onward c c' := by
  refine run_keeps (P := Onward c) ?_ (fun n s session => ⟨s, session, .refl s⟩) went
  intro before move after passed made n s session
  obtain ⟨t, found, first⟩ := passed n s session
  obtain ⟨u, found', second⟩ := onward (apply_effect made) n t found
  exact ⟨u, found', second.source.trans first.source, second.started ∘ first.started, second.done ∘ first.done,
    second.born ∘ first.born⟩

inductive CallPassage (c c' : Chronicle) (move : Move) (id : CallId) (call : StartCall) : Prop where
  | rests (idle : c.actor? move ≠ some (.call id)) (current' : c'.call? id = some call)
  | steps (origin : Origin) (phase : StartPhase) (sys : System) (actor : c.actor? move = some (.call id))
      (turn : System.CallTurn origin call c.system phase sys) (current' : c'.call? id = some { call with phase })
      (sessions : c'.system.sessions = sys.sessions) (slots : c'.system.slots = sys.slots)
      (notes : c'.notes = c.notes.follow id call { call with phase } c.system sys)

theorem call_passage (effect : Effect move c c') (current : c.call? id = some call) : CallPassage c c' move id call := by
  have idle : c.actor? move = none → c.actor? move ≠ some (.call id) := by simp +contextual
  cases effect with
  | aside frame _ _ _ none => exact .rests (idle none) (by rw [frame.calls, current])
  | created _ _ _ _ _ _ calls _ _ _ none => exact .rests (idle none) (by rw [calls, current])
  | stopped _ _ frame _ _ _ _ asked => exact .rests (idle (actor_of_stops asked)) (by rw [frame.calls, current])
  | turned _ _ _ _ _ frame _ _ _ _ _ _ actor => exact .rests (by simp [actor]) (by rw [frame.calls, current])
  | skipped _ _ frame _ _ _ _ _ _ _ outside | spawned _ _ _ frame _ _ _ _ _ _ _ _ outside
  | refused _ _ _ frame _ _ _ _ _ _ _ outside =>
    exact .rests (idle (by rw [outside]; rfl)) (by rw [frame.calls, current])
  | called other source bounds fresh calls _ _ _ _ _ _ none =>
    have different : id ≠ other := by
      rintro rfl
      rw [current] at fresh
      cases fresh
    exact .rests (idle none) (by rw [calls, Function.update_of_ne different, current])
  | stepped origin other call' phase sys current' turn calls sessions slots workers reports notes actor =>
    by_cases here : id = other
    · subst here
      obtain rfl : call = call' := Option.some.inj (current.symm.trans current')
      exact .steps origin phase sys actor turn (by rw [calls, Function.update_self]) sessions slots notes
    · refine .rests ?_ (by rw [calls, Function.update_of_ne here, current])
      rw [actor]
      rintro ⟨⟩
      exact here rfl

theorem call_new (effect : Effect move c c') (absent : c.call? id = none) (current' : c'.call? id = some call) :
    call.phase = .looking := by
  have stranger : c'.call? = c.call? → call.phase = .looking := by
    intro calls
    rw [calls, absent] at current'
    cases current'
  cases effect with
  | aside frame | stopped _ _ frame | turned _ _ _ _ _ frame | skipped _ _ frame | spawned _ _ _ frame
  | refused _ _ _ frame => exact stranger frame.calls
  | created _ _ _ _ _ _ calls => exact stranger calls
  | called other source bounds fresh calls =>
    rw [calls] at current'
    rcases found_moved current' with ⟨-, rfl⟩ | ⟨-, there⟩
    · rfl
    · rw [absent] at there
      cases there
  | stepped origin other call' phase sys current turn calls =>
    have different : id ≠ other := by
      rintro rfl
      rw [current] at absent
      cases absent
    rw [calls, Function.update_of_ne different, absent] at current'
    cases current'

theorem call_stays (effect : Effect move c c') (present : (c.call? id).isSome = true) : (c'.call? id).isSome = true := by
  obtain ⟨call, current⟩ := Option.isSome_iff_exists.mp present
  cases call_passage effect current with
  | rests _ current' => simp [current']
  | steps _ _ _ _ _ current' => simp [current']

theorem call_run (present : (c.call? id).isSome = true) (went : run moves c = some c') : (c'.call? id).isSome = true :=
  run_keeps (P := fun c => (c.call? id).isSome = true) (fun _ _ _ there made => call_stays (apply_effect made) there)
    present went

theorem asked_run {call' : StartCall} (current : c.call? id = some call) (current' : c'.call? id = some call')
    (went : run moves c = some c') : call'.source = call.source ∧ call'.bounds = call.bounds := by
  have asked : ∃ last, c'.call? id = some last ∧ last.source = call.source ∧ last.bounds = call.bounds := by
    refine run_keeps (P := fun c => ∃ last, c.call? id = some last ∧ last.source = call.source ∧ last.bounds = call.bounds)
      ?_ ⟨call, current, rfl, rfl⟩ went
    rintro x move x' ⟨last, there, same⟩ made
    cases call_passage (apply_effect made) there with
    | rests _ next => exact ⟨last, next, same⟩
    | steps _ _ _ _ _ next => exact ⟨_, next, same⟩
  obtain ⟨last, there, same⟩ := asked
  rwa [Option.some.inj (current'.symm.trans there)]

theorem noted_once (effect : Effect move c c') (inside : n < c.system.sessions.length) :
    c'.notes.maker n = c.notes.maker n ∧ c'.notes.ground n = c.notes.ground n := by
  cases effect with
  | aside frame | stopped _ _ frame | turned _ _ _ _ _ frame | skipped _ _ frame | spawned _ _ _ frame
  | refused _ _ _ frame => exact frame.noted n
  | called _ _ _ _ _ _ _ _ _ agree => exact ⟨by rw [agree.maker], by rw [agree.ground]⟩
  | created _ _ _ _ _ _ _ _ _ agree =>
    refine ⟨by rw [agree.maker]; rfl, ?_⟩
    rw [agree.ground]
    exact Function.update_of_ne (Nat.ne_of_lt inside) ..
  | stepped origin id call phase sys current turn calls sessions slots workers reports notes =>
    have other : n ≠ c.system.sessions.length := Nat.ne_of_lt inside
    have same : (∀ observed m, phase ≠ .installing observed m) → c'.notes.maker n = c.notes.maker n ∧
        c'.notes.ground n = c.notes.ground n := by
      intro apart
      rw [notes]
      unfold Notes.follow
      split
      · exact ⟨rfl, rfl⟩
      · rename_i made
        exact absurd made (apart _ _)
      all_goals exact ⟨rfl, rfl⟩
    cases turn with
    | create observed newest reading =>
      simp only [notes, Notes.follow, reading]
      exact ⟨Function.update_of_ne other .., Function.update_of_ne other ..⟩
    | _ => exact same (by simp)

theorem maker_run (present : (c.system.session? n).isSome = true) (went : run moves c = some c') :
    c'.notes.maker n = c.notes.maker n := by
  have both : ∀ (x : Chronicle) (move : Move) (x' : Chronicle),
      ((x.system.session? n).isSome = true ∧ x.notes.maker n = c.notes.maker n) →
      x.apply move = some x' → (x'.system.session? n).isSome = true ∧ x'.notes.maker n = c.notes.maker n := by
    intro x move x' ⟨here, same⟩ made
    obtain ⟨s, session⟩ := Option.isSome_iff_exists.mp here
    have inside : n < x.system.sessions.length := (List.getElem?_eq_some_iff.mp session).1
    obtain ⟨t, found, -⟩ := onward (apply_effect made) n s session
    exact ⟨by rw [found]; rfl, ((noted_once (apply_effect made) inside).1).trans same⟩
  exact (run_keeps both ⟨present, rfl⟩ went).2

theorem maker_stays (orderly : c.Orderly) (effect : Effect move c c') (made : c.notes.maker n = some id) :
    c'.notes.maker n = some id := by
  have inside := orderly.made (by rw [made]; rfl)
  rw [(noted_once effect inside).1, made]

theorem maker_new (effect : Effect move c c') (made : c'.notes.maker n = some id) (before : c.notes.maker n ≠ some id) :
    n = c.system.sessions.length ∧ ∃ (call : StartCall) (observed : Option Nat) (inquiry : Inquiry),
      c.call? id = some call ∧ call.phase = .reading observed inquiry ∧
      c'.call? id = some { call with phase := .installing observed n } := by
  cases effect with
  | aside frame | stopped _ _ frame | turned _ _ _ _ _ frame | skipped _ _ frame | spawned _ _ _ frame
  | refused _ _ _ frame => exact absurd ((frame.noted n).1 ▸ made) before
  | called _ _ _ _ _ _ _ _ _ agree | created _ _ _ _ _ _ _ _ _ agree => exact absurd (agree.maker ▸ made) before
  | stepped origin other call phase sys current turn calls sessions slots workers reports notes =>
    have same : (∀ observed m, phase ≠ .installing observed m) → c'.notes.maker n = c.notes.maker n := by
      intro apart
      rw [notes]
      unfold Notes.follow
      split
      · rfl
      · rename_i made
        exact absurd made (apart _ _)
      all_goals rfl
    cases turn with
    | create observed newest reading =>
      by_cases here : n = c.system.sessions.length
      · subst here
        have own : c'.notes.maker c.system.sessions.length = some other := by
          simp only [notes, Notes.follow, reading, Function.update_self]
        obtain rfl : other = id := Option.some.inj (own.symm.trans made)
        exact ⟨rfl, call, observed, _, current, reading, by rw [calls, Function.update_self]⟩
      · refine absurd ?_ before
        rw [← made]
        simp only [notes, Notes.follow, reading, Function.update_of_ne here]
    | _ => exact absurd ((same (by simp)) ▸ made) before

def Credited (c : Chronicle) : Prop := ∀ (n : Nat) (id : CallId), c.notes.maker n = some id → (c.call? id).isSome = true

theorem credited_step (credited : c.Credited) (effect : Effect move c c') : c'.Credited := by
  intro n id made
  by_cases before : c.notes.maker n = some id
  · exact call_stays effect (credited n id before)
  · obtain ⟨-, call, observed, inquiry, -, -, current'⟩ := maker_new effect made before
    simp [current']

theorem credited_after {settings : Settings} {executor : Executor} {script : Script}
    (h : run moves (opened settings executor script) = some c) : c.Credited :=
  run_keeps (P := Credited) (fun _ _ _ credited made => credited_step credited (apply_effect made))
    (fun _ _ made => absurd made (by simp [opened])) h

/-- A session that holds a slot has held it since an earlier moment, or was installed after that moment. -/
def Since (look c : Chronicle) : Prop :=
  (∀ m, m ∈ look.notes.installed → m ∈ c.notes.installed) ∧
    ∀ (source : String) (m : Nat), c.system.slots.get? source = some m →
      look.system.slots.get? source = some m ∨ m ∉ look.notes.installed

theorem since_step {look : Chronicle} (orderly : c.Orderly) (since : Since look c) (effect : Effect move c c') :
    Since look c' := by
  obtain ⟨installed, held⟩ := since
  refine ⟨fun m member => (follows orderly effect).installed.subset (installed m member), ?_⟩
  intro source m slot
  have same : c'.system.slots = c.system.slots → look.system.slots.get? source = some m ∨ m ∉ look.notes.installed :=
    fun slots => held source m (slots ▸ slot)
  cases effect with
  | aside frame | stopped _ _ frame | turned _ _ _ _ _ frame | skipped _ _ frame | spawned _ _ _ frame
  | refused _ _ _ frame => exact same frame.slots
  | called _ _ _ _ _ slots | created _ _ _ _ _ slots => exact same slots
  | stepped origin id call phase sys current turn calls sessions slots =>
    cases turn with
    | win observed candidate installing free =>
      rw [slots] at slot
      by_cases here : source = call.source
      · subst here
        simp only [System.report, Table.get?_insert_self, Option.some.injEq] at slot
        subst slot
        have apt := orderly.apt current
        rw [installing] at apt
        exact .inr fun member => apt.2.2.1 (installed _ member)
      · simp only [System.report, Table.get?_insert_other here] at slot
        exact held source m slot
    | read _ _ _ _ _ asked => exact same (slots.trans (System.inquire_spec asked).1.slots)
    | spawn _ _ _ _ _ _ opened => exact same (slots.trans (System.subscribeFrom_spec opened).1.slots)
    | refuse _ _ _ _ _ _ failed => exact same (slots.trans (System.subscribeFrom_spec failed).1.slots)
    | _ => exact same slots

theorem since_run {look : Chronicle} (tended : look.Tended) (went : run moves look = some c) : Since look c := by
  have both : ∀ c move c', c.Tended ∧ Since look c → c.apply move = some c' → c'.Tended ∧ Since look c' :=
    fun c move c' ⟨tended, since⟩ made =>
      ⟨tended_step tended (apply_effect made), since_step tended.sound.1 since (apply_effect made)⟩
  exact (run_keeps both ⟨tended, fun _ member => member, fun _ _ slot => .inl slot⟩ went).2

theorem call_leaves_others (orderly : c.Orderly) (effect : Effect move c c') (current : c.call? id = some call)
    (actor : c.actor? move = some (.call id)) (other : c'.notes.maker n ≠ some id) :
    c'.system.session? n = c.system.session? n := by
  cases call_passage effect current with
  | rests idle => exact absurd actor idle
  | steps origin phase sys _ turn current' sessions slots notes =>
    have stranger : c.notes.maker n ≠ some id := fun made => other (maker_stays orderly effect made)
    have apt := orderly.apt current
    have apart : ∀ (m : Nat) (s' : Session), c.notes.maker m = some id →
        (c.system.sessions.set m s')[n]? = c.system.session? n := by
      intro m s' made
      have different : m ≠ n := by
        rintro rfl
        exact stranger made
      rw [List.getElem?_set_ne different]
      rfl
    rw [System.session?, sessions]
    cases turn with
    | read _ _ _ _ _ asked => rw [(System.inquire_spec asked).1.sessions]; rfl
    | create observed newest reading =>
      have different : n ≠ c.system.sessions.length := by
        rintro rfl
        apply other
        simp only [notes, Notes.follow, reading, Function.update_self]
      exact getElem?_snoc_other different
    | skip m s starting | claim m s starting =>
      rw [starting] at apt
      exact apart m _ apt.1
    | spawn m s subscription sys' opening found opened =>
      rw [opening] at apt
      simp only [(System.subscribeFrom_spec opened).1.setSession_sessions]
      exact apart m _ apt.1
    | refuse m s error sys' opening found failed =>
      rw [opening] at apt
      simp only [System.report, (System.subscribeFrom_spec failed).1.setSession_sessions]
      exact apart m _ apt.1
    | _ => rfl

end Chronicle
end Journal
