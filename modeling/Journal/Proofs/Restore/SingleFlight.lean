import Journal.Proofs.Restore.Flight

/-!
Of the sessions that calls make for one source at most one runs at a time, and it holds the slot of the source.
The statements are about every run: any number of calls, starts from outside, stops, workers, publishes and outages,
which may follow one another in any order between two steps of a call.
-/
namespace Journal

def Session.Runs (s : Session) : Prop := s.started = true ∧ s.done = false

structure Session.Persists (s s' : Session) : Prop where
  source : s'.source = s.source
  started : s.started = true → s'.started = true
  done : s.done = true → s'.done = true
  born : s.worker ≠ .unborn → s'.worker ≠ .unborn

theorem Session.Persists.refl (s : Session) : s.Persists s := ⟨rfl, fun h => h, fun h => h, fun h => h⟩

theorem Session.Continues.persists {s s' : Session} (continues : s.Continues s') : s.Persists s' :=
  ⟨continues.source, fun started => continues.started.trans started, continues.done, continues.born⟩

namespace Chronicle

def Onward (c c' : Chronicle) : Prop :=
  ∀ (n : Nat) (s : Session), c.system.session? n = some s →
    ∃ s' : Session, c'.system.session? n = some s' ∧ s.Persists s'

theorem onward_of_set {sessions sessions' : List Session} {n : Nat} {s s' : Session} (session : sessions[n]? = some s)
    (same : sessions' = sessions.set n s') (persists : s.Persists s') (m : Nat) (t : Session)
    (found : sessions[m]? = some t) : ∃ t' : Session, sessions'[m]? = some t' ∧ t.Persists t' := by
  rw [same]
  rcases getElem?_after_set s' session found with ⟨-, rfl, here⟩ | ⟨-, there⟩
  · exact ⟨s', here, persists⟩
  · exact ⟨t, there, .refl t⟩

theorem onward_of_append {sessions sessions' : List Session} {s : Session} (same : sessions' = sessions ++ [s]) (m : Nat)
    (t : Session) (found : sessions[m]? = some t) : ∃ t' : Session, sessions'[m]? = some t' ∧ t.Persists t' := by
  rw [same]
  exact ⟨t, getElem?_grown found [s], .refl t⟩

theorem onward_of_turn {origin : Origin} {call : StartCall} {sys sys' : System} {phase : StartPhase}
    (turn : System.CallTurn origin call sys phase sys') (m : Nat) (t : Session)
    (found : sys.sessions[m]? = some t) : ∃ t' : Session, sys'.sessions[m]? = some t' ∧ t.Persists t' := by
  cases turn with
  | join | ask | fail | win | lose | again | late | miss => exact ⟨t, found, .refl t⟩
  | read observed inquiry inquiry' sys' reading asked =>
    exact ⟨t, (System.inquire_spec asked).1.sessions ▸ found, .refl t⟩
  | create => exact onward_of_append rfl m t found
  | skip n s starting session =>
    have persists : s.Persists ({ s with started := true }.finish sys.now) :=
      ⟨rfl, fun _ => rfl, fun _ => rfl, fun h => h⟩
    exact onward_of_set session rfl persists m t found
  | claim n s starting session =>
    have persists : s.Persists { s with started := true } := ⟨rfl, fun _ => rfl, fun h => h, fun h => h⟩
    exact onward_of_set session rfl persists m t found
  | spawn n s subscription sys' opening session opened =>
    have set := (System.subscribeFrom_spec opened).1.setSession_sessions n (s.spawn subscription)
    exact onward_of_set session set ⟨rfl, fun h => h, fun h => h, fun _ unborn => by cases unborn⟩ m t found
  | refuse n s error sys' opening session failed =>
    have set := (System.subscribeFrom_spec failed).1.setSession_sessions n (s.failOpening sys.now error).1
    exact onward_of_set session set ⟨rfl, fun h => h, fun _ => rfl, fun h => h⟩ m t found

theorem onward {move : Move} {c c' : Chronicle} (effect : Effect move c c') : Onward c c' := by
  intro m t found
  cases effect with
  | aside _ sessions | called _ _ _ _ _ _ sessions => exact ⟨t, by rw [System.session?, sessions]; exact found, .refl t⟩
  | created _ _ _ _ sessions => exact onward_of_append sessions m t found
  | stopped n s _ session sessions => exact onward_of_set session sessions s.stop_continues.persists m t found
  | turned k n s s' events _ _ session turn sessions =>
    exact onward_of_set session sessions (Session.turn_continues turn).persists m t found
  | skipped n s _ _ session _ _ sessions =>
    exact onward_of_set session sessions ⟨rfl, fun _ => rfl, fun _ => rfl, fun h => h⟩ m t found
  | spawned n s _ _ _ session _ _ sessions =>
    exact onward_of_set session sessions ⟨rfl, fun _ => rfl, fun h => h, fun _ unborn => by cases unborn⟩ m t found
  | refused n s _ _ _ session _ _ sessions =>
    exact onward_of_set session sessions ⟨rfl, fun _ => rfl, fun _ => rfl, fun h => h⟩ m t found
  | stepped _ _ _ _ sys _ turn _ sessions =>
    rw [System.session?, sessions]
    exact onward_of_turn turn m t found

structure Crewed (sessions : List Session) (tasks : List Task) : Prop where
  once : ∀ {k l n : Nat}, tasks[k]? = some (.worker n) → tasks[l]? = some (.worker n) → k = l
  born : ∀ {k n : Nat}, tasks[k]? = some (.worker n) → ∃ s : Session, sessions[n]? = some s ∧ s.worker ≠ .unborn

theorem crewed_onward {sessions sessions' : List Session} {tasks tasks' : List Task} (crewed : Crewed sessions tasks)
    (workers : ∀ k n : Nat, tasks'[k]? = some (.worker n) ↔ tasks[k]? = some (.worker n))
    (onward : ∀ (m : Nat) (t : Session), sessions[m]? = some t →
      ∃ t' : Session, sessions'[m]? = some t' ∧ t.Persists t') : Crewed sessions' tasks' where
  once := fun first second => crewed.once ((workers _ _).mp first) ((workers _ _).mp second)
  born := fun task => by
    obtain ⟨s, session, born⟩ := crewed.born ((workers _ _).mp task)
    obtain ⟨s', session', persists⟩ := onward _ s session
    exact ⟨s', session', persists.born born⟩

theorem crewed_spawn {sessions sessions' : List Session} {tasks : List Task} (crewed : Crewed sessions tasks) {n : Nat}
    {s s' : Session} (session : sessions[n]? = some s) (same : sessions' = sessions.set n s')
    (unborn : s.worker = .unborn) (born : s'.worker ≠ .unborn) (persists : s.Persists s') :
    Crewed sessions' (tasks ++ [.worker n]) := by
  have absent : ∀ k : Nat, tasks[k]? ≠ some (.worker n) := by
    intro k task
    obtain ⟨t, found, awake⟩ := crewed.born task
    rw [session] at found
    cases found
    exact awake unborn
  have either : ∀ {k m : Nat}, (tasks ++ [Task.worker n])[k]? = some (.worker m) →
      tasks[k]? = some (.worker m) ∧ m ≠ n ∨ k = tasks.length ∧ m = n := by
    intro k m task
    rcases getElem?_snoc_cases task with before | ⟨last, same⟩
    · exact .inl ⟨before, by rintro rfl; exact absent k before⟩
    · cases same
      exact .inr ⟨last, rfl⟩
  constructor
  · intro k l m first second
    rcases either first with ⟨before, other⟩ | ⟨here, same⟩ <;> rcases either second with ⟨before', other'⟩ | ⟨here', same'⟩
    · exact crewed.once before before'
    · exact absurd same' other
    · exact absurd same other'
    · exact here.trans here'.symm
  · intro k m task
    rcases either task with ⟨before, -⟩ | ⟨-, rfl⟩
    · obtain ⟨t, found, awake⟩ := crewed.born before
      obtain ⟨t', found', persists⟩ := onward_of_set session same persists m t found
      exact ⟨t', found', persists.born awake⟩
    · rw [same]
      exact ⟨s', List.getElem?_set_self (List.getElem?_eq_some_iff.mp session).1, born⟩

theorem crewed_turn {origin : Origin} {c : Chronicle} {id : CallId} {call : StartCall} {phase : StartPhase}
    {sys : System} (orderly : c.Orderly) (crewed : Crewed c.system.sessions c.system.tasks)
    (current : c.call? id = some call) (turn : System.CallTurn origin call c.system phase sys) :
    Crewed sys.sessions sys.tasks := by
  have onward := onward_of_turn turn
  cases turn with
  | spawn n s subscription sys' opening session opened =>
    obtain ⟨keeps, -⟩ := System.subscribeFrom_spec opened
    have apt := orderly.apt current
    rw [opening] at apt
    obtain ⟨-, -, t, found, -, -, unborn⟩ := apt
    rw [System.session?, found] at session
    cases session
    have same : sys'.sessions.set n (s.spawn subscription) = c.system.sessions.set n (s.spawn subscription) := by
      rw [keeps.sessions]
    simp only [keeps.tasks]
    exact crewed_spawn crewed found same unborn (by rintro ⟨⟩)
      ⟨rfl, fun h => h, fun h => h, fun _ unborn => by cases unborn⟩
  | read observed inquiry inquiry' sys' reading asked =>
    exact crewed_onward crewed (fun k n => by rw [(System.inquire_spec asked).1.tasks]) onward
  | refuse n s error sys' opening session failed =>
    refine crewed_onward crewed (fun k n => ?_) onward
    simp only [System.report, System.setSession, (System.subscribeFrom_spec failed).1.tasks]
  | _ => exact crewed_onward crewed (fun k n => Iff.rfl) onward

theorem crewed_step {move : Move} {c c' : Chronicle} (orderly : c.Orderly) (crewed : Crewed c.system.sessions c.system.tasks)
    (effect : Effect move c c') : Crewed c'.system.sessions c'.system.tasks := by
  have onward := onward effect
  cases effect with
  | aside _ _ workers | called _ _ _ _ _ _ _ workers | created _ _ _ _ _ _ _ workers | stopped _ _ _ _ _ workers
  | turned _ _ _ _ _ _ _ _ _ _ workers | skipped _ _ _ _ _ _ _ _ workers | refused _ _ _ _ _ _ _ _ _ workers =>
    exact crewed_onward crewed workers onward
  | spawned n s subscription frame access session unclaimed something sessions plain tasks =>
    rw [tasks]
    exact crewed_spawn crewed session sessions (orderly.unborn_of_unclaimed session unclaimed) (by rintro ⟨⟩)
      ⟨rfl, fun _ => rfl, fun h => h, fun _ unborn => by cases unborn⟩
  | stepped origin id call phase sys current turn calls sessions slots workers =>
    rw [sessions]
    exact crewed_onward (crewed_turn orderly crewed current turn) workers (fun m t found => ⟨t, found, .refl t⟩)

/-- What holds at every moment. A session that a call made is known by its maker. -/
structure SingleFlight (c : Chronicle) : Prop where
  running : ∀ {n : Nat} {s : Session}, (c.notes.maker n).isSome = true → c.system.session? n = some s → s.Runs →
    c.system.slots.get? s.source = some n ∧
      ∀ {m : Nat} {t : Session}, (c.notes.maker m).isSome = true → c.system.session? m = some t → t.Runs →
        t.source = s.source → m = n
  occupant : ∀ {source : String} {n : Nat}, c.system.slots.get? source = some n → n ∈ c.notes.installed ∧
    ∃ s : Session, c.system.session? n = some s ∧ s.source = source
  started : ∀ {n : Nat} {s : Session}, (c.notes.maker n).isSome = true → c.system.session? n = some s →
    s.started = true → n ∈ c.notes.installed
  once : ∀ {n : Nat}, n ∈ c.notes.installed → c.notes.begun.count n = 1 ∨ c.notes.begun.count n = 0 ∧
    ∃ (id : CallId) (call : StartCall), c.notes.maker n = some id ∧ c.call? id = some call ∧ call.phase = .starting n
  begun : ∀ {n : Nat}, n ∈ c.notes.begun → n ∈ c.notes.installed ∧ ∃ s, c.system.session? n = some s ∧ s.started = true
  worker : Crewed c.system.sessions c.system.tasks
  loser : ∀ {n : Nat}, n ∈ c.notes.lost → n ∉ c.notes.installed ∧
    (∃ s : Session, c.system.session? n = some s ∧ s.started = false ∧ s.worker = .unborn) ∧
    (∀ source, c.system.slots.get? source ≠ some n) ∧
    ∀ (id : CallId) (call : StartCall), c.call? id = some call → call.phase ≠ .returned (.ok n)
  decided : ∀ {n : Nat}, (c.notes.maker n).isSome = true → n ∈ c.notes.installed ∨ n ∈ c.notes.lost ∨
    ∃ (id : CallId) (call : StartCall), c.call? id = some call ∧ ∃ observed, call.phase = .installing observed n

/-- What one move leaves: slots are never emptied and change only when their session is done. -/
structure Follows (c c' : Chronicle) : Prop where
  slot : ∀ {source : String} {n : Nat}, c.system.slots.get? source = some n →
    ∃ m, c'.system.slots.get? source = some m ∧
      (m = n ∨ ∃ s : Session, c.system.session? n = some s ∧ s.done = true)
  onward : Onward c c'
  installed : c.notes.installed <+: c'.notes.installed
  lost : c.notes.lost <+: c'.notes.lost
  begun : c.notes.begun <+: c'.notes.begun

theorem singleFlight_of_orderly {c : Chronicle} (orderly : c.Orderly) (crewed : Crewed c.system.sessions c.system.tasks) :
    SingleFlight c := by
  have holds : ∀ {n : Nat} {s : Session}, (c.notes.maker n).isSome = true → c.system.session? n = some s → s.Runs →
      c.system.slots.get? s.source = some n := by
    intro n s made session runs
    obtain ⟨-, t, found, kept⟩ := orderly.winner (orderly.claimed session made runs.1)
    rw [System.session?, found] at session
    cases session
    exact kept runs.2
  refine ⟨?_, orderly.stored, fun made session => orderly.claimed session made, ?_, orderly.begun_won, crewed, ?_,
    orderly.decided⟩
  · intro n s made session runs
    refine ⟨holds made session runs, ?_⟩
    intro m t made' session' runs' same
    have there := holds made' session' runs'
    rw [same, holds made session runs] at there
    exact (Option.some.inj there).symm
  · intro n won
    by_cases begun : n ∈ c.notes.begun
    · exact .inl (orderly.begun_once.count.trans (if_pos begun))
    · obtain ⟨id, call, current, starting⟩ := orderly.pending won begun
      have apt := orderly.apt current
      rw [starting] at apt
      exact .inr ⟨List.count_eq_zero_of_not_mem begun, id, call, apt.1, current, starting⟩
  · intro n lost
    obtain ⟨notWon, made⟩ := orderly.beaten lost
    have inside := orderly.made made
    have session : c.system.sessions[n]? = some c.system.sessions[n] := List.getElem?_eq_getElem inside
    have unclaimed : c.system.sessions[n].started = false := by
      cases started : c.system.sessions[n].started with
      | false => rfl
      | true => exact absurd (orderly.claimed session made started) notWon
    refine ⟨notWon, ⟨_, session, unclaimed, orderly.unborn_of_unclaimed session unclaimed⟩, ?_, ?_⟩
    · intro source held
      exact notWon (orderly.stored held).1
    · intro id call current returned
      have apt := orderly.apt current
      rw [returned] at apt
      exact notWon apt

theorem follow_notes (id : CallId) (call call' : StartCall) (before after : System) (notes : Notes) :
    notes.installed <+: (notes.follow id call call' before after).installed ∧
      notes.lost <+: (notes.follow id call call' before after).lost ∧
      notes.begun <+: (notes.follow id call call' before after).begun := by
  unfold Notes.follow
  split <;> simp [Notes.watch]

theorem turn_slot {origin : Origin} {c : Chronicle} {id : CallId} {call : StartCall} {phase : StartPhase}
    {sys : System} (orderly : c.Orderly) (current : c.call? id = some call)
    (turn : System.CallTurn origin call c.system phase sys) {source : String} {n : Nat}
    (held : c.system.slots.get? source = some n) :
    ∃ m, sys.slots.get? source = some m ∧ (m = n ∨ ∃ s : Session, c.system.session? n = some s ∧ s.done = true) := by
  cases turn with
  | read _ _ _ _ _ asked => exact ⟨n, by rw [(System.inquire_spec asked).1.slots, held], .inl rfl⟩
  | spawn _ _ _ sys' _ _ opened =>
    have same : sys'.slots = c.system.slots := (System.subscribeFrom_spec opened).1.slots
    exact ⟨n, by simp only [System.setSession, same, held], .inl rfl⟩
  | refuse _ _ _ sys' _ _ failed =>
    have same : sys'.slots = c.system.slots := (System.subscribeFrom_spec failed).1.slots
    exact ⟨n, by simp only [System.report, System.setSession, same, held], .inl rfl⟩
  | win observed candidate installing slot =>
    by_cases here : source = call.source
    · subst here
      have apt := orderly.apt current
      rw [installing] at apt
      exact ⟨candidate, by simp [System.report, Table.get?_insert_self], .inr (apt.1 n (slot.symm.trans held))⟩
    · exact ⟨n, by simp [System.report, Table.get?_insert_other here, held], .inl rfl⟩
  | _ => exact ⟨n, held, .inl rfl⟩

theorem follows {move : Move} {c c' : Chronicle} (orderly : c.Orderly) (effect : Effect move c c') : Follows c c' := by
  have onward := onward effect
  have same : c'.system.slots = c.system.slots → Notes.Agree (c.notes.watch c.system c'.system) c'.notes →
      Follows c c' := fun slots agree =>
    ⟨fun held => ⟨_, by rw [slots, held], .inl rfl⟩, onward, agree.installed ▸ List.prefix_rfl,
      agree.lost ▸ List.prefix_rfl, agree.begun ▸ List.prefix_rfl⟩
  cases effect with
  | aside frame | stopped _ _ frame | turned _ _ _ _ _ frame | skipped _ _ frame | spawned _ _ _ frame
  | refused _ _ _ frame => exact same frame.slots frame.notes
  | called _ _ _ _ _ slots _ _ _ agree | created _ _ _ _ _ slots _ _ _ agree =>
    exact ⟨fun held => ⟨_, by rw [slots, held], .inl rfl⟩, onward, agree.installed ▸ List.prefix_rfl,
      agree.lost ▸ List.prefix_rfl, agree.begun ▸ List.prefix_rfl⟩
  | stepped origin id call phase sys current turn calls sessions slots workers reports notes =>
    obtain ⟨installed, lost, begun⟩ := follow_notes id call { call with phase } c.system sys c.notes
    refine ⟨fun held => ?_, onward, notes ▸ installed, notes ▸ lost, notes ▸ begun⟩
    rw [slots]
    exact turn_slot orderly current turn held

def Sound (c : Chronicle) : Prop := c.Orderly ∧ Crewed c.system.sessions c.system.tasks

theorem sound_step {move : Move} {c c' : Chronicle} (sound : Sound c) (effect : Effect move c c') : Sound c' :=
  ⟨orderly_step sound.1 effect, crewed_step sound.1 sound.2 effect⟩

theorem sound_opened (settings : Settings) (executor : Executor) (script : Script) :
    Sound (opened settings executor script) := by
  refine ⟨orderly_opened settings executor script, ?_⟩
  constructor <;> simp [opened, System.ofSettings]

theorem sound_after {settings : Settings} {executor : Executor} {script : Script} {moves : List Move} {c : Chronicle}
    (h : run moves (opened settings executor script) = some c) : Sound c :=
  run_keeps (P := Sound) (fun _ _ _ sound made => sound_step sound (apply_effect made))
    (sound_opened settings executor script) h

/-- At every moment of every run the flights are single, and every move goes on from there. -/
theorem one_restore_runs_for_each_source {settings : Settings} {executor : Executor} {script : Script}
    {moves : List Move} {c : Chronicle} (h : run moves (opened settings executor script) = some c) :
    SingleFlight c ∧ ∀ (move : Move) (c' : Chronicle), c.apply move = some c' → Follows c c' := by
  obtain ⟨orderly, crewed⟩ := sound_after h
  exact ⟨singleFlight_of_orderly orderly crewed, fun move c' made => follows orderly (apply_effect made)⟩

def race : List Move := [.call none {}, .spawn none {}, .advance 0, .run true 0, .advance 0, .run true 0, .advance 0,
  .run true 0, .advance 0, .run true 0]

theorem one_restore_runs_when_two_calls_race : ∃ c : Chronicle, run race (opened {} .logging {}) = some c ∧
    c.notes.installed = [0] ∧ c.notes.lost = [1] ∧ SingleFlight c := by
  have race_ends : (run race (opened {} .logging {})).map (fun c => (c.notes.installed, c.notes.lost)) =
      some ([0], [1]) := rfl
  obtain ⟨c, ran, noted⟩ := Option.map_eq_some_iff.mp race_ends
  obtain ⟨won, lost⟩ := Prod.mk.inj noted
  exact ⟨c, ran, won, lost, (one_restore_runs_for_each_source ran).1⟩

end Chronicle
end Journal
