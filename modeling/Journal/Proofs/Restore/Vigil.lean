import Journal.Proofs.Restore.Lifecycle

/-!
Waiting for the end of a session. A wait notes the announcements, tests the flags and parks, in three steps, and any
number of waits may be anywhere between them. The end of a session is two steps as well: its flags are set, and later
those who wait are told. Since a wait notes before it tests and the end is told after it is set, no wait sleeps through
it.
-/
namespace Journal

namespace Session

/-- The end is announced once, with the flags that tell of it. -/
def Heralded (s : Session) : Prop := s.announcements = s.done.toNat

def Heralds (s s' : Session) : Prop :=
  s'.done = s.done ∧ s'.announcements = s.announcements ∨
    s'.done = true ∧ s'.announcements = s.announcements + 1

variable {s s' : Session} {settings : RestoreSettings} {now : Nat} {log : Log} {events : List Event}

theorem proceed_heralds (now : Nat) (subscription : Subscription) (id : Ulid) (s : Session) :
    Heralds s (s.proceed now subscription id).1 := by
  unfold proceed
  split
  · exact .inr ⟨rfl, rfl⟩
  · exact .inl ⟨rfl, rfl⟩

theorem Taken.heralds {policy : UnrecognizedPolicy} {subscription : Subscription} {d : Delivery} {result : Reported}
    (taken : s.Taken policy now subscription d result) : Heralds s result.1 := by
  cases taken with
  | idle | submitted => exact .inl ⟨rfl, rfl⟩
  | failed | pastEnd | pastCeiling | corrupt | refused => exact .inr ⟨rfl, rfl⟩
  | @ignored e => exact proceed_heralds now subscription e.id { s with tally := s.tally.ignore }

theorem turn_heralds (turn : s.Turn settings now log s' events) : Heralds s s' := by
  cases turn with
  | begin | listen => exact .inl ⟨rfl, rfl⟩
  | halt | heed => exact .inr ⟨rfl, rfl⟩
  | receive subscription deadline parked result worker received =>
    rcases receive_cases received with ⟨_, _, _, -, -, taken⟩ | ⟨subscription', -, -, rfl⟩
    · exact taken.heralds
    · exact .inl ⟨rfl, rfl⟩
  | count subscription entry saga op outcome reported worker silent =>
    obtain ⟨tally, event, -, -, after, -⟩ := s.count_spec now subscription entry saga op outcome
    rw [after]
    exact proceed_heralds now subscription entry.id { s with tally }

theorem Heralded.none (heralded : s.Heralded) (going : s.done = false) : s.announcements = 0 := by
  rw [heralded, going]
  rfl

theorem Heralded.one (heralded : s.Heralded) (done : s.done = true) : s.announcements = 1 := by
  rw [heralded, done]
  rfl

theorem Heralded.step (heralded : s.Heralded) (heralds : Heralds s s') (going : s.done = false) : s'.Heralded := by
  unfold Heralded at heralded ⊢
  rcases heralds with ⟨same, none⟩ | ⟨done, one⟩
  · rw [same, none, heralded]
  · rw [done, one, heralded, going]
    rfl

end Session

namespace Life

variable {l l' : Life} {s s' : Session} {action : Action}

theorem change_started (change : Change l s action l' s') (started : s.started = true) : s'.started = true := by
  cases change with
  | aside | late => exact started
  | skip | claim => rfl
  | spawn call | refuse call => exact started
  | stop => rw [(Session.stop_continues s).started, started]
  | turn task stepped => rw [(Session.turn_continues (Session.step_turn stepped)).started, started]
  | @answer outcome _ _ _ _ task worker =>
    have turn : s.Turn l.system.restore l.system.now l.system.log _ _ := Session.count_turn worker outcome
    rw [(Session.turn_continues turn).started, started]

theorem change_heralded (lived : Lived l s) (change : Change l s action l' s') (heralded : s.Heralded) :
    s'.Heralded := by
  have turned {events : List Event} (turn : s.Turn l.system.restore l.system.now l.system.log s' events) :
      s'.Heralded :=
    heralded.step (Session.turn_heralds turn) (lived.consistent.going (Session.turn_alive turn))
  cases change with
  | aside | late | claim | spawn => exact heralded
  | skip unclaimed => exact heralded.step (.inr ⟨rfl, rfl⟩) (lived.consistent.unclaimed unclaimed).1
  | refuse call => exact heralded.step (.inr ⟨rfl, rfl⟩) (lived.resumed call).2.1
  | stop =>
    obtain ⟨_, _, marked⟩ := s.stop_flags
    rw [marked]
    exact heralded
  | turn task stepped => exact turned (Session.step_turn stepped)
  | answer task worker => exact turned (Session.count_turn worker _)

theorem perform_waits (made : l.perform action = some l') (other : ∀ i, action ≠ .wake i) :
    l'.waits = l.waits ∨ l'.waits = l.waits ++ [.asking] := by
  cases action with
  | start =>
    simp only [perform] at made
    split at made <;> cases made <;> exact .inl rfl
  | resume i =>
    simp only [perform] at made
    split at made
    · cases made
      exact .inl rfl
    · cases made
  | wait =>
    cases made
    exact .inr rfl
  | stop | look | surroundings =>
    cases made
    exact .inl rfl
  | wake i => exact absurd rfl (other i)
  | turn stopFirst =>
    obtain ⟨t, -, made⟩ := Option.bind_eq_some_iff.mp made
    obtain ⟨sys, -, made⟩ := Option.bind_eq_some_iff.mp made
    cases made
    exact .inl rfl
  | answer outcome =>
    obtain ⟨sys, -, rfl⟩ := Option.map_eq_some_iff.mp made
    exact .inl rfl

end Life

/-- The life of a session, and how many of its announcements have been made to those who wait. -/
structure Vigil where
  life : Life
  told : Nat := 0

namespace Vigil

inductive Action where
  | live (action : Life.Action)
  | announce

def session? (v : Vigil) : Option Session := v.life.system.session? 0

def wait? (v : Vigil) (i : Nat) : Option Wait := v.life.waits[i]?

def perform (v : Vigil) : Action → Option Vigil
  | .live (.wake i) => do
    let wait ← v.wait? i
    let wait ← wait.step { (← v.session?) with announcements := v.told }
    some { v with life := { v.life with waits := v.life.waits.set i wait } }
  | .live action => (v.life.perform action).map fun life => { v with life }
  | .announce => v.session?.map fun s => { v with told := s.announcements }

def run : List Action → Vigil → Option Vigil
  | [], v => some v
  | action :: later, v => (v.perform action).bind (run later)

def wake (i : Nat) : Action := .live (.wake i)

inductive Step (v : Vigil) (s : Session) : Action → Vigil → Session → Prop where
  | waits {i : Nat} {w w' : Wait} (waiting : v.wait? i = some w)
      (stepped : w.step { s with announcements := v.told } = some w') :
      Step v s (wake i) { v with life := { v.life with waits := v.life.waits.set i w' } } s
  | told : Step v s .announce { v with told := s.announcements } s
  | lived {action : Life.Action} {life : Life} {s' : Session} (made : v.life.perform action = some life)
      (change : Life.Change v.life s action life s') (other : ∀ i, action ≠ .wake i) :
      Step v s (.live action) { v with life } s'

theorem perform_step {v v' : Vigil} {s : Session} {action : Action} (lived : Life.Lived v.life s)
    (made : v.perform action = some v') : ∃ s', Step v s action v' s' ∧ Life.Lived v'.life s' := by
  have outside {action : Life.Action} (other : ∀ i, action ≠ .wake i)
      (made : (v.life.perform action).map (fun life => { v with life }) = some v') :
      ∃ s', Step v s (.live action) v' s' ∧ Life.Lived v'.life s' := by
    obtain ⟨life, performed, rfl⟩ := Option.map_eq_some_iff.mp made
    obtain ⟨s', lived', change, -⟩ := Life.lived_perform lived performed
    exact ⟨s', .lived performed change other, lived'⟩
  cases action with
  | announce =>
    obtain ⟨t, session, rfl⟩ := Option.map_eq_some_iff.mp made
    obtain rfl : s = t := Option.some.inj (lived.session.symm.trans session)
    exact ⟨s, .told, lived⟩
  | live action =>
    cases action with
    | wake i =>
      obtain ⟨w, waiting, made⟩ := Option.bind_eq_some_iff.mp made
      obtain ⟨t, session, made⟩ := Option.bind_eq_some_iff.mp made
      obtain rfl : s = t := Option.some.inj (lived.session.symm.trans session)
      obtain ⟨w', stepped, made⟩ := Option.bind_eq_some_iff.mp made
      cases made
      have change : Life.Change v.life s (.wake i) { v.life with waits := v.life.waits.set i w' } s :=
        .aside ⟨rfl, rfl, rfl, rfl, rfl, rfl, rfl, rfl, rfl⟩ rfl (by simp) (by simp)
      exact ⟨s, .waits waiting stepped, Life.lived_step lived change⟩
    | start | resume | stop | wait | look | turn | answer | surroundings => exact outside (by simp) made

/-- A wait has noted no announcement that was not made. It parks only if it has found the session running, when there
was none. -/
def Sound (told : Nat) (s : Session) : Wait → Prop
  | .asking | .ended => True
  | .noted n => n ≤ told
  | .parked n => n = 0 ∧ s.started = true

structure Kept (v : Vigil) (s : Session) : Prop where
  lived : Life.Lived v.life s
  heralded : s.Heralded
  told : v.told ≤ s.announcements
  sound : ∀ i w, v.wait? i = some w → Sound v.told s w

variable {v v' : Vigil} {s s' : Session} {action : Action} {i : Nat} {w w' : Wait}

theorem sound_step (heralded : s.Heralded) (told : v.told ≤ s.announcements) (sound : Sound v.told s w)
    (stepped : w.step { s with announcements := v.told } = some w') : Sound v.told s w' := by
  cases w with
  | asking =>
    cases stepped
    exact Nat.le_refl v.told
  | noted n =>
    simp only [Wait.step, Option.some.injEq] at stepped
    subst stepped
    split
    · trivial
    · rename_i running
      simp only [Bool.or_eq_true, Bool.not_eq_true', not_or, Bool.not_eq_false, Bool.not_eq_true] at running
      rw [heralded.none running.2] at told
      exact ⟨Nat.le_zero.mp (Nat.le_trans sound told), running.1⟩
  | parked n =>
    simp only [Wait.step] at stepped
    split at stepped <;> cases stepped
    trivial
  | ended => cases stepped

theorem sound_later {told told' : Nat} (sound : Sound told s w) (more : told ≤ told')
    (started : s.started = true → s'.started = true) : Sound told' s' w := by
  cases w with
  | asking | ended => trivial
  | noted n => exact Nat.le_trans sound more
  | parked n => exact ⟨sound.1, started sound.2⟩

theorem wait?_set (waiting : v.wait? i = some w) (w' : Wait) (j : Nat) :
    ({ v with life := { v.life with waits := v.life.waits.set i w' } } : Vigil).wait? j =
      if j = i then some w' else v.wait? j := by
  split
  · rename_i same
    subst same
    exact List.getElem?_set_self (List.getElem?_eq_some_iff.mp waiting).1
  · rename_i other
    exact List.getElem?_set_ne (Ne.symm other)

theorem wait?_lived {action : Life.Action} {life : Life} (made : v.life.perform action = some life)
    (other : ∀ i, action ≠ .wake i) (j : Nat) :
    ({ v with life } : Vigil).wait? j = v.wait? j ∨
      v.wait? j = none ∧ ({ v with life } : Vigil).wait? j = some .asking := by
  rcases Life.perform_waits made other with same | more
  · exact .inl (by simp only [wait?, same])
  · simp only [wait?, more]
    by_cases last : j = v.life.waits.length
    · subst last
      exact .inr ⟨List.getElem?_eq_none (Nat.le_refl _), List.getElem?_concat_length⟩
    · exact .inl (getElem?_snoc_other last)

theorem kept_step (kept : Kept v s) (step : Step v s action v' s') (lived : Life.Lived v'.life s') : Kept v' s' := by
  cases step with
  | @waits i w w' waiting stepped =>
    refine ⟨lived, kept.heralded, kept.told, fun j d found => ?_⟩
    rw [wait?_set waiting] at found
    split at found
    · cases found
      exact sound_step kept.heralded kept.told (kept.sound i w waiting) stepped
    · exact kept.sound j d found
  | told =>
    exact ⟨lived, kept.heralded, Nat.le_refl _, fun j d found =>
      sound_later (kept.sound j d found) kept.told id⟩
  | @lived action life s' made change other =>
    have heralded := Life.change_heralded kept.lived change kept.heralded
    have started := Life.change_started change
    have more : s.announcements ≤ s'.announcements := by
      rw [kept.heralded, heralded]
      cases done : s.done with
      | false => exact Nat.zero_le _
      | true => simp [Life.change_frozen kept.lived done change, done]
    refine ⟨lived, heralded, Nat.le_trans kept.told more, fun j d found => ?_⟩
    rcases wait?_lived made other j with same | ⟨-, asking⟩
    · exact sound_later (kept.sound j d (same ▸ found)) (Nat.le_refl _) started
    · rw [asking] at found
      cases found
      trivial

theorem kept_perform (kept : Kept v s) (made : v.perform action = some v') :
    ∃ s', Step v s action v' s' ∧ Kept v' s' := by
  obtain ⟨s', step, lived⟩ := perform_step kept.lived made
  exact ⟨s', step, kept_step kept step lived⟩

theorem kept_run {actions : List Action} (kept : Kept v s) (ran : run actions v = some v') : ∃ s', Kept v' s' := by
  induction actions generalizing v s with
  | nil =>
    cases ran
    exact ⟨s, kept⟩
  | cons action later ih =>
    obtain ⟨next, made, rest⟩ := Option.bind_eq_some_iff.mp ran
    obtain ⟨t, -, kept'⟩ := kept_perform kept made
    exact ih kept' rest

theorem step_done (kept : Kept v s) (step : Step v s action v' s') (done : s.done = true) : s' = s := by
  cases step with
  | waits | told => rfl
  | lived made change other => exact Life.change_frozen kept.lived done change

theorem parked_step (kept : Kept v s) (step : Step v s action v' s') {n : Nat} (parked : v.wait? i = some (.parked n)) :
    v'.wait? i = some (.parked n) ∨ s'.done = true := by
  cases step with
  | @waits j w w' waiting stepped =>
    rw [wait?_set waiting]
    split
    · rename_i same
      subst same
      obtain rfl := Option.some.inj (parked.symm.trans waiting)
      obtain ⟨rfl, -⟩ : n = 0 ∧ _ := kept.sound i _ parked
      right
      cases done : s.done with
      | true => rfl
      | false =>
        have none : v.told = 0 := Nat.le_zero.mp (kept.heralded.none done ▸ kept.told)
        simp [Wait.step, none] at stepped
    · exact .inl parked
  | told => exact .inl parked
  | lived made change other =>
    rcases wait?_lived made other i with same | ⟨absent, -⟩
    · exact .inl (same.trans parked)
    · rw [parked] at absent
      cases absent

theorem parked_run {later : List Action} (kept : Kept v s) {n : Nat}
    (waits : v.wait? i = some (.parked n) ∨ s.done = true) (ran : run later v = some v') :
    ∃ s', Kept v' s' ∧ (v'.wait? i = some (.parked n) ∨ s'.done = true) := by
  induction later generalizing v s with
  | nil =>
    cases ran
    exact ⟨s, kept, waits⟩
  | cons action later ih =>
    obtain ⟨next, made, rest⟩ := Option.bind_eq_some_iff.mp ran
    obtain ⟨t, step, kept'⟩ := kept_perform kept made
    refine ih kept' ?_ rest
    rcases waits with parked | done
    · exact parked_step kept step parked
    · exact .inr (by rw [step_done kept step done, done])

def stepsLeft : Wait → Nat
  | .parked _ => 3
  | .asking => 2
  | .noted _ => 1
  | .ended => 0

def Action.wakes (i : Nat) : Action → Bool
  | .live (.wake j) => j = i
  | _ => false

structure Released (v : Vigil) (s : Session) (i : Nat) (w : Wait) : Prop where
  kept : Kept v s
  done : s.done = true
  waiting : v.wait? i = some w
  told : ∀ n, w = .parked n → v.told = s.announcements

theorem Released.wait_step (released : Released v s i w) :
    w = .ended ∨ ∃ w', w.step { s with announcements := v.told } = some w' ∧ stepsLeft w' + 1 = stepsLeft w ∧
      ∀ n, w' ≠ .parked n := by
  cases w with
  | ended => exact .inl rfl
  | asking => exact .inr ⟨_, rfl, rfl, by simp⟩
  | noted n =>
    have done := released.done
    exact .inr ⟨.ended, by simp [Wait.step, done], rfl, by simp⟩
  | parked n =>
    obtain ⟨rfl, -⟩ : n = 0 ∧ _ := released.kept.sound i _ released.waiting
    have one : v.told = 1 := by rw [released.told _ rfl, released.kept.heralded.one released.done]
    exact .inr ⟨.asking, by simp [Wait.step, one], rfl, by simp⟩

theorem Released.wake (released : Released v s i w) (going : w ≠ .ended) : ∃ v', v.perform (wake i) = some v' := by
  obtain ⟨w', stepped, -⟩ := released.wait_step.resolve_left going
  refine ⟨{ v with life := { v.life with waits := v.life.waits.set i w' } }, ?_⟩
  have session : v.session? = some s := released.kept.lived.session
  simp [Vigil.wake, perform, released.waiting, session, stepped]

theorem Released.step (released : Released v s i w) (made : v.perform action = some v') :
    ∃ w', Released v' s i w' ∧ stepsLeft w' + (if action.wakes i then 1 else 0) = stepsLeft w := by
  obtain ⟨s', step, kept⟩ := kept_perform released.kept made
  obtain rfl := step_done released.kept step released.done
  cases step with
  | @waits j d d' waiting stepped =>
    by_cases same : j = i
    · subst same
      obtain rfl := Option.some.inj (waiting.symm.trans released.waiting)
      rcases released.wait_step with rfl | ⟨w', stepped', fewer, unparked⟩
      · cases stepped
      · obtain rfl := Option.some.inj (stepped.symm.trans stepped')
        refine ⟨d', ⟨kept, released.done, ?_, fun n parked => absurd parked (unparked n)⟩, ?_⟩
        · rw [wait?_set waiting, if_pos rfl]
        · simpa [Vigil.wake, Action.wakes] using fewer
    · refine ⟨w, ⟨kept, released.done, ?_, released.told⟩, by simp [Vigil.wake, Action.wakes, same]⟩
      rw [wait?_set waiting, if_neg (Ne.symm same)]
      exact released.waiting
  | told => exact ⟨w, ⟨kept, released.done, released.waiting, fun _ _ => rfl⟩, rfl⟩
  | @lived action life _ made' change other =>
    refine ⟨w, ⟨kept, released.done, ?_, released.told⟩, ?_⟩
    · rcases wait?_lived made' other i with same | ⟨absent, -⟩
      · exact same.trans released.waiting
      · rw [released.waiting] at absent
        cases absent
    · have foreign : Action.wakes i (.live action) = false := by
        cases action with
        | wake j => exact absurd rfl (other j)
        | _ => rfl
      simp [foreign]

theorem Released.run {later : List Action} (released : Released v s i w) (ran : run later v = some v') :
    ∃ w', Released v' s i w' ∧ stepsLeft w' + later.countP (Action.wakes i) = stepsLeft w := by
  induction later generalizing v w with
  | nil =>
    cases ran
    exact ⟨w, released, rfl⟩
  | cons action later ih =>
    obtain ⟨next, made, rest⟩ := Option.bind_eq_some_iff.mp ran
    obtain ⟨d, released', one⟩ := released.step made
    obtain ⟨w', released'', more⟩ := ih released' rest
    refine ⟨w', released'', ?_⟩
    rw [List.countP_cons]
    omega

def begun (settings : Settings) (executor : Executor) (script : Script) (now : Nat) (source : String) (bounds : Bounds)
    (newest : Option Entry) : Vigil :=
  { life := .created settings executor script now source bounds newest }

theorem kept_begun (settings : Settings) (executor : Executor) (script : Script) (now : Nat) (source : String)
    (bounds : Bounds) (newest : Option Entry) :
    ∃ s, Kept (begun settings executor script now source bounds newest) s := by
  obtain ⟨s, lived, -⟩ := Life.lived_created settings executor script now source bounds newest
  have session := lived.session
  refine ⟨s, lived, ?_, Nat.zero_le _, fun i w waiting => ?_⟩
  · cases session
    rfl
  · simp [wait?, begun, Life.created] at waiting

theorem run_of_life {actions : List Life.Action} {l l' : Life} {s : Session} (kept : Kept ⟨l, s.announcements⟩ s)
    (ran : Life.run actions l = some l') :
    ∃ s', Kept ⟨l', s'.announcements⟩ s' ∧ run (actions.flatMap fun action => [.live action, .announce])
      ⟨l, s.announcements⟩ = some ⟨l', s'.announcements⟩ := by
  induction actions generalizing l s with
  | nil =>
    cases ran
    exact ⟨s, kept, rfl⟩
  | cons action later ih =>
    obtain ⟨next, made, rest⟩ := Option.bind_eq_some_iff.mp ran
    have live : perform ⟨l, s.announcements⟩ (.live action) = some ⟨next, s.announcements⟩ := by
      cases action with
      | wake i =>
        obtain ⟨w, waiting, made⟩ := Option.bind_eq_some_iff.mp made
        obtain ⟨t, session, made⟩ := Option.bind_eq_some_iff.mp made
        obtain ⟨w', stepped, made⟩ := Option.bind_eq_some_iff.mp made
        cases made
        obtain rfl := Option.some.inj (kept.lived.session.symm.trans session)
        simp [perform, wait?, session?, waiting, session, stepped]
      | _ => simp only [perform, made, Option.map_some]
    obtain ⟨t, -, kept'⟩ := kept_perform kept live
    have announce : perform ⟨next, s.announcements⟩ .announce = some ⟨next, t.announcements⟩ := by
      have session : next.system.session? 0 = some t := kept'.lived.session
      simp [perform, session?, session]
    obtain ⟨s', kept'', ran'⟩ := ih (kept_step kept' (.told) kept'.lived) rest
    refine ⟨s', kept'', ?_⟩
    simp only [List.flatMap_cons, List.cons_append, List.nil_append, run, live, announce, Option.bind_some, ran']

/-- What those who wait can rely on at one moment. -/
structure Reliable (v : Vigil) (s : Session) : Prop where
  session : v.session? = some s
  atOnce : s.started = false ∨ s.done = true → ∃ v',
    run [.live .wait, wake v.life.waits.length, wake v.life.waits.length] v = some v' ∧
      v'.wait? v.life.waits.length = some .ended
  tested : ∀ i n v', v.wait? i = some (.noted n) → v.perform (wake i) = some v' →
    v'.wait? i = some (if s.started = false ∨ s.done = true then .ended else .parked n)
  lasting : ∀ i n, v.wait? i = some (.parked n) → s.started = true ∧
    ∀ later v', run later v = some v' → v'.wait? i = some .ended → ∃ s', v'.session? = some s' ∧ s'.done = true
  woken : s.done = true → ∀ i n, v.wait? i = some (.parked n) →
    v.told < s.announcements ∨ ∃ v', v.perform (wake i) = some v'
  ends : s.done = true → ∀ i w, v.wait? i = some w → (∀ n, w = .parked n → v.told = s.announcements) →
    ∀ later v', run later v = some v' → ∃ w', v'.wait? i = some w' ∧
      stepsLeft w' + later.countP (Action.wakes i) = stepsLeft w ∧
        (w' ≠ .ended → ∃ v'', v'.perform (wake i) = some v'')

theorem Kept.reliable (kept : Kept v s) : Reliable v s where
  session := kept.lived.session
  atOnce := by
    intro idle
    have session : v.session? = some s := kept.lived.session
    have idle' : s.started = true → s.done = true := by
      intro started
      simpa [started] using idle
    simp only [run, Vigil.wake, perform, Life.perform, wait?, session?, Option.map_some, Option.bind_some] at session ⊢
    simpa [Wait.step, session] using idle'
  tested := by
    intro i n v' noted made
    obtain ⟨s', step, -⟩ := perform_step kept.lived made
    generalize act : wake i = action at step
    cases step with
    | @waits j w w' waiting stepped =>
      cases act
      obtain rfl := Option.some.inj (noted.symm.trans waiting)
      simp only [Wait.step, Option.some.injEq] at stepped
      rw [wait?_set waiting, if_pos rfl, ← stepped]
      simp
    | told => cases act
    | lived made' change other =>
      cases act
      exact absurd rfl (other i)
  lasting := by
    intro i n parked
    refine ⟨(kept.sound i _ parked).2, fun later v' ran ended => ?_⟩
    obtain ⟨s', kept', still | done⟩ := parked_run kept (.inl parked) ran
    · rw [ended] at still
      cases still
    · exact ⟨s', kept'.lived.session, done⟩
  woken := by
    intro done i n parked
    rcases Nat.lt_or_eq_of_le kept.told with outstanding | told
    · exact .inl outstanding
    · exact .inr (Released.wake ⟨kept, done, parked, fun _ _ => told⟩ (by simp))
  ends := by
    intro done i w waiting told later v' ran
    obtain ⟨w', released, count⟩ := Released.run ⟨kept, done, waiting, told⟩ ran
    exact ⟨w', released.waiting, count, released.wake⟩

/-- At every moment, wherever each wait is between its steps, waits end with the session and not before. -/
theorem every_wait_ends_with_its_session {settings : Settings} {executor : Executor} {script : Script} {now : Nat}
    {source : String} {bounds : Bounds} {newest : Option Entry} {actions : List Action}
    (h : run actions (begun settings executor script now source bounds newest) = some v) : ∃ s, Reliable v s := by
  obtain ⟨t, first⟩ := kept_begun settings executor script now source bounds newest
  obtain ⟨s, kept⟩ := kept_run first h
  exact ⟨s, kept.reliable⟩

def fourWaits : List Action :=
  [.live .wait, wake 0, wake 0, .live .wait, wake 1, .live .start, wake 1, .live (.resume 0), .live (.turn true),
    .live .wait, wake 2, .live .stop, .live (.turn true), wake 2, .live .wait]

theorem four_waits_end_with_their_session : ∃ v s,
    run fourWaits (begun {} .logging {} 0 "a" {} (some ⟨.ofNat 5, "last", []⟩)) = some v ∧
      v.life.waits = [.ended, .parked 0, .ended, .asking] ∧ s.done = true ∧ v.told < s.announcements ∧ Reliable v s ∧
        ∃ v', run [wake 3, .announce, wake 1, wake 3, wake 1, .live .stop, wake 1] v = some v' ∧
          v'.life.waits = [.ended, .ended, .ended, .ended] := by
  have ends : (run fourWaits (begun {} .logging {} 0 "a" {} (some ⟨.ofNat 5, "last", []⟩))).map (fun v =>
      (v.life.waits, v.session?.map fun s => (s.done, decide (v.told < s.announcements)),
        (run [wake 3, .announce, wake 1, wake 3, wake 1, .live .stop, wake 1] v).map (·.life.waits))) =
      some ([.ended, .parked 0, .ended, .asking], some (true, true), some [.ended, .ended, .ended, .ended]) := by
    decide +kernel
  obtain ⟨v, ran, state⟩ := Option.map_eq_some_iff.mp ends
  obtain ⟨s, reliable⟩ := every_wait_ends_with_its_session ran
  simp only [reliable.session, Option.map_some, Prod.mk.injEq, Option.some.injEq, decide_eq_true_eq] at state
  obtain ⟨waits, ⟨done, outstanding⟩, last⟩ := state
  obtain ⟨v', ran', waits'⟩ := Option.map_eq_some_iff.mp last
  exact ⟨v, s, ran, waits, done, outstanding, reliable, v', ran', waits'⟩

end Vigil
end Journal
