import Journal.Proofs.Restore.Calls
import Journal.Proofs.System.Newest
import Mathlib.Data.List.Induction

/-!
A call that starts a restore never answers with a stale session. What it gives held the slot of its source at a moment
between its look at the slot and its return, and was going on at the look or was installed after it. A session that
somebody else made is left as it is; one that the call made is the call's own in every respect.
-/
namespace Journal

def StartPhase.session? : StartPhase → Option Nat
  | .returned (.ok n) => some n
  | _ => none

theorem StartPhase.session?_eq_some {phase : StartPhase} {n : Nat} (answer : phase.session? = some n) :
    phase = .returned (.ok n) := by
  unfold session? at answer
  split at answer <;> cases answer
  rfl

namespace Chronicle

variable {c c' start : Chronicle} {move : Move} {moves : List Move} {id : CallId} {call : StartCall} {n : Nat}
  {source : String} {bounds : Bounds} {before : Chronicle} {begin : Move} {request : Option String}

/-- The moment of a run after its first moves. -/
def At (start : Chronicle) (moves : List Move) (i : Nat) (c : Chronicle) : Prop :=
  i ≤ moves.length ∧ run (moves.take i) start = some c

theorem at_end (went : run moves start = some c) : At start moves moves.length c :=
  ⟨Nat.le_refl _, by rw [List.take_length, went]⟩

theorem At.later {i : Nat} (moment : At start moves i c) (move : Move) : At start (moves ++ [move]) i c := by
  obtain ⟨inside, went⟩ := moment
  exact ⟨by simp; omega, by rw [List.take_append_of_le_length inside, went]⟩

theorem At.rest {i : Nat} (moment : At start moves i c) (went : run moves start = some c') :
    run (moves.drop i) c = some c' := by
  rw [← List.take_append_drop i moves, run_append, moment.2] at went
  exact went

theorem At.between {i j : Nat} (moment : At start moves i c) (later : At start moves j c') (order : i ≤ j) :
    run ((moves.take j).drop i) c = some c' := by
  have front : At start (moves.take j) i c :=
    ⟨by have := later.1; simp; omega, by rw [List.take_take, Nat.min_eq_left order, moment.2]⟩
  exact front.rest later.2

theorem at_each (went : run moves start = some c) {i : Nat} (inside : i ≤ moves.length) : ∃ x, At start moves i x := by
  rw [← List.take_append_drop i moves, run_append] at went
  obtain ⟨x, front, -⟩ := Option.bind_eq_some_iff.mp went
  exact ⟨x, inside, front⟩

theorem At.step {i : Nat} (moment : At start moves i c) (next : At start moves (i + 1) c') :
    ∃ move, moves[i]? = some move ∧ c.apply move = some c' := by
  have inside : i < moves.length := next.1
  have here : moves[i]? = some moves[i] := List.getElem?_eq_getElem inside
  have went := next.2
  rw [List.take_add_one, here, Option.toList_some] at went
  obtain ⟨x, front, made⟩ := run_of_snoc went
  rw [moment.2] at front
  cases front
  exact ⟨moves[i], here, made⟩

structure StepsAt (start : Chronicle) (moves : List Move) (id : CallId) (i : Nat) (x x' : Chronicle) : Prop where
  before : At start moves i x
  after : At start moves (i + 1) x'
  acts : ∃ move, moves[i]? = some move ∧ x.actor? move = some (.call id)

theorem StepsAt.made {i : Nat} {x x' : Chronicle} (steps : StepsAt start moves id i x x') :
    ∃ move, x.actor? move = some (.call id) ∧ x.apply move = some x' := by
  obtain ⟨move, here, actor⟩ := steps.acts
  obtain ⟨move', here', made⟩ := steps.before.step steps.after
  obtain rfl : move = move' := Option.some.inj (here.symm.trans here')
  exact ⟨move, actor, made⟩

theorem StepsAt.later {i : Nat} {x x' : Chronicle} (steps : StepsAt start moves id i x x') (move : Move) :
    StepsAt start (moves ++ [move]) id i x x' := by
  obtain ⟨next, here, actor⟩ := steps.acts
  have inside : i < moves.length := (List.getElem?_eq_some_iff.mp here).1
  exact ⟨steps.before.later move, steps.after.later move, next, by rw [List.getElem?_append_left inside, here], actor⟩

theorem steps_now (went : run moves start = some c) (made : c.apply move = some c')
    (actor : c.actor? move = some (.call id)) : StepsAt start (moves ++ [move]) id moves.length c c' where
  before := (at_end went).later move
  after := by
    have after := at_end (run_snoc went made)
    rwa [List.length_append] at after
  acts := ⟨move, by simp, actor⟩

structure Looks (start : Chronicle) (moves : List Move) (id : CallId) (i : Nat) (look : Chronicle) : Prop where
  moment : At start moves i look
  about : ∃ call, look.call? id = some call ∧ call.phase = .looking
  next : ∃ move, moves[i]? = some move ∧ look.actor? move = some (.call id)

theorem Looks.later {i : Nat} {look : Chronicle} (looks : Looks start moves id i look) (move : Move) :
    Looks start (moves ++ [move]) id i look := by
  obtain ⟨next, here, actor⟩ := looks.next
  have inside : i < moves.length := (List.getElem?_eq_some_iff.mp here).1
  exact ⟨looks.moment.later move, looks.about, next, by rw [List.getElem?_append_left inside, here], actor⟩

theorem looks_now (went : run moves start = some c) (current : c.call? id = some call) (looking : call.phase = .looking)
    (actor : c.actor? move = some (.call id)) : Looks start (moves ++ [move]) id moves.length c where
  moment := (at_end went).later move
  about := ⟨call, current, looking⟩
  next := ⟨move, by simp, actor⟩

/-- A session held the slot while the call was under way, and it was going on when the call had looked or was
installed after that. -/
structure Occupancy (start : Chronicle) (moves : List Move) (id : CallId) (source : String) (n : Nat) (i j : Nat)
    (look moment : Chronicle) : Prop where
  looks : Looks start moves id i look
  afterwards : i ≤ j
  held : At start moves j moment
  underway : ∃ call, moment.call? id = some call ∧ ∀ result, call.phase ≠ .returned result
  slot : moment.system.slots.get? source = some n
  fresh : (∃ s, look.system.session? n = some s ∧ s.done = false) ∨
    n ∉ look.notes.installed ∧ n ∈ moment.notes.installed

def Occupied (start : Chronicle) (moves : List Move) (id : CallId) (source : String) (n : Nat) : Prop :=
  ∃ (i j : Nat) (look moment : Chronicle), Occupancy start moves id source n i j look moment

theorem Occupied.later (occupied : Occupied start moves id source n) (move : Move) :
    Occupied start (moves ++ [move]) id source n := by
  obtain ⟨i, j, look, moment, occupancy⟩ := occupied
  exact ⟨i, j, look, moment, { occupancy with looks := occupancy.looks.later move, held := occupancy.held.later move }⟩

def Observed (start : Chronicle) (moves : List Move) (id : CallId) (source : String) (observed : Option Nat) : Prop :=
  ∃ (i : Nat) (look : Chronicle), Looks start moves id i look ∧ look.system.slots.get? source = observed

theorem Observed.later {observed : Option Nat} (seen : Observed start moves id source observed) (move : Move) :
    Observed start (moves ++ [move]) id source observed := by
  obtain ⟨i, look, looks, slot⟩ := seen
  exact ⟨i, look, looks.later move, slot⟩

structure Begins (before : Chronicle) (begin : Move) (start : Chronicle) (id : CallId) (request : Option String)
    (bounds : Bounds) : Prop where
  asked : begin = .call request bounds ∨ begin = .spawn request bounds
  made : before.apply begin = some start
  absent : before.call? id = none
  present : (start.call? id).isSome = true

structure Found (before start : Chronicle) (id : CallId) (request : Option String) (bounds : Bounds) : Prop where
  call : start.call? id = some (before.system.startCall request bounds)
  sessions : start.system.sessions = before.system.sessions
  slots : start.system.slots = before.system.slots
  log : start.system.log = before.system.log
  pool : start.system.pool = before.system.pool
  maker : start.notes.maker = before.notes.maker

theorem Begins.found (begins : Begins before begin start id request bounds) : Found before start id request bounds := by
  obtain ⟨asked, made, absent, present⟩ := begins
  rcases asked with rfl | rfl
  · cases made
    refine ⟨?_, rfl, rfl, rfl, rfl, rfl⟩
    cases id with
    | caller i => exact getElem?_last absent present
    | task k =>
      simp only [call?] at absent present
      rw [absent] at present
      cases present
  · cases made
    refine ⟨?_, rfl, rfl, rfl, rfl, rfl⟩
    cases id with
    | caller i =>
      simp only [call?, note] at absent present
      rw [absent] at present
      cases present
    | task k =>
      rcases Nat.lt_or_ge k before.system.tasks.length with inside | beyond
      · simp only [call?, note] at absent present
        rw [List.getElem?_append_left inside, absent] at present
        cases present
      · rw [call?_task]
        apply getElem?_last (List.getElem?_eq_none beyond)
        cases task : (before.system.tasks ++ [Task.start (before.system.startCall request bounds)])[k]? with
        | none => simp [call?, note, task] at present
        | some task => rfl

/-- What a call relies on in each of its phases. -/
def Tells (start : Chronicle) (moves : List Move) (id : CallId) (source : String) : StartPhase → Prop
  | .looking | .returned (.error _) => True
  | .reading observed _ | .installing observed _ => Observed start moves id source observed
  | .starting n | .opening n | .returned (.ok n) => Occupied start moves id source n

theorem Tells.later {phase : StartPhase} (tells : Tells start moves id source phase) (move : Move) :
    Tells start (moves ++ [move]) id source phase := by
  cases phase with
  | looking => trivial
  | reading | installing => exact Observed.later tells move
  | starting | opening => exact Occupied.later tells move
  | returned result =>
    cases result with
    | ok n => exact Occupied.later tells move
    | error error => trivial

theorem tells_turn {origin : Origin} {phase : StartPhase} {sys : System} (tended : start.Tended)
    (went : run moves start = some c) (made : c.apply move = some c') (current : c.call? id = some call)
    (actor : c.actor? move = some (.call id)) (turn : System.CallTurn origin call c.system phase sys)
    (current' : c'.call? id = some { call with phase }) (slots : c'.system.slots = sys.slots)
    (installed : ∀ observed n, call.phase = .installing observed n → phase = .starting n → n ∈ c'.notes.installed)
    (tells : Tells start moves id call.source call.phase) : Tells start (moves ++ [move]) id call.source phase := by
  have orderly : c.Orderly := (tended_run tended went).sound.1
  have apt := orderly.apt current
  have here : At start (moves ++ [move]) moves.length c := (at_end went).later move
  cases turn with
  | join n looking slot live =>
    obtain ⟨-, s, session, -⟩ := orderly.stored slot
    have going : s.done = false := by simpa [System.isDone, System.session?, session] using live
    refine ⟨_, _, c, c, looks_now went current looking actor, Nat.le_refl _, here, ⟨call, current, ?_⟩, slot,
      .inl ⟨s, session, going⟩⟩
    simp [looking]
  | ask observed looking slot finished => exact ⟨_, c, looks_now went current looking actor, slot⟩
  | read observed inquiry inquiry' sys reading asked =>
    rw [reading] at tells
    exact Observed.later tells move
  | create observed newest reading =>
    rw [reading] at tells
    exact Observed.later tells move
  | fail | again | refuse => trivial
  | win observed n installing slot =>
    rw [installing] at tells apt
    obtain ⟨i, look, looks, -⟩ := tells
    have since := since_run (tended_run tended looks.moment.2) (looks.moment.rest went)
    refine ⟨i, _, look, c', looks.later move, ?_, at_end (run_snoc went made), ⟨_, current', by simp⟩, ?_, .inr ⟨?_, ?_⟩⟩
    · have inside := looks.moment.1
      simp
      omega
    · rw [slots]
      exact Table.get?_insert_self ..
    · exact fun member => apt.2.2.1 (since.1 n member)
    · exact installed observed n installing rfl
  | lose observed candidate n installing slot other =>
    rw [installing] at tells
    obtain ⟨i, look, looks, saw⟩ := tells
    have since := since_run (tended_run tended looks.moment.2) (looks.moment.rest went)
    refine ⟨i, _, look, c, looks.later move, looks.moment.1, here, ⟨call, current, by simp [installing]⟩, slot,
      .inr ⟨?_, ?_⟩⟩
    · rcases since.2 call.source n slot with before | later
      · exact absurd (before.symm.trans saw) other
      · exact later
    · exact (orderly.stored slot).1
  | late n starting | skip n s starting | claim n s starting =>
    rw [starting] at tells
    exact Occupied.later tells move
  | spawn n s subscription sys opening | miss n opening =>
    rw [opening] at tells
    exact Occupied.later tells move

/-- A session that the call made: it is as the call asked for, it was created in the run with nothing counted, and its
ceiling is not below what was on the topic earlier if the answers are honest. -/
structure OwnSession (earlier : List Entry) (start : Chronicle) (moves : List Move) (source : String) (bounds : Bounds)
    (n : Nat) (s : Session) : Prop where
  source : s.source = source
  bounds : s.bounds = bounds
  ceiling : start.system.script.Honest → Tops earlier s.ceiling
  born : ∃ (i : Nat) (x x' : Chronicle) (new : Session), At start moves i x ∧ At start moves (i + 1) x' ∧
    x.system.session? n = none ∧ x'.system.session? n = some new ∧ new.Fresh

theorem OwnSession.later {earlier : List Entry} {s s' : Session}
    (own : OwnSession earlier start moves source bounds n s) (move : Move)
    (kept : s'.source = s.source ∧ s'.bounds = s.bounds ∧ s'.ceiling = s.ceiling) :
    OwnSession earlier start (moves ++ [move]) source bounds n s' where
  source := kept.1.trans own.source
  bounds := kept.2.1.trans own.bounds
  ceiling := kept.2.2 ▸ own.ceiling
  born := by
    obtain ⟨i, x, x', new, before, after, states⟩ := own.born
    exact ⟨i, x, x', new, before.later move, after.later move, states⟩

structure Tale (earlier : List Entry) (start : Chronicle) (moves : List Move) (id : CallId) (source : String)
    (bounds : Bounds) (c : Chronicle) (call : StartCall) : Prop where
  asked : call.source = source ∧ call.bounds = bounds
  tells : Tells start moves id call.source call.phase
  covers : start.system.script.Honest → ∀ observed inquiry, call.phase = .reading observed inquiry → inquiry.Covers earlier
  own : ∀ (n : Nat) (s : Session), c.notes.maker n = some id → c.system.session? n = some s →
    OwnSession earlier start moves source bounds n s

theorem covers_turn {origin : Origin} {phase : StartPhase} {sys : System} {earlier : List Entry}
    (turn : System.CallTurn origin call c.system phase sys) (honest : c.system.script.Honest)
    (ordered : c.system.log.Ordered) (grown : earlier <+: c.system.log.entries (c.system.pool.topicOf call.source))
    (covers : ∀ observed inquiry, call.phase = .reading observed inquiry → inquiry.Covers earlier) (observed : Option Nat)
    (inquiry : Inquiry) (reading : phase = .reading observed inquiry) : inquiry.Covers earlier := by
  cases turn with
  | ask =>
    cases reading
    trivial
  | read observed before inquiry sys phase asked =>
    cases reading
    exact System.inquire_covers asked honest ordered grown (covers _ _ phase)
  | _ => cases reading

theorem own_step {earlier : List Entry} (tended : start.Tended) (went : run moves start = some c)
    (made : c.apply move = some c') (current : c.call? id = some call)
    (tale : Tale earlier start moves id source bounds c call) (s : Session) (maker : c'.notes.maker n = some id)
    (session : c'.system.session? n = some s) : OwnSession earlier start (moves ++ [move]) source bounds n s := by
  have tended' : c.Tended := tended_run tended went
  have orderly : c.Orderly := tended'.sound.1
  have effect := apply_effect made
  by_cases before : c.notes.maker n = some id
  · have inside := orderly.made (by rw [before]; rfl)
    have there : c.system.session? n = some c.system.sessions[n] := List.getElem?_eq_getElem inside
    obtain ⟨t, found, passed⟩ := passage orderly tended'.attributed effect there
    obtain rfl : s = t := Option.some.inj (session.symm.trans found)
    refine (tale.own n _ before there).later move ?_
    cases passed with
    | works k events actor task turn =>
      have continues := Session.turn_continues turn
      exact ⟨continues.source, continues.bounds, continues.ceiling⟩
    | served idle served => exact ⟨served.kept.1, served.kept.2.1, served.kept.2.2.1⟩
  · -- The session is new, so the call has just created it.
    obtain ⟨new, call', observed, inquiry, current', reading, next⟩ := maker_new effect maker before
    obtain rfl : call = call' := Option.some.inj (current.symm.trans current')
    have absent : c.system.session? n = none := by
      rw [new]
      exact List.getElem?_eq_none (Nat.le_refl _)
    have born : ∃ (i : Nat) (x x' : Chronicle) (new : Session), At start (moves ++ [move]) i x ∧
        At start (moves ++ [move]) (i + 1) x' ∧ x.system.session? n = none ∧ x'.system.session? n = some new ∧ new.Fresh := by
      have after := at_end (run_snoc went made)
      rw [List.length_append] at after
      have fresh := fresh_of_new effect session (by omega)
      exact ⟨moves.length, c, c', s, (at_end went).later move, after, absent, session, fresh⟩
    cases call_passage effect current with
    | rests idle current'' =>
      rw [current''] at next
      have same := congrArg StartCall.phase (Option.some.inj next)
      rw [reading] at same
      cases same
    | steps origin phase sys actor turn current'' sessions =>
      have installing : phase = .installing observed n := by
        rw [current''] at next
        cases next
        rfl
      cases turn with
      | create observed' newest phase =>
        rw [System.session?, sessions, new] at session
        simp only [System.createSession, List.getElem?_concat_length, Option.some.injEq] at session
        subst session
        exact ⟨tale.asked.1, tale.asked.2, fun honest => tale.covers honest _ _ phase, born⟩
      | _ => cases installing

theorem tale_step {earlier : List Entry} {call' : StartCall} (tended : start.Tended) (ordered : start.system.log.Ordered)
    (grown : earlier <+: start.system.log.entries (start.system.pool.topicOf source)) (went : run moves start = some c)
    (made : c.apply move = some c') (current : c.call? id = some call) (current' : c'.call? id = some call')
    (tale : Tale earlier start moves id source bounds c call) :
    Tale earlier start (moves ++ [move]) id source bounds c' call' := by
  have own := fun n s => own_step (n := n) tended went made current tale s
  have effect := apply_effect made
  cases call_passage effect current with
  | rests idle same =>
    obtain rfl : call = call' := Option.some.inj (same.symm.trans current')
    exact ⟨tale.asked, tale.tells.later move, tale.covers, own⟩
  | steps origin phase sys actor turn same sessions slots notes =>
    obtain rfl : { call with phase } = call' := Option.some.inj (same.symm.trans current')
    have extended := extends_run went
    have installed : ∀ observed n, call.phase = .installing observed n → phase = .starting n → n ∈ c'.notes.installed := by
      intro observed n installing starting
      rw [notes]
      simp [Notes.follow, installing, starting]
    have grown' : earlier <+: c.system.log.entries (c.system.pool.topicOf call.source) := by
      have names : c.system.pool.topicOf call.source = start.system.pool.topicOf source := by
        rw [tale.asked.1, Pool.topicOf, extended.names]
        rfl
      rw [names]
      exact grown.trans (extended.grows.extended _)
    have honest : start.system.script.Honest → c.system.script.Honest := fun honest =>
      run_keeps (P := fun c => c.system.script.Honest) (fun _ _ _ honest made => honest_step honest made) honest went
    have tells : Tells start (moves ++ [move]) id call.source phase :=
      tells_turn tended went made current actor turn same slots installed tale.tells
    exact ⟨tale.asked, tells, fun sincere =>
      covers_turn turn (honest sincere) (extended.grows.ordered ordered) grown' (tale.covers sincere), own⟩

theorem tale_run {earlier : List Entry} {first : StartCall} (tended : start.Tended) (ordered : start.system.log.Ordered)
    (grown : earlier <+: start.system.log.entries (start.system.pool.topicOf source))
    (begun : start.call? id = some first) (begins : Tale earlier start [] id source bounds start first)
    (went : run moves start = some c) :
    ∃ call, c.call? id = some call ∧ Tale earlier start moves id source bounds c call := by
  induction moves using List.reverseRecOn generalizing c with
  | nil =>
    cases went
    exact ⟨first, begun, begins⟩
  | append_singleton moves move ih =>
    obtain ⟨before, went, made⟩ := run_of_snoc went
    obtain ⟨call, current, tale⟩ := ih went
    have stays : (c.call? id).isSome = true := call_stays (apply_effect made) (by rw [current]; rfl)
    obtain ⟨call', current'⟩ := Option.isSome_iff_exists.mp stays
    exact ⟨call', current', tale_step tended ordered grown went made current current' tale⟩

/-- The call does nothing to the session, neither when it begins nor by any of its steps. -/
def LeavesAlone (before start : Chronicle) (moves : List Move) (id : CallId) (n : Nat) : Prop :=
  start.system.session? n = before.system.session? n ∧
    ∀ (i : Nat) (x x' : Chronicle), StepsAt start moves id i x x' → x'.system.session? n = x.system.session? n

/-- What an answer of a call is worth that has begun after `before` and has been answered with the session. -/
structure FreshAnswer (before start : Chronicle) (moves : List Move) (c : Chronicle) (id : CallId) (source : String)
    (bounds : Bounds) (n : Nat) : Prop where
  occupied : Occupied start moves id source n
  unfinished : ∀ s, before.system.session? n = some s → s.done = false
  others : c.notes.maker n ≠ some id → LeavesAlone before start moves id n
  own : c.notes.maker n = some id → n ∈ c.notes.installed ∧ ∀ s, c.system.session? n = some s →
    OwnSession (before.system.log.entries (before.system.pool.topicOf source)) start moves source bounds n s

theorem Occupied.unfinished (tended : start.Tended) (occupied : Occupied start moves id source n) {s : Session}
    (session : start.system.session? n = some s) : s.done = false := by
  obtain ⟨i, j, look, moment, occupancy⟩ := occupied
  have looked : run (moves.take i) start = some look := occupancy.looks.moment.2
  obtain ⟨t, found, persists⟩ := onward_run looked n s session
  cases done : s.done with
  | false => rfl
  | true =>
    have ended : t.done = true := persists.done done
    rcases occupancy.fresh with ⟨u, found', going⟩ | ⟨outside, inside⟩
    · rw [found] at found'
      cases found'
      simp [ended] at going
    · -- A session that is done was installed, if a call made it, and only a call installs one later.
      have look_tended : look.Tended := tended_run tended looked
      have between := occupancy.looks.moment.between occupancy.held occupancy.afterwards
      have made := ((tended_run look_tended between).sound.1.winner inside).1
      rw [maker_run (by rw [found]; rfl) between] at made
      have orderly : look.Orderly := look_tended.sound.1
      exact absurd (orderly.claimed found made (orderly.done_started found ended)) outside

theorem maker_remains (tended : c.Tended) (maker : c.notes.maker n = some id) (went : run moves c = some c') :
    c'.notes.maker n = some id := by
  have inside := tended.sound.1.made (by rw [maker]; rfl)
  have present : (c.system.session? n).isSome = true := by simpa [System.session?] using inside
  rw [maker_run present went, maker]

theorem leavesAlone_of_stranger (tended : start.Tended)
    (same : start.system.sessions = before.system.sessions) (present : (start.call? id).isSome = true)
    (went : run moves start = some c) (stranger : c.notes.maker n ≠ some id) :
    LeavesAlone before start moves id n := by
  refine ⟨by rw [System.session?, same]; rfl, fun i x x' steps => ?_⟩
  have tended_x : x.Tended := tended_run tended steps.before.2
  obtain ⟨move, actor, made⟩ := steps.made
  have other : x'.notes.maker n ≠ some id := fun maker =>
    stranger (maker_remains (tended_run tended steps.after.2) maker (steps.after.rest went))
  obtain ⟨call, current⟩ := Option.isSome_iff_exists.mp (call_run present steps.before.2)
  exact call_leaves_others tended_x.sound.1 (apply_effect made) current actor other

theorem maker_of_begins {settings : Settings} {executor : Executor} {script : Script} {earlier : List Move}
    (ran : run earlier (opened settings executor script) = some before) (begins : Begins before begin start id request bounds)
    (n : Nat) : start.notes.maker n ≠ some id := by
  intro made
  rw [begins.found.maker] at made
  have there := credited_after ran n id made
  rw [begins.absent] at there
  cases there

theorem tale_of_begins {settings : Settings} {executor : Executor} {script : Script} {earlier : List Move}
    (ran : run earlier (opened settings executor script) = some before) (begins : Begins before begin start id request bounds)
    (went : run moves start = some c) : ∃ call, c.call? id = some call ∧
      Tale (before.system.log.entries (before.system.pool.topicOf (before.system.pool.sourceOrDefault request))) start moves
        id (before.system.pool.sourceOrDefault request) bounds c call := by
  have found := begins.found
  have tended : start.Tended := tended_step (tended_after ran) (apply_effect begins.made)
  have ordered : start.system.log.Ordered := by
    have grows := (extends_run ran).grows
    rw [found.log]
    exact grows.ordered fun _ => List.Pairwise.nil
  have grown : before.system.log.entries (before.system.pool.topicOf (before.system.pool.sourceOrDefault request)) <+:
      start.system.log.entries (start.system.pool.topicOf (before.system.pool.sourceOrDefault request)) := by
    simp [found.log, found.pool]
  have first : Tale (before.system.log.entries (before.system.pool.topicOf (before.system.pool.sourceOrDefault request)))
      start [] id (before.system.pool.sourceOrDefault request) bounds start (before.system.startCall request bounds) :=
    { asked := ⟨rfl, rfl⟩
      tells := trivial
      covers := fun _ _ _ reading => nomatch reading
      own := fun n _ made _ => absurd made (maker_of_begins ran begins n) }
  exact tale_run tended ordered grown found.call first went

/-- Whatever comes between its steps, a call that is answered with a session is answered with a fresh one. -/
theorem no_call_answers_with_a_stale_session {settings : Settings} {executor : Executor} {script : Script}
    {earlier later : List Move} {n : Nat} (ran : run earlier (opened settings executor script) = some before)
    (begins : Begins before begin start id request bounds) (went : run later start = some c)
    (current : c.call? id = some call) (answer : call.phase = .returned (.ok n)) :
    FreshAnswer before start later c id (before.system.pool.sourceOrDefault request) bounds n := by
  have tended : start.Tended := tended_step (tended_after ran) (apply_effect begins.made)
  obtain ⟨call', current', tale⟩ := tale_of_begins ran begins went
  obtain rfl : call = call' := Option.some.inj (current.symm.trans current')
  have occupied := tale.tells
  rw [answer, tale.asked.1] at occupied
  have orderly : c.Orderly := (tended_run tended went).sound.1
  have won := orderly.apt current
  rw [answer] at won
  have sessions := begins.found.sessions
  refine ⟨occupied, fun s session => ?_, ?_, fun own => ⟨won, fun s session => tale.own n s own session⟩⟩
  · refine occupied.unfinished tended ?_
    rw [System.session?, sessions]
    exact session
  · exact leavesAlone_of_stranger tended sessions begins.present went

def slowRead : List Move :=
  let first : Operation :=
    { tx := .ofNat 5, method := .put, schema := "person", space := "people", entity := "Person", id := "p1"
      version := ⟨0, 0, 0⟩, body := none }
  [.call none {}, .advance 0, .advance 0, .advance 0, .advance 0, .advance 0, .append .put none first,
    .call none {}, .advance 1, .advance 1]

def slowLoser : List Move :=
  let second : Operation :=
    { tx := .ofNat 6, method := .delete, schema := "person", space := "people", entity := "Person", id := "p1"
      version := ⟨0, 0, 0⟩, body := none }
  [.advance 2, .append .delete none second, .advance 2, .advance 1, .advance 1, .advance 1, .advance 1,
    .run true 0, .run true 0, .run true 0, .run true 0, .advance 2, .advance 2]

theorem the_slow_loser_joins_the_winner : ∃ (before start c : Chronicle) (call : StartCall) (s : Session),
    run slowRead (opened {} .logging {}) = some before ∧ Begins before (.call none {}) start (.caller 2) none {} ∧
      run slowLoser start = some c ∧ c.call? (.caller 2) = some call ∧
      call.phase = .returned (.ok 1) ∧ c.system.session? 1 = some s ∧ s.done = true ∧ s.ceiling = some (.ofNat 5) ∧
      FreshAnswer before start slowLoser c (.caller 2) (before.system.pool.sourceOrDefault none) {} 1 := by
  have first : (run slowRead (opened {} .logging {})).map (fun c => c.callers.length) = some 2 := by decide +kernel
  have last : (((run slowRead (opened {} .logging {})).bind (·.apply (.call none {}))).bind (run slowLoser)).map
      (fun c => ((c.call? (.caller 2)).bind (·.phase.session?), (c.system.session? 1).map fun s => (s.done, s.ceiling))) =
      some (some 1, some (true, some (.ofNat 5))) := by decide +kernel
  obtain ⟨before, ran, callers⟩ := Option.map_eq_some_iff.mp first
  have absent : before.call? (.caller 2) = none := List.getElem?_eq_none (Nat.le_of_eq callers)
  obtain ⟨c, ends, state⟩ := Option.map_eq_some_iff.mp last
  rw [ran, Option.bind_some] at ends
  obtain ⟨start, begun, went⟩ := Option.bind_eq_some_iff.mp ends
  obtain ⟨answer, flags⟩ := Prod.mk.inj state
  obtain ⟨call, current, answered⟩ := Option.bind_eq_some_iff.mp answer
  obtain ⟨s, session, kept⟩ := Option.map_eq_some_iff.mp flags
  obtain ⟨done, ceiling⟩ := Prod.mk.inj kept
  have present : (start.call? (.caller 2)).isSome = true := by
    cases begun
    simp [call?, callers]
  have phase := StartPhase.session?_eq_some answered
  have begins : Begins before (.call none {}) start (.caller 2) none {} := ⟨.inl rfl, begun, absent, present⟩
  exact ⟨before, start, c, call, s, ran, begins, went, current, phase, session, done, ceiling,
    no_call_answers_with_a_stale_session ran begins went current phase⟩

end Chronicle
end Journal
