import Journal.Proofs.Console.Desk
import Journal.Proofs.Restore.Calls
import Journal.Proofs.Restore.Untroubled
import Journal.Proofs.Ulid.Generator

/-!
The restores of the console are clean. Its ids ascend over all topics, so no write is ever out of order; every body that
a line can carry is read back; and nothing else writes to the topics. So every put and delete line is answered with
success, and a restore that ends has replayed exactly what was written for it before.
-/
namespace Journal

theorem Ulid.low_of_year {reading : Ulid.Reading} (low : (Timestamp.ofMilliseconds reading.clock).date.year ≤ 9999) :
    reading.Low := by
  have day := Date.day_of_year low
  unfold Timestamp.ofMilliseconds Timestamp.localSeconds at day
  simp only at day
  unfold Ulid.Reading.Low
  omega

theorem Write.entry_id (w : Write) : w.entry.id = w.op.tx := by
  rw [entry, Entry.encode_id, operation]
  cases w.step <;> rfl

namespace Chronicle

def Grounded (names : LogSettings) (writes : List Write) (k n : Nat) (c : Chronicle) : Prop :=
  ∀ s, c.system.session? n = some s →
    c.notes.ground n = ((writes.take k).filter fun w => w.topic names = names.topicOf s.source).map Write.entry

variable {c c' : Chronicle} {names : LogSettings} {writes : List Write} {k n : Nat}

theorem Grounded.step {move : Move} (grounded : c.Grounded names writes k n) (plain : c.Plain)
    (present : n < c.system.sessions.length) (made : c.apply move = some c') : c'.Grounded names writes k n := by
  have effect := apply_effect made
  intro s' session'
  have session : c.system.session? n = some c.system.sessions[n] := List.getElem?_eq_getElem present
  obtain ⟨t, there, passed⟩ := passage plain.sound.1 plain.attributed effect session
  obtain rfl : t = s' := Option.some.inj (there.symm.trans session')
  have source : t.source = c.system.sessions[n].source := by
    cases passed with
    | works k events actor task turn => exact (Session.turn_continues turn).source
    | served idle served => exact served.kept.1
  rw [(noted_once effect present).2, source]
  exact grounded _ session

theorem Grounded.snoc (grounded : c.Grounded names writes k n) (inside : k ≤ writes.length) (w : Write) :
    c.Grounded names (writes ++ [w]) k n := by
  intro s session
  rw [List.take_append_of_le_length inside]
  exact grounded s session

end Chronicle

namespace Console

structure Moment.Ordinary (moment : Moment) : Prop where
  year : 0 ≤ moment.time.timestamp.date.year ∧ moment.time.timestamp.date.year ≤ 9999
  readings : ∀ reading ∈ moment.readings, (Timestamp.ofMilliseconds reading.clock).date.year ≤ 9999

instance (moment : Moment) : Decidable moment.Ordinary :=
  decidable_of_iff _ ⟨fun ⟨year, readings⟩ => ⟨year, readings⟩, fun ⟨year, readings⟩ => And.intro year readings⟩

namespace Act

def asks? : Act → Option (Moment × AppendStep × Console.Write)
  | .line moment text => ((commandOf text).bind Command.write?).map fun asked => (moment, asked)
  | _ => none

def Ordinary : Act → Prop
  | .line moment text =>
    moment.Ordinary ∧ ∀ asked ∈ (commandOf text).bind Command.write?, ∀ body ∈ asked.2.body, body.Whole
  | _ => True

instance (act : Act) : Decidable act.Ordinary :=
  match act with
  | .line _ _ => inferInstanceAs (Decidable (_ ∧ _))
  | .advance | .work _ _ | .clock _ => isTrue trivial

end Act

/-- An exchange is what became of a put or delete line that succeeded. -/
def Succeeds (names : LogSettings) (asked : Moment × AppendStep × Console.Write) (e : Exchange) : Prop :=
  (∃ id, e.write = asked.2.2.asked asked.1 asked.2.1 id) ∧ e.answer = (receipt names e.write).canonical

/-- The exchanges that a restore has to replay. -/
def share (names : LogSettings) (source : String) (bounds : Bounds) (exchanges : List Exchange) : List Exchange :=
  exchanges.filter fun e => decide (e.write.topic names = names.topicOf source) && bounds.holds e.write.op.tx

/-- What the run of a desk comes to. -/
structure Desk.Clean (settings : Settings) (acts : List Act) (d : Desk) : Prop where
  succeeded : List.Forall₂ (Succeeds settings.log) (acts.filterMap Act.asks?) d.exchanges
  ascending : (d.exchanges.map fun e => e.write.op.tx).Pairwise (· < ·)
  prompt : d.pending = none → ∀ moment line,
    (∃ reading ∈ moment.readings, d.console.generator.previous.milliseconds < reading.clock) →
      (d.apply (.line moment line)).isSome = true
  restored : ∀ n s, d.console.system.session? n = some s → s.done = true →
    s.error = none ∧ s.tally.failed = 0 ∧ s.tally.ignored = 0 ∧ ∃ k, d.earlier[n]? = some k ∧
      (s.stopped = false → s.tally.restored = (share settings.log s.source s.bounds (d.exchanges.take k)).length)

variable {moment : Moment} {line : String} {c : Console}

theorem perform_isSome (command : Command)
    (passed : ∃ reading ∈ moment.readings, c.generator.previous.milliseconds < reading.clock) :
    (c.perform moment command).isSome = true := by
  have writes : ∀ step method w, (c.write moment step method w).isSome = true := by
    intro step method w
    obtain ⟨⟨id, generator, rest⟩, gives⟩ := Option.isSome_iff_exists.mp (Ulid.Generator.next_isSome passed)
    simp only [write, gives, Option.bind_eq_bind, Option.bind_some]
    split <;> rfl
  cases command with
  | put w => exact writes .put .put w
  | delete w => exact writes .delete .delete w
  | _ => rfl

theorem apply_line_isSome {d : Desk} (free : d.pending = none)
    (passed : ∃ reading ∈ moment.readings, d.console.generator.previous.milliseconds < reading.clock) :
    (d.apply (.line moment line)).isSome = true := by
  have answered : (d.console.answer moment line).isSome = true := by
    cases read : commandOf line with
    | none =>
      obtain ⟨answer, same⟩ := @answer_of_none moment line d.console read
      simp [same]
    | some command =>
      rw [answer_of_command read, Option.isSome_map]
      exact perform_isSome command passed
  obtain ⟨result, same⟩ := Option.isSome_iff_exists.mp answered
  simp only [Desk.apply, free]
  cases callOf line with
  | none => simp [same]
  | some called => rfl

theorem valid_of_line {command : Command} {step : AppendStep} {w : Console.Write} (read : commandOf line = some command)
    (asks : command.write? = some (step, w)) (ordinary : moment.Ordinary) (whole : ∀ body ∈ w.body, body.Whole)
    (id : Ulid) : (w.asked moment step id).op.Valid ∧ (w.asked moment step id).operation.Readable := by
  have fits := fits_of_line read step w asks
  have version : moment.time.timestamp.Valid := by
    have below := moment.time.nanoseconds.isLt
    constructor
    · show (moment.time.nanoseconds : Nat) < 2 * 1000000000
      omega
    · show (0 : Int).natAbs < 86400
      decide
  have shallow : ∀ body ∈ w.body, body.depth ≤ 127 := fun body held => (Json.Fits.mono (fits body held) (by decide)).shallow
  constructor
  · exact ⟨version, fun body held => (fits body held).valid (whole body held)⟩
  · have zone : (0 : Int).natAbs < 86370 := by decide
    cases step with
    | put => exact ⟨ordinary.year, zone, shallow⟩
    | delete => exact ⟨ordinary.year, zone, fun body held => by cases held⟩

/-- A chronicle in which the same has happened as at the desk, whose put and delete lines so far are given. -/
structure Follows (settings : Settings) (asked : List (Moment × AppendStep × Console.Write)) (d : Desk) (c : Chronicle) :
    Prop where
  untroubled : c.Untroubled
  system : c.system = d.console.system
  names : c.system.pool.settings = settings.log
  accepted : c.notes.accepted = d.exchanges.map Exchange.write
  succeeded : List.Forall₂ (Succeeds settings.log) asked d.exchanges
  ascending : (d.exchanges.map fun e => e.write.op.tx).Pairwise (· < ·)
  behind : ∀ e ∈ d.exchanges, e.write.op.tx ≤ d.console.generator.previous
  length : d.earlier.length = c.system.sessions.length
  grounded : ∀ n k, d.earlier[n]? = some k →
    k ≤ d.exchanges.length ∧ c.Grounded settings.log (d.exchanges.map Exchange.write) k n
  current : ∀ call, d.pending = some call → ∃ i, c.callers[i]? = some call ∧
    ∀ observed newest, call.phase = .reading observed (.answered newest) →
      c.notes.sighted (.caller i) = c.system.log.entries (settings.log.topicOf call.source)

section

variable {settings : Settings} {asked : List (Moment × AppendStep × Console.Write)} {d d' : Desk} {c c' : Chronicle}

theorem follows_opened (settings : Settings) : Follows settings [] (.opened settings) (.opened settings .logging {}) where
  untroubled := Chronicle.untroubled_opened settings
  system := rfl
  names := rfl
  accepted := rfl
  succeeded := .nil
  ascending := .nil
  behind := List.forall_mem_nil _
  length := rfl
  grounded := fun n k found => by cases found
  current := fun call pending => by cases pending

theorem Follows.entries (follows : Follows settings asked d c) (topic : String) :
    c.system.log.entries topic =
      ((d.exchanges.map Exchange.write).filter fun w => w.topic settings.log = topic).map Write.entry := by
  rw [follows.untroubled.recorded.entries, Chronicle.written, follows.accepted, follows.names]

theorem Follows.atTime (follows : Follows settings asked d c) (time : Nat) :
    Follows settings asked { d with console := d.console.atTime time } (c.atTime time) where
  untroubled := follows.untroubled.atTime time
  system := by simp only [Chronicle.atTime, Console.atTime, follows.system]
  names := follows.names
  accepted := follows.accepted
  succeeded := follows.succeeded
  ascending := follows.ascending
  behind := follows.behind
  length := follows.length
  grounded := follows.grounded
  current := follows.current

theorem Follows.moved {move : Move} (follows : Follows settings asked d c) (made : c.apply move = some c')
    (untroubled : c'.Untroubled) (accepted : c'.notes.accepted = c.notes.accepted)
    (sessions : c'.system.sessions.length = c.system.sessions.length) (pending : Option StartCall)
    (current : ∀ call, pending = some call → ∃ i, c'.callers[i]? = some call ∧
      ∀ observed newest, call.phase = .reading observed (.answered newest) →
        c'.notes.sighted (.caller i) = c'.system.log.entries (settings.log.topicOf call.source)) :
    Follows settings asked { d with console := { d.console with system := c'.system }, pending } c' where
  untroubled := untroubled
  system := rfl
  names := (Chronicle.apply_extends made).names.trans follows.names
  accepted := accepted.trans follows.accepted
  succeeded := follows.succeeded
  ascending := follows.ascending
  behind := follows.behind
  length := follows.length.trans sessions.symm
  grounded := by
    intro n k found
    have present : n < c.system.sessions.length := follows.length ▸ (List.getElem?_eq_some_iff.mp found).1
    obtain ⟨inside, grounded⟩ := follows.grounded n k found
    exact ⟨inside, grounded.step follows.untroubled.plain present made⟩
  current := current

theorem follows_work {stopFirst : Bool} {task : Nat} (follows : Follows settings asked d c)
    (applied : d.apply (.work stopFirst task) = some d') : ∃ c', Follows settings asked d' c' := by
  obtain ⟨sys, stepped, same⟩ := Option.bind_eq_some_iff.mp applied
  cases same
  rw [← follows.system] at stepped
  cases found : c.system.tasks[task]? with
  | none => simp [System.stepTask, found] at stepped
  | some worker =>
    obtain ⟨n, rfl⟩ := follows.untroubled.crew worker (List.mem_of_getElem? found)
    have made : c.apply (.run stopFirst task) = some (c.note sys) := by
      simp only [Chronicle.apply, stepped, found, Option.bind_eq_bind, Option.bind_some]
    have steady := Chronicle.apply_steady made rfl
    refine ⟨c.note sys, follows.moved made (Chronicle.untroubled_run follows.untroubled made) rfl ?_ d.pending ?_⟩
    · simp only [System.stepTask, found] at stepped
      obtain ⟨s, session, stepped⟩ := Option.bind_eq_some_iff.mp stepped
      obtain ⟨⟨s', executor, events⟩, took, stepped⟩ := Option.bind_eq_some_iff.mp stepped
      cases stepped
      exact List.length_set ..
    · intro call waiting
      obtain ⟨i, called, seen⟩ := follows.current call waiting
      exact ⟨i, called, fun observed newest reading =>
        (seen observed newest reading).trans (steady.rests.entries _).symm⟩

theorem follows_create {call call' : StartCall} {sys : System} {observed : Option Nat} {newest : Option Entry}
    (follows : Follows settings asked d c) (pending : d.pending = some call)
    (reading : call.phase = .reading observed (.answered (.ok newest)))
    (taken : c.system.startStep .caller call = some (call', sys)) :
    ∃ c', Follows settings asked { d with
      console := { d.console with system := sys }
      pending := some call'
      earlier := d.earlier ++ [d.exchanges.length] } c' := by
  obtain ⟨i, called, seen⟩ := follows.current call pending
  obtain ⟨c', made, shape⟩ : ∃ c', c.apply (.advance i) = some c' ∧ c' = {
      system := sys
      callers := c.callers.set i call'
      notes := c.notes.follow (.caller i) call call' c.system sys } := by
    simp [Chronicle.apply, called, taken]
  have sighted := seen observed (.ok newest) reading
  have inside : i < c.callers.length := (List.getElem?_eq_some_iff.mp called).1
  simp only [System.startStep, reading, Option.some.injEq, Prod.mk.injEq] at taken
  obtain ⟨rfl, rfl⟩ := taken
  refine ⟨c', ?_⟩
  subst shape
  constructor
  case untroubled => exact Chronicle.untroubled_advance follows.untroubled made
  case system => rfl
  case names => exact (Chronicle.apply_extends made).names.trans follows.names
  case accepted => exact (Chronicle.apply_accepted made (by simp)).trans follows.accepted
  case succeeded => exact follows.succeeded
  case ascending => exact follows.ascending
  case behind => exact follows.behind
  case length => simp [System.createSession, System.draw, follows.length]
  case grounded =>
    intro n k found
    rcases getElem?_snoc_cases found with before | ⟨last, rfl⟩
    · obtain ⟨shared, grounded⟩ := follows.grounded n k before
      have inside : n < d.earlier.length := (List.getElem?_eq_some_iff.mp before).1
      exact ⟨shared, grounded.step follows.untroubled.plain (follows.length ▸ inside) made⟩
    · obtain rfl : n = c.system.sessions.length := last.trans follows.length
      refine ⟨Nat.le_refl _, fun s session => ?_⟩
      have source : s.source = call.source := by
        simp only [System.session?, System.createSession, List.getElem?_append_right (Nat.le_refl _), Nat.sub_self,
          List.getElem?_singleton, if_true, Option.some.injEq] at session
        rw [← session]
      have ground : (c.notes.follow (.caller i) call { call with phase := .installing observed c.system.sessions.length }
          c.system (c.system.createSession call.source call.bounds newest).2).ground c.system.sessions.length =
          c.notes.sighted (.caller i) := by
        simp [Notes.follow, reading]
      have all : d.exchanges.length = (d.exchanges.map Exchange.write).length := (List.length_map _).symm
      show (c.notes.follow _ _ _ _ _).ground _ = _
      rw [all, List.take_length, source]
      exact ground.trans (sighted.trans (follows.entries _))
  case current =>
    intro waiting same
    cases same
    exact ⟨i, List.getElem?_set_self inside, fun observed newest reading => by cases reading⟩

theorem turn_creates {origin : Origin} {call : StartCall} {phase : StartPhase} {sys sys' : System}
    (turn : System.CallTurn origin call sys phase sys') :
    (∃ observed newest, call.phase = .reading observed (.answered (.ok newest))) ∨
      sys'.sessions.length = sys.sessions.length := by
  cases turn with
  | create observed newest reading => exact .inl ⟨observed, newest, reading⟩
  | read observed inquiry inquiry' sys' reading asked => exact .inr (by rw [(System.inquire_spec asked).1.sessions])
  | skip | claim => exact .inr (List.length_set ..)
  | spawn n s subscription sys' opening session opened =>
    exact .inr ((List.length_set ..).trans (by rw [(System.subscribeFrom_spec opened).1.sessions]))
  | refuse n s error sys' opening session failed =>
    exact .inr ((List.length_set ..).trans (by rw [(System.subscribeFrom_spec failed).1.sessions]))
  | _ => exact .inr rfl

theorem follows_advance (follows : Follows settings asked d c) (applied : d.apply .advance = some d') :
    ∃ c', Follows settings asked d' c' := by
  obtain ⟨call, pending, applied⟩ := Option.bind_eq_some_iff.mp applied
  obtain ⟨⟨call', sys⟩, taken, same⟩ := Option.bind_eq_some_iff.mp applied
  cases same
  rw [← follows.system] at taken ⊢
  obtain ⟨turn, shape⟩ := System.startStep_turn taken
  rcases turn_creates turn with ⟨observed, newest, reading⟩ | length
  · obtain ⟨c', after⟩ := follows_create follows pending reading taken
    refine ⟨c', ?_⟩
    have phase : ∃ n, call'.phase = .installing observed n := by
      simp only [System.startStep, reading] at taken
      cases taken
      exact ⟨_, rfl⟩
    obtain ⟨n, phase⟩ := phase
    have one : sys.sessions.length - c.system.sessions.length = 1 := by
      simp only [System.startStep, reading] at taken
      cases taken
      simp [System.createSession, System.draw]
    have waits : call'.pending? = some call' := by simp only [StartCall.pending?, phase]
    rw [waits, one]
    exact after
  · obtain ⟨i, called, seen⟩ := follows.current call pending
    obtain ⟨c', made, same⟩ : ∃ c', c.apply (.advance i) = some c' ∧ c' = {
        system := sys
        callers := c.callers.set i call'
        notes := c.notes.follow (.caller i) call call' c.system sys } := by
      simp [Chronicle.apply, called, taken]
    have system : c'.system = sys := by rw [same]
    have steady := Chronicle.apply_steady made rfl
    have inside : i < c.callers.length := (List.getElem?_eq_some_iff.mp called).1
    have moved := follows.moved made (Chronicle.untroubled_advance follows.untroubled made)
      (Chronicle.apply_accepted made (by simp)) (system ▸ length) call'.pending?
    rw [length, Nat.sub_self, List.replicate_zero, List.append_nil, ← system]
    refine ⟨c', moved fun waiting found => ?_⟩
    obtain ⟨-, -, returned⟩ | ⟨-, open'⟩ := call'.pending_cases
    · cases returned.symm.trans found
    obtain rfl : call' = waiting := Option.some.inj (open'.symm.trans found)
    refine ⟨i, by rw [same]; exact List.getElem?_set_self inside, fun observed newest reading => ?_⟩
    rw [steady.rests.entries, same]
    rw [reading] at turn
    cases turn with
    | read observed inquiry inquiry' sys' before question =>
      have topic : c.system.pool.topicOf call.source = settings.log.topicOf call'.source := by
        rw [shape, Pool.topicOf, follows.names]
      simp only [Notes.follow, before, reading, Function.update_self, topic]

theorem follows_call (follows : Follows settings asked d c) (source : Option String) (bounds : Bounds) :
    ∃ c', Follows settings asked { d with pending := some (d.console.system.startCall source bounds) } c' := by
  obtain ⟨c', made, shape⟩ : ∃ c', c.apply (.call source bounds) = some c' ∧ c' =
      { c with callers := c.callers ++ [c.system.startCall source bounds] } := ⟨_, rfl, rfl⟩
  have system : c'.system = d.console.system := by rw [shape, follows.system]
  have sessions : c'.system.sessions.length = c.system.sessions.length := by rw [shape]
  have moved := follows.moved made (Chronicle.untroubled_call follows.untroubled made)
    (Chronicle.apply_accepted made (by simp)) sessions (some (d.console.system.startCall source bounds))
  rw [system] at moved
  refine ⟨c', moved fun call same => ?_⟩
  cases same
  refine ⟨c.callers.length, ?_, fun observed newest reading => by cases reading⟩
  rw [shape, follows.system]
  simp

theorem follows_stop (follows : Follows settings asked d c) (free : d.pending = none) (source : Option String) :
    ∃ c', Follows settings asked
      { d with console := { d.console with system := (d.console.system.stop .caller source).2 } } c' := by
  obtain ⟨c', made, shape⟩ : ∃ c', c.apply (.stopSource source) = some c' ∧ c' =
      c.note (c.system.stop .caller source).2 := ⟨_, rfl, rfl⟩
  have system : c'.system = (d.console.system.stop .caller source).2 := by rw [shape, ← follows.system]; rfl
  have sessions : c'.system.sessions.length = c.system.sessions.length := by
    rw [system, ← follows.system]
    unfold System.stop
    split
    · rfl
    · unfold System.stopSession System.withSession
      split
      · rfl
      · exact List.length_set ..
  have moved := follows.moved made (Chronicle.untroubled_stop follows.untroubled made)
    (Chronicle.apply_accepted made (by simp)) sessions none fun call waiting => by cases waiting
  rw [system, ← free] at moved
  exact ⟨c', moved⟩

theorem Follows.above {id : Ulid} (follows : Follows settings asked d c) (higher : d.console.generator.previous < id) :
    ∀ e ∈ d.exchanges, e.write.op.tx < id := by
  intro e member
  have low := follows.behind e member
  rw [Ulid.le_def] at low
  rw [Ulid.lt_def] at higher ⊢
  omega

theorem Follows.last_below {w : Journal.Write} {last : Entry} (follows : Follows settings asked d c)
    (above : ∀ e ∈ d.exchanges, e.write.op.tx < w.op.tx)
    (ends : c.system.log.last? (w.topic c.system.pool.settings) = some last) : last.id < w.op.tx := by
  have member := List.mem_of_getLast? ends
  rw [follows.entries] at member
  obtain ⟨earlier, written, rfl⟩ := List.mem_map.mp member
  obtain ⟨e, exchanged, rfl⟩ := List.mem_map.mp (List.mem_filter.mp written).1
  rw [Write.entry_id]
  exact above e exchanged

theorem Follows.snoc {write : Moment × AppendStep × Console.Write} {e : Exchange} {sys : System}
    {generator : Ulid.Generator} (follows : Follows settings asked d c) (free : d.pending = none)
    (untroubled : (c.accept e.write sys).Untroubled) (sessions : sys.sessions = c.system.sessions)
    (made : c.apply (.append e.write.step e.write.source e.write.op) = some (c.accept e.write sys))
    (succeeds : Succeeds settings.log write e) (above : ∀ earlier ∈ d.exchanges, earlier.write.op.tx < e.write.op.tx)
    (last : generator.previous = e.write.op.tx) :
    Follows settings (asked ++ [write]) { d with
      console := { system := sys, generator }
      exchanges := d.exchanges ++ [e] } (c.accept e.write sys) where
  untroubled := untroubled
  system := rfl
  names := (Chronicle.apply_extends made).names.trans follows.names
  accepted := by simp [Chronicle.accept, follows.accepted]
  succeeded := List.rel_append follows.succeeded (.cons succeeds .nil)
  ascending := by
    rw [List.map_append, List.map_singleton, List.pairwise_append]
    refine ⟨follows.ascending, List.pairwise_singleton _ _, ?_⟩
    intro a before b new
    obtain ⟨earlier, exchanged, rfl⟩ := List.mem_map.mp before
    rw [List.mem_singleton.mp new]
    exact above earlier exchanged
  behind := by
    intro earlier member
    rw [last]
    rcases List.mem_append.mp member with before | new
    · exact Nat.le_of_lt (above earlier before)
    · rw [List.mem_singleton.mp new]
      exact Nat.le_refl _
  length := follows.length.trans (congrArg List.length sessions).symm
  grounded := by
    intro n k found
    have present : n < c.system.sessions.length := follows.length ▸ (List.getElem?_eq_some_iff.mp found).1
    obtain ⟨inside, grounded⟩ := follows.grounded n k found
    rw [List.length_append, List.map_append]
    have shared : k ≤ (d.exchanges.map Exchange.write).length := by rw [List.length_map]; exact inside
    exact ⟨Nat.le_add_right_of_le inside, (grounded.step follows.untroubled.plain present made).snoc shared e.write⟩
  current := by
    intro call waiting
    rw [free] at waiting
    cases waiting

theorem follows_write {moment : Moment} {step : AppendStep} {w : Console.Write} {answer : Json} {console : Console}
    (follows : Follows settings asked d c) (free : d.pending = none) (ordinary : moment.Ordinary)
    (readable : ∀ id, (w.asked moment step id).op.Valid ∧ (w.asked moment step id).operation.Readable)
    (wrote : d.console.write moment step step.method w = some (answer, console)) :
    ∃ id later, d.console.generator.next moment.readings = some (id, console.generator, later) ∧
      ∃ c', Follows settings (asked ++ [(moment, step, w)]) { d with
        console
        exchanges := d.exchanges ++ [⟨w.asked moment step id, answer.canonical⟩] } c' := by
  obtain ⟨⟨id, generator, later⟩, gives, wrote⟩ := Option.bind_eq_some_iff.mp wrote
  obtain ⟨rfl, higher⟩ := Ulid.Generator.next_ascends (fun r member => Ulid.low_of_year (ordinary.readings r member)) gives
  obtain ⟨valid, readable⟩ := readable id
  have above : ∀ e ∈ d.exchanges, e.write.op.tx < (w.asked moment step id).op.tx := follows.above higher
  obtain ⟨sys, appended, sessions, made, untroubled⟩ := Chronicle.untroubled_append follows.untroubled
    (Write.replays valid readable) fun last ends => follows.last_below above ends
  have appended : d.console.system.append .caller step w.source (operationOf moment.time.timestamp id step.method w) =
      _ := follows.system ▸ appended
  simp only [appended] at wrote
  cases wrote
  refine ⟨id, later, gives, c.accept (w.asked moment step id) sys, ?_⟩
  refine follows.snoc free untroubled sessions made ⟨⟨id, rfl⟩, ?_⟩ above rfl
  have names : d.console.system.pool.settings = settings.log := follows.system ▸ follows.names
  simp only [receipt, names]

theorem follows_other {moment : Moment} {text : String} {answer : Option Json} {console : Console}
    (follows : Follows settings asked d c) (free : d.pending = none) (uncalled : callOf text = none)
    (unasked : (commandOf text).bind Command.write? = none)
    (answered : d.console.answer moment text = some (answer, console)) :
    ∃ c', Follows settings asked { d with console } c' := by
  have later := follows.atTime moment.time.milliseconds
  cases read : commandOf text with
  | none =>
    obtain ⟨answer', same⟩ := @answer_of_none moment text d.console read
    rw [same] at answered
    cases answered
    exact ⟨_, later⟩
  | some command =>
    rw [answer_of_command read] at answered
    obtain ⟨⟨json, console'⟩, performed, same⟩ := Option.map_eq_some_iff.mp answered
    cases same
    rw [read] at unasked
    cases command with
    | put w | delete w => cases unasked
    | restore request =>
      have refused : ∃ error, request.bounds = .error error := by
        simp only [callOf, read] at uncalled
        split at uncalled
        · exact ⟨_, ‹_›⟩
        · cases uncalled
      obtain ⟨error, refused⟩ := refused
      simp only [perform, restore, refused] at performed
      cases performed
      exact ⟨_, later⟩
    | status source | list =>
      cases performed
      exact ⟨_, later⟩
    | stop source =>
      cases performed
      exact follows_stop later free source

theorem follows_line {moment : Moment} {text : String} (follows : Follows settings asked d c)
    (ordinary : (Act.line moment text).Ordinary) (applied : d.apply (.line moment text) = some d') :
    ∃ c', Follows settings (asked ++ (Act.line moment text).asks?.toList) d' c' := by
  obtain ⟨time, whole⟩ := ordinary
  have later := follows.atTime moment.time.milliseconds
  cases free : d.pending with
  | some call => simp [Desk.apply, free] at applied
  | none =>
    cases called : callOf text with
    | some call =>
      obtain ⟨source, bounds⟩ := call
      simp only [Desk.apply, free, called, Option.some.injEq] at applied
      subst applied
      simp only [Act.asks?, unasked_of_call called, Option.map_none, Option.toList_none, List.append_nil]
      exact follows_call later source bounds
    | none =>
      simp only [Desk.apply, free, called] at applied
      obtain ⟨⟨answer, console⟩, answered, same⟩ := Option.bind_eq_some_iff.mp applied
      cases asks : (commandOf text).bind Command.write? with
      | none =>
        simp only [writeOf_of_unasked asks, Act.asks?, asks, Option.map_none, Option.toList_none, List.append_nil] at same ⊢
        cases same
        obtain ⟨c', after⟩ := follows_other follows free called asks answered
        exact ⟨c', by simpa [free] using after⟩
      | some write =>
        obtain ⟨step, w⟩ := write
        obtain ⟨command, read, asks⟩ := Option.bind_eq_some_iff.mp asks
        rw [answer_of_command read] at answered
        obtain ⟨⟨json, console'⟩, performed, same'⟩ := Option.map_eq_some_iff.mp answered
        cases same'
        rw [perform_write asks] at performed
        have readable := valid_of_line read asks time (whole (step, w) (by rw [read]; exact asks))
        obtain ⟨id, rest, gives, c', after⟩ := follows_write later free time readable performed
        have gives : d.console.generator.next moment.readings = some (id, console'.generator, rest) := gives
        have written : writeOf moment text d.console = some (w.asked moment step id) := by
          simp [writeOf, read, asks, gives]
        simp only [written] at same
        cases same
        refine ⟨c', ?_⟩
        simpa [Act.asks?, read, asks, free] using after

theorem follows_run {acts : List Act} (ordinary : ∀ act ∈ acts, act.Ordinary) (follows : Follows settings asked d c)
    (ran : Desk.run acts d = some d') : ∃ c', Follows settings (asked ++ acts.filterMap Act.asks?) d' c' := by
  induction acts generalizing asked d c with
  | nil =>
    cases ran
    exact ⟨c, by simpa using follows⟩
  | cons act later ih =>
    obtain ⟨next, applied, rest⟩ := Option.bind_eq_some_iff.mp ran
    obtain ⟨here, ordinary⟩ := List.forall_mem_cons.mp ordinary
    have step : ∃ c', Follows settings (asked ++ act.asks?.toList) next c' := by
      cases act with
      | line moment text => exact follows_line follows here applied
      | advance => simpa [Act.asks?] using follows_advance follows applied
      | work stopFirst task => simpa [Act.asks?] using follows_work follows applied
      | clock time =>
        cases applied
        exact ⟨_, by simpa [Act.asks?] using follows.atTime time⟩
    obtain ⟨c', step⟩ := step
    obtain ⟨c'', after⟩ := ih ordinary step rest
    refine ⟨c'', ?_⟩
    cases asks : act.asks? with
    | none => simpa [asks] using after
    | some write => simpa [asks] using after

theorem clean_of_follows {acts : List Act} (follows : Follows settings (acts.filterMap Act.asks?) d c) :
    d.Clean settings acts where
  succeeded := follows.succeeded
  ascending := follows.ascending
  prompt := fun free moment line passed => apply_line_isSome free passed
  restored := by
    intro n s session done
    rw [← follows.system] at session
    obtain ⟨error, failed, ignored, whole⟩ := follows.untroubled.ended session done
    have inside : n < d.earlier.length := follows.length ▸ (List.getElem?_eq_some_iff.mp session).1
    refine ⟨error, failed, ignored, d.earlier[n], List.getElem?_eq_getElem inside, fun going => ?_⟩
    obtain ⟨-, grounded⟩ := follows.grounded n _ (List.getElem?_eq_getElem inside)
    rw [whole going, Chronicle.dueTo, grounded s session, share, ← List.map_take, List.filter_map, List.length_map,
      List.filter_filter, List.filter_map, List.length_map]
    congr 2
    funext e
    simp [Write.entry_id, Bool.and_comm]

end

/-- Whatever is written and restored at the console, and however its restores run on meanwhile. -/
theorem restores_at_the_console_are_clean {settings : Settings} {acts : List Act} {d : Desk}
    (ordinary : ∀ act ∈ acts, act.Ordinary) (ran : Desk.run acts (.opened settings) = some d) : d.Clean settings acts := by
  obtain ⟨c, follows⟩ := follows_run ordinary (follows_opened settings) ran
  exact clean_of_follows follows

def oneTopic : Settings := { log := { topicPerSource := false } }

def morning (n : Nat) : Moment := ⟨Instant.ofMilliseconds (1700000000000 + n), [⟨1700000000000 + n, n⟩]⟩

def busyMorning : List Act :=
  [.line (morning 0) "[\"put\",\"a\",null,null,\"Person\",\"p1\",[7]]",
    .line (morning 0) "[\"delete\",null,null,null,\"Person\",\"p1\",null]",
    .line (morning 1) "[\"restore\",\"b\"]"] ++ List.replicate 6 .advance ++
  [.work false 0, .line (morning 2) "[\"put\",\"b\",null,null,\"Person\",\"p2\",null]"] ++
    List.replicate 6 (.work false 0)

theorem two_of_three_writes_are_restored_at_the_console : ∃ (d : Desk) (s : Session),
    (∀ act ∈ busyMorning, act.Ordinary) ∧ Desk.run busyMorning (.opened oneTopic) = some d ∧
      d.exchanges.length = 3 ∧ d.earlier = [2] ∧ d.console.system.session? 0 = some s ∧ s.done = true ∧
      s.tally.restored = 2 ∧ d.Clean oneTopic busyMorning := by
  have ordinary : ∀ act ∈ busyMorning, act.Ordinary := by decide +kernel
  have ends : (Desk.run busyMorning (.opened oneTopic)).map (fun d =>
      (d.exchanges.length, d.earlier, (d.console.system.session? 0).map fun s => (s.done, s.tally.restored))) =
        some (3, [2], some (true, 2)) := by
    decide +kernel
  obtain ⟨d, ran, state⟩ := Option.map_eq_some_iff.mp ends
  simp only [Prod.mk.injEq] at state
  obtain ⟨exchanges, earlier, state⟩ := state
  obtain ⟨s, session, state⟩ := Option.map_eq_some_iff.mp state
  obtain ⟨done, restored⟩ := Prod.mk.inj state
  exact ⟨d, s, ordinary, ran, exchanges, earlier, session, done, restored,
    restores_at_the_console_are_clean ordinary ran⟩

end Console
end Journal
