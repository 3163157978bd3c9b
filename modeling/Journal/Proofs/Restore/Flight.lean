import Journal.Proofs.Places
import Journal.Proofs.System.Effect

/-!
The invariant of sessions, slots and calls. A call looks at the slot, asks for the newest entry and installs its
candidate in separate steps, so any number of other calls may come in between. What carries the argument is that an
end is never taken back: the session that a call has seen at its end is still at its end when the call finds it in
the slot again.
-/
namespace Journal

def Seen (sessions : List Session) (observed : Option Nat) : Prop :=
  ∀ n : Nat, observed = some n → ∃ s : Session, sessions[n]? = some s ∧ s.done = true

def Apt (sessions : List Session) (notes : Notes) (id : CallId) (source : String) : StartPhase → Prop
  | .looking => True
  | .reading observed _ => Seen sessions observed
  | .installing observed n => Seen sessions observed ∧ notes.maker n = some id ∧ n ∉ notes.installed ∧ n ∉ notes.lost ∧
      ∃ s : Session, sessions[n]? = some s ∧ s.source = source ∧ s.started = false
  | .starting n => notes.maker n = some id ∧ n ∈ notes.installed ∧ n ∉ notes.begun
  | .opening n => notes.maker n = some id ∧ n ∈ notes.installed ∧
      ∃ s : Session, sessions[n]? = some s ∧ s.started = true ∧ s.done = false ∧ s.worker = .unborn
  | .returned (.ok n) => n ∈ notes.installed
  | .returned (.error _) => True

/-- The invariant of sessions, slots and calls. -/
structure Flight (sessions : List Session) (slots : Table Nat) (calls : CallId → Option StartCall) (notes : Notes) :
    Prop where
  done_started : ∀ {n : Nat} {s : Session}, sessions[n]? = some s → s.done = true → s.started = true
  born_started : ∀ {n : Nat} {s : Session}, sessions[n]? = some s → s.worker ≠ .unborn → s.started = true
  stored : ∀ {source : String} {n : Nat}, slots.get? source = some n →
    n ∈ notes.installed ∧ ∃ s : Session, sessions[n]? = some s ∧ s.source = source
  winner : ∀ {n : Nat}, n ∈ notes.installed → (notes.maker n).isSome = true ∧
    ∃ s : Session, sessions[n]? = some s ∧ (s.done = false → slots.get? s.source = some n)
  made : ∀ {n : Nat}, (notes.maker n).isSome = true → n < sessions.length
  claimed : ∀ {n : Nat} {s : Session}, sessions[n]? = some s → (notes.maker n).isSome = true → s.started = true → n ∈ notes.installed
  beaten : ∀ {n : Nat}, n ∈ notes.lost → n ∉ notes.installed ∧ (notes.maker n).isSome = true
  begun_won : ∀ {n : Nat}, n ∈ notes.begun → n ∈ notes.installed ∧
    ∃ s : Session, sessions[n]? = some s ∧ s.started = true
  begun_once : notes.begun.Nodup
  pending : ∀ {n : Nat}, n ∈ notes.installed → n ∉ notes.begun →
    ∃ (id : CallId) (call : StartCall), calls id = some call ∧ call.phase = .starting n
  decided : ∀ {n : Nat}, (notes.maker n).isSome = true → n ∈ notes.installed ∨ n ∈ notes.lost ∨
    ∃ (id : CallId) (call : StartCall), calls id = some call ∧ ∃ observed : Option Nat, call.phase = .installing observed n
  apt : ∀ {id : CallId} {call : StartCall}, calls id = some call → Apt sessions notes id call.source call.phase

structure Notes.Aside (id : CallId) (notes notes' : Notes) : Prop where
  maker : ∀ n : Nat, notes.maker n = some id → notes'.maker n = some id
  won : ∀ n : Nat, n ∈ notes.installed → n ∈ notes'.installed
  installed : ∀ n : Nat, notes.maker n = some id → n ∈ notes'.installed → n ∈ notes.installed
  lost : ∀ n : Nat, notes.maker n = some id → n ∈ notes'.lost → n ∈ notes.lost
  begun : ∀ n : Nat, notes.maker n = some id → n ∈ notes'.begun → n ∈ notes.begun

theorem Apt.of_aside {sessions : List Session} {notes notes' : Notes} {id : CallId} {source : String}
    {phase : StartPhase} (apt : Apt sessions notes id source phase) (aside : notes.Aside id notes') :
    Apt sessions notes' id source phase := by
  cases phase with
  | looking => trivial
  | reading observed inquiry => exact apt
  | installing observed n =>
    obtain ⟨seen, maker, waits, stands, session⟩ := apt
    exact ⟨seen, aside.maker n maker, fun won => waits (aside.installed n maker won),
      fun lost => stands (aside.lost n maker lost), session⟩
  | starting n =>
    obtain ⟨maker, won, waits⟩ := apt
    exact ⟨aside.maker n maker, aside.won n won, fun begun => waits (aside.begun n maker begun)⟩
  | opening n =>
    obtain ⟨maker, won, session⟩ := apt
    exact ⟨aside.maker n maker, aside.won n won, session⟩
  | returned result =>
    cases result with
    | ok n => exact aside.won n apt
    | error error => trivial

theorem Apt.of_sessions {sessions sessions' : List Session} {notes : Notes} {id : CallId} {source : String}
    {phase : StartPhase} (apt : Apt sessions notes id source phase)
    (ended : ∀ (n : Nat) (s : Session), sessions[n]? = some s → s.done = true →
      ∃ s' : Session, sessions'[n]? = some s' ∧ s'.done = true)
    (candidate : ∀ (n : Nat) (s : Session), notes.maker n = some id → n ∉ notes.installed → sessions[n]? = some s →
      s.started = false → ∃ s' : Session, sessions'[n]? = some s' ∧ s'.source = s.source ∧ s'.started = false)
    (busy : ∀ (n : Nat) (s : Session), phase = .opening n → sessions[n]? = some s →
      s.started = true ∧ s.done = false ∧ s.worker = .unborn →
      ∃ s' : Session, sessions'[n]? = some s' ∧ s'.started = true ∧ s'.done = false ∧ s'.worker = .unborn) :
    Apt sessions' notes id source phase := by
  have seen : ∀ {observed : Option Nat}, Seen sessions observed → Seen sessions' observed := by
    intro observed before n same
    obtain ⟨s, found, finished⟩ := before n same
    exact ended n s found finished
  cases phase with
  | looking => trivial
  | reading observed inquiry => exact seen apt
  | installing observed n =>
    obtain ⟨before, maker, waits, stands, s, found, same, unclaimed⟩ := apt
    obtain ⟨s', found', kept, unclaimed'⟩ := candidate n s maker waits found unclaimed
    exact ⟨seen before, maker, waits, stands, s', found', kept.trans same, unclaimed'⟩
  | starting n => exact apt
  | opening n =>
    obtain ⟨maker, won, s, found, state⟩ := apt
    exact ⟨maker, won, busy n s rfl found state⟩
  | returned result => cases result <;> exact apt

theorem found_moved {calls : CallId → Option StartCall} {id other : CallId} {call call' : StartCall}
    (found : Function.update calls id (some call') other = some call) :
    other = id ∧ call = call' ∨ other ≠ id ∧ calls other = some call := by
  by_cases here : other = id
  · subst here
    rw [Function.update_self] at found
    exact .inl ⟨rfl, (Option.some.inj found).symm⟩
  · rw [Function.update_of_ne here] at found
    exact .inr ⟨here, found⟩

theorem still (P : StartPhase → Prop) {calls : CallId → Option StartCall} {id : CallId} {call' : StartCall}
    (settled : ∀ call : StartCall, calls id = some call → ¬ P call.phase)
    (waiting : ∃ (other : CallId) (call : StartCall), calls other = some call ∧ P call.phase) :
    ∃ (other : CallId) (call : StartCall), Function.update calls id (some call') other = some call ∧ P call.phase := by
  obtain ⟨other, call, found, phase⟩ := waiting
  refine ⟨other, call, ?_, phase⟩
  rw [Function.update_of_ne ?_, found]
  rintro rfl
  exact settled call found phase

theorem still_after (P : StartPhase → Prop) {calls : CallId → Option StartCall} {id : CallId} {call call' : StartCall}
    (current : calls id = some call) (other : ¬ P call.phase)
    (waiting : ∃ (other : CallId) (call : StartCall), calls other = some call ∧ P call.phase) :
    ∃ (other : CallId) (call : StartCall), Function.update calls id (some call') other = some call ∧ P call.phase :=
  still P (fun found same => by
    rw [current] at same
    cases same
    exact other) waiting

namespace Flight

variable {sessions : List Session} {slots : Table Nat} {calls : CallId → Option StartCall} {notes : Notes}

theorem apt_moved {notes' : Notes} {id : CallId} {call' : StartCall} (flight : Flight sessions slots calls notes)
    (own : Apt sessions notes' id call'.source call'.phase) (aside : ∀ other, other ≠ id → notes.Aside other notes')
    {other : CallId} {call : StartCall} (found : Function.update calls id (some call') other = some call) :
    Apt sessions notes' other call.source call.phase := by
  rcases found_moved found with ⟨rfl, rfl⟩ | ⟨different, there⟩
  · exact own
  · exact (flight.apt there).of_aside (aside other different)

theorem of_same {notes' : Notes} (flight : Flight sessions slots calls notes) (maker : notes'.maker = notes.maker)
    (installed : notes'.installed = notes.installed) (lost : notes'.lost = notes.lost)
    (begun : notes'.begun = notes.begun) : Flight sessions slots calls notes' where
  done_started := flight.done_started
  born_started := flight.born_started
  stored := installed ▸ flight.stored
  winner := installed ▸ maker ▸ flight.winner
  made := maker ▸ flight.made
  claimed := installed ▸ maker ▸ flight.claimed
  beaten := lost ▸ installed ▸ maker ▸ flight.beaten
  begun_won := begun ▸ installed ▸ flight.begun_won
  begun_once := begun ▸ flight.begun_once
  pending := begun ▸ installed ▸ flight.pending
  decided := lost ▸ installed ▸ maker ▸ flight.decided
  apt := fun found => (flight.apt found).of_aside
    ⟨fun _ made => maker ▸ made, fun _ won => installed ▸ won, fun _ _ won => installed ▸ won,
      fun _ _ beaten => lost ▸ beaten, fun _ _ started => begun ▸ started⟩

theorem rephase (flight : Flight sessions slots calls notes) {id : CallId} {call' : StartCall}
    (own : Apt sessions notes id call'.source call'.phase)
    (notStarting : ∀ call : StartCall, calls id = some call → ∀ n : Nat, call.phase ≠ .starting n)
    (notInstalling : ∀ call : StartCall, calls id = some call →
      ∀ (observed : Option Nat) (n : Nat), call.phase ≠ .installing observed n) :
    Flight sessions slots (Function.update calls id (some call')) notes where
  done_started := flight.done_started
  born_started := flight.born_started
  stored := flight.stored
  winner := flight.winner
  made := flight.made
  claimed := flight.claimed
  beaten := flight.beaten
  begun_won := flight.begun_won
  begun_once := flight.begun_once
  pending := fun {n} won waits =>
    still (· = .starting n) (fun call current => notStarting call current n) (flight.pending won waits)
  decided := by
    intro n made
    rcases flight.decided made with won | lost | waiting
    · exact .inl won
    · exact .inr (.inl lost)
    · exact .inr (.inr (still (fun phase => ∃ observed, phase = .installing observed n)
        (fun call current ⟨observed, phase⟩ => notInstalling call current observed n phase) waiting))
  apt := flight.apt_moved own fun _ _ => ⟨fun _ h => h, fun _ h => h, fun _ _ h => h, fun _ _ h => h, fun _ _ h => h⟩

theorem going_of_unclaimed (flight : Flight sessions slots calls notes) {n : Nat} {s : Session}
    (session : sessions[n]? = some s) (unclaimed : s.started = false) : s.done = false := by
  cases finished : s.done with
  | false => rfl
  | true => simp [flight.done_started session finished] at unclaimed

theorem unborn_of_unclaimed (flight : Flight sessions slots calls notes) {n : Nat} {s : Session}
    (session : sessions[n]? = some s) (unclaimed : s.started = false) : s.worker = .unborn := by
  by_contra born
  simp [flight.born_started session born] at unclaimed

theorem of_opening (flight : Flight sessions slots calls notes) {id : CallId} {call : StartCall} {n : Nat} {s : Session}
    (current : calls id = some call) (opening : call.phase = .opening n) (session : sessions[n]? = some s) :
    s.started = true ∧ s.done = false ∧ s.worker = .unborn := by
  have apt := flight.apt current
  rw [opening] at apt
  obtain ⟨-, -, t, found, state⟩ := apt
  obtain rfl := Option.some.inj (found.symm.trans session)
  exact state

theorem set (flight : Flight sessions slots calls notes) {n : Nat} {s s' : Session} (session : sessions[n]? = some s)
    (source : s'.source = s.source) (done : s.done = true → s'.done = true) (finished : s'.done = true → s'.started = true)
    (kept : s.started = true → s'.started = true) (born : s'.worker ≠ .unborn → s'.started = true)
    (claim : s'.started = true → s.started = true ∨ n ∈ notes.installed ∨ notes.maker n = none)
    (busy : ∀ (id : CallId) (call : StartCall), calls id = some call → call.phase = .opening n →
      s'.started = true ∧ s'.done = false ∧ s'.worker = .unborn) :
    Flight (sessions.set n s') slots calls notes where
  done_started := by
    intro m t found ended
    rcases getElem?_before_set found with ⟨rfl, rfl⟩ | ⟨-, there⟩
    · exact finished ended
    · exact flight.done_started there ended
  born_started := by
    intro m t found awake
    rcases getElem?_before_set found with ⟨rfl, rfl⟩ | ⟨-, there⟩
    · exact born awake
    · exact flight.born_started there awake
  stored := by
    intro name m held
    obtain ⟨won, t, found, same⟩ := flight.stored held
    rcases getElem?_after_set s' session found with ⟨-, rfl, here⟩ | ⟨-, there⟩
    · exact ⟨won, s', here, source.trans same⟩
    · exact ⟨won, t, there, same⟩
  winner := by
    intro m won
    obtain ⟨made, t, found, holds⟩ := flight.winner won
    rcases getElem?_after_set s' session found with ⟨-, rfl, here⟩ | ⟨-, there⟩
    · refine ⟨made, s', here, fun going => ?_⟩
      rw [source]
      refine holds ?_
      cases ended : t.done with
      | false => rfl
      | true => simp [done ended] at going
    · exact ⟨made, t, there, holds⟩
  made := fun made => by
    rw [List.length_set]
    exact flight.made made
  claimed := by
    intro m t found made started
    rcases getElem?_before_set found with ⟨rfl, rfl⟩ | ⟨-, there⟩
    · rcases claim started with before | won | stray
      · exact flight.claimed session made before
      · exact won
      · simp [stray] at made
    · exact flight.claimed there made started
  beaten := flight.beaten
  begun_won := by
    intro m begun
    obtain ⟨won, t, found, started⟩ := flight.begun_won begun
    rcases getElem?_after_set s' session found with ⟨-, rfl, here⟩ | ⟨-, there⟩
    · exact ⟨won, s', here, kept started⟩
    · exact ⟨won, t, there, started⟩
  begun_once := flight.begun_once
  pending := flight.pending
  decided := flight.decided
  apt := by
    intro id call current
    refine (flight.apt current).of_sessions ?_ ?_ ?_
    · intro m t found ended
      rcases getElem?_after_set s' session found with ⟨-, rfl, here⟩ | ⟨-, there⟩
      · exact ⟨s', here, done ended⟩
      · exact ⟨t, there, ended⟩
    · intro m t maker waits found unclaimed
      rcases getElem?_after_set s' session found with ⟨rfl, rfl, here⟩ | ⟨-, there⟩
      · refine ⟨s', here, source, ?_⟩
        -- A candidate that is still to be installed cannot have been claimed.
        cases started : s'.started with
        | false => rfl
        | true =>
          rcases claim started with before | won | stray
          · simp [unclaimed] at before
          · exact absurd won waits
          · simp [stray] at maker
      · exact ⟨t, there, rfl, unclaimed⟩
    · intro m t opening found state
      rcases getElem?_after_set s' session found with ⟨rfl, rfl, here⟩ | ⟨-, there⟩
      · exact ⟨s', here, busy id call current opening⟩
      · exact ⟨t, there, state⟩

theorem snoc (flight : Flight sessions slots calls notes) {s : Session} (unclaimed : s.started = false)
    (going : s.done = false) (unborn : s.worker = .unborn) : Flight (sessions ++ [s]) slots calls notes := by
  have kept : ∀ {n : Nat} {t : Session}, sessions[n]? = some t → (sessions ++ [s])[n]? = some t :=
    fun found => getElem?_grown found [s]
  refine { flight with
    done_started := ?_, born_started := ?_, stored := ?_, winner := ?_, made := ?_, claimed := ?_, begun_won := ?_
    apt := ?_ }
  · intro n t found ended
    rcases getElem?_snoc_cases found with before | ⟨-, rfl⟩
    · exact flight.done_started before ended
    · simp [going] at ended
  · intro n t found awake
    rcases getElem?_snoc_cases found with before | ⟨-, rfl⟩
    · exact flight.born_started before awake
    · exact absurd unborn awake
  · intro source n held
    obtain ⟨won, t, found, same⟩ := flight.stored held
    exact ⟨won, t, kept found, same⟩
  · intro n won
    obtain ⟨made, t, found, holds⟩ := flight.winner won
    exact ⟨made, t, kept found, holds⟩
  · intro n made
    have inside := flight.made made
    simp only [List.length_append]
    omega
  · intro n t found made started
    rcases getElem?_snoc_cases found with before | ⟨-, rfl⟩
    · exact flight.claimed before made started
    · simp [unclaimed] at started
  · intro n begun
    obtain ⟨won, t, found, started⟩ := flight.begun_won begun
    exact ⟨won, t, kept found, started⟩
  · intro id call current
    exact (flight.apt current).of_sessions (fun n t found ended => ⟨t, kept found, ended⟩)
      (fun n t _ _ found waiting => ⟨t, kept found, rfl, waiting⟩) fun n t _ found state => ⟨t, kept found, state⟩

theorem decided_after {notes' : Notes} (flight : Flight sessions slots calls notes) {id : CallId} {call call' : StartCall}
    {n : Nat} (current : calls id = some call) (made : (notes.maker n).isSome = true)
    (other : ∀ observed : Option Nat, call.phase ≠ .installing observed n)
    (won : n ∈ notes.installed → n ∈ notes'.installed) (beaten : n ∈ notes.lost → n ∈ notes'.lost) :
    n ∈ notes'.installed ∨ n ∈ notes'.lost ∨ ∃ (id' : CallId) (waiting : StartCall),
      Function.update calls id (some call') id' = some waiting ∧
        ∃ observed : Option Nat, waiting.phase = .installing observed n := by
  rcases flight.decided made with before | before | waiting
  · exact .inl (won before)
  · exact .inr (.inl (beaten before))
  · exact .inr (.inr (still_after (fun phase => ∃ observed, phase = .installing observed n) current
      (fun ⟨observed, phase⟩ => other observed phase) waiting))

theorem make (flight : Flight sessions slots calls notes) {id : CallId} {call : StartCall} {n : Nat} {s : Session}
    {observed : Option Nat} {inquiry : Inquiry} {notes' : Notes} (current : calls id = some call)
    (reading : call.phase = .reading observed inquiry) (fresh : notes.maker n = none) (session : sessions[n]? = some s)
    (source : s.source = call.source) (unclaimed : s.started = false)
    (maker : notes'.maker = Function.update notes.maker n (some id)) (installed : notes'.installed = notes.installed)
    (lost : notes'.lost = notes.lost) (begun : notes'.begun = notes.begun) :
    Flight sessions slots (Function.update calls id (some { call with phase := .installing observed n })) notes' := by
  have other : ∀ m, m ≠ n → notes'.maker m = notes.maker m := fun m different => by
    rw [maker, Function.update_of_ne different]
  have here : notes'.maker n = some id := by rw [maker, Function.update_self]
  have stranger : ∀ {m : Nat}, (notes.maker m).isSome = true → m ≠ n := by
    rintro m made rfl
    simp [fresh] at made
  have apart : ∀ {m : Nat}, (notes'.maker m).isSome = true → m = n ∨ m ≠ n ∧ (notes.maker m).isSome = true := by
    intro m made
    by_cases same : m = n
    · exact .inl same
    · exact .inr ⟨same, other m same ▸ made⟩
  have waits : n ∉ notes.installed := fun won => stranger (flight.winner won).1 rfl
  have stands : n ∉ notes.lost := fun beaten => stranger (flight.beaten beaten).2 rfl
  refine ⟨flight.done_started, flight.born_started, installed ▸ flight.stored, ?_, ?_, ?_, ?_,
    begun ▸ installed ▸ flight.begun_won, begun ▸ flight.begun_once, ?_, ?_, ?_⟩
  · intro m won
    rw [installed] at won
    obtain ⟨made, held⟩ := flight.winner won
    exact ⟨other m (stranger made) ▸ made, held⟩
  · intro m made
    rcases apart made with rfl | ⟨-, before⟩
    · exact (List.getElem?_eq_some_iff.mp session).1
    · exact flight.made before
  · intro m t found made started
    rw [installed]
    rcases apart made with rfl | ⟨-, before⟩
    · rw [session] at found
      cases found
      simp [unclaimed] at started
    · exact flight.claimed found before started
  · intro m beaten
    rw [lost] at beaten
    obtain ⟨notWon, made⟩ := flight.beaten beaten
    exact ⟨installed ▸ notWon, other m (stranger made) ▸ made⟩
  · intro m won notBegun
    rw [installed] at won
    rw [begun] at notBegun
    exact still_after (· = .starting m) current (by simp [reading]) (flight.pending won notBegun)
  · intro m made
    rcases apart made with rfl | ⟨-, before⟩
    · exact .inr (.inr ⟨id, _, Function.update_self .., observed, rfl⟩)
    · exact flight.decided_after current before (by simp [reading]) (fun won => installed ▸ won) fun beaten => lost ▸ beaten
  · refine flight.apt_moved ?_ fun asker different => ⟨?_, ?_, ?_, ?_, ?_⟩
    · have seen := flight.apt current
      rw [reading] at seen
      exact ⟨seen, here, installed ▸ waits, lost ▸ stands, s, session, source, unclaimed⟩
    · intro m made
      rw [other m (stranger (by simp [made]))]
      exact made
    · exact fun m won => installed ▸ won
    · exact fun m _ won => installed ▸ won
    · exact fun m _ beaten => lost ▸ beaten
    · exact fun m _ started => begun ▸ started

theorem own_maker {notes : Notes} {id other : CallId} {n : Nat} (maker : notes.maker n = some id)
    (different : other ≠ id) {m : Nat} (same : notes.maker m = some other) : m ≠ n := by
  rintro rfl
  rw [maker] at same
  cases same
  exact different rfl

theorem win (flight : Flight sessions slots calls notes) {id : CallId} {call : StartCall} {observed : Option Nat}
    {n : Nat} {notes' : Notes} (current : calls id = some call) (installing : call.phase = .installing observed n)
    (slot : slots.get? call.source = observed) (maker : notes'.maker = notes.maker)
    (installed : notes'.installed = notes.installed ++ [n]) (lost : notes'.lost = notes.lost)
    (begun : notes'.begun = notes.begun) :
    Flight sessions (slots.insert call.source n)
      (Function.update calls id (some { call with phase := .starting n })) notes' := by
  have apt := flight.apt current
  rw [installing] at apt
  obtain ⟨seen, own, waits, stands, s, session, source, unclaimed⟩ := apt
  have grown : ∀ m, m ∈ notes.installed → m ∈ notes'.installed := fun m won => by
    rw [installed]
    exact List.mem_append_left _ won
  have here : n ∈ notes'.installed := by simp [installed]
  have notBegun : n ∉ notes.begun := fun started => waits (flight.begun_won started).1
  refine ⟨flight.done_started, flight.born_started, ?_, ?_, maker ▸ flight.made, ?_, ?_, ?_, begun ▸ flight.begun_once,
    ?_, ?_, ?_⟩
  · intro name m held
    by_cases same : name = call.source
    · subst same
      rw [Table.get?_insert_self] at held
      cases held
      exact ⟨here, s, session, source⟩
    · rw [Table.get?_insert_other same] at held
      obtain ⟨won, kept⟩ := flight.stored held
      exact ⟨grown m won, kept⟩
  · intro m won
    by_cases same : m = n
    · subst same
      exact ⟨by simp [maker, own], s, session, fun _ => by rw [source, Table.get?_insert_self]⟩
    · rw [installed] at won
      obtain ⟨made, t, found, holds⟩ := flight.winner (mem_snoc won same)
      refine ⟨maker ▸ made, t, found, fun going => ?_⟩
      -- The session that held the slot is done, so one that is not done holds another slot.
      by_cases place : t.source = call.source
      · obtain ⟨t', found', finished⟩ := seen m (by rw [← slot, ← place, holds going])
        rw [found] at found'
        cases found'
        simp [going] at finished
      · rw [Table.get?_insert_other place, holds going]
  · intro m t found made started
    exact grown m (flight.claimed found (maker ▸ made) started)
  · intro m beaten
    rw [lost] at beaten
    obtain ⟨notWon, made⟩ := flight.beaten beaten
    refine ⟨fun won => ?_, maker ▸ made⟩
    rw [installed] at won
    exact notWon (mem_snoc won (by rintro rfl; exact stands beaten))
  · intro m started
    rw [begun] at started
    obtain ⟨won, held⟩ := flight.begun_won started
    exact ⟨grown m won, held⟩
  · intro m won waiting
    by_cases same : m = n
    · subst same
      exact ⟨id, _, Function.update_self .., rfl⟩
    · rw [installed] at won
      rw [begun] at waiting
      exact still_after (· = .starting m) current (by simp [installing]) (flight.pending (mem_snoc won same) waiting)
  · intro m made
    by_cases same : m = n
    · exact .inl (same ▸ here)
    · exact flight.decided_after current (maker ▸ made) (by simp [installing, Ne.symm same]) (grown m)
        fun beaten => lost ▸ beaten
  · refine flight.apt_moved ?_ fun other different => ⟨?_, grown, ?_, ?_, ?_⟩
    · exact ⟨by rw [maker, own], here, begun ▸ notBegun⟩
    · exact fun m made => by rw [maker, made]
    · intro m made won
      rw [installed] at won
      exact mem_snoc won (own_maker own different made)
    · exact fun m _ beaten => lost ▸ beaten
    · exact fun m _ started => begun ▸ started

theorem lose (flight : Flight sessions slots calls notes) {id : CallId} {call : StartCall} {observed : Option Nat}
    {n : Nat} {phase : StartPhase} {notes' : Notes} (current : calls id = some call)
    (installing : call.phase = .installing observed n) (own : Apt sessions notes' id call.source phase)
    (maker : notes'.maker = notes.maker) (installed : notes'.installed = notes.installed)
    (lost : notes'.lost = notes.lost ++ [n]) (begun : notes'.begun = notes.begun) :
    Flight sessions slots (Function.update calls id (some { call with phase })) notes' := by
  have apt := flight.apt current
  rw [installing] at apt
  obtain ⟨-, made, waits, -⟩ := apt
  refine ⟨flight.done_started, flight.born_started, installed ▸ flight.stored, maker ▸ installed ▸ flight.winner,
    maker ▸ flight.made, maker ▸ installed ▸ flight.claimed, ?_, begun ▸ installed ▸ flight.begun_won,
    begun ▸ flight.begun_once, ?_, ?_, ?_⟩
  · intro m beaten
    rw [installed, maker]
    by_cases same : m = n
    · subst same
      exact ⟨waits, by simp [made]⟩
    · rw [lost] at beaten
      exact flight.beaten (mem_snoc beaten same)
  · intro m won waiting
    rw [installed] at won
    rw [begun] at waiting
    exact still_after (· = .starting m) current (by simp [installing]) (flight.pending won waiting)
  · intro m given
    by_cases same : m = n
    · exact .inr (.inl (by simp [lost, same]))
    · exact flight.decided_after current (maker ▸ given) (by simp [installing, Ne.symm same]) (fun won => installed ▸ won)
        fun beaten => lost ▸ List.mem_append_left _ beaten
  · refine flight.apt_moved own fun other different =>
      ⟨fun m given => by rw [maker, given], fun m won => installed ▸ won, fun m _ won => installed ▸ won,
        fun m given beaten => ?_, fun m _ started => begun ▸ started⟩
    rw [lost] at beaten
    exact mem_snoc beaten (own_maker made different given)

theorem begin (flight : Flight sessions slots calls notes) {id : CallId} {call : StartCall} {n : Nat}
    {phase : StartPhase} {notes' : Notes} (current : calls id = some call) (starting : call.phase = .starting n)
    (own : Apt sessions notes' id call.source phase)
    (claimed : ∃ s : Session, sessions[n]? = some s ∧ s.started = true) (maker : notes'.maker = notes.maker)
    (installed : notes'.installed = notes.installed) (lost : notes'.lost = notes.lost)
    (begun : notes'.begun = notes.begun ++ [n]) :
    Flight sessions slots (Function.update calls id (some { call with phase })) notes' := by
  have apt := flight.apt current
  rw [starting] at apt
  obtain ⟨made, won, notBegun⟩ := apt
  refine ⟨flight.done_started, flight.born_started, installed ▸ flight.stored, maker ▸ installed ▸ flight.winner,
    maker ▸ flight.made, maker ▸ installed ▸ flight.claimed, maker ▸ lost ▸ installed ▸ flight.beaten, ?_, ?_, ?_, ?_, ?_⟩
  · intro m started
    rw [installed]
    by_cases same : m = n
    · exact same ▸ ⟨won, claimed⟩
    · rw [begun] at started
      exact flight.begun_won (mem_snoc started same)
  · rw [begun]
    exact List.nodup_append.mpr ⟨flight.begun_once, by simp, fun a before b last => by
      rw [List.mem_singleton.mp last]
      rintro rfl
      exact notBegun before⟩
  · intro m also waiting
    rw [installed] at also
    rw [begun] at waiting
    have unbegun : m ∉ notes.begun := fun before => waiting (List.mem_append_left _ before)
    refine still_after (· = .starting m) current ?_ (flight.pending also unbegun)
    rw [starting]
    rintro ⟨⟩
    exact waiting (by simp)
  · intro m given
    exact flight.decided_after current (maker ▸ given) (by simp [starting]) (fun won => installed ▸ won)
      fun beaten => lost ▸ beaten
  · refine flight.apt_moved own fun other different =>
      ⟨fun m given => by rw [maker, given], fun m also => installed ▸ also, fun m _ also => installed ▸ also,
        fun m _ beaten => lost ▸ beaten, fun m given started => ?_⟩
    rw [begun] at started
    exact mem_snoc started (own_maker made different given)

theorem of_agree {notes' : Notes} (flight : Flight sessions slots calls notes) (agree : Notes.Agree notes notes') :
    Flight sessions slots calls notes' := flight.of_same agree.maker agree.installed agree.lost agree.begun

theorem of_watch (flight : Flight sessions slots calls notes) (before after : System) :
    Flight sessions slots calls (notes.watch before after) := flight.of_same rfl rfl rfl rfl

theorem claim (flight : Flight sessions slots calls notes) {n : Nat} {s s' : Session} (session : sessions[n]? = some s)
    (unclaimed : s.started = false) (source : s'.source = s.source) (started : s'.started = true)
    (handed : n ∈ notes.installed ∨ notes.maker n = none) : Flight (sessions.set n s') slots calls notes := by
  have going := flight.going_of_unclaimed session unclaimed
  refine flight.set session source (by simp [going]) (fun _ => started) (fun _ => started) (fun _ => started)
    (fun _ => .inr handed) ?_
  -- No call opens the consumer of a session that is not claimed yet.
  intro id call current opening
  simp [(flight.of_opening current opening session).1] at unclaimed

theorem advance (flight : Flight sessions slots calls notes) {id : CallId} {call : StartCall} (phase : StartPhase)
    (current : calls id = some call) (own : Apt sessions notes id call.source phase)
    (notStarting : ∀ n : Nat, call.phase ≠ .starting n)
    (notInstalling : ∀ (observed : Option Nat) (n : Nat), call.phase ≠ .installing observed n) :
    Flight sessions slots (Function.update calls id (some { call with phase })) notes := by
  refine flight.rephase own ?_ ?_ <;> intro found same <;> rw [current] at same <;> cases same
  · exact notStarting
  · exact notInstalling

theorem settle (flight : Flight sessions slots calls notes) {id : CallId} {call : StartCall} {n : Nat} {s : Session}
    (s' : Session) (result : Except RestoreError Nat) (current : calls id = some call) (opening : call.phase = .opening n)
    (session : sessions[n]? = some s) (source : s'.source = s.source) (same : s'.started = s.started)
    (own : Apt sessions notes id call.source (.returned result)) :
    Flight (sessions.set n s') slots (Function.update calls id (some { call with phase := .returned result })) notes := by
  obtain ⟨claimed, going, -⟩ := flight.of_opening current opening session
  have started : s'.started = true := same.trans claimed
  have returned := flight.advance (.returned result) current own (by simp [opening]) (by simp [opening])
  refine returned.set session source (by simp [going]) (fun _ => started) (fun _ => started) (fun _ => started)
    (fun _ => .inl claimed) ?_
  intro other stranger found phase
  have apt := flight.apt current
  rw [opening, Apt] at apt
  rcases found_moved found with ⟨rfl, rfl⟩ | ⟨different, there⟩
  · cases phase
  · have apt' := flight.apt there
    rw [phase, Apt, apt.1] at apt'
    exact absurd (Option.some.inj apt'.1).symm different

end Flight

namespace Chronicle

def Orderly (c : Chronicle) : Prop := Flight c.system.sessions c.system.slots c.call? c.notes

theorem handed_of_isOpen {notes : Notes} {n : Nat} (access : notes.isOpen n = true) :
    n ∈ notes.installed ∨ notes.maker n = none := by
  simp only [Notes.isOpen, Bool.or_eq_true, Option.isNone_iff_eq_none, List.contains_iff_mem] at access
  exact access.symm

theorem orderly_opened (settings : Settings) (executor : Executor) (script : Script) :
    (opened settings executor script).Orderly := by
  refine ⟨?_, ?_, ?_, ?_, ?_, ?_, ?_, ?_, List.nodup_nil, ?_, ?_, ?_⟩
  case refine_11 =>
    intro id call current
    cases id <;> simp [call?, opened, System.ofSettings] at current
  all_goals simp [opened, System.ofSettings, Table.get?]

theorem orderly_turn {origin : Origin} {c : Chronicle} {id : CallId} {call : StartCall} {phase : StartPhase}
    {sys : System} (orderly : c.Orderly) (current : c.call? id = some call)
    (turn : System.CallTurn origin call c.system phase sys) :
    Flight sys.sessions sys.slots (Function.update c.call? id (some { call with phase }))
      (c.notes.follow id call { call with phase } c.system sys) := by
  have apt := orderly.apt current
  cases turn with
  | join n looking slot live =>
    simp only [Notes.follow, looking]
    have joined : Apt c.system.sessions c.notes id call.source (.returned (.ok n)) := (orderly.stored slot).1
    exact (orderly.advance _ current joined (by simp [looking]) (by simp [looking])).of_watch _ _
  | ask observed looking slot finished =>
    simp only [Notes.follow, looking]
    refine (orderly.advance (.reading observed .asking) current ?_ (by simp [looking]) (by simp [looking])).of_watch _ _
    intro n same
    obtain ⟨-, s, found, -⟩ := orderly.stored (slot.trans same)
    have ended := finished n same
    simp only [System.isDone, System.session?, found] at ended
    exact ⟨s, found, ended⟩
  | read observed inquiry inquiry' sys' reading asked =>
    obtain ⟨keeps, -⟩ := System.inquire_spec asked
    rw [reading] at apt
    simp only [Notes.follow, reading, keeps.sessions, keeps.slots]
    have asking := orderly.advance (.reading observed inquiry') current apt (by simp [reading]) (by simp [reading])
    exact asking.of_same rfl rfl rfl rfl
  | create observed newest reading =>
    have fresh : c.notes.maker c.system.sessions.length = none := by
      cases made : c.notes.maker c.system.sessions.length with
      | none => rfl
      | some other => exact absurd (orderly.made (by rw [made]; rfl)) (Nat.lt_irrefl _)
    have created : (c.system.createSession call.source call.bounds newest).2.sessions[c.system.sessions.length]? =
        some { source := call.source, executionId := c.system.freshId, bounds := call.bounds
               ceiling := newest.map Entry.id, createdAt := c.system.now } := by
      simp [System.createSession]
    simp only [Notes.follow, reading]
    exact Flight.make (Flight.snoc orderly rfl rfl rfl) current reading fresh created rfl rfl rfl rfl rfl rfl
  | fail observed error reading =>
    simp only [Notes.follow, reading]
    have failed : Apt c.system.sessions c.notes id call.source (.returned (.error (.transport error))) := trivial
    exact (orderly.advance _ current failed (by simp [reading]) (by simp [reading])).of_watch _ _
  | win observed n installing slot =>
    simp only [Notes.follow, installing]
    exact Flight.win orderly current installing slot rfl rfl rfl rfl
  | lose observed n m installing slot other =>
    simp only [Notes.follow, installing]
    exact Flight.lose orderly current installing (orderly.stored slot).1 rfl rfl rfl rfl
  | again observed n installing slot other =>
    simp only [Notes.follow, installing]
    exact Flight.lose orderly current installing trivial rfl rfl rfl rfl
  | late n starting claimed =>
    rw [starting] at apt
    simp only [Notes.follow, starting]
    obtain ⟨-, s, found, -⟩ := orderly.winner apt.2.1
    exact Flight.begin orderly current starting apt.2.1 ⟨s, found, claimed s found⟩ rfl rfl rfl rfl
  | skip n s starting session unclaimed nothing =>
    rw [starting] at apt
    simp only [Notes.follow, starting]
    have claimed : Flight (c.system.sessions.set n ({ s with started := true }.finish c.system.now)) c.system.slots
        c.call? c.notes := Flight.claim orderly session unclaimed rfl rfl (.inl apt.2.1)
    have inside : n < c.system.sessions.length := (List.getElem?_eq_some_iff.mp session).1
    exact Flight.begin claimed current starting apt.2.1 ⟨_, List.getElem?_set_self inside, rfl⟩ rfl rfl rfl rfl
  | claim n s starting session unclaimed something =>
    rw [starting] at apt
    simp only [Notes.follow, starting]
    have claimed : Flight (c.system.sessions.set n { s with started := true }) c.system.slots c.call? c.notes :=
      Flight.claim orderly session unclaimed rfl rfl (.inl apt.2.1)
    have going := orderly.going_of_unclaimed session unclaimed
    have unborn := orderly.unborn_of_unclaimed session unclaimed
    have inside : n < c.system.sessions.length := (List.getElem?_eq_some_iff.mp session).1
    refine Flight.begin claimed current starting ?_ ⟨_, List.getElem?_set_self inside, rfl⟩ rfl rfl rfl rfl
    exact ⟨apt.1, apt.2.1, _, List.getElem?_set_self inside, rfl, going, unborn⟩
  | spawn n s subscription sys' opening session opened =>
    obtain ⟨keeps, -⟩ := System.subscribeFrom_spec opened
    simp only [Notes.follow, opening, System.setSession, keeps.sessions, keeps.slots]
    rw [opening] at apt
    exact (orderly.settle (s.spawn subscription) (.ok n) current opening session rfl rfl apt.2.1).of_watch _ _
  | refuse n s error sys' opening session failed =>
    obtain ⟨keeps, -⟩ := System.subscribeFrom_spec failed
    simp only [Notes.follow, opening, System.setSession, System.report, keeps.sessions, keeps.slots]
    exact (orderly.settle (s.failOpening c.system.now error).1 (.error (.transport error)) current opening session rfl rfl
      trivial).of_watch _ _
  | miss n opening absent =>
    rw [opening] at apt
    simp only [Notes.follow, opening]
    exact (orderly.advance (.returned (.ok n)) current apt.2.1 (by simp [opening]) (by simp [opening])).of_watch _ _

theorem orderly_step {move : Move} {c c' : Chronicle} (orderly : c.Orderly) (effect : Effect move c c') :
    c'.Orderly := by
  unfold Orderly
  cases effect with
  | aside frame sessions workers quiet =>
    rw [sessions, frame.slots, frame.calls]
    exact (orderly.of_watch c.system c'.system).of_agree frame.notes
  | called id source bounds fresh calls slots sessions workers reports notes =>
    rw [sessions, slots, calls]
    refine Flight.of_agree (Flight.rephase orderly trivial ?_ ?_) notes <;> simp [fresh]
  | created source bounds execution time sessions slots calls workers reports notes =>
    rw [sessions, slots, calls]
    refine Flight.of_agree ?_ notes
    exact (Flight.snoc orderly rfl rfl rfl).of_same rfl rfl rfl rfl
  | stopped n s frame session sessions workers quiet =>
    rw [sessions, frame.slots, frame.calls]
    obtain ⟨worker, done⟩ := s.stop_worker
    have continues := s.stop_continues
    refine Flight.of_agree (Flight.of_watch ?_ _ _) frame.notes
    refine Flight.set orderly session continues.source continues.done ?_ ?_ ?_ ?_ ?_
    · rw [done, continues.started]
      exact orderly.done_started session
    · exact continues.started.trans
    · rw [worker, continues.started]
      exact orderly.born_started session
    · rw [continues.started]
      exact .inl
    · intro id call current opening
      rw [continues.started, done, worker]
      exact orderly.of_opening current opening session
  | turned k n s s' events frame task session turn sessions workers reports =>
    rw [sessions, frame.slots, frame.calls]
    have continues := Session.turn_continues turn
    have born := Session.turn_worker_born turn
    have started : s'.started = true := continues.started.trans (orderly.born_started session born)
    refine Flight.of_agree (Flight.of_watch ?_ _ _) frame.notes
    refine Flight.set orderly session continues.source continues.done (fun _ => started) (fun _ => started)
      (fun _ => started) (fun started => .inl (continues.started ▸ started)) ?_
    intro id call current opening
    exact absurd (orderly.of_opening current opening session).2.2 born
  | skipped n s frame access session unclaimed nothing sessions workers quiet =>
    rw [sessions, frame.slots, frame.calls]
    refine Flight.of_agree (Flight.of_watch ?_ _ _) frame.notes
    exact Flight.claim orderly session unclaimed rfl rfl (handed_of_isOpen access)
  | spawned n s subscription frame access session unclaimed something sessions plain tasks quiet =>
    rw [sessions, frame.slots, frame.calls]
    refine Flight.of_agree (Flight.of_watch ?_ _ _) frame.notes
    exact Flight.claim orderly session unclaimed rfl rfl (handed_of_isOpen access)
  | refused n s error frame access session unclaimed something sessions workers quiet =>
    rw [sessions, frame.slots, frame.calls]
    refine Flight.of_agree (Flight.of_watch ?_ _ _) frame.notes
    exact Flight.claim orderly session unclaimed rfl rfl (handed_of_isOpen access)
  | stepped origin id call phase sys current turn calls sessions slots workers reports notes =>
    rw [sessions, slots, calls, notes]
    exact orderly_turn orderly current turn

end Chronicle
end Journal
