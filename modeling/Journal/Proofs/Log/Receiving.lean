import Journal.Proofs.Log.Cursor
import Journal.Proofs.Log.Traffic
import Journal.Proofs.Places

/-!
A consumer loses nothing and repeats nothing. What it has received so far stands at the front of what its start
admits of the topic, as the topic is at that moment; a receive that comes to nothing has left nothing behind. A
receive changes nothing but its own consumer: whatever comes later, everybody else finds the same.
-/
namespace Journal

/-- What a reader has received and what its consumer still has before it are together what its start admits. A
consumer that waits stands at the end of what it has seen. -/
structure Reader.Follows (entries : List Entry) (r : Reader) (c : Consumer) : Prop where
  subscription : r.subscription = .topic c
  topic : c.topic = r.topic
  tracks : c.Tracks r.start entries
  whole : r.received ++ c.rest r.start entries = Start.select r.start entries
  waits : ∀ deadline, r.pending = some (deadline, true) → c.cursor = c.seen

namespace Reader

variable {entries later : List Entry} {r : Reader} {c : Consumer}

theorem follows_opened (topic : String) (start : Option Start) (entries : List Entry) :
    Follows entries { topic, start, subscription := .topic { topic, start } } { topic, start } where
  subscription := rfl
  topic := rfl
  tracks := Consumer.tracks_fresh topic start entries
  whole := rfl
  waits := by rintro deadline ⟨⟩

theorem Follows.grown (follows : r.Follows entries c) (grown : entries <+: later) : r.Follows later c where
  subscription := follows.subscription
  topic := follows.topic
  tracks := follows.tracks.grown grown
  whole := by
    obtain ⟨more, rfl⟩ := grown
    rw [Consumer.rest_grown follows.tracks, ← List.append_assoc, follows.whole]
    exact (List.filter_append ..).symm
  waits := follows.waits

theorem Follows.look (follows : r.Follows entries c) (ascending : Ascending entries) {now deadline : Nat} {parked : Bool}
    (pending : r.pending = some (deadline, parked)) {received : Received} {c' : Consumer}
    (h : c.receive now deadline parked entries = (received, c')) :
    c'.topic = c.topic ∧ c'.Tracks r.start entries ∧
      ((∃ e, received = .entry e ∧ (r.received ++ [e]) ++ c'.rest r.start entries = Start.select r.start entries) ∨
        (received = .nothing ∨ received = .waiting) ∧ r.received = Start.select r.start entries ∧
          c'.rest r.start entries = [] ∧ c'.cursor = c'.seen) := by
  obtain ⟨topic, tracks, given⟩ := Consumer.receive_spec ascending follows.tracks h
  refine ⟨topic, tracks, ?_⟩
  rcases given with ⟨e, rfl, ahead⟩ | ⟨idle, remains, -⟩
  · refine .inl ⟨e, rfl, ?_⟩
    rw [List.append_assoc, List.singleton_append, ← ahead]
    exact follows.whole
  · have waits : parked = true → c.cursor = c.seen := by
      rintro rfl
      exact follows.waits deadline pending
    obtain ⟨last, seen⟩ := Consumer.receive_end follows.tracks.inside waits h (by rcases idle with rfl | rfl <;> simp)
    have nothing : c'.rest r.start entries = [] := by rw [Consumer.rest, last, List.drop_length]; rfl
    refine .inr ⟨idle, ?_, nothing, last.trans seen.symm⟩
    rw [← follows.whole, ← remains, nothing, List.append_nil]

end Reader

def Reader.admitted (r : Reader) (t : Traffic) : List Entry := Start.select r.start (t.system.log.entries r.topic)

theorem Reader.next_of_whole {r : Reader} {t : Traffic} {e : Entry} {others : List Entry}
    (whole : r.received ++ [e] ++ others = r.admitted t) : (r.admitted t)[r.received.length]? = some e := by
  rw [← whole, List.append_assoc, List.getElem?_append_right (Nat.le_refl _)]
  simp

namespace Traffic

variable {t t' : Traffic} {action : Action} {answer : Answer}

/-- The invariant of a log that answers for itself: every reader follows its topic. -/
structure Attended (t : Traffic) : Prop where
  script : t.system.script = {}
  ordered : t.system.log.Ordered
  readers : ∀ (i : Nat) (r : Reader), t.readers[i]? = some r → ∃ c, r.Follows (t.system.log.entries r.topic) c

theorem setReader_self {i : Nat} {r : Reader} (reader : t.readers[i]? = some r) (r' : Reader) :
    (t.setReader i r').readers[i]? = some r' :=
  List.getElem?_set_self (List.getElem?_eq_some_iff.mp reader).1

theorem setReader_other {i j : Nat} (other : j ≠ i) (r : Reader) : (t.setReader i r).readers[j]? = t.readers[j]? :=
  List.getElem?_set_ne (Ne.symm other)

inductive Look (t : Traffic) (i : Nat) (r : Reader) : Option (Answer × Traffic) → Prop where
  | given (e : Entry) (r' : Reader) (c' : Consumer) (next : (r.admitted t)[r.received.length]? = some e)
      (received : r'.received = r.received ++ [e]) (same : r'.topic = r.topic ∧ r'.start = r.start)
      (follows : r'.Follows (t.system.log.entries r.topic) c') :
      Look t i r (some (.received (some e), t.setReader i r'))
  | idle (answer : Answer) (r' : Reader) (c' : Consumer) (whole : r.received = r.admitted t)
      (nothing : answer = .going ∨ answer = .received none) (received : r'.received = r.received)
      (same : r'.topic = r.topic ∧ r'.start = r.start) (follows : r'.Follows (t.system.log.entries r.topic) c') :
      Look t i r (some (answer, t.setReader i r'))
  | waits (whole : r.received = r.admitted t) : Look t i r none

theorem perform_look {i deadline : Nat} {parked : Bool} {r : Reader} {c : Consumer}
    (follows : r.Follows (t.system.log.entries r.topic) c) (ordered : t.system.log.Ordered)
    (reader : t.readers[i]? = some r) (pending : r.pending = some (deadline, parked)) :
    Look t i r (t.perform (.look i)) := by
  rcases looked : c.receive t.system.now deadline parked (t.system.log.entries r.topic) with ⟨received, c'⟩
  obtain ⟨topic, tracks, given⟩ := follows.look (ordered _) pending looked
  have name := topic.trans follows.topic
  simp only [perform, reader, pending, System.receiveStep, follows.subscription, Subscription.receive, follows.topic,
    looked]
  rcases given with ⟨e, rfl, whole⟩ | ⟨idle, whole, nothing, last⟩
  · exact .given e _ c' (Reader.next_of_whole whole) rfl ⟨rfl, rfl⟩ ⟨rfl, name, tracks, whole, by rintro _ ⟨⟩⟩
  · have rest : r.received ++ c'.rest r.start (t.system.log.entries r.topic) =
        Start.select r.start (t.system.log.entries r.topic) := by rw [nothing, List.append_nil, whole]
    rcases idle with rfl | rfl
    · exact .idle _ _ c' whole (.inr rfl) rfl ⟨rfl, rfl⟩ ⟨rfl, name, tracks, rest, by rintro _ ⟨⟩⟩
    · simp only
      split
      · exact .waits whole
      · exact .idle _ _ c' whole (.inl rfl) rfl ⟨rfl, rfl⟩ ⟨rfl, name, tracks, rest, fun _ _ => last⟩

theorem Attended.setReader (attended : Attended t) {i : Nat} {r : Reader} {c : Consumer}
    (follows : r.Follows (t.system.log.entries r.topic) c) : Attended (t.setReader i r) where
  script := attended.script
  ordered := attended.ordered
  readers := by
    intro j d found
    rcases getElem?_before_set found with ⟨-, rfl⟩ | ⟨-, there⟩
    · exact ⟨c, follows⟩
    · exact attended.readers j d there

theorem attended_step (attended : Attended t) (made : t.perform action = some (answer, t')) : Attended t' := by
  have grows := perform_grows made
  obtain ⟨effect, script⟩ := perform_effect made
  have stay (i : Nat) (r : Reader) (found : t.readers[i]? = some r) :
      ∃ c, r.Follows (t'.system.log.entries r.topic) c := by
    obtain ⟨c, follows⟩ := attended.readers i r found
    exact ⟨c, follows.grown (grows.extended _)⟩
  cases effect with
  | aside same readers | published _ _ readers =>
    exact ⟨script attended.script, grows.ordered attended.ordered, fun i r found => stay i r (readers ▸ found)⟩
  | @opened topic start subscription _ same readers plain =>
    refine ⟨script attended.script, grows.ordered attended.ordered, fun i r found => ?_⟩
    rw [readers] at found
    rcases getElem?_snoc_cases found with before | ⟨-, rfl⟩
    · exact stay i r before
    · rw [plain attended.script]
      exact ⟨_, Reader.follows_opened topic start _⟩
  | @begun i timeout r reader resting =>
    obtain ⟨c, follows⟩ := attended.readers i r reader
    exact attended.setReader (c := c)
      ⟨follows.subscription, follows.topic, follows.tracks, follows.whole, by rintro _ ⟨⟩⟩
  | @looked i deadline parked r reception reader pending stepped =>
    obtain ⟨c, follows⟩ := attended.readers i r reader
    have look := perform_look follows attended.ordered reader pending
    rw [made] at look
    generalize (t.settle i r reception).1 = answer at look
    generalize (t.settle i r reception).2 = next at look
    cases look with
    | given e r' c' _ _ same follows' | idle _ r' c' _ _ _ same follows' =>
      exact attended.setReader (same.1 ▸ follows')

theorem attended_after {settings : Settings} {executor : Executor} {actions : List Action}
    (h : run actions (opened settings executor) = some t) : Attended t := by
  have first : Attended (opened settings executor) :=
    ⟨rfl, fun _ => List.Pairwise.nil, fun i r found => by simp [opened] at found⟩
  exact run_keeps (fun _ _ _ _ attended made => attended_step attended made) first h

theorem perform_setReader {i : Nat} {r : Reader} (inside : i < t.readers.length) (other : action.reader? ≠ some i) :
    (t.setReader i r).perform action = (t.perform action).map fun result => (result.1, result.2.setReader i r) := by
  cases action with
  | outage | clock | ask => rfl
  | openProducer topic =>
    simp only [perform, setReader]
    split <;> rfl
  | acquire j =>
    simp only [perform, setReader]
    split
    · rfl
    · rfl
    · split <;> rfl
  | publish j entry =>
    simp only [perform, setReader]
    split
    · rfl
    · split <;> rfl
  | openConsumer topic start =>
    simp only [perform, setReader]
    split
    · rfl
    · simp [List.set_append_left _ _ inside]
  | receive j timeout =>
    have apart : j ≠ i := fun same => other (by rw [same]; rfl)
    simp only [perform, setReader_other apart]
    split
    · rfl
    · split
      · simp [setReader, List.set_comm _ _ (Ne.symm apart)]
      · rfl
  | look j =>
    have apart : j ≠ i := fun same => other (by rw [same]; rfl)
    simp only [perform, setReader_other apart]
    split
    · rfl
    · split
      · rfl
      · rename_i d _ _ deadline parked pending
        have settles (reception : Reception) : (t.setReader i r).settle j d reception =
            ((t.settle j d reception).1, (t.settle j d reception).2.setReader i r) := by
          unfold settle
          split <;> simp [setReader, List.set_comm _ _ (Ne.symm apart)]
        simp only [Option.map_map]
        exact congrFun (congrArg Option.map (funext settles)) _

theorem readers_stay (made : t.perform action = some (answer, t')) : t.readers.length ≤ t'.readers.length := by
  cases (perform_effect made).1 with
  | aside same readers | published _ _ readers => exact Nat.le_of_eq (by rw [readers])
  | opened same readers => simp [readers]
  | begun => exact Nat.le_of_eq (List.length_set ..).symm
  | @looked i deadline parked r reception =>
    obtain ⟨-, -, r', same⟩ := settle_system i r t reception
    rw [same]
    exact Nat.le_of_eq (List.length_set ..).symm

theorem run_setReader {i : Nat} {r : Reader} {later : List Action} (inside : i < t.readers.length)
    (others : ∀ action ∈ later, action.reader? ≠ some i) :
    run later (t.setReader i r) = (run later t).map (setReader i r) := by
  induction later generalizing t with
  | nil => rfl
  | cons action later ih =>
    obtain ⟨first, rest⟩ := List.forall_mem_cons.mp others
    simp only [run]
    rw [perform_setReader inside first]
    cases made : t.perform action with
    | none => rfl
    | some result =>
      exact ih (Nat.lt_of_lt_of_le inside (readers_stay made)) rest

/-- What is known of a reader at one moment. -/
structure Lossless (t : Traffic) (i : Nat) (r : Reader) : Prop where
  front : r.received <+: r.admitted t
  next : r.pending ≠ none → ∀ e, (r.admitted t)[r.received.length]? = some e ↔ t.Answers (.look i) (.received (some e))
  whole : t.Answers (.look i) (.received none) → r.received = r.admitted t
  looked : ∀ answer t', t.perform (.look i) = some (answer, t') → ∃ r', t'.readers[i]? = some r' ∧ r'.topic = r.topic ∧
    r'.start = r.start ∧ r'.received = r.received ++ answer.entry?.toList
  kept : ∀ action answer t', action.reader? ≠ some i → t.perform action = some (answer, t') → t'.readers[i]? = some r

/-- A receive of one reader concerns nobody else: the log and the other readers are as before, and whatever is done
later, they come to the same as without it. -/
structure Private (i : Nat) (t t' : Traffic) : Prop where
  system : t'.system = t.system
  others : ∀ j, j ≠ i → t'.readers[j]? = t.readers[j]?
  later : ∀ actions u, (∀ action ∈ actions, action.reader? ≠ some i) → run actions t = some u →
    ∃ u', run actions t' = some u' ∧ u'.system = u.system ∧ ∀ j, j ≠ i → u'.readers[j]? = u.readers[j]?

theorem look_cases {i : Nat} {r : Reader} (attended : Attended t) (reader : t.readers[i]? = some r) :
    r.pending = none ∧ t.perform (.look i) = none ∨ r.pending ≠ none ∧ Look t i r (t.perform (.look i)) := by
  obtain ⟨c, follows⟩ := attended.readers i r reader
  cases pending : r.pending with
  | none => exact .inl ⟨rfl, by simp [perform, reader, pending]⟩
  | some state => exact .inr ⟨by simp, perform_look follows attended.ordered reader pending⟩

theorem readers_kept {i : Nat} {r : Reader} (reader : t.readers[i]? = some r) (other : action.reader? ≠ some i)
    (made : t.perform action = some (answer, t')) : t'.readers[i]? = some r := by
  cases (perform_effect made).1 with
  | aside same readers | published _ _ readers => rw [readers, reader]
  | opened same readers =>
    rw [readers]
    exact getElem?_grown reader _
  | begun => rw [setReader_other fun same => other (by rw [same]; rfl), reader]
  | @looked j _ _ d reception =>
    obtain ⟨-, -, d', same⟩ := settle_system j d t reception
    rw [same, setReader_other fun same => other (by rw [same]; rfl), reader]

theorem lossless {i : Nat} {r : Reader} (attended : Attended t) (reader : t.readers[i]? = some r) : Lossless t i r where
  front := by
    obtain ⟨c, follows⟩ := attended.readers i r reader
    exact ⟨c.rest r.start (t.system.log.entries r.topic), follows.whole⟩
  next := by
    intro asked e
    obtain ⟨-, look⟩ := (look_cases attended reader).resolve_left fun resting => asked resting.1
    unfold Answers
    generalize t.perform (.look i) = result at look
    cases look with
    | given d r' c' next =>
      rw [next]
      simp [eq_comm]
    | idle answer r' c' whole nothing =>
      rw [← whole, List.getElem?_eq_none (Nat.le_refl _)]
      rcases nothing with rfl | rfl <;> simp
    | waits whole =>
      rw [← whole, List.getElem?_eq_none (Nat.le_refl _)]
      simp
  whole := by
    rintro ⟨t', made⟩
    rcases look_cases attended reader with ⟨-, none⟩ | ⟨-, look⟩
    · rw [made] at none
      cases none
    · rw [made] at look
      cases look with
      | idle _ _ _ whole => exact whole
  looked := by
    intro answer t' made
    rcases look_cases attended reader with ⟨-, none⟩ | ⟨-, look⟩
    · rw [made] at none
      cases none
    · rw [made] at look
      cases look with
      | given e r' c' next received same => exact ⟨r', setReader_self reader r', same.1, same.2, received⟩
      | idle _ r' c' whole nothing received same =>
        refine ⟨r', setReader_self reader r', same.1, same.2, ?_⟩
        rcases nothing with rfl | rfl <;> simpa [Answer.entry?] using received
  kept := fun _ _ _ other made => readers_kept reader other made

theorem private_of_set {i : Nat} {r : Reader} (inside : i < t.readers.length) : Private i t (t.setReader i r) where
  system := rfl
  others := fun j other => setReader_other other r
  later := by
    intro actions u others ran
    refine ⟨u.setReader i r, ?_, rfl, fun j other => setReader_other other r⟩
    rw [run_setReader inside others, ran]
    rfl

theorem private_step {i : Nat} (concerned : action.reader? = some i) (made : t.perform action = some (answer, t')) :
    Private i t t' := by
  cases (perform_effect made).1 with
  | aside same readers published nobody =>
    rw [nobody] at concerned
    cases concerned
  | published | opened => cases concerned
  | begun reader =>
    cases concerned
    exact private_of_set (List.getElem?_eq_some_iff.mp reader).1
  | @looked _ _ _ r reception reader =>
    cases concerned
    obtain ⟨-, -, r', same⟩ := settle_system i r t reception
    rw [same]
    exact private_of_set (List.getElem?_eq_some_iff.mp reader).1

/-- At every moment of every run every consumer has received the front of what its start admits. -/
theorem consumers_lose_and_repeat_nothing {settings : Settings} {executor : Executor} {actions : List Action}
    (h : run actions (opened settings executor) = some t) :
    (∀ i r, t.readers[i]? = some r → Lossless t i r) ∧
      ∀ i action answer t', action.reader? = some i → t.perform action = some (answer, t') → Private i t t' := by
  have attended := attended_after h
  exact ⟨fun _ _ reader => lossless attended reader, fun _ _ _ _ concerned made => private_step concerned made⟩

def twoConsumers : List Action :=
  [.openProducer "tx-a", .publish 0 ⟨.ofNat 5, "below", []⟩, .openConsumer "tx-a" (some ⟨.ofNat 7, false⟩),
    .openConsumer "tx-a" none, .receive 0 10, .look 0, .publish 0 ⟨.ofNat 7, "at", []⟩, .receive 1 0, .look 1,
    .publish 0 ⟨.ofNat 9, "above", []⟩, .look 0, .receive 0 10, .look 0, .clock 10, .receive 1 0]

theorem two_consumers_read_apart : ∃ t r other, run twoConsumers (opened {} .logging) = some t ∧
    t.readers[0]? = some r ∧ t.readers[1]? = some other ∧ r.received = [⟨.ofNat 9, "above", []⟩] ∧
    other.received = [⟨.ofNat 5, "below", []⟩] ∧ r.received = r.admitted t ∧
    (other.admitted t)[1]? = some ⟨.ofNat 7, "at", []⟩ ∧ Lossless t 0 r ∧ Lossless t 1 other := by
  have ends : (run twoConsumers (opened {} .logging)).map (fun t =>
      (t.readers[0]?.map (·.received), t.readers[1]?.map fun r => (r.received, r.pending))) =
        some (some [⟨.ofNat 9, "above", []⟩], some ([⟨.ofNat 5, "below", []⟩], some (10, false))) := by
    decide +kernel
  have goes : (run twoConsumers (opened {} .logging)).map (fun t =>
      ((t.perform (.look 0)).map (·.1), (t.perform (.look 1)).map (·.1))) =
        some (some (.received none), some (.received (some ⟨.ofNat 7, "at", []⟩))) := by
    decide +kernel
  obtain ⟨t, ran, state⟩ := Option.map_eq_some_iff.mp ends
  rw [ran] at goes
  simp only [Option.map_some, Option.some.injEq, Prod.mk.injEq] at state goes
  obtain ⟨first, second⟩ := state
  obtain ⟨nothing, something⟩ := goes
  obtain ⟨r, reader, received⟩ := Option.map_eq_some_iff.mp first
  obtain ⟨other, reader', received'⟩ := Option.map_eq_some_iff.mp second
  obtain ⟨given, asked⟩ := Prod.mk.inj received'
  obtain ⟨⟨_, u⟩, looked, rfl⟩ := Option.map_eq_some_iff.mp nothing
  obtain ⟨⟨_, u'⟩, looked', rfl⟩ := Option.map_eq_some_iff.mp something
  have every := (consumers_lose_and_repeat_nothing ran).1
  have next := ((every 1 other reader').next (by simp [asked]) _).mpr ⟨u', looked'⟩
  rw [given] at next
  exact ⟨t, r, other, ran, reader, reader', received, given, (every 0 r reader).whole ⟨u, looked⟩, next,
    every 0 r reader, every 1 other reader'⟩

end Traffic
end Journal
