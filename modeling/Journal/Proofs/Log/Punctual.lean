import Journal.Proofs.Log.Receiving

/-!
A receive waits exactly as long as it must, if it is dealt with promptly: time goes on only while it waits, and not past
its deadline. It gives the first entry that its start admits and that was not received before: at once if it is there,
otherwise at the moment of the publish that brings it, and nothing exactly at the deadline if none comes. What the start
does not admit wakes it in vain, but neither ends the wait nor moves the deadline.
-/
namespace Journal

/-- The first entry that the start of a reader admits and that the reader has not received. -/
def Reader.next? (r : Reader) (t : Traffic) : Option Entry := (r.admitted t)[r.received.length]?

theorem Consumer.receive_times {now deadline : Nat} {parked : Bool} {entries : List Entry} {c c' : Consumer}
    {received : Received} (h : c.receive now deadline parked entries = (received, c')) :
    (received = .nothing → deadline ≤ now) ∧ (received = .waiting → now < deadline) := by
  have idle : ∀ {came : Received}, (if deadline ≤ now then Received.nothing else .waiting) = came →
      (came = .nothing → deadline ≤ now) ∧ (came = .waiting → now < deadline) := by
    rintro came rfl
    split
    · exact ⟨fun _ => ‹_›, by rintro ⟨⟩⟩
    · exact ⟨by rintro ⟨⟩, fun _ => Nat.lt_of_not_le ‹_›⟩
  unfold receive at h
  simp only at h
  split at h
  · cases h
    exact idle rfl
  · split at h <;> cases h
    · exact ⟨by rintro ⟨⟩, by rintro ⟨⟩⟩
    · exact idle rfl

namespace System

theorem openProducer_now (origin : Origin) (topic : String) (sys : System) :
    (sys.openProducer origin topic).2.now = sys.now := by
  unfold openProducer
  split <;> rfl

theorem publish_now (origin : Origin) (topic : String) (entry : Entry) (sys : System) :
    (sys.publish origin topic entry).2.now = sys.now := by
  unfold publish
  split <;> rfl

theorem subscribe_now (origin : Origin) (topic : String) (start : Option Start) (sys : System) :
    (sys.subscribe origin topic start).2.now = sys.now := by
  unfold subscribe
  split
  · rfl
  · split <;> rfl

end System

namespace Traffic

variable {t t' : Traffic} {action : Action} {answer : Answer} {actions later : List Action} {i deadline time : Nat}
  {r : Reader} {e : Entry}

theorem perform_now (made : t.perform action = some (answer, t')) :
    t'.system.now = t.system.now ∨ ∃ time, action = .clock time ∧ t'.system.now = max time t.system.now := by
  cases action with
  | clock time =>
    cases made
    exact .inr ⟨time, rfl, rfl⟩
  | outage | ask =>
    cases made
    exact .inl rfl
  | openProducer topic =>
    have same := System.openProducer_now .caller topic t.system
    simp only [perform] at made
    split at made <;> rename_i opened <;> cases made <;> rw [opened] at same <;> exact .inl same
  | acquire j =>
    simp only [perform] at made
    split at made
    · cases made
    · cases made
    · split at made <;> cases made <;> exact .inl rfl
  | publish j entry =>
    simp only [perform] at made
    split at made
    · cases made
    · rename_i producer _
      have same := System.publish_now .caller producer.topic entry t.system
      split at made <;> rename_i written <;> cases made <;> rw [written] at same <;> exact .inl same
  | openConsumer topic start =>
    have same := System.subscribe_now .caller topic start t.system
    simp only [perform] at made
    split at made <;> rename_i opened <;> cases made <;> rw [opened] at same <;> exact .inl same
  | receive j timeout =>
    cases (perform_effect made).1 with
    | aside _ _ _ nobody => cases nobody
    | begun => exact .inl rfl
  | look j =>
    cases (perform_effect made).1 with
    | aside _ _ _ nobody => cases nobody
    | looked => exact .inl (congrArg System.now (settle_system _ _ t _).1)

theorem now_le (made : t.perform action = some (answer, t')) : t.system.now ≤ t'.system.now := by
  rcases perform_now made with same | ⟨time, -, later⟩ <;> omega

theorem run_now_le (ran : run actions t = some t') : t.system.now ≤ t'.system.now :=
  run_keeps (P := fun u => t.system.now ≤ u.system.now) (fun _ _ _ _ since made => Nat.le_trans since (now_le made))
    (Nat.le_refl _) ran

theorem admitted_grows (made : t.perform action = some (answer, t')) (r : Reader) :
    r.admitted t <+: r.admitted t' := ((perform_grows made).extended r.topic).filter _

theorem next_kept (made : t.perform action = some (answer, t')) (next : r.next? t = some e) : r.next? t' = some e := by
  obtain ⟨more, grown⟩ := admitted_grows made r
  rw [Reader.next?, ← grown, List.getElem?_append_left (List.getElem?_eq_some_iff.mp next).1]
  exact next

theorem run_next_kept (ran : run actions t = some t') (next : r.next? t = some e) : r.next? t' = some e :=
  run_keeps (P := fun u => r.next? u = some e) (fun _ _ _ _ next made => next_kept made next) next ran

theorem next_brought (made : t.perform action = some (answer, t')) (nothing : r.next? t = none)
    (next : r.next? t' = some e) :
    answer = .done ∧ ∃ j producer, action = .publish j e ∧ t.producers[j]? = some producer ∧
      producer.topic = r.topic := by
  have unchanged (same : t'.system.log.entries r.topic = t.system.log.entries r.topic) : False := by
    rw [Reader.next?, Reader.admitted, same] at next
    rw [Reader.next?, Reader.admitted, next] at nothing
    cases nothing
  cases (perform_effect made).1 with
  | aside same | opened same => exact (unchanged (same _)).elim
  | begun => exact (unchanged rfl).elim
  | looked => exact (unchanged (by rw [(settle_system _ _ t _).1])).elim
  | @published j producer entry _ handle stored =>
    obtain ⟨here, elsewhere, -⟩ := Log.publish_spec stored
    by_cases own : producer.topic = r.topic
    · have most := List.getElem?_eq_none_iff.mp nothing
      have added : r.admitted t' = r.admitted t ++ Start.select r.start [entry] := by
        rw [Reader.admitted, Reader.admitted, ← own, here]
        exact List.filter_append ..
      rw [Reader.next?, added, List.getElem?_append_right most] at next
      have member := (List.mem_filter.mp (List.mem_of_getElem? next)).1
      cases List.mem_singleton.mp member
      exact ⟨rfl, j, producer, rfl, handle, own⟩
    · exact (unchanged (elsewhere _ (Ne.symm own))).elim

/-- The entry that is next for a reader at the first moment at which there is one, with that moment. -/
def arrival? (r : Reader) : List Action → Traffic → Option (Entry × Nat)
  | [], t => (r.next? t).map (·, t.system.now)
  | action :: later, t =>
    match r.next? t with
    | some e => some (e, t.system.now)
    | none => (t.perform action).bind fun result => arrival? r later result.2

theorem arrival_of_next (next : r.next? t = some e) : arrival? r later t = some (e, t.system.now) := by
  cases later <;> simp only [arrival?, next, Option.map_some]

theorem arrival_after (later : List Action) (nothing : r.next? t = none)
    (made : t.perform action = some (answer, t')) : arrival? r (action :: later) t = arrival? r later t' := by
  simp only [arrival?, nothing, made, Option.bind_some]

theorem arrival_late (found : arrival? r later t = some (e, time)) : t.system.now ≤ time := by
  induction later generalizing t with
  | nil =>
    obtain ⟨_, -, same⟩ := Option.map_eq_some_iff.mp found
    cases same
    exact Nat.le_refl _
  | cons action later ih =>
    cases next : r.next? t with
    | some d =>
      rw [arrival_of_next next] at found
      cases found
      exact Nat.le_refl _
    | none =>
      simp only [arrival?, next] at found
      obtain ⟨⟨answer, t'⟩, made, rest⟩ := Option.bind_eq_some_iff.mp found
      exact Nat.le_trans (now_le made) (ih rest)

theorem arrival_by {front : List Action} {v : Traffic} (back : List Action) (ran : run front t = some v)
    (next : r.next? v = some e) : ∃ time, arrival? r (front ++ back) t = some (e, time) ∧ time ≤ v.system.now := by
  induction front generalizing t with
  | nil =>
    cases ran
    exact ⟨_, arrival_of_next next, Nat.le_refl _⟩
  | cons action front ih =>
    cases here : r.next? t with
    | some d =>
      cases next.symm.trans (run_next_kept ran here)
      exact ⟨_, arrival_of_next here, run_now_le ran⟩
    | none =>
      obtain ⟨⟨answer, t'⟩, made, rest⟩ := Option.bind_eq_some_iff.mp ran
      rw [List.cons_append, arrival_after _ here made]
      exact ih rest

theorem arrival_brought (found : arrival? r later t = some (e, time)) :
    r.next? t = some e ∧ time = t.system.now ∨
      ∃ front j back v, later = front ++ .publish j e :: back ∧ run front t = some v ∧ r.next? v = none ∧
        v.system.now = time ∧ v.Answers (.publish j e) .done := by
  induction later generalizing t with
  | nil =>
    obtain ⟨d, next, same⟩ := Option.map_eq_some_iff.mp found
    cases same
    exact .inl ⟨next, rfl⟩
  | cons action later ih =>
    cases next : r.next? t with
    | some d =>
      rw [arrival_of_next next] at found
      cases found
      exact .inl ⟨rfl, rfl⟩
    | none =>
      simp only [arrival?, next] at found
      obtain ⟨⟨answer, t'⟩, made, rest⟩ := Option.bind_eq_some_iff.mp found
      rcases ih rest with ⟨here, moment⟩ | ⟨front, j, back, v, rfl, ran, nothing, moment, done⟩
      · obtain ⟨rfl, j, producer, rfl, -⟩ := next_brought made next here
        have still := (perform_now made).resolve_right fun ⟨_, clock, _⟩ => by cases clock
        exact .inr ⟨[], j, later, t, rfl, rfl, next, still.symm.trans moment.symm, t', made⟩
      · have ran' : run (action :: front) t = some v := by simp only [run, made, Option.bind_some, ran]
        exact .inr ⟨action :: front, j, back, v, rfl, ran', nothing, moment, done⟩

/-- What a receive ought to come to, and when: the entry that is there, the entry that arrives before the deadline, or
nothing at the deadline. -/
def due (r : Reader) (deadline : Nat) (later : List Action) (t : Traffic) : Option Entry × Nat :=
  match r.next? t with
  | some e => (some e, t.system.now)
  | none =>
    match arrival? r later t with
    | some (e, time) => if time < deadline then (some e, time) else (none, deadline)
    | none => (none, deadline)

theorem due_of_next (next : r.next? t = some e) : due r deadline later t = (some e, t.system.now) := by
  simp only [due, next]

theorem due_late (nothing : r.next? t = none) (past : t.system.now = deadline) :
    due r deadline later t = (none, deadline) := by
  simp only [due, nothing]
  cases arrived : arrival? r later t with
  | none => rfl
  | some found =>
    have late := arrival_late (e := found.1) arrived
    exact if_neg (by omega)

inductive Glance (t : Traffic) (i : Nat) (r : Reader) (deadline : Nat) : Option (Answer × Traffic) → Prop where
  | given (e : Entry) (t' : Traffic) (next : r.next? t = some e) : Glance t i r deadline (some (.received (some e), t'))
  | late (t' : Traffic) (nothing : r.next? t = none) (past : deadline ≤ t.system.now) :
      Glance t i r deadline (some (.received none, t'))
  | parks (c : Consumer) (nothing : r.next? t = none) (early : t.system.now < deadline)
      (seen : c.seen = (t.system.log.entries c.topic).length) : Glance t i r deadline
        (some (.going, t.setReader i { r with subscription := .topic c, pending := some (deadline, true) }))
  | sleeps (nothing : r.next? t = none) (early : t.system.now < deadline) : Glance t i r deadline none

theorem perform_glance {parked : Bool} (attended : Attended t) (reader : t.readers[i]? = some r)
    (pending : r.pending = some (deadline, parked)) : Glance t i r deadline (t.perform (.look i)) := by
  obtain ⟨c, follows⟩ := attended.readers i r reader
  rcases looked : c.receive t.system.now deadline parked (t.system.log.entries r.topic) with ⟨received, c'⟩
  obtain ⟨past, early⟩ := Consumer.receive_times looked
  obtain ⟨topic, -, given⟩ := follows.look (attended.ordered _) pending looked
  simp only [perform, reader, pending, System.receiveStep, follows.subscription, Subscription.receive, follows.topic,
    looked]
  rcases given with ⟨e, rfl, whole⟩ | ⟨idle, whole, -⟩
  · exact .given e _ (Reader.next_of_whole whole)
  · have nothing : r.next? t = none := by
      rw [Reader.next?, Reader.admitted, ← whole, List.getElem?_eq_none (Nat.le_refl _)]
    have waits : parked = true → c.cursor = c.seen := by
      rintro rfl
      exact follows.waits deadline pending
    have seen := (Consumer.receive_end follows.tracks.inside waits looked (by rcases idle with rfl | rfl <;> simp)).2
    rcases idle with rfl | rfl
    · exact .late _ nothing (past rfl)
    · simp only
      split
      · exact .sleeps nothing (early rfl)
      · exact .parks c' nothing (early rfl) (by rw [seen, topic, follows.topic])

theorem asleep {c : Consumer} (early : t.system.now < deadline) (seen : c.seen = (t.system.log.entries c.topic).length)
    (reader : t.readers[i]? = some { r with subscription := .topic c, pending := some (deadline, true) }) :
    t.perform (.look i) = none := by
  simp [perform, reader, System.receiveStep, Subscription.receive, Consumer.receive, seen, Nat.not_le_of_lt early]

/-- A receive goes on that the reader `r` began, and its deadline has not passed. -/
structure Going (i : Nat) (r : Reader) (deadline : Nat) (t : Traffic) : Prop where
  attended : Attended t
  reader : ∃ subscription parked, t.readers[i]? = some { r with subscription, pending := some (deadline, parked) }
  intime : t.system.now ≤ deadline

def awaited? (i : Nat) (t : Traffic) : Option (String × Nat) :=
  t.readers[i]?.bind fun r => r.pending.map fun state => (r.topic, state.1)

/-- Time goes on only while the receive waits, and not past its deadline; nothing is published on its topic exactly at
the deadline. -/
def Prompt (i : Nat) (t : Traffic) : Action → Prop
  | .clock time => ∀ wait ∈ t.awaited? i, time ≤ t.system.now ∨ (t.perform (.look i)).isNone ∧ time ≤ wait.2
  | .publish j _ => ∀ wait ∈ t.awaited? i, ∀ producer ∈ t.producers[j]?, producer.topic = wait.1 → t.system.now ≠ wait.2
  | _ => True

def Promptly (i : Nat) : List Action → Traffic → Prop
  | [], _ => True
  | action :: later, t => Prompt i t action ∧ ∀ result ∈ t.perform action, Promptly i later result.2

instance (i : Nat) (t : Traffic) : (action : Action) → Decidable (Prompt i t action)
  | .clock time =>
    inferInstanceAs (Decidable (∀ wait ∈ t.awaited? i,
      time ≤ t.system.now ∨ (t.perform (.look i)).isNone ∧ time ≤ wait.2))
  | .publish j _ =>
    inferInstanceAs (Decidable (∀ wait ∈ t.awaited? i, ∀ producer ∈ t.producers[j]?, producer.topic = wait.1 →
      t.system.now ≠ wait.2))
  | .outage .. | .openProducer _ | .ask _ | .acquire _ | .openConsumer .. | .receive .. | .look _ => isTrue trivial

instance decidablePromptly (i : Nat) : (actions : List Action) → (t : Traffic) → Decidable (Promptly i actions t)
  | [], _ => isTrue trivial
  | action :: later, t =>
    have := decidablePromptly i later
    inferInstanceAs (Decidable (Prompt i t action ∧ ∀ result ∈ t.perform action, Promptly i later result.2))

namespace Going

theorem awaited (going : Going i r deadline t) : (r.topic, deadline) ∈ t.awaited? i := by
  obtain ⟨subscription, parked, reader⟩ := going.reader
  simp [awaited?, reader]

theorem glance (going : Going i r deadline t) :
    (∃ e t', r.next? t = some e ∧ t.perform (.look i) = some (.received (some e), t')) ∨
      r.next? t = none ∧
        ((∃ t', t.system.now = deadline ∧ t.perform (.look i) = some (.received none, t')) ∨
          t.system.now < deadline ∧ ∀ answer t', t.perform (.look i) = some (answer, t') →
            answer = .going ∧ Going i r deadline t' ∧ t'.perform (.look i) = none) := by
  obtain ⟨subscription, parked, reader⟩ := going.reader
  have look := perform_glance going.attended reader rfl
  cases looked : t.perform (.look i) with
  | none =>
    rw [looked] at look
    cases look with
    | sleeps nothing early => exact .inr ⟨nothing, .inr ⟨early, by rintro _ _ ⟨⟩⟩⟩
  | some result =>
    rw [looked] at look
    cases look with
    | given e t' next => exact .inl ⟨e, t', next, rfl⟩
    | late t' nothing past => exact .inr ⟨nothing, .inl ⟨t', Nat.le_antisymm going.intime past, rfl⟩⟩
    | parks c nothing early seen =>
      have parked := setReader_self reader { r with subscription := .topic c, pending := some (deadline, true) }
      refine .inr ⟨nothing, .inr ⟨early, ?_⟩⟩
      rintro _ _ ⟨⟩
      exact ⟨rfl, ⟨attended_step going.attended looked, ⟨_, _, parked⟩, going.intime⟩, asleep early seen parked⟩

theorem still (going : Going i r deadline t) (prompt : Prompt i t action)
    (made : t.perform action = some (answer, t')) (next : r.next? t = some e) : t'.system.now = t.system.now := by
  rcases perform_now made with same | ⟨time, rfl, later⟩
  · exact same
  · rcases prompt _ going.awaited with past | ⟨asleep, -⟩
    · rw [later, Nat.max_eq_right past]
    · rcases going.glance with ⟨_, _, _, looked⟩ | ⟨nothing, -⟩
      · rw [looked] at asleep
        cases asleep
      · cases nothing.symm.trans next

theorem comes_early (going : Going i r deadline t) (prompt : Prompt i t action)
    (made : t.perform action = some (answer, t')) (nothing : r.next? t = none) (next : r.next? t' = some e) :
    t'.system.now < deadline := by
  obtain ⟨-, j, producer, rfl, handle, topic⟩ := next_brought made nothing next
  have still := (perform_now made).resolve_right fun ⟨_, clock, _⟩ => by cases clock
  have other : t.system.now ≠ deadline := prompt _ going.awaited producer handle topic
  rw [still]
  exact Nat.lt_of_le_of_ne going.intime other

theorem step (going : Going i r deadline t) (prompt : Prompt i t action)
    (made : t.perform action = some (answer, t')) :
    action.reader? = some i ∧ (∃ result, answer = .received result ∧
        ∀ later, due r deadline later t = (result, t.system.now)) ∨
      (action.reader? = some i → answer = .going) ∧ Going i r deadline t' := by
  obtain ⟨subscription, parked, reader⟩ := going.reader
  by_cases own : action.reader? = some i
  · cases action with
    | outage | clock | openProducer | ask | acquire | publish | openConsumer => cases own
    | receive j timeout =>
      cases own
      simp [perform, reader] at made
    | look j =>
      cases own
      rcases going.glance with ⟨e, _, next, looked⟩ | ⟨nothing, ⟨_, past, looked⟩ | ⟨_, waits⟩⟩
      · cases looked.symm.trans made
        exact .inl ⟨rfl, _, rfl, fun later => due_of_next next⟩
      · cases looked.symm.trans made
        exact .inl ⟨rfl, _, rfl, fun later => (due_late nothing past).trans (by rw [past])⟩
      · obtain ⟨rfl, going', -⟩ := waits _ _ made
        exact .inr ⟨fun _ => rfl, going'⟩
  · refine .inr ⟨fun same => absurd same own, attended_step going.attended made,
      ⟨subscription, parked, readers_kept reader own made⟩, ?_⟩
    rcases perform_now made with same | ⟨time, rfl, later⟩
    · exact same ▸ going.intime
    · rcases prompt _ going.awaited with past | ⟨-, intime⟩
      · exact later ▸ Nat.max_le.mpr ⟨Nat.le_trans past going.intime, going.intime⟩
      · exact later ▸ Nat.max_le.mpr ⟨intime, going.intime⟩

end Going

def outcome? (i : Nat) : List Action → Traffic → Option (Answer × Nat)
  | [], _ => none
  | action :: later, t =>
    (t.perform action).bind fun result =>
      if action.reader? = some i ∧ result.1 ≠ .going then some (result.1, t.system.now) else outcome? i later result.2

theorem Going.due_kept (going : Going i r deadline t) (later : List Action) (prompt : Prompt i t action)
    (made : t.perform action = some (answer, t')) : due r deadline (action :: later) t = due r deadline later t' := by
  cases next : r.next? t with
  | some e => rw [due_of_next next, due_of_next (next_kept made next), going.still prompt made next]
  | none =>
    have arrives := arrival_after later next made
    cases next' : r.next? t' with
    | some e =>
      have early := going.comes_early prompt made next next'
      rw [arrival_of_next next'] at arrives
      rw [due_of_next next', due, next, arrives]
      exact if_pos early
    | none => simp only [due, next, next', arrives]

theorem Going.run (going : Going i r deadline t) (prompt : Promptly i later t) {u : Traffic}
    (ran : Traffic.run later t = some u) :
    (∃ result time, outcome? i later t = some (.received result, time) ∧ due r deadline later t = (result, time)) ∨
      outcome? i later t = none ∧ Going i r deadline u ∧ due r deadline later t = due r deadline [] u := by
  induction later generalizing t with
  | nil =>
    cases ran
    exact .inr ⟨rfl, going, rfl⟩
  | cons action later ih =>
    obtain ⟨⟨answer, t'⟩, made, rest⟩ := Option.bind_eq_some_iff.mp ran
    have same := going.due_kept later prompt.1 made
    rcases going.step prompt.1 made with ⟨own, result, rfl, ought⟩ | ⟨silent, going'⟩
    · have ends : outcome? i (action :: later) t = some (.received result, t.system.now) := by
        simp only [outcome?, made, Option.bind_some]
        exact if_pos ⟨own, by simp⟩
      exact .inl ⟨result, t.system.now, ends, ought _⟩
    · have goes : outcome? i (action :: later) t = outcome? i later t' := by
        simp only [outcome?, made, Option.bind_some]
        exact if_neg fun ⟨own, ended⟩ => ended (silent own)
      rw [goes, same]
      exact ih going' (prompt.2 _ made) rest

/-- A receive that the reader `r` began in the state `t` comes to what it ought to, in a run to the state `u`. -/
structure Punctual (i : Nat) (r : Reader) (deadline : Nat) (later : List Action) (t u : Traffic)
    (ought : Option Entry × Nat) : Prop where
  ends : ∀ answer time, outcome? i later t = some (answer, time) → answer = .received ought.1 ∧ time = ought.2
  goes : outcome? i later t = none → u.system.now ≤ ought.2 ∧
    (u.system.now < ought.2 → ∀ answer v, u.perform (.look i) = some (answer, v) →
      answer = .going ∧ v.perform (.look i) = none) ∧
    (u.system.now = ought.2 → u.Answers (.look i) (.received ought.1))
  atOnce : ∀ e, r.next? t = some e → ought = (some e, t.system.now)
  brought : ∀ e, r.next? t = none → ought.1 = some e → ought.2 < deadline ∧ ∃ front j back v,
    later = front ++ .publish j e :: back ∧ run front t = some v ∧ r.next? v = none ∧ v.system.now = ought.2 ∧
      v.Answers (.publish j e) .done
  nothing : ought.1 = none → ought.2 = deadline ∧ ∀ front back v, later = front ++ back → run front t = some v →
    v.system.now < deadline → r.next? v = none
  refused : outcome? i later t = none → ∀ j e v, u.perform (.publish j e) = some (.done, v) →
    Start.admitted r.start e.id = false → v.readers[i]? = u.readers[i]? ∧ r.next? v = r.next? u

theorem due_brought (nothing : r.next? t = none) (ought : due r deadline later t = (some e, time)) :
    time < deadline ∧ ∃ front j back v, later = front ++ .publish j e :: back ∧ run front t = some v ∧
      r.next? v = none ∧ v.system.now = time ∧ v.Answers (.publish j e) .done := by
  simp only [due, nothing] at ought
  split at ought
  · split at ought <;> cases ought
    rename_i early arrives
    exact ⟨early, (arrival_brought arrives).resolve_left fun here => nomatch nothing.symm.trans here.1⟩
  · cases ought

theorem due_nothing (ought : due r deadline later t = (none, time)) : time = deadline ∧
    ∀ front back v, later = front ++ back → run front t = some v → v.system.now < deadline → r.next? v = none := by
  cases next : r.next? t with
  | some d =>
    rw [due_of_next next] at ought
    cases ought
  | none =>
    constructor
    · simp only [due, next] at ought
      split at ought
      · split at ought <;> cases ought
        rfl
      · cases ought
        rfl
    · rintro front back v rfl ran early
      cases there : r.next? v with
      | none => rfl
      | some d =>
        obtain ⟨moment, arrives, soon⟩ := arrival_by back ran there
        have before : moment < deadline := Nat.lt_of_le_of_lt soon early
        simp only [due, next, arrives, if_pos before] at ought
        cases ought

theorem next_refused {j : Nat} (made : t.perform (.publish j e) = some (answer, t'))
    (below : Start.admitted r.start e.id = false) : r.next? t' = r.next? t := by
  cases next : r.next? t with
  | some d => exact next_kept made next
  | none =>
    cases next' : r.next? t' with
    | none => rfl
    | some d =>
      obtain ⟨-, _, _, same, -⟩ := next_brought made next next'
      cases same
      have member := (List.mem_filter.mp (List.mem_of_getElem? next')).2
      rw [below] at member
      cases member

theorem Going.punctual (going : Going i r deadline t) (prompt : Promptly i later t) {u : Traffic}
    (ran : Traffic.run later t = some u) : Punctual i r deadline later t u (due r deadline later t) := by
  have ends := going.run prompt ran
  rcases ought : due r deadline later t with ⟨result, time⟩
  rw [ought] at ends
  have lasts (silent : outcome? i later t = none) : Going i r deadline u ∧ (result, time) = due r deadline [] u := by
    rcases ends with ⟨_, _, answered, -⟩ | ⟨-, lasts⟩
    · cases silent.symm.trans answered
    · exact lasts
  constructor
  case ends =>
    intro answer moment answered
    rcases ends with ⟨_, _, found, same⟩ | ⟨silent, -⟩
    · cases same
      cases found.symm.trans answered
      exact ⟨rfl, rfl⟩
    · cases silent.symm.trans answered
  case goes =>
    intro silent
    obtain ⟨going', same⟩ := lasts silent
    rcases going'.glance with ⟨e, v, next, looked⟩ | ⟨nothing, ⟨v, past, looked⟩ | ⟨early, sleeps⟩⟩
    · rw [due_of_next next] at same
      cases same
      exact ⟨Nat.le_refl _, fun before => absurd before (Nat.lt_irrefl _), fun _ => ⟨v, looked⟩⟩
    · rw [due_late nothing past] at same
      cases same
      exact ⟨Nat.le_of_eq past, fun before => absurd past (Nat.ne_of_lt before), fun _ => ⟨v, looked⟩⟩
    · simp only [due, arrival?, nothing, Option.map_none] at same
      cases same
      refine ⟨Nat.le_of_lt early, fun _ answer v looked => ?_, fun past => absurd past (Nat.ne_of_lt early)⟩
      obtain ⟨rfl, -, asleep⟩ := sleeps answer v looked
      exact ⟨rfl, asleep⟩
  case atOnce =>
    intro e next
    exact ought.symm.trans (due_of_next next)
  case brought =>
    rintro e nothing rfl
    exact due_brought nothing ought
  case nothing =>
    rintro rfl
    exact due_nothing ought
  case refused =>
    intro silent j e v made below
    obtain ⟨_, _, reader⟩ := (lasts silent).1.reader
    exact ⟨(readers_kept reader (by simp [Action.reader?]) made).trans reader.symm, next_refused made below⟩

/-- Whatever is done besides, in whatever order: a receive that is dealt with promptly comes to the first entry that
its start admits and that it has not received, as soon as there is one, or to nothing exactly at its deadline. -/
theorem every_receive_is_punctual {settings : Settings} {executor : Executor} {timeout : Nat} {u : Traffic}
    (h : run actions (opened settings executor) = some t) (reader : t.readers[i]? = some r)
    (begun : t.perform (.receive i timeout) = some (answer, t')) (ran : run later t' = some u)
    (prompt : Promptly i later t') :
    Punctual i r (t.system.now + timeout) later t' u (due r (t.system.now + timeout) later t') := by
  have attended := attended_step (attended_after h) begun
  simp only [perform, reader] at begun
  split at begun <;> cases begun
  refine Going.punctual ⟨attended, ⟨r.subscription, false, setReader_self reader _⟩, ?_⟩ prompt ran
  exact Nat.le_add_right _ _

def earlyConsumer : List Action :=
  [.openProducer "tx-a", .publish 0 ⟨.ofNat 5, "below", []⟩, .openConsumer "tx-a" (some ⟨.ofNat 7, false⟩), .clock 4]

def thirdComes : List Action :=
  [.look 0, .publish 0 ⟨.ofNat 6, "below", []⟩, .look 0, .clock 7, .publish 0 ⟨.ofNat 7, "at", []⟩, .look 0, .clock 9,
    .publish 0 ⟨.ofNat 8, "above", []⟩, .look 0, .clock 20]

def noneComes : List Action := [.look 0, .publish 0 ⟨.ofNat 6, "below", []⟩, .look 0, .clock 14, .look 0]

theorem a_receive_outlasts_what_it_passes : ∃ t r t', run earlyConsumer (opened {} .logging) = some t ∧
    t.readers[0]? = some r ∧ t.system.now = 4 ∧ t.perform (.receive 0 10) = some (.going, t') ∧
    (∃ u, run thirdComes t' = some u ∧ Promptly 0 thirdComes t' ∧
      outcome? 0 thirdComes t' = some (.received (some ⟨.ofNat 8, "above", []⟩), 9) ∧
      Punctual 0 r 14 thirdComes t' u (some ⟨.ofNat 8, "above", []⟩, 9)) ∧
    ∃ u, run noneComes t' = some u ∧ Promptly 0 noneComes t' ∧ outcome? 0 noneComes t' = some (.received none, 14) ∧
      Punctual 0 r 14 noneComes t' u (none, 14) := by
  have runs : ((run earlyConsumer (opened {} .logging)).bind fun t => t.readers[0]?.bind fun r =>
      (t.perform (.receive 0 10)).bind fun begun => (run thirdComes begun.2).bind fun _ =>
        (run noneComes begun.2).map fun _ => decide (t.system.now = 4 ∧ begun.1 = .going ∧
          (Promptly 0 thirdComes begun.2 ∧
            outcome? 0 thirdComes begun.2 = some (.received (some ⟨.ofNat 8, "above", []⟩), 9) ∧
            due r 14 thirdComes begun.2 = (some ⟨.ofNat 8, "above", []⟩, 9)) ∧
          Promptly 0 noneComes begun.2 ∧ outcome? 0 noneComes begun.2 = some (.received none, 14) ∧
            due r 14 noneComes begun.2 = (none, 14))) = some true := by
    decide +kernel
  simp only [Option.bind_eq_some_iff, Option.map_eq_some_iff, decide_eq_true_eq] at runs
  obtain ⟨t, ran, r, reader, ⟨_, t'⟩, begun, u, third, v, none, now, rfl, ⟨prompt, ends, ought⟩, prompt', ends',
    ought'⟩ := runs
  have early := every_receive_is_punctual ran reader begun third prompt
  have late := every_receive_is_punctual ran reader begun none prompt'
  rw [now, ought] at early
  rw [now, ought'] at late
  exact ⟨t, r, t', ran, reader, now, begun, ⟨u, third, prompt, ends, early⟩, v, none, prompt', ends', late⟩

end Traffic
end Journal
