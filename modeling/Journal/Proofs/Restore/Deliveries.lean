import Journal.Proofs.Restore.Handling

/-!
A session whose consumer may give anything. A prepared consumer gives any deliveries in any order. Its session hears
them one after the other up to the first that ends it, and comes there after at most three steps for each of them.
-/
namespace Journal

/-- What a worker still has to hear from a prepared consumer. A receive that waits has used up an idle delivery, or
there was none left. -/
inductive Worker.Owes : Worker → List Delivery → Prop where
  | spawned (left : List Delivery) : Owes (.spawned (.prepared left)) left
  | ready (left : List Delivery) : Owes (.ready (.prepared left)) left
  | receiving (left : List Delivery) (deadline : Nat) : Owes (.receiving (.prepared left) deadline false) left
  | parked (left : List Delivery) (deadline : Nat) : Owes (.receiving (.prepared left) deadline true) (.idle :: left)
  | submitting (left : List Delivery) (e : Entry) (saga : Saga) (op : Operation) :
      Owes (.submitting (.prepared left) e saga op) left
  | ended (left : List Delivery) : Owes .ended left

def Worker.effort (left : Nat) : Worker → Nat
  | .unborn | .ended => 0
  | .spawned _ | .submitting .. => 3 * left + 1
  | .ready _ => 3 * left
  | .receiving _ _ parked => if parked then 3 * left - 2 else 3 * left - 1

theorem Worker.effort_le (left : Nat) (w : Worker) : w.effort left ≤ 3 * left + 1 := by
  cases w with
  | receiving subscription deadline parked =>
    simp only [effort]
    split <;> omega
  | _ =>
    simp only [effort]
    omega

theorem Worker.effort_receiving (subscription : Subscription) (deadline left : Nat) :
    (Worker.receiving subscription deadline false).effort (left + 1) = 3 * left + 2 := rfl

theorem Worker.effort_pos {w : Worker} {left : Nat} (alive : w.isAlive = true) (more : w.inFlight = [] → 0 < left) :
    0 < w.effort left := by
  cases w with
  | unborn | ended => cases alive
  | spawned | submitting => exact Nat.succ_pos _
  | ready =>
    have := more rfl
    simp only [effort]
    omega
  | receiving subscription deadline parked =>
    have := more rfl
    simp only [effort]
    split <;> omega

theorem Subscription.receive_prepared {log : Log} {now deadline : Nat} {left : List Delivery} {received : Received}
    {subscription : Subscription}
    (h : (Subscription.prepared left).receive log now deadline false = (received, subscription)) :
    ∃ d later, subscription = .prepared later ∧ (left = d :: later ∨ left = [] ∧ later = [] ∧ d = .idle) ∧
      (received.delivery? = some d ∨ received = .waiting ∧ d = .idle) := by
  cases left with
  | nil =>
    simp only [receive, takeDelivery, Bool.false_eq_true, if_false] at h
    cases h
    refine ⟨.idle, [], rfl, .inr ⟨rfl, rfl, rfl⟩, ?_⟩
    split
    · exact .inl rfl
    · exact .inr ⟨rfl, rfl⟩
  | cons d later =>
    refine ⟨d, later, ?_⟩
    cases d with
    | entry e =>
      cases h
      exact ⟨rfl, .inl rfl, .inl rfl⟩
    | failure error =>
      cases h
      exact ⟨rfl, .inl rfl, .inl rfl⟩
    | idle =>
      simp only [receive, takeDelivery, Bool.false_eq_true, if_false] at h
      cases h
      refine ⟨rfl, .inl rfl, ?_⟩
      split
      · exact .inl rfl
      · exact .inr ⟨rfl, rfl⟩

theorem Worker.Owes.born {w : Worker} {left : List Delivery} (owes : w.Owes left) : w ≠ .unborn := by
  cases owes <;> simp

namespace Session

variable {settings : RestoreSettings} {now : Nat} {log : Log} {s s' : Session}

theorem Calm.alive {d : Option Delivery} {outcome : Option (Except SagaError Handoff)}
    (calm : s.Calm settings now log s' d outcome) : s.worker.isAlive = true := by
  cases calm <;> simp_all [Worker.isAlive]

theorem proceed_worker (now : Nat) (subscription : Subscription) (id : Ulid) (s : Session) :
    (s.proceed now subscription id).1.worker = .ready subscription ∨
      (s.proceed now subscription id).1.worker = .ended := by
  unfold proceed
  split
  · exact .inr rfl
  · exact .inl rfl

theorem Taken.worker {policy : UnrecognizedPolicy} {now : Nat} {subscription : Subscription} {d : Delivery}
    {result : Reported} (taken : s.Taken policy now subscription d result) :
    result.1.worker = .ready subscription ∨ result.1.worker = .ended ∨
      d ≠ .idle ∧ ∃ e saga op, result.1.worker = .submitting subscription e saga op := by
  cases taken with
  | idle => exact .inl rfl
  | failed | pastEnd | pastCeiling | corrupt | refused => exact .inr (.inl rfl)
  | @ignored e =>
    rcases proceed_worker now subscription e.id { s with tally := s.tally.ignore } with ready | ended
    · exact .inl ready
    · exact .inr (.inl ended)
  | @submitted e op saga => exact .inr (.inr ⟨by simp, e, saga, op, rfl⟩)

theorem Calm.owes {d : Option Delivery} {outcome : Option (Except SagaError Handoff)} {left : List Delivery}
    (calm : s.Calm settings now log s' d outcome) (owes : s.worker.Owes left) :
    ∃ left', s'.worker.Owes left' ∧
      (left = d.toList ++ left' ∧
          (left ≠ [] ∨ s.worker.inFlight ≠ [] → s'.worker.effort left'.length < s.worker.effort left.length) ∨
        left = [] ∧ s.worker.inFlight = [] ∧ d.toList ++ left' = [.idle]) := by
  cases calm with
  | begin worker =>
    rw [worker] at owes ⊢
    cases owes
    exact ⟨left, .ready left, .inl ⟨rfl, fun _ => by simp [Worker.effort]⟩⟩
  | listen worker =>
    rw [worker] at owes ⊢
    cases owes
    refine ⟨left, .receiving left _, .inl ⟨rfl, fun more => ?_⟩⟩
    have pos : 0 < left.length := List.length_pos_of_ne_nil (more.resolve_right (by simp [Worker.inFlight]))
    simp only [Worker.effort, Bool.false_eq_true, if_false]
    omega
  | park worker waits =>
    rw [worker] at owes ⊢
    cases owes
    obtain ⟨d, later, rfl, front, given⟩ := Subscription.receive_prepared waits
    obtain rfl : d = .idle := by
      rcases given with given | ⟨-, idle⟩
      · cases given
      · exact idle
    refine ⟨.idle :: later, .parked later _, ?_⟩
    rcases front with rfl | ⟨rfl, rfl, -⟩
    · refine .inl ⟨rfl, fun _ => ?_⟩
      simp only [Worker.effort, List.length_cons, Bool.false_eq_true, if_true, if_false]
      omega
    · exact .inr ⟨rfl, rfl, rfl⟩
  | @hear subscription subscription' deadline parked received d result worker given delivered taken =>
    rw [worker] at owes ⊢
    cases owes with
    | parked later =>
      -- The idle delivery was used up when the receive began to wait.
      simp only [Subscription.receive, if_true] at given
      cases given
      split at delivered <;> cases delivered
      cases taken
      refine ⟨later, .ready later, .inl ⟨rfl, fun _ => ?_⟩⟩
      simp only [Worker.effort, List.length_cons, if_true]
      omega
    | receiving =>
      obtain ⟨d', later, rfl, front, given⟩ := Subscription.receive_prepared given
      obtain rfl : d = d' := by
        rcases given with given | ⟨rfl, -⟩
        · exact Option.some.inj (delivered.symm.trans given)
        · cases delivered
      rcases front with rfl | ⟨rfl, rfl, rfl⟩
      · refine ⟨later, ?_, .inl ⟨rfl, fun _ => ?_⟩⟩
        · rcases taken.worker with after | after | ⟨-, e, saga, op, after⟩ <;> rw [after]
          · exact .ready later
          · exact .ended later
          · exact .submitting later e saga op
        · have most := result.1.worker.effort_le later.length
          rw [List.length_cons, Worker.effort_receiving]
          omega
      · cases taken
        exact ⟨[], .ready [], .inr ⟨rfl, rfl, rfl⟩⟩
  | @count subscription e saga op worker outcome =>
    rw [worker] at owes ⊢
    cases owes
    rw [count_after]
    rcases proceed_worker now (.prepared left) e.id
      { s with tally := if succeeded outcome then s.tally.restore else s.tally.fail } with after | after <;> rw [after]
    · exact ⟨left, .ready left, .inl ⟨rfl, fun _ => by simp [Worker.effort]⟩⟩
    · exact ⟨left, .ended left, .inl ⟨rfl, fun _ => by simp [Worker.effort]⟩⟩

end Session

namespace Life

variable {l l' : Life} {s s' : Session} {t : Terms} {action : Action} {deliveries : List Delivery}

/-- The invariant of a session whose consumer gives these deliveries, after `worked` steps of its worker. -/
structure Serves (t : Terms) (deliveries : List Delivery) (worked : Nat) (l : Life) (s : Session) : Prop where
  unborn : s.worker = .unborn → l.system.script.consumers.head? = some deliveries ∧ l.heard = [] ∧ worked = 0
  born : s.worker ≠ .unborn → ∃ left k, s.worker.Owes left ∧ l.heard ++ left = deliveries ++ List.replicate k .idle ∧
    ((∃ d ∈ deliveries, t.ending? d ≠ none) → worked + s.worker.effort left.length ≤ 3 * deliveries.length + 1)

theorem left_of_ends {left : List Delivery} {k : Nat} (stands : t.Stands l.heard s s.worker)
    (alive : s.worker.isAlive = true) (calm : s.worker.inFlight = [])
    (parts : l.heard ++ left = deliveries ++ List.replicate k .idle) (ends : ∃ d ∈ deliveries, t.ending? d ≠ none) :
    left ≠ [] := by
  obtain ⟨d, member, ending⟩ := ends
  have passes : t.Passes l.heard := by
    cases worker : s.worker with
    | unborn | ended => simp [worker, Worker.isAlive] at alive
    | submitting => simp [worker, Worker.inFlight] at calm
    | spawned | ready | receiving =>
      rw [worker] at stands
      exact stands.2.2
  rintro rfl
  have inside : d ∈ l.heard ++ [] := parts ▸ List.mem_append_left _ member
  exact ending (passes d (by simpa using inside))

theorem Serves.calm {d : Option Delivery} {outcome : Option (Except SagaError Handoff)} {worked : Nat}
    (serves : Serves t deliveries worked l s) (handling : Handling t l s)
    (calm : s.Calm l.system.restore l.system.now l.system.log s' d outcome) (heard : l'.heard = l.heard ++ d.toList) :
    Serves t deliveries (worked + 1) l' s' := by
  have alive := calm.alive
  have born : s.worker ≠ .unborn := fun unborn => by simp [unborn, Worker.isAlive] at alive
  obtain ⟨left, k, owes, parts, bound⟩ := serves.born born
  obtain ⟨left', owes', next⟩ := calm.owes owes
  refine ⟨fun unborn => absurd unborn owes'.born, fun _ => ?_⟩
  rcases next with ⟨rfl, nearer⟩ | ⟨rfl, rest, idle⟩
  · refine ⟨left', k, owes', by rw [heard, List.append_assoc, parts], fun ends => ?_⟩
    have more : d.toList ++ left' ≠ [] ∨ s.worker.inFlight ≠ [] := by
      by_cases rest : s.worker.inFlight = []
      · exact .inl (left_of_ends handling.stands alive rest parts ends)
      · exact .inr rest
    have := nearer more
    have := bound ends
    omega
  · refine ⟨left', k + 1, owes', ?_, fun ends => absurd rfl (left_of_ends handling.stands alive rest parts ends)⟩
    rw [List.append_nil] at parts
    rw [heard, List.append_assoc, idle, parts, List.append_assoc, List.replicate_succ']

/-- What a session has heard of a consumer that gives these deliveries. -/
structure Served (t : Terms) (deliveries : List Delivery) (worked : Nat) (l : Life) (p : Progress) : Prop where
  heard : ∃ left k, l.heard ++ left = deliveries ++ List.replicate k .idle
  through : l.system.tasks ≠ [] → p.done = true →
    ∃ read d later, deliveries = read ++ d :: later ∧ l.heard = read ++ [d] ∧ t.Passes read ∧ t.ending? d ≠ none
  ends : (∃ d ∈ deliveries, t.ending? d ≠ none) → 3 * deliveries.length + 1 ≤ worked → p.done = true

theorem Handling.total (handling : Handling t l s) :
    s.tally.total + l.handed.length = (t.processed l.heard).length + l.outcomes.length := by
  have outcomes : l.outcomes.length =
      l.outcomes.countP succeeded + l.outcomes.countP fun outcome => !succeeded outcome := by
    rw [List.length_eq_countP_add_countP succeeded]
    simp
  have entries : (t.processed l.heard).length =
      l.handed.length + (t.processed l.heard).countP fun e => e.replay?.isNone := by
    rw [handling.handed, List.length_filterMap_eq_countP, List.length_eq_countP_add_countP fun e => e.replay?.isSome]
    refine congrArg _ (List.countP_congr fun e _ => ?_)
    simp
  rw [Tally.total, handling.restored, handling.failed, handling.ignored, entries, ← outcomes]
  omega

theorem among_deliveries {read left : List Delivery} {d : Delivery} {k : Nat}
    (parts : read ++ [d] ++ left = deliveries ++ List.replicate k .idle) (ending : t.ending? d ≠ none) :
    ∃ later, deliveries = read ++ d :: later := by
  rcases List.append_eq_append_iff.mp parts with ⟨later, same, -⟩ | ⟨beyond, same, idle⟩
  · exact ⟨later, by rw [same, List.append_assoc]; rfl⟩
  · rcases List.eq_nil_or_concat beyond with rfl | ⟨front, last, rfl⟩
    · exact ⟨[], by rw [same, List.append_nil]⟩
    · rw [List.concat_eq_append, ← List.append_assoc] at same
      obtain ⟨-, same⟩ := List.append_inj' same rfl
      obtain rfl : d = last := List.singleton_inj.mp same
      have member : d ∈ List.replicate k Delivery.idle := by
        rw [idle]
        simp
      rw [(List.mem_replicate.mp member).2] at ending
      exact absurd rfl ending

theorem Serves.served {worked : Nat} (serves : Serves t deliveries worked l s) (handling : Handling t l s)
    (lived : Lived l s) : Served t deliveries worked l s.progress := by
  have stands := handling.stands
  refine ⟨?_, fun spawned done => ?_, fun ends enough => ?_⟩
  · by_cases unborn : s.worker = .unborn
    · obtain ⟨-, silent, -⟩ := serves.unborn unborn
      exact ⟨deliveries, 0, by simp [silent]⟩
    · obtain ⟨left, k, -, parts, -⟩ := serves.born unborn
      exact ⟨left, k, parts⟩
  · have born : s.worker ≠ .unborn := fun unborn => spawned (lived.unborn unborn)
    have closed : s.worker = .ended := by
      have dead := (lived.consistent.closed done).2
      cases worker : s.worker <;> simp_all [Worker.isAlive]
    obtain ⟨left, k, -, parts, -⟩ := serves.born born
    rw [closed] at stands
    obtain ⟨-, read, d, ending, whole, passes, ended, -⟩ := stands
    rw [whole] at parts
    have ending : t.ending? d ≠ none := by simp [ended]
    obtain ⟨later, same⟩ := among_deliveries parts ending
    exact ⟨read, d, later, same, whole, passes, ending⟩
  · have born : s.worker ≠ .unborn := by
      intro unborn
      have := (serves.unborn unborn).2.2
      omega
    obtain ⟨left, k, -, parts, bound⟩ := serves.born born
    have spent := bound ends
    have closed : s.worker = .ended := by
      by_contra going
      have alive : s.worker.isAlive = true := by cases worker : s.worker <;> simp_all [Worker.isAlive]
      have effort : 0 < s.worker.effort left.length := Worker.effort_pos alive fun calm =>
        List.length_pos_of_ne_nil (left_of_ends handling.stands alive calm parts ends)
      omega
    rw [closed] at stands
    exact stands.1

end Life
end Journal
