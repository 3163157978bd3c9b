import Journal.Proofs.Restore.Lifecycle
import Mathlib.Data.List.Basic

/-!
What a session makes of what it hears. It handles one delivery after the other, up to the first that ends it, and hears
nothing after that one. Every entry before the end is counted once, by its method and by what the executor makes of it,
and so is the one at the end if its ending says so. Whatever the consumer gives, this is all that decides.
-/
namespace Journal

/-- Why a session handles no more after a delivery. -/
inductive Ending where
  | failed (error : TransportError)
  | pastEnd
  | pastCeiling
  | corrupt (cause : CodecError)
  | refused (id : Ulid) (method : String)
  | ceiling
  deriving DecidableEq, Repr

namespace Ending

def error? : Ending → Option RestoreError
  | .failed error => some (.transport error)
  | .corrupt cause => some (.codec cause)
  | .refused id method => some (.unrecognizedMethod id method)
  | .pastEnd | .pastCeiling | .ceiling => none

def counts : Ending → Bool
  | .refused .. | .ceiling => true
  | .failed _ | .pastEnd | .pastCeiling | .corrupt _ => false

end Ending

/-- What decides how a session handles a delivery. -/
structure Terms where
  policy : UnrecognizedPolicy
  bounds : Bounds
  ceiling : Option Ulid
  deriving DecidableEq, Repr

def Delivery.entry? : Delivery → Option Entry
  | .entry e => some e
  | .idle | .failure _ => none

def succeeded : Except SagaError Handoff → Bool
  | .ok handoff => handoff.success
  | .error _ => false

namespace Terms

/-- How a session ends at a delivery, if it does. The tests are made in this order. -/
def ending? (t : Terms) : Delivery → Option Ending
  | .idle => none
  | .failure error => some (.failed error)
  | .entry e =>
    if t.bounds.isPastEnd e.id then some .pastEnd
    else if t.ceiling.all fun ceiling => decide (ceiling < e.id) then some .pastCeiling
    else
      match e.decode with
      | .error cause => some (.corrupt cause)
      | .ok op =>
        if t.policy = .abort ∧ Saga.forReplay op.method = none then some (.refused e.id op.method.text)
        else if t.ceiling = some e.id then some .ceiling
        else none

def processed? (t : Terms) (d : Delivery) : Option Entry :=
  if (t.ending? d).all Ending.counts then d.entry? else none

def processed (t : Terms) (heard : List Delivery) : List Entry := heard.filterMap t.processed?

def Passes (t : Terms) (heard : List Delivery) : Prop := ∀ d ∈ heard, t.ending? d = none

variable {t : Terms} {heard : List Delivery} {d : Delivery}

theorem Passes.snoc (passes : t.Passes heard) (ending : t.ending? d = none) : t.Passes (heard ++ [d]) := by
  intro c member
  rcases List.mem_append.mp member with before | last
  · exact passes c before
  · rw [List.mem_singleton.mp last, ending]

theorem processed_snoc (t : Terms) (heard : List Delivery) (d : Delivery) :
    t.processed (heard ++ [d]) = t.processed heard ++ (t.processed? d).toList := by
  rw [processed, List.filterMap_append]
  cases counted : t.processed? d <;> simp [processed, counted]

theorem readable {e : Entry} (member : e ∈ t.processed heard) :
    ∃ op, e.decode = .ok op ∧ (e.replay?.isSome = true ↔ op.method = .put ∨ op.method = .delete) := by
  obtain ⟨d, -, counted⟩ := List.mem_filterMap.mp member
  unfold processed? at counted
  split at counted
  · rename_i counts
    cases d with
    | idle | failure => cases counted
    | entry e' =>
      cases counted
      simp only [ending?] at counts
      split at counts
      · cases counts
      · split at counts
        · cases counts
        · cases decoded : e.decode with
          | error cause => simp [decoded, Ending.counts] at counts
          | ok op =>
            refine ⟨op, rfl, ?_⟩
            cases method : op.method <;> simp [Entry.replay?, decoded, method, Saga.forReplay]
  · cases counted

end Terms

namespace Session

def terms (policy : UnrecognizedPolicy) (s : Session) : Terms := ⟨policy, s.bounds, s.ceiling⟩

/-- A step of a worker that nobody stops, with what it hears and what it learns. -/
inductive Calm (settings : RestoreSettings) (now : Nat) (log : Log) (s : Session) :
    Session → Option Delivery → Option (Except SagaError Handoff) → Prop where
  | begin {subscription : Subscription} (worker : s.worker = .spawned subscription) :
      Calm settings now log s { s with worker := .ready subscription } none none
  | listen {subscription : Subscription} (worker : s.worker = .ready subscription) :
      Calm settings now log s { s with worker := .receiving subscription (now + settings.pollInterval) false } none none
  | park {subscription subscription' : Subscription} {deadline : Nat}
      (worker : s.worker = .receiving subscription deadline false)
      (waits : subscription.receive log now deadline false = (.waiting, subscription')) :
      Calm settings now log s { s with worker := .receiving subscription' deadline true } none none
  | hear {subscription subscription' : Subscription} {deadline : Nat} {parked : Bool} {received : Received}
      {d : Delivery} {result : Reported} (worker : s.worker = .receiving subscription deadline parked)
      (given : subscription.receive log now deadline parked = (received, subscription'))
      (delivered : received.delivery? = some d) (taken : s.Taken settings.unrecognized now subscription' d result) :
      Calm settings now log s result.1 (some d) none
  | count {subscription : Subscription} {entry : Entry} {saga : Saga} {op : Operation}
      (worker : s.worker = .submitting subscription entry saga op) (outcome : Except SagaError Handoff) :
      Calm settings now log s (s.count now subscription entry saga op outcome).1 none (some outcome)

variable {settings : RestoreSettings} {now : Nat} {log : Log} {s s' : Session}

theorem ending?_entry (policy : UnrecognizedPolicy) (s : Session) (e : Entry) :
    (s.terms policy).ending? (.entry e) =
      if s.bounds.isPastEnd e.id then some .pastEnd
      else if s.isPastCeiling e.id then some .pastCeiling
      else
        match e.decode with
        | .error cause => some (.corrupt cause)
        | .ok op =>
          if policy = .abort ∧ Saga.forReplay op.method = none then some (.refused e.id op.method.text)
          else if s.ceiling = some e.id then some .ceiling
          else none := by
  have above : s.isPastCeiling e.id = s.ceiling.all fun ceiling => decide (ceiling < e.id) := by
    unfold isPastCeiling
    cases s.ceiling <;> rfl
  rw [above]
  rfl

end Session

def Terms.Stands (t : Terms) (heard : List Delivery) (s : Session) : Worker → Prop
  | .unborn => heard = []
  | .spawned _ | .ready _ | .receiving .. => s.done = false ∧ s.error = none ∧ t.Passes heard
  | .submitting _ e saga op => s.done = false ∧ s.error = none ∧ e.replay? = some (saga, op) ∧
      ∃ read, heard = read ++ [.entry e] ∧ t.Passes read ∧
        t.ending? (.entry e) = if t.ceiling = some e.id then some .ceiling else none
  | .ended => s.done = true ∧ ∃ read d ending, heard = read ++ [d] ∧ t.Passes read ∧ t.ending? d = some ending ∧
      s.error = ending.error?.map .replay

namespace Session

variable {s : Session} {t : Terms} {heard : List Delivery}

theorem processed?_of_passed {e : Entry}
    (ending : t.ending? (.entry e) = if t.ceiling = some e.id then some .ceiling else none) :
    t.processed? (.entry e) = some e := by
  rw [Terms.processed?, ending]
  split <;> rfl

structure Takes (counted : List Entry) (s s' : Session) : Prop where
  restored : s'.tally.restored = s.tally.restored
  failed : s'.tally.failed = s.tally.failed
  ignored : s'.tally.ignored = s.tally.ignored + counted.countP fun e => e.replay?.isNone
  inFlight : s'.worker.inFlight = counted.filterMap Entry.replay?

theorem takes_nothing {s' : Session} (tally : s'.tally = s.tally) (calm : s'.worker.inFlight = []) : Takes [] s s' :=
  ⟨by rw [tally], by rw [tally], by rw [tally]; rfl, calm⟩

theorem proceed_stands {e : Entry} (going : s.done = false) (unharmed : s.error = none) (ceiling : s.ceiling = t.ceiling)
    (passes : t.Passes heard)
    (ending : t.ending? (.entry e) = if t.ceiling = some e.id then some .ceiling else none) (now : Nat)
    (subscription : Subscription) :
    t.Stands (heard ++ [.entry e]) (s.proceed now subscription e.id).1 (s.proceed now subscription e.id).1.worker := by
  unfold proceed
  split
  · rename_i reached
    rw [if_pos (ceiling ▸ reached)] at ending
    exact ⟨rfl, heard, .entry e, .ceiling, rfl, passes, ending, unharmed⟩
  · rename_i below
    rw [if_neg (ceiling ▸ below)] at ending
    exact ⟨going, unharmed, passes.snoc ending⟩

theorem Taken.spec {policy : UnrecognizedPolicy} {now : Nat} {subscription : Subscription} {d : Delivery}
    {result : Reported} (taken : s.Taken policy now subscription d result) (going : s.done = false)
    (unharmed : s.error = none) (passes : (s.terms policy).Passes heard) :
    (s.terms policy).Stands (heard ++ [d]) result.1 result.1.worker ∧
      Takes ((s.terms policy).processed? d).toList s result.1 := by
  cases taken with
  | idle => exact ⟨⟨going, unharmed, passes.snoc rfl⟩, takes_nothing rfl rfl⟩
  | failed error =>
    have recorded : (s.abort now (.transport error)).1.error = some (.replay (.transport error)) := by
      simp [abort, finish, unharmed]
    exact ⟨⟨rfl, heard, _, _, rfl, passes, rfl, recorded⟩, takes_nothing rfl rfl⟩
  | @pastEnd e past =>
    have ending := ending?_entry policy s e
    rw [if_pos past] at ending
    rw [Terms.processed?, ending]
    exact ⟨⟨rfl, heard, _, _, rfl, passes, ending, unharmed⟩, takes_nothing rfl rfl⟩
  | @pastCeiling e inside past =>
    have ending := ending?_entry policy s e
    rw [inside, if_neg Bool.false_ne_true, if_pos past] at ending
    rw [Terms.processed?, ending]
    exact ⟨⟨rfl, heard, _, _, rfl, passes, ending, unharmed⟩, takes_nothing rfl rfl⟩
  | @corrupt e cause inside below broken =>
    have ending : (s.terms policy).ending? (.entry e) = some (.corrupt cause) := by
      simp [ending?_entry, inside, below, broken]
    have recorded : (s.abort now (.codec cause)).1.error = some (.replay (.codec cause)) := by
      simp [abort, finish, unharmed]
    rw [Terms.processed?, ending]
    exact ⟨⟨rfl, heard, _, _, rfl, passes, ending, recorded⟩, takes_nothing rfl rfl⟩
  | @refused e op inside below decoded unknown strict =>
    have ending : (s.terms policy).ending? (.entry e) = some (.refused e.id op.method.text) := by
      simp [ending?_entry, inside, below, decoded, unknown, strict]
    have silent : e.replay? = none := by simp [Entry.replay?, decoded, unknown]
    refine ⟨⟨rfl, heard, .entry e, _, rfl, passes, ending, ?_⟩, ?_⟩
    · simp [abort, finish, unharmed, Ending.error?]
    · rw [Terms.processed?, ending]
      exact ⟨rfl, rfl, by simp [abort, finish, silent, Tally.ignore, Ending.counts, Delivery.entry?],
        by simp [abort, finish, silent, Worker.inFlight, Ending.counts, Delivery.entry?]⟩
  | @ignored e op inside below decoded unknown lenient =>
    have ending : (s.terms policy).ending? (.entry e) = if s.ceiling = some e.id then some .ceiling else none := by
      simp [ending?_entry, inside, below, decoded, lenient]
    have silent : e.replay? = none := by simp [Entry.replay?, decoded, unknown]
    have tally := (proceed_fate now subscription e.id { s with tally := s.tally.ignore }).2.1
    have calm := (proceed_quiet now subscription e.id { s with tally := s.tally.ignore }).2
    refine ⟨proceed_stands (s := { s with tally := s.tally.ignore }) going unharmed rfl passes ending now subscription,
      ?_⟩
    rw [processed?_of_passed ending]
    exact ⟨by rw [tally]; rfl, by rw [tally]; rfl, by rw [tally]; simp [silent, Tally.ignore], by simp [calm, silent]⟩
  | @submitted e op saga inside below decoded replay =>
    have ending : (s.terms policy).ending? (.entry e) = if s.ceiling = some e.id then some .ceiling else none := by
      simp [ending?_entry, inside, below, decoded, replay]
    have handed : e.replay? = some (saga, op) := by simp [Entry.replay?, decoded, replay]
    refine ⟨⟨going, unharmed, handed, heard, rfl, passes, ending⟩, ?_⟩
    rw [processed?_of_passed ending]
    exact ⟨rfl, rfl, by simp [handed], by simp [handed, Worker.inFlight]⟩

theorem count_after (now : Nat) (subscription : Subscription) (e : Entry) (saga : Saga) (op : Operation)
    (outcome : Except SagaError Handoff) (s : Session) :
    (s.count now subscription e saga op outcome).1 =
      ({ s with tally := if succeeded outcome then s.tally.restore else s.tally.fail }.proceed now subscription e.id).1 := by
  cases outcome with
  | error error => rfl
  | ok handoff => cases success : handoff.success <;> simp [count, succeeded, success]

structure Undisturbed (s s' : Session) : Prop where
  bounds : s'.bounds = s.bounds
  ceiling : s'.ceiling = s.ceiling
  stopped : s'.stopped = s.stopped
  stopPermit : s'.stopPermit = s.stopPermit

theorem proceed_undisturbed (now : Nat) (subscription : Subscription) (id : Ulid) (s : Session) :
    Undisturbed s (s.proceed now subscription id).1 := by
  unfold proceed
  split <;> exact ⟨rfl, rfl, rfl, rfl⟩

theorem Taken.undisturbed {policy : UnrecognizedPolicy} {now : Nat} {subscription : Subscription} {d : Delivery}
    {result : Reported} (taken : s.Taken policy now subscription d result) : Undisturbed s result.1 := by
  cases taken with
  | @ignored e =>
    obtain ⟨bounds, ceiling, stopped, permit⟩ :=
      proceed_undisturbed now subscription e.id { s with tally := s.tally.ignore }
    exact ⟨bounds, ceiling, stopped, permit⟩
  | _ => exact ⟨rfl, rfl, rfl, rfl⟩

theorem calm_undisturbed {settings : RestoreSettings} {now : Nat} {log : Log} {s' : Session} {d : Option Delivery}
    {outcome : Option (Except SagaError Handoff)} (calm : s.Calm settings now log s' d outcome) : Undisturbed s s' := by
  cases calm with
  | begin | listen | park => exact ⟨rfl, rfl, rfl, rfl⟩
  | hear worker given delivered taken => exact taken.undisturbed
  | @count subscription entry saga op worker outcome =>
    rw [count_after]
    obtain ⟨bounds, ceiling, stopped, permit⟩ := proceed_undisturbed now subscription entry.id
      { s with tally := if succeeded outcome then s.tally.restore else s.tally.fail }
    exact ⟨bounds, ceiling, stopped, permit⟩

end Session

namespace Life

variable {l l' : Life} {s s' : Session} {t : Terms} {action : Action}

/-- The invariant of a session that nobody stops: what was counted, handed over and answered agrees with what its worker
has heard. -/
structure Handling (t : Terms) (l : Life) (s : Session) : Prop where
  terms : s.terms l.system.restore.unrecognized = t
  unstopped : s.stopped = false
  unasked : s.stopPermit = false
  stands : t.Stands l.heard s s.worker
  handed : l.handed = (t.processed l.heard).filterMap Entry.replay?
  settled : l.outcomes.length + s.worker.inFlight.length = l.handed.length
  restored : s.tally.restored = l.outcomes.countP succeeded
  failed : s.tally.failed = l.outcomes.countP fun outcome => !succeeded outcome
  ignored : s.tally.ignored = (t.processed l.heard).countP fun e => e.replay?.isNone

theorem Handling.calm {d : Option Delivery} {outcome : Option (Except SagaError Handoff)} (handling : Handling t l s)
    (calm : s.Calm l.system.restore l.system.now l.system.log s' d outcome)
    (restore : l'.system.restore = l.system.restore) (heard : l'.heard = l.heard ++ d.toList)
    (handed : l'.handed = l.handed ++ s.worker.handover s'.worker)
    (outcomes : l'.outcomes = l.outcomes ++ outcome.toList) : Handling t l' s' := by
  obtain ⟨bounds, ceiling, stopped, permit⟩ := Session.calm_undisturbed calm
  obtain ⟨terms, unstopped, unasked, stands, booked, settled, restored, failed, ignored⟩ := handling
  have terms' : s'.terms l'.system.restore.unrecognized = t := by
    rw [← terms, restore, Session.terms, Session.terms, bounds, ceiling]
  have unstopped' := stopped.trans unstopped
  have unasked' := permit.trans unasked
  -- A step that hears nothing and learns nothing leaves the books as they are.
  have quiet (d' : d = none) (outcome' : outcome = none) (calm' : s.worker.inFlight = [] ∧ s'.worker.inFlight = [])
      (tally : s'.tally = s.tally) (stands' : t.Stands l.heard s' s'.worker) : Handling t l' s' := by
    subst d' outcome'
    simp only [Option.toList_none, List.append_nil] at heard outcomes
    have same : l'.handed = l.handed := by
      rw [handed, Worker.handover_of_calm calm'.1, calm'.2, List.append_nil]
    refine ⟨terms', unstopped', unasked', heard ▸ stands', ?_, ?_, ?_, ?_, ?_⟩
    · rw [same, heard, booked]
    · rw [same, outcomes, calm'.2, ← calm'.1, settled]
    · rw [tally, outcomes, restored]
    · rw [tally, outcomes, failed]
    · rw [tally, heard, ignored]
  cases calm with
  | begin worker | listen worker | park worker =>
    rw [worker] at stands quiet
    exact quiet rfl rfl ⟨rfl, rfl⟩ rfl stands
  | @hear subscription subscription' deadline parked received d result worker given delivered taken =>
    rw [worker] at stands handed settled
    obtain ⟨going, unharmed, passes⟩ := stands
    subst terms
    obtain ⟨stands', restored', failed', ignored', inFlight⟩ := taken.spec going unharmed passes
    simp only [Option.toList_some, Option.toList_none, List.append_nil] at heard outcomes
    rw [Worker.handover_of_calm rfl, inFlight] at handed
    refine ⟨terms', unstopped', unasked', heard ▸ stands', ?_, ?_, ?_, ?_, ?_⟩
    · rw [handed, heard, Terms.processed_snoc, List.filterMap_append, booked]
    · rw [outcomes, handed, inFlight, List.length_append, ← settled]
      rfl
    · rw [restored', outcomes, restored]
    · rw [failed', outcomes, failed]
    · rw [ignored', heard, Terms.processed_snoc, List.countP_append, ignored]
  | @count subscription e saga op worker outcome =>
    rw [worker] at stands handed settled
    obtain ⟨going, unharmed, -, read, whole, passes, ending⟩ := stands
    have after := Session.count_after l.system.now subscription e saga op outcome s
    obtain ⟨-, tally, -⟩ := Session.proceed_fate l.system.now subscription e.id
      { s with tally := if succeeded outcome then s.tally.restore else s.tally.fail }
    have calm' := (Session.proceed_quiet l.system.now subscription e.id
      { s with tally := if succeeded outcome then s.tally.restore else s.tally.fail }).2
    have stands' := Session.proceed_stands
      (s := { s with tally := if succeeded outcome then s.tally.restore else s.tally.fail }) going unharmed
      (congrArg Terms.ceiling terms) passes ending l.system.now subscription
    rw [← after] at tally calm' stands'
    simp only [Option.toList_some, Option.toList_none, List.append_nil, Worker.handover] at heard handed outcomes
    refine ⟨terms', unstopped', unasked', ?_, ?_, ?_, ?_, ?_, ?_⟩
    · rw [heard, whole]
      exact stands'
    · rw [handed, heard, booked]
    · rw [outcomes, handed, calm', ← settled, List.length_append]
      rfl
    · rw [tally, outcomes, List.countP_append, ← restored]
      cases success : succeeded outcome <;> simp [success, Tally.restore, Tally.fail]
    · rw [tally, outcomes, List.countP_append, ← failed]
      cases success : succeeded outcome <;> simp [success, Tally.restore, Tally.fail]
    · rw [tally, heard, ← ignored]
      split <;> rfl

theorem Handling.unborn (handling : Handling t l s) (unborn : s.worker = .unborn)
    (restore : l'.system.restore = l.system.restore) (heard : l'.heard = l.heard) (handed : l'.handed = l.handed)
    (outcomes : l'.outcomes = l.outcomes)
    (undisturbed : s.Undisturbed s') (tally : s'.tally = s.tally)
    (worker : s'.worker = .unborn ∨
      ∃ subscription, s'.worker = .spawned subscription ∧ s'.done = false ∧ s'.error = none) :
    Handling t l' s' := by
  obtain ⟨terms, unstopped, unasked, stands, booked, settled, restored, failed, ignored⟩ := handling
  rw [unborn] at stands settled
  have silent : l.heard = [] := stands
  have calm : s'.worker.inFlight = [] := by
    rcases worker with worker | ⟨subscription, worker, -⟩ <;> rw [worker] <;> rfl
  refine ⟨?_, undisturbed.stopped.trans unstopped, undisturbed.stopPermit.trans unasked, ?_, ?_, ?_, ?_, ?_, ?_⟩
  · rw [← terms, restore, Session.terms, Session.terms, undisturbed.bounds, undisturbed.ceiling]
  · rw [heard]
    rcases worker with worker | ⟨subscription, worker, going, unharmed⟩ <;> rw [worker]
    · exact silent
    · exact ⟨going, unharmed, by simp [silent, Terms.Passes]⟩
  · rw [handed, heard, booked]
  · rw [outcomes, handed, calm, ← settled]
    rfl
  · rw [tally, outcomes, restored]
  · rw [tally, outcomes, failed]
  · rw [tally, heard, ignored]

end Life

theorem Subscription.receive_due {subscription : Subscription} {log : Log} {now deadline : Nat} (due : deadline ≤ now)
    (parked : Bool) : (subscription.receive log now deadline parked).1 ≠ .waiting := by
  cases subscription with
  | topic c =>
    simp only [receive, Consumer.receive, if_pos due]
    split
    · simp
    · split <;> simp
  | prepared deliveries =>
    cases parked with
    | true => simp [receive, due]
    | false =>
      cases deliveries with
      | nil => simp [receive, takeDelivery, due]
      | cons d later => cases d <;> simp [receive, takeDelivery, due]

theorem Session.receive_isSome {s : Session} (settings : RestoreSettings) {now : Nat} (log : Log)
    (subscription : Subscription) {deadline : Nat} {parked : Bool} (due : parked = true → deadline ≤ now) :
    (s.receive settings now log subscription deadline parked).isSome = true := by
  unfold receive
  split
  · rfl
  · rfl
  · rfl
  · rename_i waits
    cases parked with
    | true => exact absurd (congrArg Prod.fst waits) (Subscription.receive_due (due rfl) true)
    | false => rfl

theorem Session.step_isSome {s : Session} (settings : RestoreSettings) {now : Nat} (log : Log) (fresh : Ulid)
    (origin : Origin) (stopFirst : Bool) (executor : Executor) (alive : s.worker.isAlive = true)
    (calm : s.worker.inFlight = []) (due : ∀ deadline ∈ s.worker.deadline?, deadline ≤ now) :
    (s.step settings now log fresh origin stopFirst executor).isSome = true := by
  unfold step
  cases worker : s.worker with
  | unborn | ended => simp [worker, Worker.isAlive] at alive
  | submitting => simp [worker, Worker.inFlight] at calm
  | spawned => rfl
  | ready =>
    simp only
    split <;> rfl
  | receiving subscription deadline parked =>
    have received : (s.receive settings now log subscription deadline parked).isSome = true := by
      refine receive_isSome settings log subscription fun still => due deadline ?_
      simp [worker, still, Worker.deadline?]
    simp only [Option.isSome_map]
    split <;> simp [Option.isSome_or, received]

namespace Life

variable {l l' : Life} {s s' : Session} {t : Terms} {action : Action}

/-- Either the executor can end the submission, or the worker can take a step, at the latest when its receive has run
out of time. -/
def GoesOn (l : Life) : Prop :=
  (∀ outcome, (l.perform (.answer outcome)).isSome = true) ∨
    ∃ moment, ∀ now log executor stopFirst, moment ≤ now →
      (run [.surroundings now log executor, .turn stopFirst] l).isSome = true

theorem goesOn (lived : Lived l s) (alive : s.worker.isAlive = true) : GoesOn l := by
  have task : l.system.tasks[0]? = some (.worker 0) := by
    have born : s.worker ≠ .unborn := fun unborn => by simp [unborn, Worker.isAlive] at alive
    rw [lived.manned born]
    rfl
  cases calm : s.worker.inFlight with
  | cons first others =>
    left
    intro outcome
    cases worker : s.worker with
    | submitting => simp [perform, System.answered, task, lived.session, worker]
    | _ => simp [worker, Worker.inFlight] at calm
  | nil =>
    refine .inr ⟨s.worker.deadline?.getD 0, fun now log executor stopFirst later => ?_⟩
    have due : ∀ deadline ∈ s.worker.deadline?, deadline ≤ now := by
      intro deadline waits
      rw [Option.mem_def.mp waits] at later
      exact later
    have session : System.session? { l.system with now, log, executor } 0 = some s := lived.session
    have stepped := Session.step_isSome l.system.restore log (System.freshId { l.system with now, log, executor })
      (.task 0) stopFirst executor alive calm due
    obtain ⟨⟨s', executor', events⟩, stepped⟩ := Option.isSome_iff_exists.mp stepped
    simp [run, perform, System.stepTask, task, session, stepped]

end Life
end Journal
