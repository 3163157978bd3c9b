import Journal.Proofs.System.Writing
import Journal.System.Reading

/-!
Runs of a log: any number of producers publish and any number of consumers receive, in any order, while producers,
consumers and publishing are made to fail and mended again. A call for a shared producer and a receive take small
steps, between which anything else may happen. An onlooker notes what was published and what each consumer received.
-/
namespace Journal

/-- A consumer with what it was opened for, the receive that goes on, and what it has received so far. -/
structure Reader where
  topic : String
  start : Option Start
  subscription : Subscription
  pending : Option (Nat × Bool) := none
  received : List Entry := []
  deriving DecidableEq, Repr

structure Traffic where
  system : System
  acquisitions : List (String × Acquisition) := []
  producers : List Producer := []
  readers : List Reader := []
  published : List (String × Entry) := []

namespace Traffic

inductive Action where
  | outage (outage : Outage) (on : Bool)
  | clock (time : Nat)
  | openProducer (topic : String)
  | ask (source : String)
  | acquire (call : Nat)
  | publish (producer : Nat) (entry : Entry)
  | openConsumer (topic : String) (start : Option Start)
  | receive (reader timeout : Nat)
  | look (reader : Nat)

/-- What an action is answered with; `going` if its call is not over yet. -/
inductive Answer where
  | going
  | done
  | failed (error : TransportError)
  | received (entry : Option Entry)
  deriving DecidableEq, Repr

def Answer.entry? : Answer → Option Entry
  | .received entry => entry
  | _ => none

def Action.reader? : Action → Option Nat
  | .receive i _ | .look i => some i
  | _ => none

def setReader (i : Nat) (r : Reader) (t : Traffic) : Traffic := { t with readers := t.readers.set i r }

def settle (i : Nat) (r : Reader) (t : Traffic) : Reception → Answer × Traffic
  | .pending subscription deadline parked =>
    (.going, t.setReader i { r with subscription, pending := some (deadline, parked) })
  | .received subscription (.ok (some entry)) _ =>
    (.received (some entry), t.setReader i { r with subscription, pending := none, received := r.received ++ [entry] })
  | .received subscription (.ok none) _ => (.received none, t.setReader i { r with subscription, pending := none })
  | .received subscription (.error error) _ => (.failed error, t.setReader i { r with subscription, pending := none })

def perform (t : Traffic) : Action → Option (Answer × Traffic)
  | .outage outage on => some (.done, { t with system := { t.system with log := t.system.log.setOutage outage on } })
  | .clock time => some (.done, { t with system := { t.system with now := max time t.system.now } })
  | .openProducer topic =>
    match t.system.openProducer .caller topic with
    | (.error error, sys) => some (.failed error, { t with system := sys })
    | (.ok producer, sys) => some (.done, { t with system := sys, producers := t.producers ++ [producer] })
  | .ask source =>
    some (.going, { t with acquisitions := t.acquisitions ++ [(t.system.pool.topicOf source, .looking)] })
  | .acquire i =>
    match t.acquisitions[i]? with
    | none | some (_, .done _) => none
    | some (topic, call) =>
      let (call, pool, log) := call.step topic t.system.pool t.system.log
      let next := { t with system := { t.system with pool, log }, acquisitions := t.acquisitions.set i (topic, call) }
      match call.result? with
      | none => some (.going, next)
      | some (.error error) => some (.failed error, next)
      | some (.ok producer) => some (.done, { next with producers := t.producers ++ [producer] })
  | .publish i entry =>
    match t.producers[i]? with
    | none => none
    | some producer =>
      match t.system.publish .caller producer.topic entry with
      | (.error error, sys) => some (.failed error, { t with system := sys })
      | (.ok _, sys) =>
        some (.done, { t with system := sys, published := t.published ++ [(producer.topic, entry)] })
  | .openConsumer topic start =>
    match t.system.subscribe .caller topic start with
    | (.error error, sys) => some (.failed error, { t with system := sys })
    | (.ok subscription, sys) =>
      some (.done, { t with system := sys, readers := t.readers ++ [{ topic, start, subscription }] })
  | .receive i timeout =>
    match t.readers[i]? with
    | none => none
    | some r =>
      if r.pending = none then some (.going, t.setReader i { r with pending := some (t.system.now + timeout, false) })
      else none
  | .look i =>
    match t.readers[i]? with
    | none => none
    | some r =>
      match r.pending with
      | none => none
      | some (deadline, parked) =>
        (t.system.receiveStep (.pending r.subscription deadline parked)).map (t.settle i r)

def run : List Action → Traffic → Option Traffic
  | [], t => some t
  | action :: later, t => (t.perform action).bind fun result => run later result.2

def Answers (t : Traffic) (action : Action) (answer : Answer) : Prop := ∃ t', t.perform action = some (answer, t')

def opened (settings : Settings) (executor : Executor) : Traffic := { system := .ofSettings settings executor {} }

theorem run_keeps {P : Traffic → Prop}
    (step : ∀ t action answer t', P t → t.perform action = some (answer, t') → P t') {actions : List Action}
    {t t' : Traffic} (first : P t) (h : run actions t = some t') : P t' := by
  induction actions generalizing t with
  | nil =>
    cases h
    exact first
  | cons action later ih =>
    obtain ⟨⟨answer, next⟩, made, rest⟩ := Option.bind_eq_some_iff.mp h
    exact ih (step t action answer next first made) rest

def Same (t t' : Traffic) : Prop := ∀ topic, t'.system.log.entries topic = t.system.log.entries topic

/-- The effect of an action: most leave the topics and the readers alone; the others are a publish that succeeded, a
consumer that is opened, a receive that begins and a receive that goes on. -/
inductive Effect (t : Traffic) : Action → Answer → Traffic → Prop where
  | aside {action : Action} {answer : Answer} {t' : Traffic} (same : Same t t') (readers : t'.readers = t.readers)
      (published : t'.published = t.published) (nobody : action.reader? = none)
      (unpublished : ∀ i entry, action = .publish i entry → answer ≠ .done) : Effect t action answer t'
  | published {i : Nat} {producer : Producer} {entry : Entry} {t' : Traffic} (handle : t.producers[i]? = some producer)
      (stored : t.system.log.publish producer.topic entry = .ok t'.system.log) (readers : t'.readers = t.readers)
      (noted : t'.published = t.published ++ [(producer.topic, entry)]) : Effect t (.publish i entry) .done t'
  | opened {topic : String} {start : Option Start} {subscription : Subscription} {t' : Traffic} (same : Same t t')
      (readers : t'.readers = t.readers ++ [{ topic := topic, start := start, subscription := subscription }])
      (plain : t.system.script = {} → subscription = .topic { topic, start })
      (published : t'.published = t.published) : Effect t (.openConsumer topic start) .done t'
  | begun {i timeout : Nat} {r : Reader} (reader : t.readers[i]? = some r) (resting : r.pending = none) :
      Effect t (.receive i timeout) .going (t.setReader i { r with pending := some (t.system.now + timeout, false) })
  | looked {i deadline : Nat} {parked : Bool} {r : Reader} {reception : Reception} (reader : t.readers[i]? = some r)
      (pending : r.pending = some (deadline, parked))
      (stepped : t.system.receiveStep (.pending r.subscription deadline parked) = some reception) :
      Effect t (.look i) (t.settle i r reception).1 (t.settle i r reception).2

theorem settle_system (i : Nat) (r : Reader) (t : Traffic) (reception : Reception) :
    (t.settle i r reception).2.system = t.system ∧ (t.settle i r reception).2.published = t.published ∧
      ∃ r' : Reader, (t.settle i r reception).2 = t.setReader i r' := by
  unfold settle
  split <;> exact ⟨rfl, rfl, _, rfl⟩

theorem perform_effect {t t' : Traffic} {action : Action} {answer : Answer} (h : t.perform action = some (answer, t')) :
    Effect t action answer t' ∧ (t.system.script = {} → t'.system.script = {}) := by
  cases action with
  | outage | clock | ask =>
    cases h
    exact ⟨.aside (fun _ => rfl) rfl rfl rfl (by simp), fun plain => plain⟩
  | openProducer topic =>
    rcases made : t.system.openProducer .caller topic with ⟨result, sys⟩
    obtain ⟨-, rests, script, -⟩ := System.openProducer_spec made
    simp only [perform, made] at h
    cases result <;> cases h <;>
      exact ⟨.aside rests.entries rfl rfl rfl (by simp), fun plain => script.trans plain⟩
  | acquire i =>
    simp only [perform] at h
    split at h
    · cases h
    · cases h
    · rename_i topic call going asked
      rcases stepped : call.step topic t.system.pool t.system.log with ⟨call', pool, log⟩
      obtain ⟨-, rests, -⟩ := Acquisition.step_spec stepped
      simp only [stepped] at h
      split at h <;> cases h <;>
        exact ⟨.aside rests.entries rfl rfl rfl (by simp), fun plain => plain⟩
  | publish i entry =>
    simp only [perform] at h
    split at h
    · cases h
    · rename_i producer handle
      rcases written : t.system.publish .caller producer.topic entry with ⟨result, sys⟩
      obtain ⟨-, script, -, -, outcome⟩ := System.publish_spec written
      simp only [written] at h
      rcases outcome with ⟨error, rfl, unchanged⟩ | ⟨rfl, stored⟩ <;> cases h
      · exact ⟨.aside (fun _ => by rw [unchanged]) rfl rfl rfl (by simp), fun plain => script.trans plain⟩
      · exact ⟨.published handle stored rfl rfl, fun plain => script.trans plain⟩
  | openConsumer topic start =>
    rcases made : t.system.subscribe .caller topic start with ⟨result, sys⟩
    obtain ⟨-, log, -, first⟩ := System.subscribe_spec made
    have same : ∀ other, sys.log.entries other = t.system.log.entries other := by
      intro other
      rcases log with same | extended
      · rw [same]
      · rw [extended, Log.entries_withTopic]
    simp only [perform, made] at h
    cases result with
    | error error =>
      cases h
      exact ⟨.aside same rfl rfl rfl (by simp), fun plain => (first plain).1⟩
    | ok subscription =>
      cases h
      exact ⟨.opened same rfl (fun plain => (first plain).2 subscription rfl) rfl, fun plain => (first plain).1⟩
  | receive i timeout =>
    simp only [perform] at h
    split at h
    · cases h
    · rename_i r reader
      split at h
      · rename_i resting
        cases h
        exact ⟨.begun reader resting, fun plain => plain⟩
      · cases h
  | look i =>
    simp only [perform] at h
    split at h
    · cases h
    · rename_i r reader
      split at h
      · cases h
      · rename_i deadline parked pending
        obtain ⟨reception, stepped, settled⟩ := Option.map_eq_some_iff.mp h
        have effect := Effect.looked reader pending stepped
        have system := (settle_system i r t reception).1
        rw [settled] at effect system
        exact ⟨effect, fun plain => by rw [system, plain]⟩

theorem perform_grows {t t' : Traffic} {action : Action} {answer : Answer}
    (made : t.perform action = some (answer, t')) : Log.Grows t.system.log t'.system.log := by
  cases (perform_effect made).1 with
  | aside same | opened same => exact Log.grows_of_same same
  | begun => exact .refl _
  | @looked i deadline parked r reception => exact (settle_system i r t reception).1 ▸ .refl _
  | published handle stored => exact Log.publish_grows stored

theorem run_grows {t t' : Traffic} {actions : List Action} (h : run actions t = some t') :
    Log.Grows t.system.log t'.system.log :=
  run_keeps (P := fun u => Log.Grows t.system.log u.system.log)
    (fun _ _ _ _ grown made => grown.trans (perform_grows made)) (.refl _) h

end Traffic
end Journal
