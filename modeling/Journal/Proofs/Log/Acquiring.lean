import Journal.Proofs.Log.Traffic

/-!
How a call for a shared producer goes on. Each of its steps is one of six, and no other action of a run touches the pool
or a call that goes on.
-/
namespace Journal.Traffic

def Action.source? : Action → Option String
  | .ask source => some source
  | _ => none

def goOn (i : Nat) (topic : String) (call : Acquisition) (pool : Pool) (log : Log) (t : Traffic) : Traffic :=
  { t with system := { t.system with pool, log }, acquisitions := t.acquisitions.set i (topic, call) }

/-- How a call for a producer of this topic goes on by one step. -/
inductive Step (t : Traffic) (i : Nat) (topic : String) : Acquisition → Answer → Traffic → Prop where
  | blocked {call : Acquisition} (outside : call = .looking ∨ call = .waiting) (held : t.system.pool.locked = true) :
      Step t i topic call .going (t.goOn i topic call t.system.pool t.system.log)
  | missed (free : t.system.pool.locked = false) (missing : t.system.pool.producers.get? topic = none) :
      Step t i topic .looking .going (t.goOn i topic .waiting t.system.pool t.system.log)
  | entered (free : t.system.pool.locked = false) (missing : t.system.pool.producers.get? topic = none) :
      Step t i topic .waiting .going
        (t.goOn i topic .opening { t.system.pool with locked := true } t.system.log)
  | shared {call : Acquisition} {p : Producer} (outside : call = .looking ∨ call = .waiting)
      (free : t.system.pool.locked = false) (kept : t.system.pool.producers.get? topic = some p) :
      Step t i topic call .done
        { t.goOn i topic (.done (.ok p)) t.system.pool t.system.log with producers := t.producers ++ [p] }
  | opened {p : Producer} {log : Log} (made : t.system.log.openProducer topic = .ok (p, log)) :
      Step t i topic .opening .done
        { t.goOn i topic (.done (.ok p))
            { t.system.pool with producers := t.system.pool.producers.insert topic p, locked := false } log with
          producers := t.producers ++ [p] }
  | refused {error : TransportError} (fails : t.system.log.openProducer topic = .error error) :
      Step t i topic .opening (.failed error)
        (t.goOn i topic (.done (.error error)) { t.system.pool with locked := false } t.system.log)

theorem perform_acquire {t t' : Traffic} {i : Nat} {answer : Answer}
    (made : t.perform (.acquire i) = some (answer, t')) :
    ∃ topic call, t.acquisitions[i]? = some (topic, call) ∧ Step t i topic call answer t' := by
  simp only [perform] at made
  split at made
  · cases made
  · cases made
  · rename_i topic call going here
    refine ⟨topic, call, here, ?_⟩
    cases call with
    | done result => exact (going result rfl).elim
    | looking | waiting =>
      cases locked : t.system.pool.locked with
      | true =>
        simp only [Acquisition.step, locked, if_true, Acquisition.result?] at made
        cases made
        exact .blocked (by simp) locked
      | false =>
        cases kept : t.system.pool.producers.get? topic with
        | some p =>
          simp only [Acquisition.step, locked, kept, Bool.false_eq_true, if_false, Acquisition.result?] at made
          cases made
          exact .shared (by simp) locked kept
        | none =>
          simp only [Acquisition.step, locked, kept, Bool.false_eq_true, if_false, Acquisition.result?] at made
          cases made
          first
          | exact .missed locked kept
          | exact .entered locked kept
    | opening =>
      cases opens : t.system.log.openProducer topic with
      | error error =>
        simp only [Acquisition.step, opens, Acquisition.result?] at made
        cases made
        exact .refused opens
      | ok pair =>
        obtain ⟨p, log⟩ := pair
        simp only [Acquisition.step, opens, Acquisition.result?] at made
        cases made
        exact .opened opens

theorem acquire_of_step {t t' : Traffic} {i : Nat} {topic : String} {call : Acquisition} {answer : Answer}
    (here : t.acquisitions[i]? = some (topic, call)) (step : Step t i topic call answer t') :
    t.perform (.acquire i) = some (answer, t') := by
  cases step with
  | blocked outside held =>
    rcases outside with rfl | rfl <;>
      simp only [perform, here, Acquisition.step, held, if_true, Acquisition.result?, goOn]
  | missed free missing | entered free missing =>
    simp only [perform, here, Acquisition.step, free, missing, Bool.false_eq_true, if_false, Acquisition.result?, goOn]
  | shared outside free kept =>
    rcases outside with rfl | rfl <;>
      simp only [perform, here, Acquisition.step, free, kept, Bool.false_eq_true, if_false, Acquisition.result?, goOn]
  | opened opens => simp only [perform, here, Acquisition.step, opens, Acquisition.result?, goOn]
  | refused fails => simp only [perform, here, Acquisition.step, fails, Acquisition.result?, goOn]

theorem producersOpened_withTopic (log : Log) (topic : String) :
    (log.withTopic topic).producersOpened = log.producersOpened := by
  unfold Log.withTopic
  split <;> rfl

theorem producersOpened_publish {log log' : Log} {topic : String} {entry : Entry}
    (stored : log.publish topic entry = .ok log') : log'.producersOpened = log.producersOpened := by
  unfold Log.publish at stored
  split at stored
  · cases stored
  · split at stored
    · cases stored
      rfl
    · split at stored <;> cases stored
      rfl

theorem producersOpened_openProducer {log log' : Log} {topic : String} {p : Producer}
    (opens : log.openProducer topic = .ok (p, log')) :
    p = ⟨topic, log.producersOpened⟩ ∧ log'.producersOpened = log.producersOpened + 1 := by
  unfold Log.openProducer at opens
  split at opens
  · cases opens
  · cases opens
    simp only [producersOpened_withTopic, and_self]

theorem producersOpened_openConsumer {log log' : Log} {topic : String} (opens : log.openConsumer topic = .ok log') :
    log'.producersOpened = log.producersOpened := by
  unfold Log.openConsumer at opens
  split at opens
  · cases opens
  · cases opens
    exact producersOpened_withTopic log topic

structure Aside (t : Traffic) (action : Action) (t' : Traffic) : Prop where
  pool : t'.system.pool = t.system.pool
  calls : t'.acquisitions = t.acquisitions ++
    action.source?.toList.map fun source => (t.system.pool.topicOf source, Acquisition.looking)
  counted : t.system.log.producersOpened ≤ t'.system.log.producersOpened
  unopened : (∀ topic, action ≠ .openProducer topic) →
    t'.system.log.producersOpened = t.system.log.producersOpened

theorem perform_aside {t t' : Traffic} {action : Action} {answer : Answer} (other : ∀ i, action ≠ .acquire i)
    (made : t.perform action = some (answer, t')) : Aside t action t' := by
  have same : ∀ {u : Traffic}, u.system.pool = t.system.pool → u.acquisitions = t.acquisitions →
      u.system.log.producersOpened = t.system.log.producersOpened → action.source? = none → Aside t action u := by
    intro u pool calls opened silent
    refine ⟨pool, ?_, Nat.le_of_eq opened.symm, fun _ => opened⟩
    rw [calls, silent]
    exact (List.append_nil _).symm
  cases action with
  | acquire i => exact absurd rfl (other i)
  | outage | clock =>
    cases made
    exact same rfl rfl rfl rfl
  | ask source =>
    cases made
    exact ⟨rfl, rfl, Nat.le_refl _, fun _ => rfl⟩
  | openProducer topic =>
    simp only [perform, System.openProducer] at made
    cases opens : t.system.log.openProducer topic with
    | error error =>
      simp only [opens] at made
      cases made
      exact same rfl rfl rfl rfl
    | ok pair =>
      obtain ⟨p, log⟩ := pair
      simp only [opens] at made
      cases made
      have count := (producersOpened_openProducer opens).2
      refine ⟨rfl, (List.append_nil _).symm, ?_, fun others => absurd rfl (others topic)⟩
      show _ ≤ log.producersOpened
      omega
  | publish i entry =>
    simp only [perform] at made
    split at made
    · cases made
    · rename_i p handle
      simp only [System.publish] at made
      cases stored : t.system.log.publish p.topic entry with
      | error error =>
        simp only [stored] at made
        cases made
        exact same rfl rfl rfl rfl
      | ok log =>
        simp only [stored] at made
        cases made
        exact same rfl rfl (producersOpened_publish stored) rfl
  | openConsumer topic start =>
    simp only [perform, System.subscribe] at made
    cases prepared : t.system.script.consumers with
    | cons deliveries later =>
      simp only [prepared] at made
      cases made
      exact same rfl rfl rfl rfl
    | nil =>
      simp only [prepared] at made
      cases consumer : t.system.log.openConsumer topic with
      | error error =>
        simp only [consumer] at made
        cases made
        exact same rfl rfl rfl rfl
      | ok log =>
        simp only [consumer] at made
        cases made
        exact same rfl rfl (producersOpened_openConsumer consumer) rfl
  | receive i timeout =>
    simp only [perform] at made
    split at made
    · cases made
    · split at made
      · cases made
        exact same rfl rfl rfl rfl
      · cases made
  | look i =>
    simp only [perform] at made
    split at made
    · cases made
    · rename_i r reader
      split at made
      · cases made
      · obtain ⟨reception, -, settled⟩ := Option.map_eq_some_iff.mp made
        obtain ⟨system, -, r', readers⟩ := settle_system i r t reception
        rw [settled] at system readers
        have calls : t'.acquisitions = t.acquisitions := by
          rw [show t' = t.setReader i r' from readers]
          rfl
        exact same (by rw [system]) calls (by rw [system]) rfl

end Journal.Traffic
