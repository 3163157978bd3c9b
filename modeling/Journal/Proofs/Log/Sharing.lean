import Mathlib
import Journal.Proofs.Log.Acquiring
import Journal.Proofs.Places

/-!
One producer for each topic. Any number of callers ask the pool for producers at the same time, and opening one may fail
at any moment. The log is made to open a producer only by the call that holds the lock, only for a topic that has none
yet, and what it opens is kept; so all callers of a topic share one producer, and a failure is seen by one caller only.
-/
namespace Journal

/-- Two sources share a topic just when all sources do or both stand for one source. -/
theorem LogSettings.topicOf_eq_iff (settings : LogSettings) (source other : String) :
    settings.topicOf source = settings.topicOf other ↔
      settings.topicPerSource = false ∨
        settings.sourceOrDefault (some source) = settings.sourceOrDefault (some other) := by
  unfold LogSettings.topicOf
  cases settings.topicPerSource <;> simp

namespace Traffic

def asked (actions : List Action) : List String := actions.filterMap Action.source?

def opening? (t : Traffic) : Action → Option Producer
  | .acquire i =>
    match t.acquisitions[i]? with
    | some (topic, .opening) => (t.system.log.openProducer topic).toOption.map Prod.fst
    | _ => none
  | _ => none

def openings : List Action → Traffic → List Producer
  | [], _ => []
  | action :: later, t =>
    match t.perform action with
    | none => []
    | some (_, t') => (t.opening? action).toList ++ openings later t'

def result? (t : Traffic) (i : Nat) : Option (Except TransportError Producer) :=
  t.acquisitions[i]?.bind fun call => call.2.result?

theorem result_done {t : Traffic} {i : Nat} {result : Except TransportError Producer}
    (got : t.result? i = some result) : ∃ topic, t.acquisitions[i]? = some (topic, .done result) := by
  obtain ⟨⟨topic, call⟩, here, ended⟩ := Option.bind_eq_some_iff.mp got
  cases call with
  | done other =>
    cases ended
    exact ⟨topic, here⟩
  | looking | waiting | opening => cases ended

/-- The lock is held by the one call that makes the log open a producer, for a topic that has none. -/
structure Guarded (t : Traffic) : Prop where
  holds : ∀ {i : Nat} {topic : String}, t.acquisitions[i]? = some (topic, .opening) →
    t.system.pool.locked = true ∧ t.system.pool.producers.get? topic = none
  single : ∀ {i j : Nat} {topic other : String}, t.acquisitions[i]? = some (topic, .opening) →
    t.acquisitions[j]? = some (other, .opening) → i = j
  held : t.system.pool.locked = true →
    ∃ (i : Nat) (topic : String), t.acquisitions[i]? = some (topic, .opening)

/-- The pool keeps just what the log has opened for it, no topic twice, and its callers have nothing else. -/
structure Kept (settings : LogSettings) (sources : List String) (made : List Producer) (t : Traffic) : Prop where
  names : t.system.pool.settings = settings
  calls : t.acquisitions.map Prod.fst = sources.map settings.topicOf
  pool : ∀ topic p, t.system.pool.producers.get? topic = some p ↔ p ∈ made ∧ p.topic = topic
  topics : (made.map Producer.topic).Nodup
  handles : (made.map Producer.handle).Nodup
  counted : ∀ p ∈ made, p.handle < t.system.log.producersOpened
  results : ∀ {i : Nat} {topic : String} {p : Producer}, t.acquisitions[i]? = some (topic, .done (.ok p)) →
    t.system.pool.producers.get? topic = some p

section
variable {settings : LogSettings} {sources : List String} {made : List Producer} {t t' : Traffic} {i : Nat}
  {topic : String} {call : Acquisition} {answer : Answer}

theorem found_after {calls : List (String × Acquisition)} {j : Nat} {other : String} {c : Acquisition}
    (found : (calls.set i (topic, call))[j]? = some (other, c)) :
    (j = i ∧ other = topic ∧ c = call) ∨ (j ≠ i ∧ calls[j]? = some (other, c)) := by
  rcases getElem?_before_set found with ⟨same, now⟩ | before
  · cases now
    exact .inl ⟨same, rfl, rfl⟩
  · exact .inr before

theorem topics_after {calls : List (String × Acquisition)} {next : Acquisition}
    (here : calls[i]? = some (topic, call)) : (calls.set i (topic, next)).map Prod.fst = calls.map Prod.fst := by
  obtain ⟨bound, value⟩ := List.getElem?_eq_some_iff.mp here
  have same := @List.set_getElem_self _ (calls.map Prod.fst) i (by rwa [List.length_map])
  rw [List.getElem_map, value] at same
  rw [List.map_set]
  exact same

theorem nodup_concat {α : Type} (f : Producer → α) {p : Producer} (once : (made.map f).Nodup)
    (fresh : ∀ q ∈ made, f q ≠ f p) : ((made ++ [p]).map f).Nodup := by
  rw [List.map_append, List.nodup_append]
  refine ⟨once, List.pairwise_singleton _ _, ?_⟩
  intro x member y last
  obtain ⟨q, old, rfl⟩ := List.mem_map.mp member
  rw [List.mem_singleton.mp last]
  exact fresh q old

theorem Kept.going (k : Kept settings sources made t) {next : Acquisition}
    (here : t.acquisitions[i]? = some (topic, call)) (calls : t'.acquisitions = t.acquisitions.set i (topic, next))
    (names : t'.system.pool.settings = t.system.pool.settings)
    (same : t'.system.pool.producers = t.system.pool.producers) (log : t'.system.log = t.system.log)
    (result : ∀ p, next = .done (.ok p) → t.system.pool.producers.get? topic = some p) :
    Kept settings sources made t' where
  names := names.trans k.names
  calls := by rw [calls, topics_after here, k.calls]
  pool := by
    rw [same]
    exact k.pool
  topics := k.topics
  handles := k.handles
  counted := by
    rw [log]
    exact k.counted
  results := by
    intro j other p found
    rw [calls] at found
    rw [same]
    rcases found_after found with ⟨-, rfl, now⟩ | ⟨-, before⟩
    · exact result p now.symm
    · exact k.results before

theorem Kept.opened (k : Kept settings sources made t) {p : Producer} {log : Log}
    (here : t.acquisitions[i]? = some (topic, call)) (missing : t.system.pool.producers.get? topic = none)
    (opens : t.system.log.openProducer topic = .ok (p, log))
    (calls : t'.acquisitions = t.acquisitions.set i (topic, .done (.ok p)))
    (names : t'.system.pool.settings = t.system.pool.settings)
    (keeps : t'.system.pool.producers = t.system.pool.producers.insert topic p) (grown : t'.system.log = log) :
    Kept settings sources (made ++ [p]) t' := by
  obtain ⟨rfl, count⟩ := producersOpened_openProducer opens
  have fresh : ∀ q ∈ made, q.topic ≠ topic := by
    intro q member same
    have kept := (k.pool topic q).mpr ⟨member, same⟩
    rw [missing] at kept
    cases kept
  refine ⟨names.trans k.names, ?_, ?_, ?_, ?_, ?_, ?_⟩
  · rw [calls, topics_after here, k.calls]
  · intro other q
    rw [keeps, List.mem_append, List.mem_singleton]
    by_cases same : other = topic
    · subst same
      rw [Table.get?_insert_self]
      constructor
      · intro now
        cases now
        exact ⟨.inr rfl, rfl⟩
      · rintro ⟨old | new, here⟩
        · exact absurd here (fresh q old)
        · rw [new]
    · rw [Table.get?_insert_other same, k.pool]
      constructor
      · intro ⟨member, here⟩
        exact ⟨.inl member, here⟩
      · rintro ⟨old | new, here⟩
        · exact ⟨old, here⟩
        · rw [new] at here
          exact absurd here.symm same
  · exact nodup_concat _ k.topics fresh
  · refine nodup_concat _ k.handles ?_
    intro q old
    exact Nat.ne_of_lt (k.counted q old)
  · intro q member
    rw [grown, count]
    rcases List.mem_append.mp member with old | new
    · have := k.counted q old
      omega
    · rw [List.mem_singleton.mp new]
      exact Nat.lt_succ_self _
  · intro j other q found
    rw [calls] at found
    rw [keeps]
    rcases found_after found with ⟨-, rfl, now⟩ | ⟨-, before⟩
    · cases now
      exact Table.get?_insert_self ..
    · have kept := k.results before
      have different : other ≠ topic := by
        rintro rfl
        rw [missing] at kept
        cases kept
      rw [Table.get?_insert_other different]
      exact kept

theorem Guarded.outside (g : Guarded t) {next : Acquisition} (here : t.acquisitions[i]? = some (topic, call))
    (elsewhere : call ≠ .opening) (away : next ≠ .opening)
    (calls : t'.acquisitions = t.acquisitions.set i (topic, next)) (pool : t'.system.pool = t.system.pool) :
    Guarded t' := by
  have before : ∀ {j : Nat} {other : String}, t'.acquisitions[j]? = some (other, .opening) →
      t.acquisitions[j]? = some (other, .opening) := by
    intro j other found
    rw [calls] at found
    rcases found_after found with ⟨-, -, now⟩ | ⟨-, old⟩
    · exact absurd now.symm away
    · exact old
  refine ⟨?_, fun one two => g.single (before one) (before two), ?_⟩
  · intro j other found
    rw [pool]
    exact g.holds (before found)
  · rw [pool]
    intro locked
    obtain ⟨j, other, found⟩ := g.held locked
    refine ⟨j, other, ?_⟩
    rw [calls, List.getElem?_set_ne, found]
    rintro rfl
    rw [here] at found
    cases found
    exact elsewhere rfl

theorem Guarded.freed (g : Guarded t) {result : Except TransportError Producer}
    (here : t.acquisitions[i]? = some (topic, .opening))
    (calls : t'.acquisitions = t.acquisitions.set i (topic, .done result)) (free : t'.system.pool.locked = false) :
    Guarded t' := by
  have nobody : ∀ {j : Nat} {other : String}, t'.acquisitions[j]? ≠ some (other, .opening) := by
    intro j other found
    rw [calls] at found
    rcases found_after found with ⟨-, -, now⟩ | ⟨apart, old⟩
    · cases now
    · exact apart (g.single old here)
  refine ⟨fun found => absurd found nobody, fun found => absurd found nobody, ?_⟩
  intro locked
  rw [free] at locked
  cases locked

theorem Guarded.taken (g : Guarded t) (here : t.acquisitions[i]? = some (topic, call))
    (free : t.system.pool.locked = false) (missing : t'.system.pool.producers.get? topic = none)
    (calls : t'.acquisitions = t.acquisitions.set i (topic, .opening)) (locked : t'.system.pool.locked = true) :
    Guarded t' := by
  have only : ∀ {j : Nat} {other : String}, t'.acquisitions[j]? = some (other, .opening) →
      j = i ∧ other = topic := by
    intro j other found
    rw [calls] at found
    rcases found_after found with ⟨same, name, -⟩ | ⟨-, old⟩
    · exact ⟨same, name⟩
    · have busy := (g.holds old).1
      rw [free] at busy
      cases busy
  refine ⟨?_, fun one two => (only one).1.trans (only two).1.symm, ?_⟩
  · intro j other found
    obtain ⟨-, rfl⟩ := only found
    exact ⟨locked, missing⟩
  · intro _
    refine ⟨i, topic, ?_⟩
    rw [calls, List.getElem?_set_self', here]
    rfl

theorem ne_opening (outside : call = .looking ∨ call = .waiting) : call ≠ .opening := by
  rcases outside with rfl | rfl <;> simp

theorem opening_outside (here : t.acquisitions[i]? = some (topic, call)) (outside : call ≠ .opening) :
    t.opening? (.acquire i) = none := by
  cases call with
  | opening => exact absurd rfl outside
  | looking | waiting | done => simp only [opening?, here]

theorem opening_opened {p : Producer} {log : Log} (here : t.acquisitions[i]? = some (topic, .opening))
    (opens : t.system.log.openProducer topic = .ok (p, log)) : t.opening? (.acquire i) = some p := by
  simp only [opening?, here, opens, Except.toOption, Option.map_some]

theorem opening_refused {error : TransportError} (here : t.acquisitions[i]? = some (topic, .opening))
    (fails : t.system.log.openProducer topic = .error error) : t.opening? (.acquire i) = none := by
  simp only [opening?, here, fails, Except.toOption, Option.map_none]

theorem kept_acquire (k : Kept settings sources made t) (g : Guarded t)
    (stepped : t.perform (.acquire i) = some (answer, t')) :
    Kept settings sources (made ++ (t.opening? (.acquire i)).toList) t' ∧ Guarded t' := by
  obtain ⟨topic, call, here, step⟩ := perform_acquire stepped
  cases step with
  | blocked outside held =>
    have off := ne_opening outside
    rw [opening_outside here off, Option.toList_none, List.append_nil]
    constructor
    · exact k.going here rfl rfl rfl rfl (by rcases outside with rfl | rfl <;> simp)
    · exact g.outside here off off rfl rfl
  | missed free missing =>
    rw [opening_outside here (by simp), Option.toList_none, List.append_nil]
    constructor
    · exact k.going here rfl rfl rfl rfl (by simp)
    · exact g.outside here (by simp) (by simp) rfl rfl
  | entered free missing =>
    rw [opening_outside here (by simp), Option.toList_none, List.append_nil]
    constructor
    · exact k.going here rfl rfl rfl rfl (by simp)
    · exact g.taken here free missing rfl rfl
  | @shared _ p outside free kept =>
    have off := ne_opening outside
    rw [opening_outside here off, Option.toList_none, List.append_nil]
    constructor
    · refine k.going here rfl rfl rfl rfl ?_
      intro q same
      cases same
      exact kept
    · exact g.outside here off (by simp) rfl rfl
  | opened opens =>
    rw [opening_opened here opens]
    constructor
    · exact k.opened here (g.holds here).2 opens rfl rfl rfl rfl
    · exact g.freed here rfl rfl
  | refused fails =>
    rw [opening_refused here fails, Option.toList_none, List.append_nil]
    constructor
    · exact k.going here rfl rfl rfl rfl (by simp)
    · exact g.freed here rfl rfl

theorem kept_aside {action : Action} (k : Kept settings sources made t) (g : Guarded t) (a : Aside t action t') :
    Kept settings (sources ++ action.source?.toList) made t' ∧ Guarded t' := by
  have before : ∀ {j : Nat} {topic : String} {call : Acquisition}, t'.acquisitions[j]? = some (topic, call) →
      call ≠ .looking → t.acquisitions[j]? = some (topic, call) := by
    intro j topic call found begun
    rw [a.calls, List.getElem?_append] at found
    split at found
    · exact found
    · have asked := List.mem_of_getElem? found
      obtain ⟨source, -, new⟩ := List.mem_map.mp asked
      cases new
      exact absurd rfl begun
  constructor
  · refine ⟨by rw [a.pool, k.names], ?_, by rw [a.pool]; exact k.pool, k.topics, k.handles, ?_, ?_⟩
    · rw [a.calls, List.map_append, List.map_append, k.calls, List.map_map, ← k.names]
      rfl
    · intro p member
      exact Nat.lt_of_lt_of_le (k.counted p member) a.counted
    · intro j topic p found
      rw [a.pool]
      exact k.results (before found (by simp))
  · refine ⟨?_, fun one two => g.single (before one (by simp)) (before two (by simp)), ?_⟩
    · intro j topic found
      rw [a.pool]
      exact g.holds (before found (by simp))
    · rw [a.pool]
      intro locked
      obtain ⟨j, topic, found⟩ := g.held locked
      refine ⟨j, topic, ?_⟩
      rw [a.calls]
      exact getElem?_grown found _

theorem kept_perform {action : Action} (k : Kept settings sources made t) (g : Guarded t)
    (performed : t.perform action = some (answer, t')) :
    Kept settings (sources ++ action.source?.toList) (made ++ (t.opening? action).toList) t' ∧ Guarded t' := by
  cases action with
  | acquire i =>
    rw [show (Action.acquire i).source?.toList = [] from rfl, List.append_nil]
    exact kept_acquire k g performed
  | outage | clock | openProducer | ask | publish | openConsumer | receive | look =>
    have aside := kept_aside k g (perform_aside (by simp) performed)
    rw [← List.append_nil made] at aside
    exact aside

theorem kept_run {actions : List Action} (k : Kept settings sources made t) (g : Guarded t)
    (ran : run actions t = some t') :
    Kept settings (sources ++ asked actions) (made ++ openings actions t) t' ∧ Guarded t' := by
  induction actions generalizing sources made t with
  | nil =>
    cases ran
    simp only [asked, openings, List.filterMap_nil, List.append_nil]
    exact ⟨k, g⟩
  | cons action later ih =>
    obtain ⟨⟨answer, next⟩, performed, rest⟩ := Option.bind_eq_some_iff.mp ran
    obtain ⟨kept, guarded⟩ := kept_perform k g performed
    have after := ih kept guarded rest
    have calls : asked (action :: later) = action.source?.toList ++ asked later := by
      cases action <;> rfl
    simp only [openings, performed, calls, ← List.append_assoc]
    exact after

theorem counted_run {actions : List Action} (orders : ∀ topic, .openProducer topic ∉ actions)
    (ran : run actions t = some t') :
    t'.system.log.producersOpened = t.system.log.producersOpened + (openings actions t).length := by
  induction actions generalizing t with
  | nil =>
    cases ran
    rfl
  | cons action later ih =>
    obtain ⟨⟨answer, next⟩, performed, rest⟩ := Option.bind_eq_some_iff.mp ran
    have one : next.system.log.producersOpened =
        t.system.log.producersOpened + (t.opening? action).toList.length := by
      cases action with
      | acquire i =>
        obtain ⟨topic, call, here, step⟩ := perform_acquire performed
        cases step with
        | opened opens =>
          rw [opening_opened here opens]
          exact (producersOpened_openProducer opens).2
        | refused fails =>
          rw [opening_refused here fails]
          rfl
        | blocked outside | shared outside =>
          rw [opening_outside here (ne_opening outside)]
          rfl
        | missed | entered =>
          rw [opening_outside here (by simp)]
          rfl
      | openProducer topic => exact absurd List.mem_cons_self (orders topic)
      | outage | clock | ask | publish | openConsumer | receive | look =>
        exact (perform_aside (by simp) performed).unopened (by simp)
    have after : t'.system.log.producersOpened = next.system.log.producersOpened + (openings later next).length :=
      ih (fun topic member => orders topic (List.mem_cons_of_mem _ member)) rest
    simp only [openings, performed, List.length_append]
    omega

end

/-- What the pool has for a topic: the producer that it keeps, else what the log answers when it is asked for one. -/
def offers (t : Traffic) (topic : String) : Except TransportError Producer :=
  match t.system.pool.producers.get? topic with
  | some p => .ok p
  | none => (t.system.log.openProducer topic).map Prod.fst

def calling (t : Traffic) (topic : String) (call : Acquisition) (pool : Pool) (log : Log) : Traffic :=
  { t with system := { t.system with pool, log }, acquisitions := t.acquisitions ++ [(topic, call)] }

section
variable (t : Traffic) (topic : String) (call next : Acquisition) (pool pool' : Pool) (log log' : Log)

theorem moved_on : (t.acquisitions ++ [(topic, call)]).set t.acquisitions.length (topic, next) =
    t.acquisitions ++ [(topic, next)] := by
  rw [List.set_append_right _ _ (Nat.le_refl _), Nat.sub_self]
  rfl

theorem goOn_calling : (t.calling topic call pool log).goOn t.acquisitions.length topic next pool' log' =
    t.calling topic next pool' log' := by
  simp only [goOn, calling, moved_on]

theorem found_calling : (t.calling topic call pool log).acquisitions[t.acquisitions.length]? = some (topic, call) := by
  simp only [calling, List.getElem?_concat_length]

theorem result_calling {u : Traffic} {result : Except TransportError Producer}
    (calls : u.acquisitions = t.acquisitions ++ [(topic, .done result)]) :
    u.result? t.acquisitions.length = some result := by
  rw [result?, calls, List.getElem?_concat_length, Option.bind_some, Acquisition.result?]

end

theorem retried (t : Traffic) (free : t.system.pool.locked = false) (source : String) :
    ∃ steps t', run (.ask source :: List.replicate steps (.acquire t.acquisitions.length)) t = some t' ∧
      t'.result? t.acquisitions.length = some (t.offers (t.system.pool.topicOf source)) := by
  generalize named : t.system.pool.topicOf source = topic
  generalize reached : { t.system.pool with locked := true } = taken
  have asks : t.perform (.ask source) = some (.going, t.calling topic .looking t.system.pool t.system.log) := by
    rw [perform, named]
    rfl
  unfold offers
  cases kept : t.system.pool.producers.get? topic with
  | some p =>
    have shared := acquire_of_step (found_calling t topic .looking t.system.pool t.system.log)
      (.shared (.inl rfl) free kept)
    refine ⟨1, _, by simp only [run, List.replicate, asks, shared, Option.bind_some]; rfl, ?_⟩
    exact result_calling t topic (moved_on t topic ..)
  | none =>
    have missed : (t.calling topic .looking t.system.pool t.system.log).perform (.acquire t.acquisitions.length) =
        some (.going, t.calling topic .waiting t.system.pool t.system.log) := by
      rw [← goOn_calling t topic .looking .waiting t.system.pool t.system.pool t.system.log t.system.log]
      exact acquire_of_step (found_calling ..) (.missed free kept)
    have entered : (t.calling topic .waiting t.system.pool t.system.log).perform (.acquire t.acquisitions.length) =
        some (.going, t.calling topic .opening taken t.system.log) := by
      rw [← goOn_calling t topic .waiting .opening t.system.pool taken t.system.log t.system.log, ← reached]
      exact acquire_of_step (found_calling ..) (.entered free kept)
    have here := found_calling t topic .opening taken t.system.log
    cases opens : t.system.log.openProducer topic with
    | ok pair =>
      have opened := acquire_of_step here (.opened opens)
      refine ⟨3, _, by simp only [run, List.replicate, asks, missed, entered, opened, Option.bind_some]; rfl, ?_⟩
      exact result_calling t topic (moved_on t topic ..)
    | error error =>
      have refused := acquire_of_step here (.refused opens)
      refine ⟨3, _, by simp only [run, List.replicate, asks, missed, entered, refused, Option.bind_some]; rfl, ?_⟩
      exact result_calling t topic (moved_on t topic ..)

/-- The callers share what the log opens, by topic. -/
structure OneEach (settings : LogSettings) (sources : List String) (made : List Producer) (t : Traffic) : Prop where
  topics : (made.map Producer.topic).Nodup
  handles : (made.map Producer.handle).Nodup
  pool : ∀ topic p, t.system.pool.producers.get? topic = some p ↔ p ∈ made ∧ p.topic = topic
  given : ∀ {i : Nat} {source : String} {p : Producer}, sources[i]? = some source → t.result? i = some (.ok p) →
    p ∈ made ∧ p.topic = settings.topicOf source
  shared : ∀ {i j : Nat} {source other : String} {p q : Producer}, sources[i]? = some source →
    sources[j]? = some other → t.result? i = some (.ok p) → t.result? j = some (.ok q) →
    (p.handle = q.handle ↔ settings.topicPerSource = false ∨
      settings.sourceOrDefault (some source) = settings.sourceOrDefault (some other))

theorem Kept.oneEach {settings : LogSettings} {sources : List String} {made : List Producer} {t : Traffic}
    (k : Kept settings sources made t) : OneEach settings sources made t := by
  have given : ∀ {i : Nat} {source : String} {p : Producer}, sources[i]? = some source →
      t.result? i = some (.ok p) → p ∈ made ∧ p.topic = settings.topicOf source := by
    intro i source p asked got
    obtain ⟨topic, here⟩ := result_done got
    have named : (t.acquisitions.map Prod.fst)[i]? = some topic := by rw [List.getElem?_map, here, Option.map_some]
    rw [k.calls, List.getElem?_map, asked, Option.map_some] at named
    cases named
    exact (k.pool _ p).mp (k.results here)
  refine ⟨k.topics, k.handles, k.pool, given, ?_⟩
  intro i j source other p q asked asked' got got'
  obtain ⟨member, topic⟩ := given asked got
  obtain ⟨member', topic'⟩ := given asked' got'
  rw [← LogSettings.topicOf_eq_iff, ← topic, ← topic']
  constructor
  · intro same
    rw [List.inj_on_of_nodup_map k.handles member member' same]
  · intro same
    rw [List.inj_on_of_nodup_map k.topics member member' same]

/-- Whatever callers, failures and other work come between the steps of a call, the callers of a topic share the one
producer that the log ever opens for it. Each step of a call is one of few, of which one hands a failure to the caller
and leaves the producers of the pool as they are; and the next call makes the log try once more. -/
theorem one_producer_per_topic {settings : Settings} {executor : Executor} {actions : List Action} {t : Traffic}
    (ran : run actions (opened settings executor) = some t) :
    OneEach settings.log (asked actions) (openings actions (opened settings executor)) t ∧
      ((∀ topic, .openProducer topic ∉ actions) →
        t.system.log.producersOpened = (openings actions (opened settings executor)).length) ∧
      (∀ i topic call answer t', t.acquisitions[i]? = some (topic, call) →
        (t.perform (.acquire i) = some (answer, t') ↔ Step t i topic call answer t')) ∧
      (t.system.pool.locked = true ↔ ∃ (i : Nat) (topic : String), t.acquisitions[i]? = some (topic, .opening)) ∧
      (t.system.pool.locked = false → ∀ source, ∃ steps t',
        run (.ask source :: List.replicate steps (.acquire t.acquisitions.length)) t = some t' ∧
          t'.result? t.acquisitions.length = some (t.offers (settings.log.topicOf source))) := by
  have first : Kept settings.log [] [] (opened settings executor) := ⟨rfl, rfl,
    by simp [opened, System.ofSettings, Table.get?], List.nodup_nil, List.nodup_nil, by simp, by simp [opened]⟩
  have idle : Guarded (opened settings executor) :=
    ⟨by simp [opened], by simp [opened], by simp [opened, System.ofSettings]⟩
  obtain ⟨kept, guarded⟩ := kept_run first idle ran
  rw [List.nil_append, List.nil_append] at kept
  refine ⟨kept.oneEach, ?_, ?_, ?_, ?_⟩
  · intro orders
    have counted := counted_run orders ran
    rw [counted]
    exact Nat.zero_add _
  · intro i topic call answer t' here
    constructor
    · intro performed
      obtain ⟨_, _, found, step⟩ := perform_acquire performed
      rw [here] at found
      cases found
      exact step
    · exact acquire_of_step here
  · constructor
    · exact guarded.held
    · rintro ⟨i, topic, found⟩
      exact (guarded.holds found).1
  · intro free source
    rw [← kept.names]
    exact retried t free source

def racingCallers : List Action :=
  [.outage .producer true, .ask "a", .ask "a", .acquire 0, .acquire 1, .acquire 0, .acquire 1, .acquire 0,
    .outage .producer false, .acquire 1, .ask "", .acquire 1, .ask "default", .acquire 2, .acquire 2, .acquire 3,
    .acquire 2, .acquire 3]

theorem racing_callers_share : ∃ t, run racingCallers (opened {} .logging) = some t ∧
    t.result? 0 = some (.error (.connection "Mock producer failure for topic 'tx-a'")) ∧
    t.result? 1 = some (.ok ⟨"tx-a", 0⟩) ∧ t.result? 2 = some (.ok ⟨"tx-default", 1⟩) ∧
    t.result? 3 = some (.ok ⟨"tx-default", 1⟩) ∧ t.system.log.producersOpened = 2 ∧
    OneEach {} ["a", "a", "", "default"] [⟨"tx-a", 0⟩, ⟨"tx-default", 1⟩] t := by
  have ends : (run racingCallers (opened {} .logging)).map (fun t => ((List.range 4).map t.result?,
      t.system.log.producersOpened)) =
        some ([some (.error (.connection "Mock producer failure for topic 'tx-a'")), some (.ok ⟨"tx-a", 0⟩),
          some (.ok ⟨"tx-default", 1⟩), some (.ok ⟨"tx-default", 1⟩)], 2) := by
    decide +kernel
  have made : openings racingCallers (opened {} .logging) = [⟨"tx-a", 0⟩, ⟨"tx-default", 1⟩] := by
    decide +kernel
  obtain ⟨t, ran, state⟩ := Option.map_eq_some_iff.mp ends
  obtain ⟨results, count⟩ := Prod.mk.inj state
  simp only [List.range, List.range.loop, List.map_cons, List.map_nil, List.cons.injEq, and_true] at results
  obtain ⟨refused, again, third, fourth⟩ := results
  have each := (one_producer_per_topic ran).1
  rw [made] at each
  exact ⟨t, ran, refused, again, third, fourth, count, each⟩

end Traffic
end Journal
