import Journal.Proofs.Restore.Corruption

/-!
A system in which nothing can go wrong: no outage, no lock that is held, an executor that never fails, and only entries
that can be replayed. There every append above the last id of its topic succeeds, and no session is ever harmed.
-/
namespace Journal

theorem Write.replays {w : Write} (valid : w.op.Valid) (readable : w.operation.Readable) :
    w.entry.replay?.isSome = true := by
  obtain ⟨op, read⟩ := (Entry.decode_encode_ok (w.step.prepare_valid valid)).mpr readable
  have method : op.method = w.operation.method := by
    have known : Method.ofText w.operation.method.text = w.operation.method := by
      cases step : w.step <;> simp [operation, step, AppendStep.prepare, Method.text, Method.ofText]
    have decoded := Entry.decode_encode w.operation
    rw [show Entry.decode (Entry.encode w.operation) = .ok op from read, known] at decoded
    split at decoded
    · cases decoded
    · cases body : Entry.decodeBody (Entry.encode w.operation) with
      | error cause => simp [body, Except.map] at decoded
      | ok body' =>
        simp only [body, Except.map, Except.ok.injEq] at decoded
        rw [decoded]
  have saga : (Saga.forReplay op.method).isSome = true := by
    rw [method]
    cases step : w.step <;> simp [operation, step, AppendStep.prepare, Saga.forReplay]
  simp [Entry.replay?, entry, show Entry.decode (Entry.encode w.operation) = .ok op from read, saga]

namespace Session

structure Unharmed (s : Session) : Prop where
  error : s.error = none
  failed : s.tally.failed = 0

variable {settings : RestoreSettings} {now : Nat} {log : Log} {s s' : Session}

theorem Unharmed.proceed (unharmed : s.Unharmed) (now : Nat) (subscription : Subscription) (id : Ulid) :
    (s.proceed now subscription id).1.Unharmed := by
  unfold Session.proceed
  split <;> exact ⟨unharmed.error, unharmed.failed⟩

theorem Unharmed.stop (unharmed : s.Unharmed) : s.stop.1.Unharmed := by
  obtain ⟨_, _, marked⟩ := s.stop_flags
  rw [marked]
  exact ⟨unharmed.error, unharmed.failed⟩

theorem Unharmed.receipt {topic : String} {entries ground : List Entry} {parked : Bool} {result : Reported}
    (unharmed : s.Unharmed) (replayed : ∀ e ∈ ground, e.replay?.isSome = true)
    (receipt : s.Receipt topic entries ground settings now parked result) : result.1.Unharmed := by
  have due : ∀ {e : Entry}, (s.bounds.due ground)[s.tally.total]? = some e → e.replay?.isSome = true :=
    fun next => replayed _ (Bounds.mem_due.mp (List.mem_of_getElem? next)).1
  cases receipt with
  | idle | finished | submit => exact ⟨unharmed.error, unharmed.failed⟩
  | corrupt e cause next broken =>
    have read := due next
    simp [Entry.replay?, broken] at read
  | unknown subscription e op next decoded unknown =>
    have read := due next
    simp [Entry.replay?, decoded, unknown] at read

theorem step_logging {fresh : Ulid} {origin : Origin} {stopFirst : Bool} {executor : Executor} {events : List Event}
    (took : s.step settings now log fresh origin stopFirst .logging = some (s', executor, events)) :
    executor = .logging ∧ ∀ subscription e saga op, s.worker = .submitting subscription e saga op →
      s' = (s.count now subscription e saga op (.ok ⟨fresh.text, true, none⟩)).1 := by
  unfold step at took
  split at took
  · cases took
  · cases took
  · rename_i worker
    cases took
    exact ⟨rfl, by simp [worker]⟩
  · rename_i worker
    split at took <;> cases took <;> exact ⟨rfl, by simp [worker]⟩
  · rename_i worker
    obtain ⟨result, -, told⟩ := Option.map_eq_some_iff.mp took
    simp only at told
    split at told <;> cases told <;> exact ⟨rfl, by simp [worker]⟩
  · rename_i subscription e saga op worker
    cases took
    refine ⟨rfl, fun subscription' e' saga' op' same => ?_⟩
    rw [worker] at same
    cases same
    rfl

theorem step_unharmed {topic : String} {entries ground : List Entry} {counted : List Ulid}
    {handed : List (Saga × Operation)} {fresh : Ulid} {origin : Origin} {stopFirst : Bool} {executor : Executor}
    {events : List Event} (faithful : s.Faithful topic entries ground counted handed) (ascending : Ascending entries)
    (same : log.entries topic = entries) (replayed : ∀ e ∈ ground, e.replay?.isSome = true) (unharmed : s.Unharmed)
    (took : s.step settings now log fresh origin stopFirst .logging = some (s', executor, events)) : s'.Unharmed := by
  cases step_turn took with
  | begin | halt | listen | heed => exact ⟨unharmed.error, unharmed.failed⟩
  | receive subscription deadline parked result worker received =>
    exact unharmed.receipt replayed (faithful.receipt ascending same worker received)
  | count subscription e saga op outcome reported worker =>
    rw [(step_logging took).2 subscription e saga op worker]
    have counted : { s with tally := s.tally.restore }.Unharmed := ⟨unharmed.error, unharmed.failed⟩
    exact counted.proceed now subscription e.id

end Session

namespace Log

theorem outages_withTopic (log : Log) (topic : String) : (log.withTopic topic).outages = log.outages := by
  unfold withTopic
  split <;> rfl

theorem fails_of_none {log : Log} (working : log.outages = []) (outage : Outage) : log.fails outage = false := by
  simp [fails, working]

theorem publish_of_above {log : Log} {topic : String} {entry : Entry} (working : log.outages = [])
    (above : ∀ last, log.last? topic = some last → last.id < entry.id) :
    ∃ log', log.publish topic entry = .ok log' ∧ log'.outages = [] := by
  refine ⟨{ log with topics := log.topics.insert topic (log.entries topic ++ [entry]) }, ?_, working⟩
  unfold publish
  rw [fails_of_none working, if_neg (by decide)]
  cases found : log.last? topic with
  | none => rfl
  | some last =>
    have less := above last found
    rw [Ulid.lt_def] at less
    exact if_neg (Nat.not_le_of_lt less)

end Log

theorem Acquisition.alone_done {topic : String} {pool pool' : Pool} {log log' : Log} {call : Acquisition}
    (unlocked : pool.locked = false) (working : log.outages = []) (h : alone topic pool log = (call, pool', log')) :
    (∃ producer, call = .done (.ok producer)) ∧ pool'.locked = false ∧ log'.outages = [] := by
  cases found : pool.producers.get? topic with
  | some producer =>
    simp only [alone, step, unlocked, found] at h
    cases h
    exact ⟨⟨producer, rfl⟩, unlocked, working⟩
  | none =>
    have fails : log.fails .producer = false := Log.fails_of_none working .producer
    have looked : step topic .looking pool log = (.waiting, pool, log) := by simp [step, unlocked, found]
    have locked : step topic .waiting pool log = (.opening, { pool with locked := true }, log) := by
      simp [step, unlocked, found]
    have opened : log.openProducer topic = .ok (⟨topic, (log.withTopic topic).producersOpened⟩,
        { log.withTopic topic with producersOpened := (log.withTopic topic).producersOpened + 1 }) := by
      simp [Log.openProducer, fails]
    have taken : step topic .opening { pool with locked := true } log =
        (.done (.ok ⟨topic, (log.withTopic topic).producersOpened⟩),
          { pool with
            producers := pool.producers.insert topic ⟨topic, (log.withTopic topic).producersOpened⟩, locked := false },
          { log.withTopic topic with producersOpened := (log.withTopic topic).producersOpened + 1 }) := by
      simp [step, opened]
    simp only [alone, looked, locked, taken] at h
    cases h
    exact ⟨⟨_, rfl⟩, rfl, (Log.outages_withTopic log topic).trans working⟩

namespace System

/-- No outage, no lock that is held, and an executor that never fails. -/
structure Able (sys : System) : Prop where
  outages : sys.log.outages = []
  unlocked : sys.pool.locked = false
  executor : sys.executor = .logging

variable {sys sys' : System} {origin : Origin}

theorem Able.producer {source : String} {result : Except TransportError Producer} (able : sys.Able)
    (asked : sys.producer origin source = (result, sys')) : (∃ producer, result = .ok producer) ∧ sys'.Able := by
  rcases called : Acquisition.alone (sys.pool.topicOf source) sys.pool sys.log with ⟨call, pool, log⟩
  obtain ⟨⟨producer, rfl⟩, unlocked, outages⟩ := Acquisition.alone_done able.unlocked able.outages called
  simp only [System.producer, Pool.producer, called, Acquisition.result?] at asked
  cases asked
  exact ⟨⟨producer, rfl⟩, outages, unlocked, able.executor⟩

theorem Able.append (able : sys.Able) (keyed : sys.pool.Keyed) (origin : Origin) (step : AppendStep)
    (source : Option String) (op : Operation)
    (above : ∀ last, sys.log.last? (sys.pool.topicOf (sys.pool.sourceOrDefault source)) = some last → last.id < op.tx) :
    ∃ sys', sys.append origin step source op =
        (.ok ⟨step, sys.pool.topicOf (sys.pool.sourceOrDefault source), op.tx, (step.prepare op).position⟩, sys') ∧
      sys'.Able := by
  rcases asked : sys.producer origin (sys.pool.sourceOrDefault source) with ⟨given, sys₁⟩
  obtain ⟨⟨producer, rfl⟩, able₁⟩ := able.producer asked
  obtain ⟨-, rests, -, -, named⟩ := producer_spec asked
  have topic := named keyed producer rfl
  have id : (Entry.encode (step.prepare op)).id = op.tx := by
    rw [Entry.encode_id]
    cases step <;> rfl
  have higher : ∀ last, sys₁.log.last? producer.topic = some last → last.id < (Entry.encode (step.prepare op)).id := by
    rw [id, topic, Log.last?, rests.entries]
    exact above
  obtain ⟨log, stored, outages⟩ := Log.publish_of_above able₁.outages higher
  have published : sys₁.publish origin producer.topic (Entry.encode (step.prepare op)) =
      (.ok (), { sys₁ with log }.report origin
        [.appended producer.topic (Entry.encode (step.prepare op)).id (Entry.encode (step.prepare op)).position]) := by
    simp only [publish, stored]
  rcases written : sys.append origin step source op with ⟨result, sys'⟩
  obtain ⟨-, -, -, ⟨error, failed, -⟩ | ⟨topic', log', succeeded, -, -, named'⟩⟩ := append_spec written
  · simp only [System.append, asked, published] at written
    cases written
    cases failed
  · rw [← named' keyed, succeeded]
    refine ⟨sys', rfl, ?_⟩
    simp only [System.append, asked, published] at written
    cases written
    exact ⟨outages, able₁.unlocked, able₁.executor⟩

theorem Able.subscribe {topic : String} {start : Option Start} {result : Except TransportError Subscription}
    (able : sys.Able) (opened : sys.subscribe origin topic start = (result, sys')) :
    sys'.Able ∧ ∀ error, result ≠ .error error := by
  unfold System.subscribe at opened
  split at opened
  · cases opened
    exact ⟨⟨able.outages, able.unlocked, able.executor⟩, by simp⟩
  · have fails : sys.log.fails .consumer = false := Log.fails_of_none able.outages .consumer
    simp only [Log.openConsumer, fails] at opened
    cases opened
    exact ⟨⟨(Log.outages_withTopic _ _).trans able.outages, able.unlocked, able.executor⟩, by simp⟩

theorem Able.subscribeFrom {source : String} {start : Option Start} {result : Except TransportError Subscription}
    (able : sys.Able) (opened : sys.subscribeFrom origin source start = (result, sys')) :
    sys'.Able ∧ ∀ error, result ≠ .error error := by
  have announced : (sys.report origin [.openingConsumer source (sys.pool.topicOf source)]).Able :=
    ⟨able.outages, able.unlocked, able.executor⟩
  exact announced.subscribe opened

theorem Able.inquire {topic : String} {inquiry inquiry' : Inquiry} (able : sys.Able)
    (asked : sys.inquire topic inquiry = some (inquiry', sys')) : sys'.Able := by
  cases inquiry with
  | asking =>
    simp only [System.inquire] at asked
    split at asked
    · cases asked
      exact able
    · split at asked <;> cases asked <;> exact ⟨able.outages, able.unlocked, able.executor⟩
  | delayed deadline newest =>
    simp only [System.inquire] at asked
    split at asked <;> cases asked
    exact able
  | answered result => cases asked

theorem turn_able {call : StartCall} {phase : StartPhase} (able : sys.Able)
    (turn : CallTurn origin call sys phase sys') : sys'.Able := by
  cases turn with
  | read observed inquiry inquiry' sys' reading asked => exact able.inquire asked
  | spawn n s subscription sys' opening session opened =>
    obtain ⟨after, -⟩ := able.subscribeFrom opened
    exact ⟨after.outages, after.unlocked, after.executor⟩
  | refuse n s error sys' opening session failed =>
    obtain ⟨after, -⟩ := able.subscribeFrom failed
    exact ⟨after.outages, after.unlocked, after.executor⟩
  | _ => exact ⟨able.outages, able.unlocked, able.executor⟩

def Unharmed (sys : System) : Prop := ∀ s ∈ sys.sessions, s.Unharmed

theorem Unharmed.set {n : Nat} {s : Session} (unharmed : sys.Unharmed) (own : s.Unharmed) :
    (sys.setSession n s).Unharmed := by
  intro t member
  rcases List.mem_or_eq_of_mem_set member with before | rfl
  · exact unharmed t before
  · exact own

theorem Unharmed.own {n : Nat} {s : Session} (unharmed : sys.Unharmed) (session : sys.session? n = some s) : s.Unharmed :=
  unharmed s (List.mem_of_getElem? session)

theorem turn_unharmed {call : StartCall} {phase : StartPhase} (able : sys.Able) (unharmed : sys.Unharmed)
    (turn : CallTurn origin call sys phase sys') : sys'.Unharmed := by
  cases turn with
  | read observed inquiry inquiry' sys' reading asked =>
    intro s member
    rw [(inquire_spec asked).1.sessions] at member
    exact unharmed s member
  | create observed newest reading =>
    intro s member
    rcases List.mem_append.mp member with before | new
    · exact unharmed s before
    · rw [List.mem_singleton.mp new]
      exact ⟨rfl, rfl⟩
  | skip n s starting session =>
    have own := unharmed.own session
    exact unharmed.set ⟨own.error, own.failed⟩
  | claim n s starting session =>
    have own := unharmed.own session
    exact unharmed.set ⟨own.error, own.failed⟩
  | spawn n s subscription sys' opening session opened =>
    have own := unharmed.own session
    have before : sys'.Unharmed := by
      intro t member
      rw [(subscribeFrom_spec opened).1.sessions] at member
      exact unharmed t member
    exact before.set ⟨own.error, own.failed⟩
  | refuse n s error sys' opening session failed => exact absurd rfl ((able.subscribeFrom failed).2 error)
  | _ => exact unharmed

end System

namespace Chronicle

/-- Nothing has gone wrong, and nothing can. -/
structure Untroubled (c : Chronicle) : Prop where
  plain : Plain c
  recorded : Recorded c
  able : c.system.Able
  unharmed : c.system.Unharmed
  replayed : ∀ w ∈ c.notes.accepted, w.entry.replay?.isSome = true
  crew : ∀ task ∈ c.system.tasks, ∃ n, task = .worker n

variable {c c' : Chronicle}

theorem untroubled_opened (settings : Settings) : Untroubled (opened settings .logging {}) where
  plain := plain_opened settings .logging
  recorded := ⟨keyed_opened settings .logging {}, fun _ => rfl⟩
  able := ⟨rfl, rfl, rfl⟩
  unharmed := List.forall_mem_nil _
  replayed := List.forall_mem_nil _
  crew := List.forall_mem_nil _

theorem Untroubled.on_topic (untroubled : Untroubled c) (topic : String) :
    ∀ e ∈ c.system.log.entries topic, e.replay?.isSome = true := by
  intro e member
  rw [untroubled.recorded.entries] at member
  obtain ⟨w, written, rfl⟩ := List.mem_map.mp member
  exact untroubled.replayed w (List.mem_filter.mp written).1

def atTime (time : Nat) (c : Chronicle) : Chronicle := { c with system := { c.system with now := time } }

theorem Untroubled.atTime (untroubled : Untroubled c) (time : Nat) : (c.atTime time).Untroubled where
  plain :=
    { sound := untroubled.plain.sound
      script := untroubled.plain.script
      ordered := untroubled.plain.ordered
      attributed := untroubled.plain.attributed
      sighting := untroubled.plain.sighting
      trusts := untroubled.plain.trusts
      fresh := untroubled.plain.fresh }
  recorded := ⟨untroubled.recorded.keyed, untroubled.recorded.entries⟩
  able := ⟨untroubled.able.outages, untroubled.able.unlocked, untroubled.able.executor⟩
  unharmed := untroubled.unharmed
  replayed := untroubled.replayed
  crew := untroubled.crew

def accept (w : Write) (sys : System) (c : Chronicle) : Chronicle :=
  { c with
    system := sys
    notes := { c.notes.watch c.system sys with accepted := c.notes.accepted ++ [w] } }

theorem untroubled_append {w : Write} (untroubled : Untroubled c) (replays : w.entry.replay?.isSome = true)
    (above : ∀ last, c.system.log.last? (w.topic c.system.pool.settings) = some last → last.id < w.op.tx) :
    ∃ sys, c.system.append .caller w.step w.source w.op =
        (.ok ⟨w.step, w.topic c.system.pool.settings, w.op.tx, w.operation.position⟩, sys) ∧
      sys.sessions = c.system.sessions ∧ c.apply (.append w.step w.source w.op) = some (c.accept w sys) ∧
      Untroubled (c.accept w sys) := by
  obtain ⟨sys, written, able⟩ := untroubled.able.append untroubled.recorded.keyed .caller w.step w.source w.op above
  have keeps := (System.append_spec written).1
  have made : c.apply (.append w.step w.source w.op) = some (c.accept w sys) := by
    simp only [apply, written]
    rfl
  refine ⟨sys, written, keeps.sessions, made, ?_⟩
  constructor
  case plain => exact plain_step untroubled.plain made
  case recorded => exact recorded_step untroubled.recorded made (by simp)
  case able => exact able
  case unharmed =>
    intro s member
    exact untroubled.unharmed s (keeps.sessions ▸ member)
  case replayed =>
    intro v member
    rcases List.mem_append.mp member with before | new
    · exact untroubled.replayed v before
    · rw [List.mem_singleton.mp new]
      exact replays
  case crew =>
    intro task member
    exact untroubled.crew task (keeps.tasks ▸ member)

theorem untroubled_call {source : Option String} {bounds : Bounds} (untroubled : Untroubled c)
    (made : c.apply (.call source bounds) = some c') : Untroubled c' := by
  have plain := plain_step untroubled.plain made
  have recorded := recorded_step untroubled.recorded made (by simp)
  cases made
  exact ⟨plain, recorded, untroubled.able, untroubled.unharmed, untroubled.replayed, untroubled.crew⟩

theorem untroubled_stop {source : Option String} (untroubled : Untroubled c)
    (made : c.apply (.stopSource source) = some c') : Untroubled c' := by
  have plain := plain_step untroubled.plain made
  have recorded := recorded_step untroubled.recorded made (by simp)
  cases made
  cases slot : c.system.slot? source with
  | none =>
    simp only [System.stop, slot] at plain recorded ⊢
    exact ⟨plain, recorded, untroubled.able, untroubled.unharmed, untroubled.replayed, untroubled.crew⟩
  | some n =>
    simp only [System.stop, slot, System.stopSession] at plain recorded ⊢
    cases session : c.system.session? n with
    | none =>
      simp only [System.withSession, session] at plain recorded ⊢
      exact ⟨plain, recorded, untroubled.able, untroubled.unharmed, untroubled.replayed, untroubled.crew⟩
    | some s =>
      rw [System.withSession_eq session] at plain recorded ⊢
      exact ⟨plain, recorded, ⟨untroubled.able.outages, untroubled.able.unlocked, untroubled.able.executor⟩,
        untroubled.unharmed.set (untroubled.unharmed.own session).stop, untroubled.replayed, untroubled.crew⟩

theorem untroubled_advance {i : Nat} (untroubled : Untroubled c) (made : c.apply (.advance i) = some c') :
    Untroubled c' := by
  have plain := plain_step untroubled.plain made
  have recorded := recorded_step untroubled.recorded made (by simp)
  have accepted := apply_accepted made (by simp)
  obtain ⟨call, -, made⟩ := Option.bind_eq_some_iff.mp made
  obtain ⟨⟨call', sys⟩, taken, made⟩ := Option.bind_eq_some_iff.mp made
  cases made
  have turn := (System.startStep_turn taken).1
  obtain ⟨more, tasks, workers⟩ := turn_tasks turn
  constructor
  case plain => exact plain
  case recorded => exact recorded
  case able => exact System.turn_able untroubled.able turn
  case unharmed => exact System.turn_unharmed untroubled.able untroubled.unharmed turn
  case replayed => exact accepted ▸ untroubled.replayed
  case crew =>
    intro task member
    rw [tasks] at member
    rcases List.mem_append.mp member with before | new
    · exact untroubled.crew task before
    · exact workers task new

theorem untroubled_run {stopFirst : Bool} {k : Nat} (untroubled : Untroubled c)
    (made : c.apply (.run stopFirst k) = some c') : Untroubled c' := by
  have plain := plain_step untroubled.plain made
  have recorded := recorded_step untroubled.recorded made (by simp)
  have accepted := apply_accepted made (by simp)
  obtain ⟨sys, stepped, made⟩ := Option.bind_eq_some_iff.mp made
  cases found : c.system.tasks[k]? with
  | none => simp [System.stepTask, found] at stepped
  | some task =>
    obtain ⟨n, rfl⟩ := untroubled.crew task (List.mem_of_getElem? found)
    have same : c' = c.note sys := by
      simp only [found] at made
      cases made
      rfl
    subst same
    simp only [System.stepTask, found] at stepped
    obtain ⟨s, session, stepped⟩ := Option.bind_eq_some_iff.mp stepped
    obtain ⟨⟨s', executor, events⟩, took, stepped⟩ := Option.bind_eq_some_iff.mp stepped
    cases stepped
    rw [untroubled.able.executor] at took
    have trusts := untroubled.plain.trusts n s session
    have onGround : ∀ e ∈ c.notes.ground n, e.replay?.isSome = true :=
      fun e member => untroubled.on_topic _ e (trusts.grown.subset member)
    have own := Session.step_unharmed trusts (untroubled.plain.ordered _) rfl onGround (untroubled.unharmed.own session) took
    constructor
    case plain => exact plain
    case recorded => exact recorded
    case able => exact ⟨untroubled.able.outages, untroubled.able.unlocked, (Session.step_logging took).1⟩
    case unharmed => exact untroubled.unharmed.set own
    case replayed => exact accepted ▸ untroubled.replayed
    case crew => exact untroubled.crew

theorem Untroubled.ended {n : Nat} {s : Session} (untroubled : Untroubled c) (session : c.system.session? n = some s)
    (done : s.done = true) : s.error = none ∧ s.tally.failed = 0 ∧ s.tally.ignored = 0 ∧
      (s.stopped = false → s.tally.restored = (c.dueTo n s).length) := by
  have trusts := untroubled.plain.trusts n s session
  have own := untroubled.unharmed.own session
  have ignored : s.tally.ignored = 0 := by
    rw [trusts.ignored, List.countP_eq_zero]
    intro e member
    have due := Bounds.mem_due.mp (List.mem_of_mem_take member)
    have read := untroubled.on_topic _ e (trusts.grown.subset due.1)
    rw [Option.isNone_iff_eq_none]
    rintro none
    simp [none] at read
  refine ⟨own.error, own.failed, ignored, fun going => ?_⟩
  have whole : s.tally.total = (c.dueTo n s).length := trusts.whole done own.error going
  have failed := own.failed
  unfold Tally.total at whole
  omega

end Chronicle
end Journal
