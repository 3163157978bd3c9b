import Journal.Proofs.Restore.Due
import Journal.Proofs.Restore.Turn

/-!
The invariant of one session: what it has counted is the front of what is due to it, what it has handed over is the
replayed part of that front with the entry in flight, and its consumer stands right behind. Every turn of its worker
keeps the invariant, and so does a topic that grows.
-/
namespace Journal

/-- What the replay of an entry hands over, if the entry is replayed at all. -/
def Entry.replay? (e : Entry) : Option (Saga × Operation) :=
  match e.decode with
  | .error _ => none
  | .ok op => (Saga.forReplay op.method).map fun saga => (saga, op)

theorem Entry.replay?_eq_some {e : Entry} {saga : Saga} {op : Operation} (replay : e.replay? = some (saga, op)) :
    e.decode = .ok op ∧ Saga.forReplay op.method = some saga := by
  unfold replay? at replay
  cases decoded : e.decode with
  | error error => simp [decoded] at replay
  | ok op' =>
    rw [decoded] at replay
    obtain ⟨saga', forReplay, same⟩ := Option.map_eq_some_iff.mp replay
    cases same
    exact ⟨rfl, forReplay⟩

/-- A consumer of the topic has passed `k` of the entries that the start admits. -/
def Subscription.Reads (topic : String) (start : Option Start) (entries : List Entry) (k : Nat)
    (subscription : Subscription) : Prop :=
  ∃ c : Consumer, subscription = .topic c ∧ c.topic = topic ∧ c.Tracks start entries ∧
    c.rest start entries = (Start.select start entries).drop k

theorem Subscription.Reads.grown {topic : String} {start : Option Start} {entries later : List Entry} {k : Nat}
    {subscription : Subscription} (reads : subscription.Reads topic start entries k)
    (passed : k ≤ (Start.select start entries).length) (grown : entries <+: later) :
    subscription.Reads topic start later k := by
  obtain ⟨c, rfl, name, tracks, left⟩ := reads
  refine ⟨c, rfl, name, tracks.grown grown, ?_⟩
  obtain ⟨more, rfl⟩ := grown
  rw [Consumer.rest_grown tracks, left]
  simp only [Start.select] at passed ⊢
  rw [List.filter_append, List.drop_append_of_le_length passed]

namespace Session

theorem proceed_quiet (now : Nat) (subscription : Subscription) (id : Ulid) (s : Session) :
    (s.proceed now subscription id).2.filterMap Event.counted? = [] ∧
      (s.proceed now subscription id).1.worker.inFlight = [] := by
  unfold proceed
  split <;> exact ⟨rfl, rfl⟩

theorem ignore_tells (policy : UnrecognizedPolicy) (now : Nat) (subscription : Subscription) (e : Entry)
    (method : Method) (s : Session) :
    (s.ignore policy now subscription e method).2.filterMap Event.counted? = [e.id] ∧
      (s.ignore policy now subscription e method).1.worker.inFlight = [] := by
  cases policy with
  | ignore =>
    obtain ⟨quiet, calm⟩ := proceed_quiet now subscription e.id { s with tally := s.tally.ignore }
    exact ⟨congrArg (e.id :: ·) quiet, calm⟩
  | abort => exact ⟨rfl, rfl⟩

def settled (ground : List Entry) (s : Session) : List (Saga × Operation) :=
  ((s.bounds.due ground).take s.tally.total).filterMap Entry.replay?

def Stands (topic : String) (entries ground : List Entry) (s : Session) : Worker → Prop
  | .unborn => s.tally.total = 0
  | .spawned subscription | .ready subscription | .receiving subscription _ _ =>
    subscription.Reads topic s.bounds.start entries s.tally.total
  | .submitting subscription entry saga op =>
    subscription.Reads topic s.bounds.start entries (s.tally.total + 1) ∧
      (s.bounds.due ground)[s.tally.total]? = some entry ∧ entry.replay? = some (saga, op)
  | .ended => True

/-- What holds of a session wherever its worker stands. -/
structure Ledger (entries ground : List Entry) (counted : List Ulid) (s : Session) : Prop where
  grown : ground <+: entries
  ceiling : s.ceiling = ground.getLast?.map Entry.id
  permit : s.stopPermit = true → s.stopped = true
  inside : s.tally.total ≤ (s.bounds.due ground).length
  counted : counted = ((s.bounds.due ground).take s.tally.total).map Entry.id
  decoded : ∀ e ∈ (s.bounds.due ground).take s.tally.total, ∃ op, e.decode = .ok op
  ignored : s.tally.ignored = ((s.bounds.due ground).take s.tally.total).countP fun e => e.replay?.isNone
  unharmed : s.done = false → s.error = none
  corrupt : ∀ cause, s.error = some (.replay (.codec cause)) →
    ∃ e, (s.bounds.due ground)[s.tally.total]? = some e ∧ e.decode = .error cause
  whole : s.done = true → s.error = none → s.stopped = false → s.tally.total = (s.bounds.due ground).length

structure Faithful (topic : String) (entries ground : List Entry) (counted : List Ulid)
    (handed : List (Saga × Operation)) (s : Session) : Prop extends Ledger entries ground counted s where
  handed : handed = s.settled ground ++ s.worker.inFlight
  stands : s.Stands topic entries ground s.worker
  live : s.worker.isAlive = true → s.done = false

structure Settled (entries ground : List Entry) (counted : List Ulid) (handed : List (Saga × Operation))
    (s : Session) : Prop extends Ledger entries ground counted s where
  handed : handed = s.settled ground
  going : s.done = false

section

variable {topic : String} {entries ground later : List Entry} {counted : List Ulid}
  {handed : List (Saga × Operation)} {s : Session}

theorem Ledger.passed (ledger : Ledger entries ground counted s) (ascending : Ascending entries) :
    s.tally.total ≤ (Start.select s.bounds.start entries).length :=
  Nat.le_trans ledger.inside (Bounds.due_prefix ascending ledger.grown).length_le

theorem Faithful.topic_grown (faithful : Faithful topic entries ground counted handed s) (ascending : Ascending entries)
    (grown : entries <+: later) : Faithful topic later ground counted handed s where
  toLedger := { faithful.toLedger with grown := faithful.grown.trans grown }
  handed := faithful.handed
  stands := by
    have passed := faithful.passed ascending
    have stands := faithful.stands
    cases worker : s.worker with
    | unborn | ended =>
      rw [worker] at stands
      exact stands
    | spawned | ready | receiving =>
      rw [worker] at stands
      exact stands.grown passed grown
    | submitting subscription entry saga op =>
      rw [worker] at stands
      obtain ⟨reads, next, replay⟩ := stands
      refine ⟨reads.grown ?_ grown, next, replay⟩
      exact Nat.le_trans (List.getElem?_eq_some_iff.mp next).1 (Bounds.due_prefix ascending faithful.grown).length_le
  live := faithful.live

theorem Faithful.dead (faithful : Faithful topic entries ground counted handed s) (finished : s.done = true) :
    s.worker.isAlive = false := by
  cases alive : s.worker.isAlive with
  | false => rfl
  | true => simp [faithful.live alive] at finished

theorem Faithful.settled (faithful : Faithful topic entries ground counted handed s) (live : s.worker.isAlive = true)
    (calm : s.worker.inFlight = []) : Settled entries ground counted handed s where
  toLedger := faithful.toLedger
  handed := by rw [faithful.handed, calm, List.append_nil]
  going := faithful.live live

theorem Faithful.calm {s' : Session} {events : List Event} (faithful : Faithful topic entries ground counted handed s')
    (quiet : events.filterMap Event.counted? = []) (calm : s'.worker.inFlight = []) :
    Faithful topic entries ground (counted ++ events.filterMap Event.counted?) (handed ++ s'.worker.inFlight) s' := by
  rw [quiet, calm, List.append_nil, List.append_nil]
  exact faithful

theorem Ledger.count (ledger : Ledger entries ground counted s) (going : s.done = false) {e : Entry} {tally : Tally}
    (next : (s.bounds.due ground)[s.tally.total]? = some e) (more : tally.total = s.tally.total + 1)
    (read : ∃ op, e.decode = .ok op)
    (ignores : tally.ignored = s.tally.ignored + if e.replay?.isNone then 1 else 0) :
    Ledger entries ground (counted ++ [e.id]) { s with tally } where
  grown := ledger.grown
  ceiling := ledger.ceiling
  permit := ledger.permit
  inside := more ▸ (List.getElem?_eq_some_iff.mp next).1
  counted := by
    rw [more, List.take_add_one, next, ledger.counted]
    simp
  decoded := by
    intro d member
    rw [more, List.take_add_one, next] at member
    rcases List.mem_append.mp member with before | last
    · exact ledger.decoded d before
    · rw [List.mem_singleton.mp last]
      exact read
  ignored := by
    rw [more, List.take_add_one, next, List.countP_append, ← ledger.ignored, ignores]
    simp
  unharmed := ledger.unharmed
  corrupt := by
    intro cause same
    rw [show s.error = none from ledger.unharmed going] at same
    cases same
  whole := by simp [going]

theorem settled_count {e : Entry} {tally : Tally} (next : (s.bounds.due ground)[s.tally.total]? = some e)
    (more : tally.total = s.tally.total + 1) :
    Session.settled ground { s with tally } = s.settled ground ++ e.replay?.toList := by
  simp only [Session.settled, more, List.take_add_one, next, List.filterMap_append, Option.toList_some]
  cases replay : e.replay? <;> simp [replay]

inductive Receipt (topic : String) (entries ground : List Entry) (settings : RestoreSettings) (now : Nat) (parked : Bool)
    (s : Session) : Reported → Prop where
  | idle (worker : Worker) (stands : s.Stands topic entries ground worker) (calm : worker.inFlight = [])
      (passed : parked = false → (Start.select s.bounds.start entries).length ≤ s.tally.total) :
      Receipt topic entries ground settings now parked s ({ s with worker }, [])
  | finished (reason : Finish) (whole : s.tally.total = (s.bounds.due ground).length) :
      Receipt topic entries ground settings now parked s (s.complete now reason)
  | corrupt (e : Entry) (cause : CodecError) (next : (s.bounds.due ground)[s.tally.total]? = some e)
      (broken : e.decode = .error cause) :
      Receipt topic entries ground settings now parked s (s.abort now (.codec cause))
  | unknown (subscription : Subscription) (e : Entry) (op : Operation)
      (next : (s.bounds.due ground)[s.tally.total]? = some e) (decoded : e.decode = .ok op)
      (unknown : Saga.forReplay op.method = none)
      (reads : subscription.Reads topic s.bounds.start entries (s.tally.total + 1)) :
      Receipt topic entries ground settings now parked s (s.ignore settings.unrecognized now subscription e op.method)
  | submit (subscription : Subscription) (e : Entry) (saga : Saga) (op : Operation)
      (stands : s.Stands topic entries ground (.submitting subscription e saga op)) :
      Receipt topic entries ground settings now parked s ({ s with worker := .submitting subscription e saga op }, [])

namespace Settled

theorem rest (settled : Settled entries ground counted handed s) (worker : Worker)
    (stands : s.Stands topic entries ground worker) (calm : worker.inFlight = []) :
    Faithful topic entries ground counted handed { s with worker } where
  toLedger := { settled.toLedger with }
  handed := by rw [calm, List.append_nil]; exact settled.handed
  stands := by cases worker <;> exact stands
  live := fun _ => settled.going

theorem submit (settled : Settled entries ground counted handed s) {subscription : Subscription} {e : Entry} {saga : Saga}
    {op : Operation} (stands : s.Stands topic entries ground (.submitting subscription e saga op)) :
    Faithful topic entries ground counted (handed ++ [(saga, op)])
      { s with worker := .submitting subscription e saga op } where
  toLedger := { settled.toLedger with }
  handed := by rw [settled.handed]; rfl
  stands := stands
  live := fun _ => settled.going

theorem complete (settled : Settled entries ground counted handed s) (now : Nat) (reason : Finish)
    (whole : s.stopped = true ∨ s.tally.total = (s.bounds.due ground).length) :
    Faithful topic entries ground counted handed (s.complete now reason).1 where
  toLedger := { settled.toLedger with
    unharmed := fun going => by cases going
    whole := by
      intro _ _ stopped
      rcases whole with asked | whole
      · rw [show (s.complete now reason).1.stopped = s.stopped from rfl, asked] at stopped
        cases stopped
      · exact whole }
  handed := by rw [settled.handed]; exact (List.append_nil _).symm
  stands := trivial
  live := fun alive => by cases alive

theorem abort (settled : Settled entries ground counted handed s) (now : Nat) (error : RestoreError)
    (blame : ∀ cause, error = .codec cause →
      ∃ e, (s.bounds.due ground)[s.tally.total]? = some e ∧ e.decode = .error cause) :
    Faithful topic entries ground counted handed (s.abort now error).1 where
  toLedger := { settled.toLedger with
    unharmed := fun going => by cases going
    corrupt := by
      intro cause same
      simp only [Session.abort, finish, settled.unharmed settled.going, Option.none_or, Option.some.injEq,
        SessionError.replay.injEq] at same
      exact blame cause same
    whole := by
      intro _ none
      simp [Session.abort, finish, settled.unharmed settled.going] at none }
  handed := by rw [settled.handed]; exact (List.append_nil _).symm
  stands := trivial
  live := fun alive => by cases alive

theorem proceed (settled : Settled entries ground counted handed s) (ascending : Ascending entries) (now : Nat)
    {subscription : Subscription} {e : Entry} {k : Nat} (last : s.tally.total = k + 1)
    (passed : (s.bounds.due ground)[k]? = some e)
    (reads : subscription.Reads topic s.bounds.start entries s.tally.total) :
    Faithful topic entries ground counted handed (s.proceed now subscription e.id).1 := by
  unfold Session.proceed
  split
  · rename_i reached
    refine settled.complete now .reachedCeiling (.inr (Nat.le_antisymm settled.inside (Nat.le_of_not_lt fun short => ?_)))
    have earlier : Ascending ground := ascending.sublist settled.grown.sublist
    have sorted : Ascending (s.bounds.due ground) := earlier.sublist List.filter_sublist
    have more : k + 1 < (s.bounds.due ground).length := by omega
    have inside : k < (s.bounds.due ground).length := by omega
    have here : (s.bounds.due ground)[k] = e := (List.getElem?_eq_some_iff.mp passed).2
    have above := List.pairwise_iff_getElem.mp sorted k (k + 1) inside more (Nat.lt_succ_self k)
    have ceiling := settled.ceiling
    rw [reached] at ceiling
    obtain ⟨final, ends, same⟩ := Option.map_eq_some_iff.mp ceiling.symm
    have low := earlier.le_last (Bounds.mem_due.mp (List.getElem_mem more)).1 ends
    rw [same] at low
    rw [here] at above
    exact absurd above (Nat.not_lt_of_le low)
  · exact settled.rest (.ready subscription) reads rfl

theorem ignore (settled : Settled entries ground counted handed s) (ascending : Ascending entries)
    (policy : UnrecognizedPolicy) (now : Nat) {subscription : Subscription} {e : Entry} (method : Method)
    (next : (s.bounds.due ground)[s.tally.total]? = some e) (read : ∃ op, e.decode = .ok op) (silent : e.replay? = none)
    (reads : subscription.Reads topic s.bounds.start entries (s.tally.total + 1)) :
    Faithful topic entries ground (counted ++ [e.id]) handed (s.ignore policy now subscription e method).1 := by
  have more : s.tally.ignore.total = s.tally.total + 1 := s.tally.total_ignore
  have ignored : Settled entries ground (counted ++ [e.id]) handed { s with tally := s.tally.ignore } := by
    refine ⟨settled.toLedger.count settled.going next more read (by simp [silent, Tally.ignore]), ?_, settled.going⟩
    rw [settled_count next more, silent, settled.handed]
    exact (List.append_nil _).symm
  cases policy with
  | ignore => exact ignored.proceed ascending now more next (more ▸ reads)
  | abort => exact ignored.abort now _ fun cause corrupt => by cases corrupt

theorem all_due (settled : Settled entries ground counted handed s) (ascending : Ascending entries) {e : Entry}
    (given : (Start.select s.bounds.start entries)[s.tally.total]? = some e) (past : e ∉ s.bounds.due ground) :
    s.tally.total = (s.bounds.due ground).length :=
  Nat.le_antisymm settled.inside
    (Nat.le_of_not_lt fun short => past ((Bounds.due_iff_lt ascending settled.grown given).mpr short))

theorem deliver (settled : Settled entries ground counted handed s) (ascending : Ascending entries)
    (settings : RestoreSettings) (now : Nat) {subscription : Subscription} {e : Entry} {parked : Bool}
    (given : (Start.select s.bounds.start entries)[s.tally.total]? = some e)
    (reads : subscription.Reads topic s.bounds.start entries (s.tally.total + 1)) :
    s.Receipt topic entries ground settings now parked (s.deliver settings.unrecognized now subscription e) := by
  obtain ⟨inside, admitted⟩ := List.mem_filter.mp (List.mem_of_getElem? given)
  unfold Session.deliver
  by_cases past : s.bounds.isPastEnd e.id = true
  · rw [if_pos past]
    refine .finished .reachedEnd (settled.all_due ascending given fun due => ?_)
    rw [(Bounds.mem_due.mp due).2.2] at past
    cases past
  · rw [if_neg past]
    by_cases above : s.isPastCeiling e.id = true
    · rw [if_pos above]
      refine .finished .reachedCeiling (settled.all_due ascending given fun due => ?_)
      rw [(mem_ground_of_not_past ascending settled.grown settled.ceiling inside).mpr (Bounds.mem_due.mp due).1] at above
      cases above
    · rw [if_neg above]
      have onGround := (mem_ground_of_not_past ascending settled.grown settled.ceiling inside).mp (by simpa using above)
      have due : e ∈ s.bounds.due ground := Bounds.mem_due.mpr ⟨onGround, admitted, by simpa using past⟩
      have next := Bounds.due_getElem? ascending settled.grown given due
      cases decoded : e.decode with
      | error cause => exact .corrupt e cause next decoded
      | ok op =>
        cases replay : Saga.forReplay op.method with
        | none =>
          simp only [replay]
          exact .unknown subscription e op next decoded replay reads
        | some saga =>
          simp only [replay]
          exact .submit subscription e saga op ⟨reads, next, by simp [Entry.replay?, decoded, replay]⟩

theorem receipt (settled : Settled entries ground counted handed s) (ascending : Ascending entries)
    {settings : RestoreSettings} {now : Nat} {parked : Bool} {result : Reported}
    (receipt : s.Receipt topic entries ground settings now parked result) :
    Faithful topic entries ground (counted ++ result.2.filterMap Event.counted?)
      (handed ++ result.1.worker.inFlight) result.1 := by
  cases receipt with
  | idle worker stands calm => exact (settled.rest worker stands calm).calm rfl calm
  | finished reason whole => exact (settled.complete now reason (.inr whole)).calm rfl rfl
  | corrupt e cause next broken =>
    exact (settled.abort now (.codec cause) fun _ same => by cases same; exact ⟨e, next, broken⟩).calm rfl rfl
  | unknown subscription e op next decoded unknown reads =>
    obtain ⟨told, calm⟩ := s.ignore_tells settings.unrecognized now subscription e op.method
    have silent : e.replay? = none := by simp [Entry.replay?, decoded, unknown]
    rw [told, calm, List.append_nil]
    exact settled.ignore ascending _ now op.method next ⟨op, decoded⟩ silent reads
  | submit subscription e saga op stands =>
    rw [List.filterMap_nil, List.append_nil]
    exact settled.submit stands

end Settled

theorem Faithful.receipt (faithful : Faithful topic entries ground counted handed s) (ascending : Ascending entries)
    {settings : RestoreSettings} {now : Nat} {log : Log} (same : log.entries topic = entries)
    {subscription : Subscription} {deadline : Nat} {parked : Bool} {result : Reported}
    (worker : s.worker = .receiving subscription deadline parked)
    (received : s.receive settings now log subscription deadline parked = some result) :
    s.Receipt topic entries ground settings now parked result := by
  have stands := faithful.stands
  have settled := faithful.settled (by rw [worker]; rfl) (by rw [worker]; rfl)
  rw [worker] at stands
  obtain ⟨c, rfl, name, tracks, left⟩ := stands
  rcases looked : c.receive now deadline parked entries with ⟨outcome, next⟩
  obtain ⟨topic', tracks', spec⟩ := Consumer.receive_spec ascending tracks looked
  simp only [Session.receive, Subscription.receive, name, same, looked] at received
  rcases spec with ⟨e, rfl, ahead⟩ | ⟨idle, remains, none⟩
  · cases received
    rw [left] at ahead
    refine settled.deliver ascending _ now ?_ ⟨next, rfl, topic'.trans name, tracks', ?_⟩
    · rw [← Nat.add_zero s.tally.total, ← List.getElem?_drop, ahead]
      rfl
    · rw [← List.tail_drop, ahead]
      rfl
  · have reads : (Subscription.topic next).Reads topic s.bounds.start entries s.tally.total :=
      ⟨next, rfl, topic'.trans name, tracks', remains.trans left⟩
    have passed (fresh : parked = false) : (Start.select s.bounds.start entries).length ≤ s.tally.total :=
      List.drop_eq_nil_iff.mp (left.symm.trans (none fresh))
    rcases idle with rfl | rfl
    · cases received
      exact .idle (.ready (.topic next)) reads rfl passed
    · simp only at received
      split at received
      · cases received
      · cases received
        exact .idle (.receiving (.topic next) deadline true) reads rfl passed

theorem Faithful.count (faithful : Faithful topic entries ground counted handed s) (ascending : Ascending entries)
    (now : Nat) {subscription : Subscription} {e : Entry} {saga : Saga} {op : Operation}
    (outcome : Except SagaError Handoff) (worker : s.worker = .submitting subscription e saga op) :
    Faithful topic entries ground
      (counted ++ (s.count now subscription e saga op outcome).2.filterMap Event.counted?) handed
      (s.count now subscription e saga op outcome).1 := by
  have stands := faithful.stands
  rw [worker] at stands
  obtain ⟨reads, next, replay⟩ := stands
  obtain ⟨tally, event, change, told, after, events⟩ := s.count_spec now subscription e saga op outcome
  have more : tally.total = s.tally.total + 1 := Tally.total_of_counted change
  have going := faithful.live (by rw [worker]; rfl)
  have ignores : tally.ignored = s.tally.ignored + if e.replay?.isNone then 1 else 0 := by
    rcases change with rfl | rfl <;> simp [replay, Tally.restore, Tally.fail]
  have counting : Settled entries ground (counted ++ [e.id]) handed { s with tally } := by
    refine ⟨faithful.toLedger.count going next more ⟨op, (Entry.replay?_eq_some replay).1⟩ ignores, ?_, going⟩
    rw [settled_count next more, replay, faithful.handed, worker]
    rfl
  rw [after, events, List.filterMap_cons_some told, (proceed_quiet now subscription e.id { s with tally }).1]
  exact counting.proceed ascending now more next (more ▸ reads)

theorem Faithful.turn (faithful : Faithful topic entries ground counted handed s) (ascending : Ascending entries)
    {settings : RestoreSettings} {now : Nat} {log : Log} (same : log.entries topic = entries) {s' : Session}
    {events : List Event} (turn : s.Turn settings now log s' events) :
    Faithful topic entries ground (counted ++ events.filterMap Event.counted?)
      (handed ++ s.worker.handover s'.worker) s' := by
  cases turn with
  | begin subscription worker =>
    have stands := faithful.stands
    have settled := faithful.settled (by rw [worker]; rfl) (by rw [worker]; rfl)
    rw [worker] at stands
    rw [worker]
    exact (settled.rest (.ready subscription) stands rfl).calm rfl rfl
  | halt subscription worker stopped =>
    have settled := faithful.settled (by rw [worker]; rfl) (by rw [worker]; rfl)
    rw [worker]
    exact (settled.complete now .stopped (.inl stopped)).calm rfl rfl
  | listen subscription worker going =>
    have stands := faithful.stands
    have settled := faithful.settled (by rw [worker]; rfl) (by rw [worker]; rfl)
    rw [worker] at stands
    rw [worker]
    exact (settled.rest (.receiving subscription (now + settings.pollInterval) false) stands rfl).calm rfl rfl
  | heed subscription deadline parked worker permit =>
    have settled := faithful.settled (by rw [worker]; rfl) (by rw [worker]; rfl)
    have heeded : Settled entries ground counted handed { s with stopPermit := false } :=
      ⟨{ settled.toLedger with permit := fun permit => by cases permit }, settled.handed, settled.going⟩
    rw [worker]
    exact (heeded.complete now .stopped (.inl (settled.permit permit))).calm rfl rfl
  | receive subscription deadline parked result worker received =>
    rw [Worker.handover_of_calm (by rw [worker]; rfl)]
    exact (faithful.settled (by rw [worker]; rfl) (by rw [worker]; rfl)).receipt ascending
      (faithful.receipt ascending same worker received)
  | count subscription e saga op outcome reported worker silent =>
    have quiet : reported.filterMap Event.counted? = [] := counted_of_executed silent
    rw [List.filterMap_append, quiet, List.nil_append, worker]
    simpa [Worker.handover] using faithful.count ascending now outcome worker

theorem faithful_created (topic : String) {source : String} {execution : Ulid} {bounds : Bounds} {time : Nat}
    (grown : ground <+: entries) :
    Faithful topic entries ground [] []
      { source, executionId := execution, bounds, ceiling := ground.getLast?.map Entry.id, createdAt := time } where
  grown := grown
  ceiling := rfl
  permit := fun permit => by cases permit
  inside := Nat.zero_le _
  counted := rfl
  decoded := fun e member => by cases member
  ignored := rfl
  unharmed := fun _ => rfl
  corrupt := fun cause corrupt => by cases corrupt
  whole := fun finished => by cases finished
  handed := rfl
  stands := rfl
  live := fun alive => by cases alive

theorem Faithful.stop (faithful : Faithful topic entries ground counted handed s) :
    Faithful topic entries ground counted handed s.stop.1 := by
  rcases s.stop_cases with same | ⟨going, marked⟩
  · rwa [same]
  · rw [marked]
    exact { faithful with
      toLedger := { faithful.toLedger with permit := fun _ => rfl, whole := fun finished => by simp [going] at finished }
      stands := by
        have stands := faithful.stands
        cases worker : s.worker <;> rw [worker] at stands <;> exact stands }

theorem Faithful.claim (faithful : Faithful topic entries ground counted handed s) :
    Faithful topic entries ground counted handed { s with started := true } :=
  { faithful with
    toLedger := { faithful.toLedger with }
    stands := by
      have stands := faithful.stands
      cases worker : s.worker <;> rw [worker] at stands <;> exact stands }

theorem Faithful.none_counted (faithful : Faithful topic entries ground counted handed s)
    (unborn : s.worker = .unborn) : s.tally.total = 0 := by
  have stands := faithful.stands
  rw [unborn] at stands
  exact stands

theorem Faithful.skip (faithful : Faithful topic entries ground counted handed s) (ascending : Ascending entries)
    (unborn : s.worker = .unborn) (nothing : s.nothingToReplay = true) (now : Nat) :
    Faithful topic entries ground counted handed (s.finish now) where
  toLedger := { faithful.toLedger with
    unharmed := fun going => by cases going
    whole := by
      intro _ _ _
      have none := due_nil_of_nothing (ascending.sublist faithful.grown.sublist) faithful.ceiling nothing
      exact (faithful.none_counted unborn).trans (by rw [show (s.finish now).bounds = s.bounds from rfl, none]; rfl) }
  handed := faithful.handed
  stands := by
    rw [show (s.finish now).worker = .unborn from unborn]
    exact faithful.none_counted unborn
  live := by
    rw [show (s.finish now).worker = .unborn from unborn]
    rintro ⟨⟩

theorem Faithful.spawn (faithful : Faithful topic entries ground counted handed s) (unborn : s.worker = .unborn)
    (going : s.done = false) :
    Faithful topic entries ground counted handed (s.spawn (.topic { topic, start := s.bounds.start })) where
  toLedger := { faithful.toLedger with }
  handed := by
    rw [faithful.handed, unborn]
    rfl
  stands := by
    refine ⟨_, rfl, rfl, Consumer.tracks_fresh topic s.bounds.start entries, ?_⟩
    rw [show (s.spawn _).tally.total = 0 from faithful.none_counted unborn]
    rfl
  live := fun _ => going

theorem Faithful.failOpening (faithful : Faithful topic entries ground counted handed s) (unborn : s.worker = .unborn)
    (now : Nat) (error : TransportError) :
    Faithful topic entries ground counted handed (s.failOpening now error).1 where
  toLedger := { faithful.toLedger with
    unharmed := fun going => by cases going
    corrupt := by
      intro cause same
      cases earlier : s.error with
      | none => simp [Session.failOpening, finish, earlier] at same
      | some error =>
        simp only [Session.failOpening, finish, earlier, Option.some_or] at same
        exact faithful.corrupt cause (earlier.trans same)
    whole := by
      intro _ none
      cases earlier : s.error <;> simp [Session.failOpening, finish, earlier] at none }
  handed := faithful.handed
  stands := by
    rw [show (s.failOpening now error).1.worker = .unborn from unborn]
    exact faithful.none_counted unborn
  live := by
    rw [show (s.failOpening now error).1.worker = .unborn from unborn]
    rintro ⟨⟩

end

end Session
end Journal
