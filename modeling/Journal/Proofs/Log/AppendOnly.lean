import Journal.Proofs.Log.Traffic

/-!
The log is append-only and strictly ordered. Whoever publishes and whatever fails, a topic holds exactly what was
published on it, oldest first and in ascending order, and the only action that changes a topic is a publish that
succeeds. A publish that is not made to fail is refused exactly if its entry is not above the newest one.
-/
namespace Journal

theorem Ascending.getLast?_eq_some_iff {entries : List Entry} (ascending : Ascending entries) {e : Entry} :
    entries.getLast? = some e ↔ e ∈ entries ∧ ∀ d ∈ entries, d.id ≤ e.id := by
  constructor
  · intro final
    exact ⟨List.mem_of_getLast? final, fun d inside => ascending.le_last inside final⟩
  · rintro ⟨inside, greatest⟩
    cases final : entries.getLast? with
    | none =>
      rw [List.getLast?_eq_none_iff.mp final] at inside
      cases inside
    | some last =>
      obtain ⟨front, rfl⟩ := List.getLast?_eq_some_iff.mp final
      rcases List.mem_append.mp inside with before | same
      · have below : e.id.toNat < last.id.toNat :=
          (List.pairwise_append.mp ascending).2.2 e before last (List.mem_singleton_self last)
        exact absurd below (Nat.not_lt_of_le (greatest last (by simp)))
      · rw [List.mem_singleton.mp same]

theorem Log.publish_judged {log : Log} {topic : String} (entry : Entry) (calm : log.fails .publish = false) :
    (∃ last, log.last? topic = some last ∧ entry.id ≤ last.id ∧
        log.publish topic entry = .error (.outOfOrder topic entry.id last.id)) ∨
      (∀ last, log.last? topic = some last → last.id < entry.id) ∧ ∃ log', log.publish topic entry = .ok log' := by
  unfold Log.publish
  rw [calm]
  cases final : log.last? topic with
  | none => exact .inr ⟨(fun last none => by cases none), _, rfl⟩
  | some last =>
    by_cases low : entry.id ≤ last.id
    · exact .inl ⟨last, rfl, low, by simp [low]⟩
    · refine .inr ⟨fun other same => ?_, _, if_neg low⟩
      cases same
      exact Nat.lt_of_not_le low

namespace Traffic

def history (t : Traffic) (topic : String) : List Entry := (t.published.filter fun p => p.1 = topic).map Prod.snd

structure Recorded (t : Traffic) : Prop where
  ordered : t.system.log.Ordered
  history : ∀ topic, t.system.log.entries topic = t.history topic

variable {t t' : Traffic} {action : Action} {answer : Answer}

theorem history_snoc {topic : String} {entry : Entry} (noted : t'.published = t.published ++ [(topic, entry)]) :
    t'.history topic = t.history topic ++ [entry] ∧ ∀ other, other ≠ topic → t'.history other = t.history other := by
  refine ⟨by simp [history, noted], fun other different => ?_⟩
  simp [history, noted, Ne.symm different]

theorem Recorded.of_same (recorded : Recorded t) (same : Same t t') (published : t'.published = t.published) :
    Recorded t' where
  ordered := fun topic => same topic ▸ recorded.ordered topic
  history := fun topic => by rw [same, recorded.history, Traffic.history, Traffic.history, published]

theorem recorded_step (recorded : Recorded t) (made : t.perform action = some (answer, t')) : Recorded t' := by
  cases (perform_effect made).1 with
  | aside same readers published => exact recorded.of_same same published
  | opened same readers plain published => exact recorded.of_same same published
  | begun => exact recorded.of_same (fun _ => rfl) rfl
  | @looked i deadline parked r reception =>
    obtain ⟨system, published, -⟩ := settle_system i r t reception
    exact recorded.of_same (fun _ => by rw [system]) published
  | @published i producer entry _ handle stored readers noted =>
    obtain ⟨here, elsewhere⟩ := history_snoc noted
    obtain ⟨added, others, -⟩ := Log.publish_spec stored
    refine ⟨(Log.publish_grows stored).ordered recorded.ordered, fun topic => ?_⟩
    by_cases same : topic = producer.topic
    · subst same
      rw [added, here, recorded.history]
    · rw [others topic same, elsewhere topic same, recorded.history]

theorem recorded_after {settings : Settings} {executor : Executor} {actions : List Action}
    (h : run actions (opened settings executor) = some t) : Recorded t := by
  have first : Recorded (opened settings executor) := ⟨fun _ => List.Pairwise.nil, fun _ => rfl⟩
  exact run_keeps (fun _ _ _ _ recorded made => recorded_step recorded made) first h

/-- What holds of the log at one moment. -/
structure AppendOnly (t : Traffic) : Prop where
  ascending : ∀ topic, Ascending (t.system.log.entries topic)
  recorded : ∀ topic, t.system.log.entries topic = t.history topic
  newest : ∀ topic e, t.system.log.last? topic = some e ↔
    e ∈ t.system.log.entries topic ∧ ∀ d ∈ t.system.log.entries topic, d.id ≤ e.id
  refused : ∀ i producer entry, t.producers[i]? = some producer → t.system.log.fails .publish = false → ∀ last,
    t.Answers (.publish i entry) (.failed (.outOfOrder producer.topic entry.id last)) ↔
      ∃ e, t.system.log.last? producer.topic = some e ∧ e.id = last ∧ entry.id ≤ last
  accepted : ∀ i producer entry, t.producers[i]? = some producer → t.system.log.fails .publish = false →
    (t.Answers (.publish i entry) .done ↔ ∀ e, t.system.log.last? producer.topic = some e → e.id < entry.id)

/-- What one action leaves of the log: the entry of a publish that succeeded is added at the end of one topic, and by
any other action, above all by one that fails, no topic changes. -/
structure Appends (t : Traffic) (action : Action) (answer : Answer) (t' : Traffic) : Prop where
  added : ∀ i entry, action = .publish i entry → answer = .done → ∃ producer, t.producers[i]? = some producer ∧
    t'.system.log.entries producer.topic = t.system.log.entries producer.topic ++ [entry] ∧
    (∀ topic, topic ≠ producer.topic → t'.system.log.entries topic = t.system.log.entries topic) ∧
    t'.published = t.published ++ [(producer.topic, entry)]
  kept : (∀ i entry, action = .publish i entry → answer ≠ .done) → Same t t' ∧ t'.published = t.published
  failed : ∀ error, answer = .failed error → Same t t'

theorem appends_of_same (same : Same t t') (published : t'.published = t.published)
    (other : ∀ i entry, action = .publish i entry → answer ≠ .done) : Appends t action answer t' :=
  ⟨fun i entry asked done => absurd done (other i entry asked), fun _ => ⟨same, published⟩, fun _ _ => same⟩

theorem appends (made : t.perform action = some (answer, t')) : Appends t action answer t' := by
  cases (perform_effect made).1 with
  | aside same readers published nobody unpublished => exact appends_of_same same published unpublished
  | opened same readers plain published => exact appends_of_same same published (by simp)
  | begun => exact appends_of_same (fun _ => rfl) rfl (by simp)
  | @looked i deadline parked r reception =>
    obtain ⟨system, published, -⟩ := settle_system i r t reception
    exact appends_of_same (fun _ => by rw [system]) published (by simp)
  | @published i producer entry _ handle stored readers noted =>
    obtain ⟨added, others, -⟩ := Log.publish_spec stored
    refine ⟨?_, fun kept => absurd rfl (kept i entry rfl), by simp⟩
    rintro j d ⟨⟩ -
    exact ⟨producer, handle, added, others, noted⟩

theorem publish_answers {i : Nat} {producer : Producer} (handle : t.producers[i]? = some producer) (entry : Entry)
    (calm : t.system.log.fails .publish = false) :
    (∃ last, t.system.log.last? producer.topic = some last ∧ entry.id ≤ last.id ∧ ∀ answer,
        t.Answers (.publish i entry) answer ↔ answer = .failed (.outOfOrder producer.topic entry.id last.id)) ∨
      (∀ last, t.system.log.last? producer.topic = some last → last.id < entry.id) ∧ ∀ answer,
        t.Answers (.publish i entry) answer ↔ answer = .done := by
  rcases Log.publish_judged entry calm with ⟨last, final, low, refused⟩ | ⟨above, log, stored⟩
  · refine .inl ⟨last, final, low, fun answer => ?_⟩
    simp [Answers, perform, handle, System.publish, refused, eq_comm]
  · refine .inr ⟨above, fun answer => ?_⟩
    simp [Answers, perform, handle, System.publish, stored, eq_comm]

theorem appendOnly_of_recorded (recorded : Recorded t) : AppendOnly t where
  ascending := recorded.ordered
  recorded := recorded.history
  newest := fun topic e => (recorded.ordered topic).getLast?_eq_some_iff
  refused := by
    intro i producer entry handle calm last
    rcases publish_answers handle entry calm with ⟨newest, final, low, answers⟩ | ⟨above, answers⟩
    · rw [answers, final]
      constructor
      · rintro ⟨⟩
        exact ⟨newest, rfl, rfl, low⟩
      · rintro ⟨e, ⟨⟩, rfl, -⟩
        rfl
    · rw [answers]
      constructor
      · rintro ⟨⟩
      · rintro ⟨e, final, rfl, low⟩
        exact absurd (above e final) (Nat.not_lt_of_le low)
  accepted := by
    intro i producer entry handle calm
    rcases publish_answers handle entry calm with ⟨newest, final, low, answers⟩ | ⟨above, answers⟩
    · rw [answers, final]
      constructor
      · rintro ⟨⟩
      · intro above
        exact absurd (above newest rfl) (Nat.not_lt_of_le low)
    · rw [answers]
      exact ⟨fun _ => above, fun _ => rfl⟩

/-- At every moment of every run the log is in order, every action that is possible then only appends to it, and what
it holds is the front of what it holds later. -/
theorem every_topic_is_append_only {settings : Settings} {executor : Executor} {actions : List Action}
    (h : run actions (opened settings executor) = some t) :
    AppendOnly t ∧ (∀ action answer t', t.perform action = some (answer, t') → Appends t action answer t') ∧
      ∀ later t', run later t = some t' → ∀ topic, t.system.log.entries topic <+: t'.system.log.entries topic :=
  ⟨appendOnly_of_recorded (recorded_after h), fun _ _ _ made => appends made,
    fun _ _ ran topic => (run_grows ran).extended topic⟩

def twoProducers : List Action :=
  [.openProducer "tx-default", .publish 0 ⟨.ofNat 5, "first", []⟩, .ask "", .acquire 0, .acquire 0, .acquire 0,
    .publish 1 ⟨.ofNat 5, "again", []⟩, .openConsumer "tx-default" none, .receive 0 0, .look 0, .outage .publish true,
    .publish 1 ⟨.ofNat 9, "lost", []⟩, .outage .publish false, .publish 1 ⟨.ofNat 9, "second", []⟩,
    .publish 0 ⟨.ofNat 7, "late", []⟩]

theorem two_producers_append : ∃ t, run twoProducers (opened {} .logging) = some t ∧
    t.system.log.entries "tx-default" = [⟨.ofNat 5, "first", []⟩, ⟨.ofNat 9, "second", []⟩] ∧
    t.Answers (.publish 0 ⟨.ofNat 9, "retry", []⟩)
      (.failed (.outOfOrder "tx-default" (.ofNat 9) (.ofNat 9))) ∧ AppendOnly t := by
  have ends : (run twoProducers (opened {} .logging)).map (fun t => (t.system.log.entries "tx-default",
      t.producers[0]?.map (·.topic), t.system.log.fails .publish, t.system.log.last? "tx-default")) =
        some ([⟨.ofNat 5, "first", []⟩, ⟨.ofNat 9, "second", []⟩], some "tx-default", false,
          some ⟨.ofNat 9, "second", []⟩) := by
    decide +kernel
  obtain ⟨t, ran, state⟩ := Option.map_eq_some_iff.mp ends
  simp only [Prod.mk.injEq] at state
  obtain ⟨held, handle, calm, final⟩ := state
  obtain ⟨producer, handle, topic⟩ := Option.map_eq_some_iff.mp handle
  have holds := (every_topic_is_append_only ran).1
  have retried := holds.refused 0 producer ⟨.ofNat 9, "retry", []⟩ handle calm (.ofNat 9)
  rw [topic] at retried
  exact ⟨t, ran, held, retried.mpr ⟨_, final, rfl, Nat.le_refl _⟩, holds⟩

end Traffic
end Journal
