import Journal.Log

/-!
Topics ascend and only grow at their ends. A publish adds its entry to one topic, above the last entry there;
opening a topic adds none.
-/
namespace Journal

def Ascending (entries : List Entry) : Prop := entries.Pairwise fun a b => a.id < b.id

namespace Ascending

variable {entries earlier : List Entry}

theorem le_last (ascending : Ascending entries) {e last : Entry} (inside : e ∈ entries)
    (final : entries.getLast? = some last) : e.id ≤ last.id := by
  obtain ⟨front, rfl⟩ := List.getLast?_eq_some_iff.mp final
  rcases List.mem_append.mp inside with before | same
  · exact Nat.le_of_lt ((List.pairwise_append.mp ascending).2.2 e before last (by simp))
  · rw [List.mem_singleton.mp same]
    exact Nat.le_refl _

theorem snoc (ascending : Ascending entries) {e : Entry}
    (above : ∀ last, entries.getLast? = some last → last.id < e.id) : Ascending (entries ++ [e]) := by
  refine List.pairwise_append.mpr ⟨ascending, List.pairwise_singleton _ _, ?_⟩
  intro a inside b same
  rw [List.mem_singleton.mp same]
  cases final : entries.getLast? with
  | none => simp [List.getLast?_eq_none_iff.mp final] at inside
  | some last =>
    have below : a.id.toNat ≤ last.id.toNat := le_last ascending inside final
    have more : last.id.toNat < e.id.toNat := above last final
    exact Nat.lt_of_le_of_lt below more

theorem mem_of_le_last (ascending : Ascending entries) (grown : earlier <+: entries) {e last : Entry}
    (inside : e ∈ entries) (final : earlier.getLast? = some last) (low : e.id ≤ last.id) : e ∈ earlier := by
  obtain ⟨later, rfl⟩ := grown
  rcases List.mem_append.mp inside with before | after
  · exact before
  · have more : last.id.toNat < e.id.toNat :=
      (List.pairwise_append.mp ascending).2.2 last (List.mem_of_getLast? final) e after
    have less : e.id.toNat ≤ last.id.toNat := low
    omega

theorem eq_of_last (ascending : Ascending entries) (grown : earlier <+: entries)
    (same : earlier.getLast?.map Entry.id = entries.getLast?.map Entry.id) : earlier = entries := by
  obtain ⟨later, rfl⟩ := grown
  rcases List.eq_nil_or_concat later with rfl | ⟨front, last, rfl⟩
  · exact (List.append_nil earlier).symm
  · rw [List.concat_eq_append, ← List.append_assoc, List.getLast?_concat] at same
    obtain ⟨e, final, same⟩ := Option.map_eq_some_iff.mp same
    have less := (List.pairwise_append.mp ascending).2.2 e (List.mem_of_getLast? final) last (by simp)
    rw [same] at less
    exact absurd less (Nat.lt_irrefl _)

end Ascending

namespace Log

def Ordered (log : Log) : Prop := ∀ topic, Ascending (log.entries topic)

structure Grows (log log' : Log) : Prop where
  extended : ∀ topic, log.entries topic <+: log'.entries topic
  ordered : log.Ordered → log'.Ordered

theorem Grows.refl (log : Log) : Grows log log := ⟨fun _ => List.prefix_rfl, fun h => h⟩

theorem Grows.trans {a b c : Log} (first : Grows a b) (second : Grows b c) : Grows a c :=
  ⟨fun topic => (first.extended topic).trans (second.extended topic), second.ordered ∘ first.ordered⟩

theorem grows_of_same {log log' : Log} (same : ∀ topic, log'.entries topic = log.entries topic) :
    Grows log log' :=
  ⟨fun topic => same topic ▸ List.prefix_rfl, fun ordered topic => same topic ▸ ordered topic⟩

theorem entries_withTopic (log : Log) (topic other : String) :
    (log.withTopic topic).entries other = log.entries other := by
  unfold withTopic
  split
  · rfl
  · rename_i missing
    by_cases same : other = topic
    · subst same
      have absent : log.topics.get? other = none := by
        simpa [hasTopic, Table.contains] using missing
      simp [entries, Table.get?_insert_self, absent]
    · simp [entries, Table.get?_insert_other same]

structure Rests (log log' : Log) : Prop where
  entries : ∀ topic, log'.entries topic = log.entries topic
  fails : ∀ outage, log.fails outage = false → log'.fails outage = false

theorem Rests.refl (log : Log) : Rests log log := ⟨fun _ => rfl, fun _ calm => calm⟩

theorem Rests.trans {a b c : Log} (first : Rests a b) (second : Rests b c) : Rests a c :=
  ⟨fun topic => (second.entries topic).trans (first.entries topic), fun outage => second.fails outage ∘ first.fails outage⟩

theorem Rests.grows {log log' : Log} (rests : Rests log log') : Grows log log' := grows_of_same rests.entries

theorem rests_withTopic (log : Log) (topic : String) : Rests log (log.withTopic topic) := by
  refine ⟨entries_withTopic log topic, fun outage calm => ?_⟩
  unfold withTopic
  split <;> exact calm

theorem rests_setOutage (log : Log) (outage : Outage) : Rests log (log.setOutage outage false) := by
  refine ⟨fun _ => rfl, fun other calm => ?_⟩
  simp only [fails, List.contains_eq_mem, decide_eq_false_iff_not] at calm ⊢
  simp only [setOutage, Bool.false_eq_true, if_false]
  exact fun member => calm (List.mem_filter.mp member).1

theorem openProducer_spec {log log' : Log} {topic : String} {producer : Producer}
    (h : log.openProducer topic = .ok (producer, log')) : producer.topic = topic ∧ Rests log log' := by
  unfold openProducer at h
  split at h
  · cases h
  · cases h
    obtain ⟨entries, fails⟩ := rests_withTopic log topic
    exact ⟨rfl, entries, fails⟩

theorem publish_spec {log log' : Log} {topic : String} {entry : Entry} (h : log.publish topic entry = .ok log') :
    log'.entries topic = log.entries topic ++ [entry] ∧
      (∀ other, other ≠ topic → log'.entries other = log.entries other) ∧
      ∀ last, log.last? topic = some last → last.id < entry.id := by
  unfold publish at h
  split at h
  · cases h
  · have stored : ∀ {log'}, .ok { log with topics := log.topics.insert topic (log.entries topic ++ [entry]) } =
        (Except.ok log' : Except TransportError Log) →
        log'.entries topic = log.entries topic ++ [entry] ∧
          ∀ other, other ≠ topic → log'.entries other = log.entries other := by
      intro log' same
      cases same
      refine ⟨by simp [entries, Table.get?_insert_self], fun other different => ?_⟩
      simp [entries, Table.get?_insert_other different]
    cases final : log.last? topic with
    | none =>
      simp only [final] at h
      obtain ⟨here, elsewhere⟩ := stored h
      exact ⟨here, elsewhere, fun last none => by cases none⟩
    | some last =>
      simp only [final] at h
      split at h
      · cases h
      · rename_i refused
        obtain ⟨here, elsewhere⟩ := stored h
        refine ⟨here, elsewhere, fun other same => ?_⟩
        cases same
        exact Nat.lt_of_not_le refused

theorem publish_grows {log log' : Log} {topic : String} {entry : Entry} (h : log.publish topic entry = .ok log') :
    Grows log log' := by
  obtain ⟨here, elsewhere, above⟩ := publish_spec h
  constructor
  · intro other
    by_cases same : other = topic
    · subst same
      exact ⟨[entry], here.symm⟩
    · exact (elsewhere other same).symm ▸ List.prefix_rfl
  · intro ordered other
    by_cases same : other = topic
    · subst same
      rw [here]
      exact (ordered other).snoc above
    · rw [elsewhere other same]
      exact ordered other

end Log
end Journal
