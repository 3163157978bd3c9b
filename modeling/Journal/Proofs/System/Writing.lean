import Journal.Proofs.Log.Order
import Journal.Proofs.System.CallTurn
import Journal.System.Writing

/-!
What writing changes. Opening and sharing producers changes the entries of no topic, a publish adds one entry to one
topic or is refused, and an append step that succeeds adds exactly the entry of its operation.
-/
namespace Journal

namespace System

theorem openProducer_spec {origin : Origin} {topic : String} {sys sys' : System}
    {result : Except TransportError Producer} (h : sys.openProducer origin topic = (result, sys')) :
    Keeps sys sys' ∧ Log.Rests sys.log sys'.log ∧ sys'.script = sys.script ∧ Quiet origin sys sys' := by
  unfold openProducer at h
  split at h
  · cases h
    exact ⟨.refl sys, .refl _, rfl, .refl origin sys⟩
  · rename_i producer log opened
    cases h
    refine ⟨⟨rfl, rfl, rfl, rfl, rfl, rfl, fun keyed => keyed⟩, (Log.openProducer_spec opened).2, rfl, ?_⟩
    apply quiet_report { sys with log }
    intro e member
    unfold openingEvents at member
    split at member <;> simp only [List.nil_append, List.cons_append, List.mem_cons, List.not_mem_nil, or_false] at member
    · subst member
      rfl
    · rcases member with rfl | rfl <;> rfl

end System

namespace Acquisition

theorem step_spec {topic : String} {call call' : Acquisition} {pool pool' : Pool} {log log' : Log}
    (h : step topic call pool log = (call', pool', log')) :
    pool'.settings = pool.settings ∧ Log.Rests log log' ∧
      (pool.Keyed → (∀ p, call = .done (.ok p) → p.topic = topic) →
        pool'.Keyed ∧ ∀ p, call' = .done (.ok p) → p.topic = topic) := by
  cases call with
  | done result =>
    cases h
    exact ⟨rfl, .refl _, fun keyed apt => ⟨keyed, apt⟩⟩
  | looking | waiting =>
    simp only [step] at h
    split at h
    · cases h
      exact ⟨rfl, .refl _, fun keyed _ => ⟨keyed, fun p e => by cases e⟩⟩
    · split at h
      · rename_i producer found
        cases h
        exact ⟨rfl, .refl _, fun keyed _ => ⟨keyed, fun p e => by cases e; exact keyed topic _ found⟩⟩
      · cases h
        exact ⟨rfl, .refl _, fun keyed _ => ⟨keyed, fun p e => by cases e⟩⟩
  | opening =>
    simp only [step] at h
    split at h
    · cases h
      exact ⟨rfl, .refl _, fun keyed _ => ⟨keyed, fun p e => by cases e⟩⟩
    · rename_i producer log'' opened
      cases h
      obtain ⟨apt, rests⟩ := Log.openProducer_spec opened
      refine ⟨rfl, rests, fun keyed _ => ⟨?_, fun p e => by cases e; exact apt⟩⟩
      intro other p found
      by_cases here : other = topic
      · subst here
        rw [Table.get?_insert_self] at found
        cases found
        exact apt
      · rw [Table.get?_insert_other here] at found
        exact keyed other p found

theorem alone_spec {topic : String} {call : Acquisition} {pool pool' : Pool} {log log' : Log}
    (h : alone topic pool log = (call, pool', log')) :
    pool'.settings = pool.settings ∧ Log.Rests log log' ∧
      (pool.Keyed → pool'.Keyed ∧ ∀ p, call = .done (.ok p) → p.topic = topic) := by
  unfold alone at h
  rcases one : step topic .looking pool log with ⟨call₁, pool₁, log₁⟩
  rcases two : step topic call₁ pool₁ log₁ with ⟨call₂, pool₂, log₂⟩
  simp only [one, two] at h
  obtain ⟨names₁, rests₁, keyed₁⟩ := step_spec one
  obtain ⟨names₂, rests₂, keyed₂⟩ := step_spec two
  obtain ⟨names₃, rests₃, keyed₃⟩ := step_spec h
  refine ⟨(names₃.trans names₂).trans names₁, (rests₁.trans rests₂).trans rests₃, fun keyed => ?_⟩
  obtain ⟨after₁, apt₁⟩ := keyed₁ keyed (fun p e => by cases e)
  obtain ⟨after₂, apt₂⟩ := keyed₂ after₁ apt₁
  exact keyed₃ after₂ apt₂

end Acquisition

namespace System

theorem producer_spec {origin : Origin} {source : String} {sys sys' : System}
    {result : Except TransportError Producer} (h : sys.producer origin source = (result, sys')) :
    Keeps sys sys' ∧ Log.Rests sys.log sys'.log ∧ sys'.script = sys.script ∧ Quiet origin sys sys' ∧
      (sys.pool.Keyed → ∀ p, result = .ok p → p.topic = sys.pool.topicOf source) := by
  rcases asked : Acquisition.alone (sys.pool.topicOf source) sys.pool sys.log with ⟨call, pool, log⟩
  obtain ⟨names, rests, keyed⟩ := Acquisition.alone_spec asked
  have keeps : Keeps sys { sys with pool, log } := ⟨rfl, rfl, rfl, rfl, names, rfl, fun before => (keyed before).1⟩
  unfold producer Pool.producer at h
  simp only [asked] at h
  cases call with
  | looking | waiting | opening =>
    cases h
    exact ⟨.refl sys, .refl _, rfl, .refl origin sys, fun _ p e => by cases e⟩
  | done outcome =>
    cases outcome with
    | error error =>
      cases h
      exact ⟨keeps, rests, rfl, .refl origin _, fun _ p e => by cases e⟩
    | ok producer =>
      cases h
      refine ⟨keeps.trans (keeps_report _ _ _), rests, rfl, ?_,
        fun before p e => by cases e; exact (keyed before).2 _ rfl⟩
      apply quiet_report { sys with pool, log }
      intro e member
      unfold openingEvents at member
      split at member
      · simp at member
      · split at member <;>
          simp only [List.nil_append, List.cons_append, List.mem_cons, List.not_mem_nil, or_false] at member
        · rcases member with rfl | rfl <;> rfl
        · rcases member with rfl | rfl | rfl <;> rfl

theorem publish_spec {origin : Origin} {topic : String} {entry : Entry} {sys sys' : System}
    {result : Except TransportError Unit} (h : sys.publish origin topic entry = (result, sys')) :
    Keeps sys sys' ∧ sys'.script = sys.script ∧ sys'.pool = sys.pool ∧ Quiet origin sys sys' ∧
      ((∃ error, result = .error error ∧ sys'.log = sys.log) ∨
        result = .ok () ∧ sys.log.publish topic entry = .ok sys'.log) := by
  unfold publish at h
  split at h
  · rename_i error refused
    cases h
    exact ⟨.refl sys, rfl, rfl, .refl origin sys, .inl ⟨error, rfl, rfl⟩⟩
  · rename_i log stored
    cases h
    exact ⟨⟨rfl, rfl, rfl, rfl, rfl, rfl, fun keyed => keyed⟩, rfl, rfl, quiet_report { sys with log } (by simp [Event.counted?]),
      .inr ⟨rfl, stored⟩⟩

theorem append_spec {origin : Origin} {step : AppendStep} {source : Option String} {op : Operation}
    {sys sys' : System} {result : Except StepError Appended}
    (h : sys.append origin step source op = (result, sys')) :
    Keeps sys sys' ∧ sys'.script = sys.script ∧ Quiet origin sys sys' ∧
      ((∃ error, result = .error error ∧ Log.Rests sys.log sys'.log) ∨
        ∃ (topic : String) (log : Log), result = .ok ⟨step, topic, op.tx, (step.prepare op).position⟩ ∧
          Log.Rests sys.log log ∧ log.publish topic (Entry.encode (step.prepare op)) = .ok sys'.log ∧
          (sys.pool.Keyed → topic = sys.pool.topicOf (sys.pool.sourceOrDefault source))) := by
  unfold append at h
  rcases asked : sys.producer origin (sys.pool.sourceOrDefault source) with ⟨given, sys₁⟩
  obtain ⟨keeps₁, rests₁, script₁, quiet₁, keyed₁⟩ := producer_spec asked
  simp only [asked] at h
  cases given with
  | error error =>
    cases h
    exact ⟨keeps₁.trans (keeps_report _ _ _), script₁, quiet₁.trans (quiet_report _ (by simp [Event.counted?])),
      .inl ⟨_, rfl, rests₁⟩⟩
  | ok producer =>
    rcases written : sys₁.publish origin producer.topic (Entry.encode (step.prepare op)) with ⟨told, sys₂⟩
    obtain ⟨keeps₂, script₂, pool₂, quiet₂, outcome⟩ := publish_spec written
    simp only [written] at h
    have keeps := keeps₁.trans keeps₂
    rcases outcome with ⟨error, rfl, unchanged⟩ | ⟨rfl, stored⟩
    · cases h
      refine ⟨keeps.trans (keeps_report _ _ _), script₂.trans script₁,
        (quiet₁.trans quiet₂).trans (quiet_report _ (by simp [Event.counted?])),
        .inl ⟨_, rfl, ?_⟩⟩
      show Log.Rests sys.log sys₂.log
      exact unchanged ▸ rests₁
    · cases h
      refine ⟨keeps.trans (keeps_report _ _ _), script₂.trans script₁,
        (quiet₁.trans quiet₂).trans (quiet_report _ (by simp [Event.counted?])),
        .inr ⟨producer.topic, sys₁.log, ?_, rests₁, stored, fun before => keyed₁ before producer rfl⟩⟩
      have id : (Entry.encode (step.prepare op)).id = op.tx ∧
          (Entry.encode (step.prepare op)).position = (step.prepare op).position := by
        cases step <;> simp only [AppendStep.prepare, Entry.encode] <;> (try split) <;> exact ⟨rfl, rfl⟩
      rw [id.1, id.2]

end System
end Journal
