import Journal.Proofs.System.Effect

/-!
What no move takes back: topics only grow, the names of topics and the settings of restores stay, and a system without
prepared answers never has any. Only publishing adds entries; every other move leaves all topics as they are.
-/
namespace Journal

namespace System

structure Extends (sys sys' : System) : Prop where
  grows : Log.Grows sys.log sys'.log
  names : sys'.pool.settings = sys.pool.settings
  restore : sys'.restore = sys.restore
  plain : sys.script = {} → sys'.script = {}
  keyed : sys.pool.Keyed → sys'.pool.Keyed

theorem Extends.trans {a b c : System} (first : Extends a b) (second : Extends b c) : Extends a c where
  grows := first.grows.trans second.grows
  names := second.names.trans first.names
  restore := second.restore.trans first.restore
  plain := second.plain ∘ first.plain
  keyed := second.keyed ∘ first.keyed

/-- No entry is added and nothing more is made to fail. -/
structure Steady (sys sys' : System) : Prop extends Extends sys sys' where
  rests : Log.Rests sys.log sys'.log

theorem Steady.refl (sys : System) : Steady sys sys := ⟨⟨.refl _, rfl, rfl, fun h => h, fun h => h⟩, .refl _⟩

theorem Steady.trans {a b c : System} (first : Steady a b) (second : Steady b c) : Steady a c where
  toExtends := first.toExtends.trans second.toExtends
  rests := first.rests.trans second.rests

theorem steady_of_same {sys sys' : System} (log : sys'.log = sys.log) (pool : sys'.pool = sys.pool)
    (restore : sys'.restore = sys.restore) (script : sys'.script = sys.script) : Steady sys sys' where
  grows := log ▸ .refl _
  names := by rw [pool]
  restore := restore
  plain := fun plain => script.trans plain
  keyed := fun keyed => pool ▸ keyed
  rests := log ▸ .refl _

theorem steady_of_rests {sys sys' : System} (rests : Log.Rests sys.log sys'.log) (keeps : Keeps sys sys')
    (plain : sys.script = {} → sys'.script = {}) : Steady sys sys' :=
  ⟨⟨rests.grows, keeps.names, keeps.restore, plain, keeps.keyed⟩, rests⟩

theorem publish_extends {origin : Origin} {topic : String} {entry : Entry} {sys sys' : System}
    {result : Except TransportError Unit} (h : sys.publish origin topic entry = (result, sys')) : Extends sys sys' := by
  obtain ⟨keeps, script, -, -, ⟨-, -, same⟩ | ⟨-, stored⟩⟩ := publish_spec h
  · exact ⟨same ▸ .refl _, keeps.names, keeps.restore, fun plain => script.trans plain, keeps.keyed⟩
  · exact ⟨Log.publish_grows stored, keeps.names, keeps.restore, fun plain => script.trans plain, keeps.keyed⟩

theorem append_extends {origin : Origin} {step : AppendStep} {source : Option String} {op : Operation}
    {sys sys' : System} {result : Except StepError Appended} (h : sys.append origin step source op = (result, sys')) :
    Extends sys sys' := by
  obtain ⟨keeps, script, -, ⟨-, -, rests⟩ | ⟨topic, log, -, rests, stored, -⟩⟩ := append_spec h
  · exact ⟨rests.grows, keeps.names, keeps.restore, fun plain => script.trans plain, keeps.keyed⟩
  · exact ⟨rests.grows.trans (Log.publish_grows stored), keeps.names, keeps.restore, fun plain => script.trans plain,
      keeps.keyed⟩

theorem subscribe_steady {origin : Origin} {topic : String} {start : Option Start} {sys sys' : System}
    {result : Except TransportError Subscription} (h : sys.subscribe origin topic start = (result, sys')) :
    Steady sys sys' := by
  obtain ⟨keeps, log, -, plain⟩ := subscribe_spec h
  refine steady_of_rests ?_ keeps fun none => (plain none).1
  rcases log with same | opened
  · exact same ▸ .refl _
  · exact opened ▸ Log.rests_withTopic _ _

theorem subscribeFrom_steady {origin : Origin} {source : String} {start : Option Start} {sys sys' : System}
    {result : Except TransportError Subscription} (h : sys.subscribeFrom origin source start = (result, sys')) :
    Steady sys sys' := by
  have announced : Steady sys (sys.report origin [.openingConsumer source (sys.pool.topicOf source)]) :=
    steady_of_same rfl rfl rfl rfl
  exact announced.trans (subscribe_steady h)

theorem withSession_steady (origin : Origin) (n : Nat) (act : Session → Reported) (sys : System) :
    Steady sys (sys.withSession origin n act) := by
  unfold withSession
  split
  · exact .refl sys
  · exact steady_of_same rfl rfl rfl rfl

theorem answered_steady {task : Nat} {outcome : Except SagaError Handoff} {sys sys' : System}
    (h : sys.answered task outcome = some sys') : Steady sys sys' := by
  unfold answered at h
  split at h
  · split at h
    · split at h
      · cases h
        exact withSession_steady _ _ _ sys
      · cases h
    · cases h
  · cases h

theorem startSession_steady (origin : Origin) (n : Nat) (sys : System) :
    Steady sys (sys.startSession origin n).2 := by
  unfold startSession
  rcases claimSession_cases origin n sys with
    ⟨same, -⟩ | ⟨s, session, unclaimed, ⟨nothing, same⟩ | ⟨something, same⟩⟩ <;> rw [same]
  · exact .refl sys
  · exact steady_of_same rfl rfl rfl rfl
  · have claimed : (sys.setSession n { s with started := true }).session? n = some { s with started := true } :=
      session?_setSession_self session _
    have kept : Steady sys (sys.setSession n { s with started := true }) := steady_of_same rfl rfl rfl rfl
    rcases openSession_cases origin claimed with ⟨subscription, sys', opened, result⟩ | ⟨error, sys', opened, result⟩ <;>
      simp only [result]
    · exact (kept.trans (subscribeFrom_steady opened)).trans (steady_of_same rfl rfl rfl rfl)
    · exact (kept.trans (subscribeFrom_steady opened)).trans (steady_of_same rfl rfl rfl rfl)

theorem turn_steady {origin : Origin} {call : StartCall} {sys sys' : System} {phase : StartPhase}
    (turn : CallTurn origin call sys phase sys') : Steady sys sys' := by
  cases turn with
  | read observed inquiry inquiry' sys' reading asked =>
    obtain ⟨keeps, log, -, plain⟩ := inquire_spec asked
    exact steady_of_rests (log ▸ .refl _) keeps fun none => (plain none).1 ▸ none
  | spawn n s subscription sys' opening session opened =>
    exact (subscribeFrom_steady opened).trans (steady_of_same rfl rfl rfl rfl)
  | refuse n s error sys' opening session failed =>
    exact (subscribeFrom_steady failed).trans (steady_of_same rfl rfl rfl rfl)
  | _ => exact steady_of_same rfl rfl rfl rfl

theorem stepTask_steady {stopFirst : Bool} {k : Nat} {sys sys' : System} (h : sys.stepTask stopFirst k = some sys') :
    Steady sys sys' := by
  unfold stepTask at h
  split at h
  · cases h
  · obtain ⟨⟨call', next⟩, taken, h⟩ := Option.map_eq_some_iff.mp h
    cases h
    exact (turn_steady (startStep_turn taken).1).trans (steady_of_same rfl rfl rfl rfl)
  · obtain ⟨next, -, h⟩ := Option.map_eq_some_iff.mp h
    cases h
    exact steady_of_same rfl rfl rfl rfl
  · obtain ⟨s, -, h⟩ := Option.bind_eq_some_iff.mp h
    obtain ⟨⟨s', executor, events⟩, -, h⟩ := Option.bind_eq_some_iff.mp h
    cases h
    exact steady_of_same rfl rfl rfl rfl

end System

def Move.disturbs : Move → Bool
  | .publish .. | .append .. | .outage _ true => true
  | _ => false

namespace Chronicle

theorem apply_steady {c c' : Chronicle} {move : Move} (h : c.apply move = some c') (quiet : move.disturbs = false) :
    c.system.Steady c'.system := by
  cases move with
  | publish | append => cases quiet
  | openProducer topic =>
    cases h
    obtain ⟨keeps, rests, script, -⟩ := System.openProducer_spec (rfl : c.system.openProducer .caller topic = _)
    exact System.steady_of_rests rests keeps fun plain => script.trans plain
  | producer source =>
    cases h
    obtain ⟨keeps, rests, script, -⟩ := System.producer_spec (rfl : c.system.producer .caller source = _)
    exact System.steady_of_rests rests keeps fun plain => script.trans plain
  | subscribe topic start =>
    cases h
    exact System.subscribe_steady rfl
  | outage outage on =>
    cases on with
    | true => cases quiet
    | false =>
      cases h
      exact ⟨⟨Log.grows_of_same fun _ => rfl, rfl, rfl, fun plain => plain, fun keyed => keyed⟩, Log.rests_setOutage _ outage⟩
  | engine | clock | listen | call | spawn | create =>
    cases h
    exact System.steady_of_same rfl rfl rfl rfl
  | answer task outcome =>
    obtain ⟨sys', answered, rfl⟩ := Option.map_eq_some_iff.mp h
    exact System.answered_steady answered
  | advance i =>
    obtain ⟨call, -, h⟩ := Option.bind_eq_some_iff.mp h
    obtain ⟨⟨call', sys⟩, taken, h⟩ := Option.bind_eq_some_iff.mp h
    cases h
    exact System.turn_steady (System.startStep_turn taken).1
  | start n =>
    simp only [apply] at h
    split at h
    · cases h
      exact System.startSession_steady .caller n c.system
    · cases h
  | stop n =>
    cases h
    exact System.withSession_steady _ _ _ c.system
  | stopSource source =>
    cases h
    unfold System.stop
    split
    · exact .refl _
    · exact System.withSession_steady _ _ _ c.system
  | run stopFirst k =>
    obtain ⟨sys, taken, h⟩ := Option.bind_eq_some_iff.mp h
    have steady := System.stepTask_steady taken
    split at h <;> cases h <;> exact steady

theorem apply_extends {c c' : Chronicle} {move : Move} (h : c.apply move = some c') :
    c.system.Extends c'.system := by
  cases quiet : move.disturbs with
  | false => exact (apply_steady h quiet).toExtends
  | true =>
    cases move with
    | publish topic entry =>
      cases h
      exact System.publish_extends rfl
    | append step source op =>
      rcases written : c.system.append .caller step source op with ⟨result, sys⟩
      simp only [apply, written] at h
      cases result with
      | error | ok =>
        cases h
        exact System.append_extends written
    | outage outage on =>
      cases h
      exact ⟨Log.grows_of_same fun _ => rfl, rfl, rfl, fun plain => plain, fun keyed => keyed⟩
    | _ => cases quiet

end Chronicle
end Journal
