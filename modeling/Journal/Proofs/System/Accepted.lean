import Journal.Proofs.System.Extension

/-!
What became of the writes that were accepted. Each left its entry at the end of its topic, where it stays; and if
nothing else publishes, a topic holds these entries and no others, in the order in which they were accepted.
-/
namespace Journal

theorem follow_accepted (id : CallId) (call call' : StartCall) (before after : System) (notes : Notes) :
    (notes.follow id call call' before after).accepted = notes.accepted := by
  unfold Notes.follow
  split <;> rfl

namespace Chronicle

variable {c c' : Chronicle}

theorem apply_append {step : AppendStep} {source : Option String} {op : Operation} (keyed : c.system.pool.Keyed)
    (h : c.apply (.append step source op) = some c') :
    (c'.notes.accepted = c.notes.accepted ∧ ∀ topic, c'.system.log.entries topic = c.system.log.entries topic) ∨
      ∃ w : Write, c'.notes.accepted = c.notes.accepted ++ [w] ∧
        c'.system.log.entries (w.topic c.system.pool.settings) =
          c.system.log.entries (w.topic c.system.pool.settings) ++ [w.entry] ∧
        ∀ topic, topic ≠ w.topic c.system.pool.settings →
          c'.system.log.entries topic = c.system.log.entries topic := by
  rcases written : c.system.append .caller step source op with ⟨result, sys⟩
  simp only [apply, written] at h
  obtain ⟨-, -, -, ⟨error, rfl, rests⟩ | ⟨topic, log, rfl, rests, stored, named⟩⟩ := System.append_spec written
  · cases h
    exact .inl ⟨rfl, rests.entries⟩
  · cases h
    obtain ⟨here, elsewhere, -⟩ := Log.publish_spec stored
    refine .inr ⟨⟨step, source, op⟩, rfl, ?_, ?_⟩
    · rw [show Write.topic c.system.pool.settings ⟨step, source, op⟩ = topic from (named keyed).symm, ← rests.entries]
      exact here
    · intro other different
      rw [← rests.entries]
      exact elsewhere other fun same => different (same.trans (named keyed))

theorem apply_accepted {move : Move} (h : c.apply move = some c')
    (other : ∀ step source op, move ≠ .append step source op) : c'.notes.accepted = c.notes.accepted := by
  cases move with
  | append step source op => exact absurd rfl (other step source op)
  | answer task outcome =>
    obtain ⟨sys, -, rfl⟩ := Option.map_eq_some_iff.mp h
    rfl
  | advance i =>
    obtain ⟨call, -, h⟩ := Option.bind_eq_some_iff.mp h
    obtain ⟨⟨call', sys⟩, -, h⟩ := Option.bind_eq_some_iff.mp h
    cases h
    exact follow_accepted _ _ _ _ _ _
  | start n =>
    simp only [apply] at h
    split at h <;> cases h
    rfl
  | run stopFirst k =>
    obtain ⟨sys, -, h⟩ := Option.bind_eq_some_iff.mp h
    split at h <;> cases h
    · exact follow_accepted _ _ _ _ _ _
    · rfl
  | _ =>
    cases h
    rfl

structure Holding (c : Chronicle) : Prop where
  keyed : c.system.pool.Keyed
  held : ∀ w ∈ c.notes.accepted, w.entry ∈ c.system.log.entries (w.topic c.system.pool.settings)

theorem holding_step {move : Move} (holding : Holding c) (made : c.apply move = some c') : Holding c' := by
  have extended := apply_extends made
  refine ⟨extended.keyed holding.keyed, fun w member => ?_⟩
  rw [extended.names]
  have stays (before : w ∈ c.notes.accepted) : w.entry ∈ c'.system.log.entries (w.topic c.system.pool.settings) :=
    (extended.grows.extended _).subset (holding.held w before)
  by_cases appends : ∃ step source op, move = .append step source op
  · obtain ⟨step, source, op, rfl⟩ := appends
    rcases apply_append holding.keyed made with ⟨same, -⟩ | ⟨new, noted, here, -⟩
    · exact stays (same ▸ member)
    · rw [noted] at member
      rcases List.mem_append.mp member with before | last
      · exact stays before
      · rw [List.mem_singleton.mp last, here]
        exact List.mem_append_right _ (List.mem_singleton_self _)
  · have same := apply_accepted made fun step source op same => appends ⟨step, source, op, same⟩
    exact stays (same ▸ member)

theorem keyed_opened (settings : Settings) (executor : Executor) (script : Script) :
    (opened settings executor script).system.pool.Keyed := by
  intro topic p found
  cases found

theorem holding_after {settings : Settings} {executor : Executor} {script : Script} {moves : List Move}
    (h : run moves (opened settings executor script) = some c) : Holding c :=
  run_keeps (P := Holding) (fun _ _ _ holding made => holding_step holding made)
    ⟨keyed_opened settings executor script, fun _ member => by cases member⟩ h

def written (c : Chronicle) (topic : String) : List Write :=
  c.notes.accepted.filter fun w => w.topic c.system.pool.settings = topic

/-- The topics hold the entries of the accepted writes and no others. -/
structure Recorded (c : Chronicle) : Prop where
  keyed : c.system.pool.Keyed
  entries : ∀ topic, c.system.log.entries topic = (c.written topic).map Write.entry

theorem recorded_step {move : Move} (recorded : Recorded c) (made : c.apply move = some c')
    (unpublished : ∀ topic entry, move ≠ .publish topic entry) : Recorded c' := by
  have extended := apply_extends made
  refine ⟨extended.keyed recorded.keyed, fun topic => ?_⟩
  have same (noted : c'.notes.accepted = c.notes.accepted)
      (entries : c'.system.log.entries topic = c.system.log.entries topic) :
      c'.system.log.entries topic = (c'.written topic).map Write.entry := by
    rw [entries, recorded.entries, written, written, noted, extended.names]
  by_cases appends : ∃ step source op, move = .append step source op
  · obtain ⟨step, source, op, rfl⟩ := appends
    rcases apply_append recorded.keyed made with ⟨noted, entries⟩ | ⟨w, noted, here, elsewhere⟩
    · exact same noted (entries topic)
    · rw [written, noted, extended.names, List.filter_append, List.map_append]
      by_cases lands : w.topic c.system.pool.settings = topic
      · subst lands
        rw [here, recorded.entries]
        simp [written]
      · rw [elsewhere topic (Ne.symm lands), recorded.entries]
        simp [written, lands]
  · refine same (apply_accepted made fun step source op same => appends ⟨step, source, op, same⟩) ?_
    cases quiet : move.disturbs with
    | false => exact (apply_steady made quiet).rests.entries topic
    | true =>
      cases move with
      | append step source op => exact absurd ⟨step, source, op, rfl⟩ appends
      | publish other entry => exact absurd rfl (unpublished other entry)
      | outage outage on =>
        cases made
        rfl
      | _ => cases quiet

theorem recorded_after {settings : Settings} {executor : Executor} {script : Script} {moves : List Move}
    (unpublished : ∀ topic entry, Move.publish topic entry ∉ moves)
    (h : run moves (opened settings executor script) = some c) : Recorded c := by
  have kinds : ∀ move ∈ moves, ∀ topic entry, move ≠ Move.publish topic entry := by
    rintro _ member topic entry rfl
    exact unpublished topic entry member
  exact run_keeps_along (fun _ _ _ recorded kind made => recorded_step recorded made kind) kinds
    ⟨keyed_opened settings executor script, fun _ => rfl⟩ h

end Chronicle
end Journal
