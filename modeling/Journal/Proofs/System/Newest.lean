import Journal.Proofs.System.Extension

/-!
Questions for the newest entry. Prepared answers are used up and never added. An honest answer is late or an error but
makes no entry up, so whatever was on the topic when the question began is not above the entry that it gives.
-/
namespace Journal

def Newest.honest : Newest → Bool
  | .ask | .answer (.error _) => true
  | .answer (.ok _) => false

def Script.Honest (script : Script) : Prop := ∀ answer ∈ script.newest, answer.newest.honest = true

def Tops (entries : List Entry) (top : Option Ulid) : Prop := ∀ e ∈ entries, ∃ id, top = some id ∧ e.id ≤ id

/-- What can be told of an answer before it has come. -/
def Inquiry.Covers (entries : List Entry) : Inquiry → Prop
  | .asking | .answered (.error _) => True
  | .delayed _ newest => newest.honest = true
  | .answered (.ok newest) => Tops entries (newest.map Entry.id)

theorem tops_newest {log : Log} {topic : String} {earlier : List Entry} (ordered : log.Ordered)
    (grown : earlier <+: log.entries topic) : Tops earlier ((log.last? topic).map Entry.id) := by
  intro e inside
  have there : e ∈ log.entries topic := grown.subset inside
  cases final : log.last? topic with
  | none =>
    rw [List.getLast?_eq_none_iff.mp final] at there
    cases there
  | some last => exact ⟨last.id, rfl, (ordered topic).le_last there final⟩

namespace System

def Spends (sys sys' : System) : Prop := sys'.script.newest <:+ sys.script.newest

theorem spends_of_same {sys sys' : System} (script : sys'.script = sys.script) : Spends sys sys' := by
  unfold Spends
  simp [script]

theorem inquire_spends {topic : String} {inquiry inquiry' : Inquiry} {sys sys' : System}
    (asked : sys.inquire topic inquiry = some (inquiry', sys')) : Spends sys sys' := by
  unfold Spends
  cases inquiry with
  | asking =>
    cases prepared : sys.script.newest with
    | nil =>
      simp only [inquire, prepared] at asked
      cases asked
      simp [prepared]
    | cons first later =>
      simp only [inquire, prepared] at asked
      split at asked <;> cases asked <;> exact List.suffix_cons first later
  | delayed deadline newest =>
    simp only [inquire] at asked
    split at asked <;> cases asked
    exact List.suffix_rfl
  | answered result => cases asked

theorem inquire_covers {topic : String} {inquiry inquiry' : Inquiry} {sys sys' : System} {earlier : List Entry}
    (asked : sys.inquire topic inquiry = some (inquiry', sys')) (honest : sys.script.Honest)
    (ordered : sys.log.Ordered) (grown : earlier <+: sys.log.entries topic) (covers : inquiry.Covers earlier) :
    inquiry'.Covers earlier := by
  have told : ∀ result, (Newest.answer result).honest = true → (Inquiry.answered result).Covers earlier := by
    intro result reliable
    cases result with
    | ok entry => cases reliable
    | error error => trivial
  cases inquiry with
  | asking =>
    cases prepared : sys.script.newest with
    | nil =>
      simp only [inquire, prepared] at asked
      cases asked
      exact tops_newest ordered grown
    | cons first later =>
      have reliable : first.newest.honest = true := honest first (by simp [prepared])
      simp only [inquire, prepared] at asked
      split at asked <;> cases asked
      · cases newest : first.newest with
        | ask => exact tops_newest ordered grown
        | answer result => exact told result (newest ▸ reliable)
      · exact reliable
  | delayed deadline newest =>
    simp only [inquire] at asked
    split at asked <;> cases asked
    cases newest with
    | ask => exact tops_newest ordered grown
    | answer result => exact told result covers
  | answered result => cases asked

theorem subscribe_spends (origin : Origin) (topic : String) (start : Option Start) (sys : System) :
    Spends sys (sys.subscribe origin topic start).2 := by
  unfold subscribe
  split
  · exact List.suffix_rfl
  · split <;> exact List.suffix_rfl

theorem subscribeFrom_spends {origin : Origin} {source : String} {start : Option Start} {sys sys' : System}
    {result : Except TransportError Subscription} (h : sys.subscribeFrom origin source start = (result, sys')) :
    Spends sys sys' := by
  have same : sys' = (sys.subscribeFrom origin source start).2 := by rw [h]
  rw [same]
  exact subscribe_spends ..

theorem turn_spends {origin : Origin} {call : StartCall} {sys sys' : System} {phase : StartPhase}
    (turn : CallTurn origin call sys phase sys') : Spends sys sys' := by
  cases turn with
  | read observed inquiry inquiry' sys' reading asked => exact inquire_spends asked
  | spawn n s subscription sys' opening session opened =>
    have spends := subscribeFrom_spends opened
    exact spends
  | refuse n s error sys' opening session failed =>
    have spends := subscribeFrom_spends failed
    exact spends
  | _ => exact List.suffix_rfl

theorem withSession_spends (origin : Origin) (n : Nat) (act : Session → Reported) (sys : System) :
    Spends sys (sys.withSession origin n act) := by
  unfold withSession
  split <;> exact List.suffix_rfl

theorem startSession_spends (origin : Origin) (n : Nat) (sys : System) : Spends sys (sys.startSession origin n).2 := by
  unfold startSession
  rcases claimSession_cases origin n sys with
    ⟨same, -⟩ | ⟨s, session, unclaimed, ⟨nothing, same⟩ | ⟨something, same⟩⟩ <;> rw [same]
  · exact List.suffix_rfl
  · exact List.suffix_rfl
  · have claimed : (sys.setSession n { s with started := true }).session? n = some { s with started := true } :=
      session?_setSession_self session _
    rcases openSession_cases origin claimed with ⟨subscription, sys', opened, result⟩ | ⟨error, sys', opened, result⟩
    all_goals
      have spends := subscribeFrom_spends opened
      simp only [result]
      exact spends

theorem answered_spends {task : Nat} {outcome : Except SagaError Handoff} {sys sys' : System}
    (h : sys.answered task outcome = some sys') : Spends sys sys' := by
  unfold answered at h
  split at h
  · split at h
    · split at h
      · cases h
        exact withSession_spends _ _ _ sys
      · cases h
    · cases h
  · cases h

theorem stepTask_spends {stopFirst : Bool} {k : Nat} {sys sys' : System} (h : sys.stepTask stopFirst k = some sys') :
    Spends sys sys' := by
  unfold stepTask at h
  split at h
  · cases h
  · obtain ⟨⟨call', next⟩, taken, h⟩ := Option.map_eq_some_iff.mp h
    cases h
    have spends := turn_spends (startStep_turn taken).1
    exact spends
  · obtain ⟨next, -, h⟩ := Option.map_eq_some_iff.mp h
    cases h
    exact List.suffix_rfl
  · obtain ⟨s, -, h⟩ := Option.bind_eq_some_iff.mp h
    obtain ⟨⟨s', executor, events⟩, -, h⟩ := Option.bind_eq_some_iff.mp h
    cases h
    exact List.suffix_rfl

end System

namespace Chronicle

theorem apply_spends {c c' : Chronicle} {move : Move} (h : c.apply move = some c') : c.system.Spends c'.system := by
  cases move with
  | openProducer topic =>
    cases h
    exact System.spends_of_same (System.openProducer_spec (rfl : c.system.openProducer .caller topic = _)).2.2.1
  | producer source =>
    cases h
    exact System.spends_of_same (System.producer_spec (rfl : c.system.producer .caller source = _)).2.2.1
  | publish topic entry =>
    cases h
    exact System.spends_of_same (System.publish_spec (rfl : c.system.publish .caller topic entry = _)).2.1
  | append step source op =>
    rcases written : c.system.append .caller step source op with ⟨result, sys⟩
    have same := (System.append_spec written).2.1
    simp only [apply, written] at h
    cases result <;> cases h <;> exact System.spends_of_same same
  | subscribe topic start =>
    cases h
    exact System.subscribe_spends ..
  | outage | engine | clock | listen | call | spawn | create =>
    cases h
    exact List.suffix_rfl
  | answer task outcome =>
    obtain ⟨sys', answered, rfl⟩ := Option.map_eq_some_iff.mp h
    exact System.answered_spends answered
  | advance i =>
    obtain ⟨call, -, h⟩ := Option.bind_eq_some_iff.mp h
    obtain ⟨⟨call', sys⟩, taken, h⟩ := Option.bind_eq_some_iff.mp h
    cases h
    exact System.turn_spends (System.startStep_turn taken).1
  | start n =>
    simp only [apply] at h
    split at h <;> cases h
    exact System.startSession_spends .caller n c.system
  | stop n =>
    cases h
    exact System.withSession_spends _ _ _ c.system
  | stopSource source =>
    cases h
    unfold System.stop
    split
    · exact List.suffix_rfl
    · exact System.withSession_spends _ _ _ c.system
  | run stopFirst k =>
    obtain ⟨sys, taken, h⟩ := Option.bind_eq_some_iff.mp h
    have spends := System.stepTask_spends taken
    split at h <;> cases h <;> exact spends

theorem honest_step {c c' : Chronicle} {move : Move} (honest : c.system.script.Honest) (h : c.apply move = some c') :
    c'.system.script.Honest := fun answer member => honest answer ((apply_spends h).subset member)

end Chronicle
end Journal
