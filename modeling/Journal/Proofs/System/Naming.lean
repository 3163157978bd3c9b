import Journal.Proofs.System.Extension
import Mathlib.Data.List.Forall2

/-!
The default source goes by three names: none at all, the empty one, and its own. Writes and requests for restores may
use any of them, at every turn another one, and through the control or at the registry: the system comes to the same,
and so does every answer. Only the list of accepted writes tells how a source was named.
-/
namespace Journal

namespace LogSettings

variable {names : LogSettings} {a b : Option String}

def NamesDefault (names : LogSettings) (source : Option String) : Prop :=
  source = none ∨ source = some "" ∨ source = some names.defaultSource

instance (names : LogSettings) (source : Option String) : Decidable (names.NamesDefault source) :=
  inferInstanceAs (Decidable (_ ∨ _ ∨ _))

def Alias (names : LogSettings) (a b : Option String) : Prop := a = b ∨ names.NamesDefault a ∧ names.NamesDefault b

instance (names : LogSettings) (a b : Option String) : Decidable (names.Alias a b) :=
  inferInstanceAs (Decidable (_ ∨ _ ∧ _))

theorem NamesDefault.resolved (h : names.NamesDefault a) : names.sourceOrDefault a = names.defaultSource := by
  rcases h with rfl | rfl | rfl
  · rfl
  · rfl
  · exact ite_self _

theorem default_or_resolved (names : LogSettings) (a : Option String) :
    names.NamesDefault a ∨ a = some (names.sourceOrDefault a) := by
  cases a with
  | none => exact .inl (.inl rfl)
  | some source =>
    by_cases empty : source = ""
    · exact .inl (.inr (.inl (congrArg some empty)))
    · exact .inr (congrArg some (if_neg empty).symm)

theorem alias_iff : names.Alias a b ↔ names.sourceOrDefault a = names.sourceOrDefault b := by
  constructor
  · rintro (rfl | ⟨first, second⟩)
    · rfl
    · rw [first.resolved, second.resolved]
  · intro same
    have named {c d : Option String} (first : names.NamesDefault c) (resolved : d = some (names.sourceOrDefault d))
        (same : names.sourceOrDefault c = names.sourceOrDefault d) : names.NamesDefault d :=
      .inr (.inr (by rw [resolved, ← same, first.resolved]))
    rcases names.default_or_resolved a with first | first <;> rcases names.default_or_resolved b with second | second
    · exact .inr ⟨first, second⟩
    · exact .inr ⟨first, named first second same⟩
    · exact .inr ⟨named second first same.symm, second⟩
    · exact .inl (by rw [first, second, same])

theorem sourceOrDefault_again (names : LogSettings) (a : Option String) :
    names.sourceOrDefault (some (names.sourceOrDefault a)) = names.sourceOrDefault a := by
  rcases names.default_or_resolved a with named | resolved
  · rw [named.resolved]
    exact ite_self _
  · rw [← resolved]

end LogSettings

/-- How a request for a source comes to the registry, which resolves what it is given. The control has resolved it
before. -/
inductive Way where
  | control (source : Option String)
  | registry (source : String)

namespace Way

def source : Way → Option String
  | .control source => source
  | .registry source => some source

def given (names : LogSettings) : Way → String
  | .control source => names.sourceOrDefault source
  | .registry source => source

theorem given_resolved (names : LogSettings) (way : Way) :
    names.sourceOrDefault (some (way.given names)) = names.sourceOrDefault way.source := by
  cases way with
  | control source => exact names.sourceOrDefault_again source
  | registry source => rfl

theorem given_alias {names : LogSettings} {way way' : Way} (named : names.Alias way.source way'.source) :
    names.sourceOrDefault (some (way.given names)) = names.sourceOrDefault (some (way'.given names)) := by
  rw [given_resolved, given_resolved, LogSettings.alias_iff.mp named]

end Way

namespace System

variable {sys : System} {a b : Option String} (same : sys.pool.sourceOrDefault a = sys.pool.sourceOrDefault b)

include same

theorem append_alias (origin : Origin) (step : AppendStep) (op : Operation) :
    sys.append origin step a op = sys.append origin step b op := by
  simp only [append, same]

theorem startCall_alias (bounds : Bounds) : sys.startCall a bounds = sys.startCall b bounds := by
  simp only [startCall, same]

theorem slot_alias : sys.slot? a = sys.slot? b := by
  simp only [slot?, same]

theorem status_alias : sys.status a = sys.status b := by
  simp only [status, slot_alias same]

theorem stop_alias (origin : Origin) : sys.stop origin a = sys.stop origin b := by
  simp only [stop, slot_alias same]

end System

namespace Chronicle

variable {c c' : Chronicle}

/-- What is done for a source, and all that may happen besides. -/
inductive Act where
  | append (step : AppendStep) (source : Option String) (op : Operation)
  | start (own : Bool) (way : Way) (bounds : Except RestoreError Bounds)
  | status (way : Way)
  | stop (way : Way)
  | list
  | result (call : CallId)
  | move (move : Move)

inductive Reply where
  | done
  | appended (result : Except StepError Appended)
  | refused (error : RestoreError)
  | progress (progress : Option Progress)
  | list (progresses : List Progress)
  | result (result : Option (Except RestoreError (Option Progress)))

def result? (c : Chronicle) (id : CallId) : Option (Except RestoreError (Option Progress)) :=
  match (c.call? id).map StartCall.phase with
  | some (.returned result) => some (result.map c.system.progressOf)
  | _ => none

namespace Act

def move? (names : LogSettings) : Act → Option Move
  | .append step source op => some (.append step source op)
  | .start own way bounds =>
    bounds.toOption.map fun bounds =>
      if own then .spawn (some (way.given names)) bounds else .call (some (way.given names)) bounds
  | .stop way => some (.stopSource (some (way.given names)))
  | .move other => some other
  | .status _ | .list | .result _ => none

def apply (act : Act) (c : Chronicle) : Option Chronicle :=
  match act.move? c.system.pool.settings with
  | some made => c.apply made
  | none => some c

def reply (c : Chronicle) : Act → Reply
  | .append step source op => .appended (c.system.append .caller step source op).1
  | .start _ _ (.error error) => .refused error
  | .start _ _ (.ok _) | .move _ => .done
  | .status way => .progress (c.system.status (some (way.given c.system.pool.settings)))
  | .stop way => .progress (c.system.stop .caller (some (way.given c.system.pool.settings))).1
  | .list => .list c.system.list
  | .result id => .result (c.result? id)

/-- The same is done, but the default source may be named otherwise, and the way may be another one. -/
inductive Alike (names : LogSettings) : Act → Act → Prop where
  | append {step : AppendStep} {op : Operation} {a b : Option String} (named : names.Alias a b) :
      Alike names (.append step a op) (.append step b op)
  | start {own : Bool} {bounds : Except RestoreError Bounds} {way way' : Way}
      (named : names.Alias way.source way'.source) : Alike names (.start own way bounds) (.start own way' bounds)
  | status {way way' : Way} (named : names.Alias way.source way'.source) : Alike names (.status way) (.status way')
  | stop {way way' : Way} (named : names.Alias way.source way'.source) : Alike names (.stop way) (.stop way')
  | same (act : Act) : Alike names act act

end Act

def carryOut : List Act → Chronicle → Option (List Reply × Chronicle)
  | [], c => some ([], c)
  | act :: later, c =>
    (act.apply c).bind fun next => (carryOut later next).map fun rest => (act.reply c :: rest.1, rest.2)

/-- A chronicle without the list of accepted writes, which alone holds the sources as they were named. -/
def unnamed (c : Chronicle) : Chronicle := { c with notes := { c.notes with accepted := [] } }

@[simp] theorem unnamed_system (c : Chronicle) : c.unnamed.system = c.system := rfl

@[simp] theorem unnamed_callers (c : Chronicle) : c.unnamed.callers = c.callers := rfl

theorem follow_unnamed (id : CallId) (call call' : StartCall) (before after : System) (notes : Notes) :
    { notes.follow id call call' before after with accepted := [] } =
      { notes with accepted := [] }.follow id call call' before after := by
  unfold Notes.follow
  split <;> rfl

theorem apply_unnamed (c : Chronicle) (move : Move) :
    (c.unnamed.apply move).map unnamed = (c.apply move).map unnamed := by
  cases move with
  | openProducer | producer | publish | subscribe | outage | engine | clock | listen | call | spawn | create | stop |
    stopSource => rfl
  | append step source op =>
    simp only [apply, unnamed]
    split <;> rfl
  | answer task outcome =>
    simp only [apply, Option.map_map]
    rfl
  | start n =>
    have opens : c.unnamed.notes.isOpen n = c.notes.isOpen n := rfl
    simp only [apply, opens]
    split <;> rfl
  | advance i =>
    simp only [apply, unnamed_callers, unnamed_system]
    cases found : c.callers[i]? with
    | none => rfl
    | some call =>
      cases stepped : c.system.startStep .caller call with
      | none => simp [stepped]
      | some next => simp [stepped, unnamed, follow_unnamed]
  | run first task =>
    simp only [apply, unnamed_system]
    cases stepped : c.system.stepTask first task with
    | none => rfl
    | some sys =>
      simp only [Option.bind_eq_bind, Option.bind_some]
      split
      · simp [unnamed, follow_unnamed]
      · rfl

namespace Act

theorem apply_unnamed (c : Chronicle) (act : Act) : (act.apply c.unnamed).map unnamed = (act.apply c).map unnamed := by
  simp only [apply, unnamed_system]
  split
  · exact Chronicle.apply_unnamed c _
  · rfl

theorem reply_unnamed (c : Chronicle) (act : Act) : act.reply c.unnamed = act.reply c := by
  cases act with
  | start _ _ bounds => cases bounds <;> rfl
  | append | status | stop | list | result | move => rfl

theorem settings_stay {act : Act} (made : act.apply c = some c') :
    c'.system.pool.settings = c.system.pool.settings := by
  unfold apply at made
  split at made
  · exact (apply_extends made).names
  · cases made
    rfl

variable {act act' : Act}

theorem Alike.apply (alike : Alike c.system.pool.settings act act') :
    (act'.apply c).map unnamed = (act.apply c).map unnamed := by
  cases alike with
  | append named =>
    have same := System.append_alias (LogSettings.alias_iff.mp named) .caller
    simp only [Act.apply, move?, Chronicle.apply, same]
    split <;> rfl
  | @start own bounds way way' named =>
    have same := Way.given_alias named
    cases bounds with
    | error => rfl
    | ok bounds =>
      have call := System.startCall_alias same bounds
      cases own <;> simp [Act.apply, move?, Chronicle.apply, Except.toOption, call]
  | status | same => rfl
  | stop named =>
    have same := Way.given_alias named
    simp only [Act.apply, move?, Chronicle.apply, System.stop_alias same]

theorem Alike.reply (alike : Alike c.system.pool.settings act act') : act'.reply c = act.reply c := by
  cases alike with
  | append named => simp only [Act.reply, System.append_alias (LogSettings.alias_iff.mp named)]
  | @start _ bounds => cases bounds <;> rfl
  | same => rfl
  | status named | stop named =>
    have same := Way.given_alias named
    simp only [Act.reply, System.status_alias same, System.stop_alias same]

end Act

theorem carryOut_alike {names : LogSettings} {acts acts' : List Act} (alike : List.Forall₂ (Act.Alike names) acts acts')
    (settled : c.system.pool.settings = names) (same : c'.unnamed = c.unnamed) :
    (carryOut acts' c').map (fun r => (r.1, r.2.unnamed)) = (carryOut acts c).map fun r => (r.1, r.2.unnamed) := by
  induction alike generalizing c c' with
  | nil => simp only [carryOut, Option.map_some, same]
  | @cons act act' _ _ first _ ih =>
    subst settled
    have reply : act'.reply c' = act.reply c := by
      rw [← first.reply, ← Act.reply_unnamed c', same, Act.reply_unnamed]
    have comes : (act'.apply c').map unnamed = (act.apply c).map unnamed := by
      rw [← first.apply, ← Act.apply_unnamed c', same, Act.apply_unnamed]
    simp only [carryOut, reply]
    cases made : act.apply c with
    | none =>
      rw [made] at comes
      rw [Option.map_eq_none_iff.mp comes]
      rfl
    | some next =>
      rw [made] at comes
      obtain ⟨next', made', same'⟩ := Option.map_eq_some_iff.mp comes
      have rest := congrArg (Option.map fun r => (act.reply c :: r.1, r.2)) (ih (Act.settings_stay made) same')
      simp only [made', Option.bind_some, Option.map_map] at rest ⊢
      exact rest

/-- What is to be seen of acts that were carried out: the replies, the system and the calls. -/
def view (done : List Reply × Chronicle) : List Reply × System × List StartCall :=
  (done.1, done.2.system, done.2.callers)

/-- Whatever is done in whatever order: with other names for the default source, the same is possible, all replies are
the same, and so is the system, with its topics, sessions and slots. -/
theorem every_name_of_the_default_source_is_the_same {settings : Settings} {executor : Executor} {script : Script}
    {acts acts' : List Act} (alike : List.Forall₂ (Act.Alike settings.log) acts acts') :
    (carryOut acts' (opened settings executor script)).map view =
      (carryOut acts (opened settings executor script)).map view := by
  have same := carryOut_alike alike (c := opened settings executor script) rfl rfl
  have seen := congrArg (Option.map fun r => (r.1, r.2.system, r.2.callers)) same
  simp only [Option.map_map] at seen
  exact seen

def joinedRestore (put deleted : Option String) (started joined stopped shown : Way) : List Act :=
  let document : Operation :=
    { tx := .ofNat 5, method := .put, schema := "default", space := "data", entity := "user", id := "a"
      version := ⟨0, 0, 0⟩, body := none }
  [.append .put put document, .start false started (.ok {}), .move (.advance 0), .move (.advance 0), .move (.advance 0),
    .move (.advance 0), .move (.advance 0), .move (.advance 0),
    .append .delete deleted { document with tx := .ofNat 7 }, .start false joined (.ok {}), .move (.advance 1),
    .result (.caller 1), .stop stopped, .status shown, .list]

def oneNaming : List Act :=
  joinedRestore none (some "") (.control none) (.registry "") (.control (some "default")) (.registry "")

def otherNaming : List Act :=
  joinedRestore (some "default") none (.registry "default") (.control (some "")) (.registry "") (.control none)

theorem a_restore_is_joined_by_another_name : ∃ replies c c',
    carryOut oneNaming (opened {} .logging {}) = some (replies, c) ∧
      carryOut otherNaming (opened {} .logging {}) = some (replies, c') ∧ c'.system = c.system ∧
      c.system.log.topics.names = ["tx-default"] ∧ (c.system.log.entries "tx-default").length = 2 ∧
      c.system.slots = [("default", 0)] ∧ c.system.sessions.length = 1 := by
  have alike : List.Forall₂ (Act.Alike ({} : Settings).log) oneNaming otherNaming :=
    .cons (.append (by decide)) <| .cons (.start (by decide)) <| .cons (.same _) <| .cons (.same _) <|
      .cons (.same _) <| .cons (.same _) <| .cons (.same _) <| .cons (.same _) <| .cons (.append (by decide)) <|
      .cons (.start (by decide)) <| .cons (.same _) <| .cons (.same _) <| .cons (.stop (by decide)) <|
      .cons (.status (by decide)) <| .cons (.same _) .nil
  have goes : ∃ done ∈ carryOut oneNaming (opened {} .logging {}), done.2.system.log.topics.names = ["tx-default"] ∧
      (done.2.system.log.entries "tx-default").length = 2 ∧ done.2.system.slots = [("default", 0)] ∧
      done.2.system.sessions.length = 1 := by
    decide +kernel
  obtain ⟨⟨replies, c⟩, ran, comes⟩ := goes
  have same := @every_name_of_the_default_source_is_the_same {} .logging {} _ _ alike
  rw [ran] at same
  obtain ⟨⟨replies', c'⟩, ran', seen⟩ := Option.map_eq_some_iff.mp same
  obtain ⟨rfl, system, -⟩ : replies' = replies ∧ c'.system = c.system ∧ c'.callers = c.callers := by
    simpa only [view, Prod.mk.injEq] using seen
  exact ⟨replies', c, c', ran, ran', system, comes⟩

end Chronicle
end Journal
