import Journal.Proofs.Settings.Files
import Journal.Proofs.Settings.Tree
import Journal.Proofs.Text.Utf8

/-!
Settings by layers. Each setting is decided on its own, by the last of the four sources that gives it: the file
`txlog.yaml`, the file that is named, the file that the environment names, and the variables of the environment. What
an earlier source gives for it is never looked at.
-/
namespace Journal.Settings

open SettingTree

inductive Key where
  | defaultSource
  | topicPrefix
  | topicPerSource
  | pollInterval
  | unrecognized
  deriving DecidableEq

namespace Key

def type : Key → Type
  | .defaultSource | .topicPrefix => String
  | .topicPerSource => Bool
  | .pollInterval => Nat
  | .unrecognized => UnrecognizedPolicy

instance : (key : Key) → DecidableEq key.type
  | .defaultSource | .topicPrefix => inferInstanceAs (DecidableEq String)
  | .topicPerSource => inferInstanceAs (DecidableEq Bool)
  | .pollInterval => inferInstanceAs (DecidableEq Nat)
  | .unrecognized => inferInstanceAs (DecidableEq UnrecognizedPolicy)

def place : Key → Place
  | .defaultSource => ⟨"txlog", "default_source"⟩
  | .topicPrefix => ⟨"txlog", "topic_prefix"⟩
  | .topicPerSource => ⟨"txlog", "topic_per_source"⟩
  | .pollInterval => ⟨"restore", "poll_interval_ms"⟩
  | .unrecognized => ⟨"restore", "unrecognized_method"⟩

def coerce : (key : Key) → SettingTree → Except SettingsError key.type
  | .defaultSource | .topicPrefix => asText
  | .topicPerSource => asFlag
  | .pollInterval => asCount
  | .unrecognized => asPolicy

def of : (key : Key) → Settings → key.type
  | .defaultSource, s => s.log.defaultSource
  | .topicPrefix, s => s.log.topicPrefix
  | .topicPerSource, s => s.log.topicPerSource
  | .pollInterval, s => s.restore.pollInterval
  | .unrecognized, s => s.restore.unrecognized

/-- The value of a setting: what decides it, coerced to its type, or the default where nothing decides it. -/
def decided (key : Key) (value : Option SettingTree) : Except SettingsError key.type :=
  value.elim (.ok (key.of {})) key.coerce

theorem area_mem (key : Key) : key.place.area ∈ areas := by cases key <;> decide

end Key

theorem mapError_ok {α : Type} {f : SettingsError → SettingsError} {result : Except SettingsError α} {a : α} :
    result.mapError f = .ok a ↔ result = .ok a := by
  cases result <;> simp [Except.mapError]

theorem bind_ok {α β : Type} {f : α → Except SettingsError β} {result : Except SettingsError α} {b : β} :
    result >>= f = .ok b ↔ ∃ a, result = .ok a ∧ f a = .ok b := by
  cases result <;> simp [bind, Except.bind]

theorem field_table {α : Type} {part : SettingTree} (is : part.isTable = true) (name : String) (place : Nat)
    (coerce : SettingTree → Except SettingsError α) (fallback : α) :
    part.field name place coerce fallback =
      ((part.member? name).elim (.ok fallback) coerce).mapError (SettingsError.within name) := by
  obtain ⟨origin, members, rfl⟩ := exists_table is
  simp only [field, field?, member?, SettingTree.members]
  cases Table.get? name members <;> rfl

theorem logSection_ok {part : SettingTree} (is : part.isTable = true) (log : LogSettings) :
    logSection part = .ok log ↔
      Key.defaultSource.decided (part.member? "default_source") = .ok log.defaultSource ∧
      Key.topicPrefix.decided (part.member? "topic_prefix") = .ok log.topicPrefix ∧
      Key.topicPerSource.decided (part.member? "topic_per_source") = .ok log.topicPerSource := by
  obtain ⟨origin, members, rfl⟩ := exists_table is
  simp only [logSection, field_table is, bind_ok, mapError_ok, pure, Except.pure, Except.ok.injEq]
  constructor
  · rintro ⟨_, first, _, second, _, third, rfl⟩
    exact ⟨first, second, third⟩
  · rintro ⟨first, second, third⟩
    exact ⟨_, first, _, second, _, third, rfl⟩

theorem restoreSection_ok {part : SettingTree} (is : part.isTable = true) (restore : RestoreSettings) :
    restoreSection part = .ok restore ↔
      Key.pollInterval.decided (part.member? "poll_interval_ms") = .ok restore.pollInterval ∧
      Key.unrecognized.decided (part.member? "unrecognized_method") = .ok restore.unrecognized := by
  obtain ⟨origin, members, rfl⟩ := exists_table is
  simp only [restoreSection, field_table is, bind_ok, mapError_ok, pure, Except.pure, Except.ok.injEq]
  constructor
  · rintro ⟨_, first, _, second, rfl⟩
    exact ⟨first, second⟩
  · rintro ⟨first, second⟩
    exact ⟨_, first, _, second, rfl⟩

theorem logPart_ok {tree : SettingTree} (is : (tree.member? "txlog").all isTable = true) (log : LogSettings) :
    tree.section? "txlog" logSection {} = .ok log ↔
      Key.defaultSource.decided (tree.setting? Key.defaultSource.place) = .ok log.defaultSource ∧
      Key.topicPrefix.decided (tree.setting? Key.topicPrefix.place) = .ok log.topicPrefix ∧
      Key.topicPerSource.decided (tree.setting? Key.topicPerSource.place) = .ok log.topicPerSource := by
  simp only [section?, setting?, Key.place]
  cases held : tree.member? "txlog" with
  | none =>
    constructor
    · intro same
      cases same
      exact ⟨rfl, rfl, rfl⟩
    · rintro ⟨first, second, third⟩
      obtain ⟨defaultSource, topicPrefix, topicPerSource⟩ := log
      cases Except.ok.inj first
      cases Except.ok.inj second
      cases Except.ok.inj third
      rfl
  | some part =>
    rw [held] at is
    rw [mapError_ok, logSection_ok is]
    rfl

theorem restorePart_ok {tree : SettingTree} (is : (tree.member? "restore").all isTable = true) (restore : RestoreSettings) :
    tree.section? "restore" restoreSection {} = .ok restore ↔
      Key.pollInterval.decided (tree.setting? Key.pollInterval.place) = .ok restore.pollInterval ∧
      Key.unrecognized.decided (tree.setting? Key.unrecognized.place) = .ok restore.unrecognized := by
  simp only [section?, setting?, Key.place]
  cases held : tree.member? "restore" with
  | none =>
    constructor
    · intro same
      cases same
      exact ⟨rfl, rfl⟩
    · rintro ⟨first, second⟩
      obtain ⟨pollInterval, unrecognized⟩ := restore
      cases Except.ok.inj first
      cases Except.ok.inj second
      rfl
  | some part =>
    rw [held] at is
    rw [mapError_ok, restoreSection_ok is]
    rfl

theorem parts_ok {tree : SettingTree} (s : Settings) :
    tree.settings = .ok s ↔
      tree.section? "txlog" logSection {} = .ok s.log ∧ tree.section? "restore" restoreSection {} = .ok s.restore := by
  simp only [SettingTree.settings, bind_ok, pure, Except.pure, Except.ok.injEq]
  constructor
  · rintro ⟨_, log, _, restore, rfl⟩
    exact ⟨log, restore⟩
  · rintro ⟨log, restore⟩
    exact ⟨_, log, _, restore, rfl⟩

theorem settings_ok {tree : SettingTree} (sectioned : tree.Sectioned) (s : Settings) :
    tree.settings = .ok s ↔ ∀ key : Key, key.decided (tree.setting? key.place) = .ok (key.of s) := by
  rw [parts_ok, logPart_ok (sectioned _ (by decide)), restorePart_ok (sectioned _ (by decide))]
  constructor
  · rintro ⟨⟨defaultSource, topicPrefix, topicPerSource⟩, pollInterval, unrecognized⟩ key
    cases key <;> assumption
  · intro all
    exact ⟨⟨all .defaultSource, all .topicPrefix, all .topicPerSource⟩, all .pollInterval, all .unrecognized⟩

abbrev Source := List (String × SettingTree)

def contents (file : String × Bytes) : Option Source := (Utf8.decode? file.2).bind (fileSettings file.1)

variable (around : Surroundings)

def held (path : String) : Source := ((findFile around path).bind contents).getD []

def sources (path : Option String) : List Source :=
  [held around defaultFile, path.elim [] (held around), (around.environment.get? fileVariable).elim [] (held around),
    variableSettings around.environment]

/-- What the last of the sources gives that gives a setting. -/
def deciding (path : Option String) (key : Key) : Option SettingTree :=
  (sources around path).reverse.findSome? fun source => source.reverse.findSome? (given? key.place)

def Proper (path : String) : Prop :=
  ∀ file ∈ findFile around path, ∃ source ∈ contents file, ∀ entry ∈ source, plain entry = true

/-- The files hold tables of scalars, and so do the variables, each of which is about one setting. -/
structure Regular (path : Option String) : Prop where
  base : Proper around defaultFile
  named : ∀ file ∈ path, Proper around file
  chosen : ∀ file ∈ around.environment.get? fileVariable, Proper around file
  environment : ∀ entry ∈ variableSettings around.environment, plain entry = true

structure Complete (path : Option String) : Prop where
  named : ∀ file ∈ path, (findFile around file).isSome = true
  chosen : ∀ file ∈ around.environment.get? fileVariable, (findFile around file).isSome = true

variable {around} {path : Option String}

theorem Proper.plain {file : String} (proper : Proper around file) : ∀ entry ∈ held around file, plain entry = true := by
  unfold held
  cases found : findFile around file with
  | none => exact List.forall_mem_nil _
  | some found' =>
    obtain ⟨source, holds, all⟩ := proper found' found
    rw [Option.bind_some, Option.mem_def.mp holds]
    exact all

theorem opened_of_proper {file : String} {found : String × Bytes} (proper : Proper around file)
    (there : findFile around file = some found) :
    ∃ text, openFile around file = .ok (found.1, text) ∧ readFile found.1 text = .ok (held around file) := by
  obtain ⟨source, holds, -⟩ := proper found there
  have gives : held around file = source := by
    rw [held, there, Option.bind_some, Option.mem_def.mp holds]
    rfl
  obtain ⟨text, reads, given⟩ := Option.bind_eq_some_iff.mp holds
  refine ⟨text, ?_, ?_⟩
  · unfold openFile
    simp only [there]
    simp only [reads]
  · unfold readFile
    rewrite [gives]
    simp only [given]

theorem requiredFile_of_found {file : String} (proper : Proper around file) (found : (findFile around file).isSome = true) :
    requiredFile around file = .ok (held around file) := by
  obtain ⟨given, there⟩ := Option.isSome_iff_exists.mp found
  obtain ⟨text, opens, reads⟩ := opened_of_proper proper there
  rw [requiredFile, opens]
  exact reads

theorem requiredFile_of_missing {file : String} (missing : findFile around file = none) :
    requiredFile around file = .error (.missing file) := by
  simp only [requiredFile, openFile, missing]
  rfl

theorem optionalFile_of_proper {file : String} (proper : Proper around file) :
    optionalFile around file = .ok (held around file) := by
  cases there : findFile around file with
  | none => simp only [optionalFile, openFile, held, there, Option.bind_none, Option.getD_none]
  | some given =>
    obtain ⟨text, opens, reads⟩ := opened_of_proper proper there
    simp only [optionalFile, opens]
    exact reads

theorem named_ok {file : Option String} (proper : ∀ name ∈ file, Proper around name) (source : Source) :
    file.elim (.ok []) (requiredFile around) = .ok source ↔
      (∀ name ∈ file, (findFile around name).isSome = true) ∧ source = file.elim [] (held around) := by
  cases file with
  | none =>
    have none : ∀ name ∈ (none : Option String), (findFile around name).isSome = true := by simp
    constructor
    · intro same
      exact ⟨none, (Except.ok.inj same).symm⟩
    · rintro ⟨-, rfl⟩
      rfl
  | some name =>
    simp only [Option.elim_some, Option.mem_some, forall_eq']
    cases found : (findFile around name).isSome with
    | false =>
      rw [requiredFile_of_missing (Option.not_isSome_iff_eq_none.mp (by rw [found]; decide))]
      constructor
      · intro same
        cases same
      · rintro ⟨there, -⟩
        cases there
    | true =>
      rw [requiredFile_of_found (proper name rfl) found, Except.ok.injEq, eq_comm]
      exact (and_iff_right rfl).symm

theorem layers_ok (regular : Regular around path) (given : List Source) :
    layers around path = .ok given ↔ Complete around path ∧ given = sources around path := by
  simp only [layers, bind_ok, optionalFile_of_proper regular.base, named_ok regular.named, named_ok regular.chosen,
    Except.ok.injEq, pure, Except.pure]
  constructor
  · rintro ⟨_, rfl, _, ⟨named, rfl⟩, _, ⟨chosen, rfl⟩, rfl⟩
    exact ⟨⟨named, chosen⟩, rfl⟩
  · rintro ⟨⟨named, chosen⟩, rfl⟩
    exact ⟨_, rfl, _, ⟨named, rfl⟩, _, ⟨chosen, rfl⟩, rfl⟩

theorem Regular.plain (regular : Regular around path) :
    ∀ source ∈ sources around path, ∀ entry ∈ source, plain entry = true := by
  have optional : ∀ file : Option String, (∀ name ∈ file, Proper around name) →
      ∀ entry ∈ file.elim [] (held around), SettingTree.plain entry = true := by
    intro file proper
    cases file with
    | none => exact List.forall_mem_nil _
    | some name => exact (proper name rfl).plain
  intro source member
  simp only [sources, List.mem_cons, List.not_mem_nil, or_false] at member
  rcases member with rfl | rfl | rfl | rfl
  · exact regular.base.plain
  · exact optional path regular.named
  · exact optional _ regular.chosen
  · exact regular.environment

theorem setting?_layered {given : List Source} {place : Place} (known : place.area ∈ areas)
    (regular : ∀ source ∈ given, ∀ entry ∈ source, SettingTree.plain entry = true) (tree : SettingTree) :
    (given.foldl (fun tree entries => tree.overlay entries) tree).setting? place =
      (given.reverse.findSome? fun source => source.reverse.findSome? (given? place)).or (tree.setting? place) := by
  induction given generalizing tree with
  | nil => rfl
  | cons source later ih =>
    obtain ⟨here, regular⟩ := List.forall_mem_cons.mp regular
    rw [List.foldl_cons, ih regular, setting?_overlay known here, List.reverse_cons, List.findSome?_append,
      Option.or_assoc, List.findSome?_singleton]

theorem sectioned_layered {given : List Source} (regular : ∀ source ∈ given, ∀ entry ∈ source, SettingTree.plain entry = true)
    {tree : SettingTree} (sectioned : tree.Sectioned) :
    (given.foldl (fun tree entries => tree.overlay entries) tree).Sectioned := by
  induction given generalizing tree with
  | nil => exact sectioned
  | cons source later ih =>
    obtain ⟨here, regular⟩ := List.forall_mem_cons.mp regular
    exact ih regular (sectioned.overlay here)

theorem load_ok (regular : Regular around path) (s : Settings) :
    load around path = .ok s ↔
      Complete around path ∧ ∀ key : Key, key.decided (deciding around path key) = .ok (key.of s) := by
  have sectioned := sectioned_layered regular.plain sectioned_empty
  have settled : ∀ key : Key,
      ((sources around path).foldl (fun tree entries => tree.overlay entries) empty).setting? key.place =
        deciding around path key := by
    intro key
    rw [setting?_layered key.area_mem regular.plain]
    exact Option.or_none
  simp only [load, bind_ok, layers_ok regular]
  constructor
  · rintro ⟨_, ⟨complete, rfl⟩, reads⟩
    rw [settings_ok sectioned] at reads
    exact ⟨complete, fun key => settled key ▸ reads key⟩
  · rintro ⟨complete, reads⟩
    refine ⟨_, ⟨complete, rfl⟩, ?_⟩
    rw [settings_ok sectioned]
    exact fun key => (settled key).symm ▸ reads key

end Journal.Settings
