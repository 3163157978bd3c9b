import Journal.Proofs.Decimal.Spelling
import Journal.Proofs.Settings.Layers
import Mathlib.Data.List.Induction

/-!
Texts from variables. The value of a variable is taken for a truth value or a number where it looks like one, also if it
is for a setting that is a text, and the setting is then the text of that value. So not every text comes through as it
was written.
-/
namespace Journal.SettingTree

structure Holds (place : Place) (value tree : SettingTree) : Prop where
  table : (tree.member? place.area).all isTable = true
  setting : tree.setting? place = some value

def spares (place : Place) : List PathStep → Bool
  | .child area :: .child name :: _ => place.area ≠ Text.lower area || place.name ≠ Text.lower name
  | .child area :: _ => place.area ≠ Text.lower area
  | _ => false

theorem spares_cases {place : Place} {steps : List PathStep} (spared : spares place steps = true) :
    ∃ area rest, steps = .child area :: rest ∧ (place.area ≠ Text.lower area ∨
      ∃ name more, rest = .child name :: more ∧ place.name ≠ Text.lower name) := by
  unfold spares at spared
  split at spared
  · rename_i area name more
    simp only [Bool.or_eq_true, decide_eq_true_eq] at spared
    exact ⟨area, _, rfl, spared.imp_right fun other => ⟨name, more, rfl, other⟩⟩
  · rename_i area rest _
    exact ⟨area, rest, rfl, .inl (of_decide_eq_true spared)⟩
  · cases spared

theorem isTable_putAt (area : String) (steps : List PathStep) (incoming tree : SettingTree) :
    (putAt (.child area :: steps) incoming tree).isTable = true := by
  cases steps with
  | nil => rw [putAt_child, isTable_change]
  | cons step steps => rw [putAt_deeper area (List.cons_ne_nil step steps), isTable_change]

variable {place : Place} {value tree : SettingTree}

theorem setting?_change {area : String} (same : place.area = Text.lower area) (f : Option SettingTree → SettingTree) :
    (tree.change area f).setting? place = (f (tree.member? place.area)).member? place.name := by
  rw [setting?, member?_change, if_pos same]
  rfl

theorem Holds.putAt (holds : Holds place value tree) {steps : List PathStep} (spared : spares place steps = true)
    (incoming : SettingTree) : Holds place value (putAt steps incoming tree) := by
  obtain ⟨area, rest, rfl, other⟩ := spares_cases spared
  by_cases same : place.area = Text.lower area
  · obtain ⟨name, more, rfl, elsewhere⟩ := other.resolve_left (not_not_intro same)
    obtain ⟨part, there, held⟩ := Option.bind_eq_some_iff.mp holds.setting
    rw [putAt_deeper area (List.cons_ne_nil _ more)]
    constructor
    · rw [member?_change, if_pos same]
      exact isTable_putAt name more incoming _
    · rw [setting?_change same, member?_putAt_other elsewhere, there]
      exact held
  · constructor
    · rw [member?_putAt_other same]
      exact holds.table
    · rw [setting?, member?_putAt_other same]
      exact holds.setting

theorem holds_putAt {area name : String} (section_ : place.area = Text.lower area) (named : place.name = Text.lower name)
    (leaf : value.isLeaf = true) (tree : SettingTree) :
    Holds place value (putAt [.child area, .child name] value tree) := by
  rw [putAt_deeper area (by simp)]
  constructor
  · rw [member?_change, if_pos section_]
    exact isTable_putAt name [] value _
  · rw [setting?_change section_, putAt_child, member?_change, if_pos named, onto_of_leaf leaf]

theorem holds_overlay {entries : List (String × SettingTree)} {entry : String × SettingTree} (there : entry ∈ entries)
    (puts : ∀ tree, Holds place value (putAt (path entry.1) entry.2 tree))
    (alone : ∀ other ∈ entries, other = entry ∨ spares place (path other.1) = true) (tree : SettingTree) :
    Holds place value (tree.overlay entries) := by
  induction entries using List.reverseRecOn with
  | nil => cases there
  | append_singleton earlier last ih =>
    rw [overlay, List.foldl_append, List.foldl_cons, List.foldl_nil]
    by_cases same : last = entry
    · rw [same]
      exact puts _
    · have spared := (alone last (by simp)).resolve_left same
      have before : entry ∈ earlier := by
        rcases List.mem_append.mp there with before | last
        · exact before
        · exact absurd (List.mem_singleton.mp last).symm same
      exact (ih before fun other member => alone other (List.mem_append_left _ member)).putAt spared last.2

end Journal.SettingTree

namespace Journal.Settings

open SettingTree

/-- The text of what the value of a variable is taken for. -/
def taken (v : String) : String :=
  if Text.lower v ∈ ["true", "false"] then Text.lower v
  else match Decimal.signed? v with
    | some n => toString n
    | none => (Binary64.ofText? v).elim v Binary64.plainText

/-- The texts that come through: truth values in small letters, whole numbers without superfluous signs and zeros, real
numbers in their plain form, and all that is neither. -/
def Verbatim (v : String) : Prop :=
  if Text.lower v ∈ ["true", "false"] then Text.lower v = v
  else if (Decimal.signed? v).isSome then Decimal.Plain v.toList
  else ∀ x ∈ Binary64.ofText? v, x.plainText = v

theorem asText_variable (origin : Option String) (v : String) :
    asText (.leaf origin (variableSetting v)) = .ok (taken v) := by
  unfold variableSetting taken
  split
  · rename_i same
    rw [same]
    rfl
  · rename_i other
    split
    · rename_i same
      rw [same]
      rfl
    · rename_i another
      rw [if_neg (by simp [other, another])]
      cases Decimal.signed? v with
      | some n => rfl
      | none => cases Binary64.ofText? v <;> rfl

theorem taken_eq_iff (v : String) : taken v = v ↔ Verbatim v := by
  unfold taken Verbatim
  split
  · rfl
  · cases reads : Decimal.signed? v with
    | some n => exact Decimal.toString_signed reads
    | none => cases Binary64.ofText? v <;> simp

inductive TextKey where
  | defaultSource
  | topicPrefix

namespace TextKey

def name : TextKey → String
  | .defaultSource => "TXLOG__TXLOG__DEFAULT_SOURCE"
  | .topicPrefix => "TXLOG__TXLOG__TOPIC_PREFIX"

def place : TextKey → Place
  | .defaultSource => Key.defaultSource.place
  | .topicPrefix => Key.topicPrefix.place

def of : TextKey → Settings → String
  | .defaultSource, s => s.log.defaultSource
  | .topicPrefix, s => s.log.topicPrefix

theorem area (key : TextKey) : key.place.area = "txlog" := by cases key <;> rfl

theorem path (key : TextKey) : ∃ path, variablePath? key.name = some path ∧
    SettingTree.path path = [.child "txlog", .child key.place.name] := by
  cases key
  · exact ⟨"txlog.default_source", by decide +kernel, by decide +kernel⟩
  · exact ⟨"txlog.topic_prefix", by decide +kernel, by decide +kernel⟩

theorem lower_place (key : TextKey) : key.place.name = Text.lower key.place.name := by
  cases key <;> decide +kernel

end TextKey

theorem TextKey.holds (key : TextKey) {path v : String} (leads : variablePath? key.name = some path)
    (tree : SettingTree) :
    Holds key.place (.leaf (some environmentName) (variableSetting v))
      (putAt (SettingTree.path path) (.leaf (some environmentName) (variableSetting v)) tree) := by
  obtain ⟨path', leads', steps⟩ := key.path
  cases leads.symm.trans leads'
  rw [steps]
  exact holds_putAt (key.area.trans (by decide +kernel)) key.lower_place rfl tree

/-- All other variables lead past the setting. -/
def Alone (around : Surroundings) (key : TextKey) (v : String) : Prop :=
  ∀ entry ∈ around.environment, entry = (key.name, v) ∨
    ∀ path ∈ variablePath? entry.1, spares key.place (SettingTree.path path) = true

variable {around : Surroundings} {path : Option String} {key : TextKey} {v : String}

theorem holds_variables (given : (key.name, v) ∈ around.environment) (alone : Alone around key v) (tree : SettingTree) :
    Holds key.place (.leaf (some environmentName) (variableSetting v))
      (tree.overlay (variableSettings around.environment)) := by
  obtain ⟨leads, leadsTo, -⟩ := key.path
  have there : (leads, .leaf (some environmentName) (variableSetting v)) ∈ variableSettings around.environment :=
    List.mem_filterMap.mpr ⟨_, given, by rw [leadsTo, Option.map_some]⟩
  refine holds_overlay there (key.holds leadsTo) ?_ tree
  intro other member
  obtain ⟨entry, present, same⟩ := List.mem_filterMap.mp member
  obtain ⟨path, leads', rfl⟩ := Option.map_eq_some_iff.mp same
  rcases alone entry present with rfl | spared
  · cases leadsTo.symm.trans leads'
    exact .inl rfl
  · exact .inr (spared path leads')

theorem TextKey.asText_of_settings {value tree : SettingTree} (holds : Holds key.place value tree) {s : Settings}
    (reads : tree.settings = .ok s) : asText value = .ok (key.of s) := by
  have table := holds.table
  rw [key.area] at table
  obtain ⟨defaultSource, topicPrefix, -⟩ := (logPart_ok table s.log).mp ((parts_ok s).mp reads).1
  cases key with
  | defaultSource =>
    have setting := holds.setting
    rw [TextKey.place] at setting
    rw [setting] at defaultSource
    exact defaultSource
  | topicPrefix =>
    have setting := holds.setting
    rw [TextKey.place] at setting
    rw [setting] at topicPrefix
    exact topicPrefix

theorem variables_last {given : List Source} (gathers : layers around path = .ok given) :
    ∃ files, given = files ++ [variableSettings around.environment] := by
  obtain ⟨base, -, gathers⟩ := bind_ok.mp gathers
  obtain ⟨named, -, gathers⟩ := bind_ok.mp gathers
  obtain ⟨chosen, -, gathers⟩ := bind_ok.mp gathers
  cases gathers
  exact ⟨[base, named, chosen], rfl⟩

/-- Whatever the files hold: a setting that is a text is the text of what the value of its variable is taken for, and
that is the value as it was written exactly if it is verbatim. -/
theorem texts_of_variables_are_taken_for_what_they_look_like (given : (key.name, v) ∈ around.environment)
    (alone : Alone around key v) {s : Settings} (loads : load around path = .ok s) :
    key.of s = taken v ∧ (key.of s = v ↔ Verbatim v) := by
  obtain ⟨gathered, gathers, reads⟩ := bind_ok.mp loads
  obtain ⟨files, rfl⟩ := variables_last gathers
  rw [List.foldl_append, List.foldl_cons, List.foldl_nil] at reads
  have same := key.asText_of_settings (holds_variables given alone _) reads
  rw [asText_variable, Except.ok.injEq] at same
  rw [← same]
  exact ⟨rfl, taken_eq_iff v⟩

def numbered : Surroundings where
  environment := [("TXLOG__TXLOG__DEFAULT_SOURCE", "007"), ("TXLOG__TXLOG__TOPIC_PREFIX", "log-")]

theorem a_source_loses_its_zeros : ∃ s : Settings, Alone numbered .defaultSource "007" ∧ load numbered none = .ok s ∧
    s.log.defaultSource = "7" ∧ ¬ Verbatim "007" := by
  have missing : findFile numbered defaultFile = none := by
    simp [findFile, defaultFile, @candidates_of_name "txlog.yaml" (by decide +kernel) (by decide), numbered, Table.get?]
  have unchosen : numbered.environment.get? fileVariable = none := by decide
  have regular : Regular numbered none := by
    refine ⟨?_, by simp, by simp [unchosen], by decide +kernel⟩
    intro file found
    cases missing.symm.trans found
  have complete : Complete numbered none := ⟨by simp, by simp [unchosen]⟩
  have unset : held numbered defaultFile = [] := by rw [held, missing]; rfl
  have loads : load numbered none = .ok ⟨⟨"7", "log-", true⟩, {}⟩ := by
    refine (load_ok regular _).mpr ⟨complete, fun key => ?_⟩
    rw [deciding, sources, unset]
    cases key <;> decide +kernel
  have alone : Alone numbered .defaultSource "007" := by
    unfold Alone
    decide +kernel
  have same := @texts_of_variables_are_taken_for_what_they_look_like numbered none .defaultSource "007" (by decide) alone _ loads
  refine ⟨_, alone, loads, same.1.trans (by decide +kernel), fun verbatim => ?_⟩
  exact absurd (same.2.mpr verbatim) (by decide)

end Journal.Settings
