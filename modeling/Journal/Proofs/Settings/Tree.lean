import Journal.Settings.Tree

/-!
Settings in a tree, looked up by section and name. What a source gives under a path bears on the settings of that path
only: it replaces those it names and leaves all others as they were.
-/
namespace Journal.SettingTree

/-- Where a setting stands: in which section and under which name, both in small letters. -/
structure Place where
  area : String
  name : String
  deriving DecidableEq

def setting? (place : Place) (tree : SettingTree) : Option SettingTree :=
  (tree.member? place.area).bind fun part => part.member? place.name

def isLeaf : SettingTree → Bool
  | .leaf .. => true
  | _ => false

def isTable : SettingTree → Bool
  | .table .. => true
  | _ => false

theorem exists_table {tree : SettingTree} (is : tree.isTable = true) : ∃ origin members, tree = .table origin members := by
  cases tree with
  | table origin members => exact ⟨origin, members, rfl⟩
  | _ => cases is

def lastOf {κ α : Type} [DecidableEq κ] (key : κ) (given : List (κ × α)) : Option α := given.reverse.lookup key

section

variable {κ α : Type} [DecidableEq κ]

theorem lastOf_append (key : κ) (earlier later : List (κ × α)) :
    lastOf key (earlier ++ later) = (lastOf key later).or (lastOf key earlier) := by
  rw [lastOf, List.reverse_append, List.lookup_append]
  rfl

theorem lastOf_single (key other : κ) (value : α) :
    lastOf key [(other, value)] = if key = other then some value else none := by
  by_cases same : key = other
  · simp [lastOf, same]
  · simp [lastOf, List.lookup_cons, beq_false_of_ne same, same]

theorem lastOf_cons (key : κ) (pair : κ × α) (later : List (κ × α)) :
    lastOf key (pair :: later) = (lastOf key later).or (lastOf key [pair]) :=
  lastOf_append key [pair] later

end

variable {tree : SettingTree}

theorem member?_change (name : String) (f : Option SettingTree → SettingTree) (other : String) :
    (tree.change name f).member? other =
      if other = Text.lower name then some (f (tree.member? other)) else tree.member? other := by
  split
  · rename_i same
    subst same
    exact Table.get?_insert_self ..
  · rename_i different
    exact Table.get?_insert_other different ..

@[simp] theorem isTable_change (name : String) (f : Option SettingTree → SettingTree) :
    (tree.change name f).isTable = true := rfl

def onto (incoming : SettingTree) (target : Option SettingTree) : SettingTree :=
  match incoming with
  | .table _ members => putAll members (target.getD empty)
  | other => other

theorem put_eq (name : String) (incoming tree : SettingTree) : put name incoming tree = tree.change name incoming.onto := by
  cases incoming <;> rw [put] <;> rfl

theorem onto_of_leaf {incoming : SettingTree} (leaf : incoming.isLeaf = true) (target : Option SettingTree) :
    incoming.onto target = incoming := by
  cases incoming with
  | leaf => rfl
  | _ => cases leaf

theorem member?_putAll {members : List (String × SettingTree)} (leaves : ∀ member ∈ members, member.2.isLeaf = true)
    (tree : SettingTree) (name : String) :
    (putAll members tree).member? name =
      (lastOf name (members.map fun member => (Text.lower member.1, member.2))).or (tree.member? name) := by
  induction members generalizing tree with
  | nil => rfl
  | cons member members ih =>
    obtain ⟨leaf, later⟩ := List.forall_mem_cons.mp leaves
    rw [putAll, ih later, put_eq, member?_change, onto_of_leaf leaf, List.map_cons, lastOf_cons, lastOf_single,
      Option.or_assoc]
    split <;> rfl

theorem isTable_putAll {members : List (String × SettingTree)} (is : tree.isTable = true) :
    (putAll members tree).isTable = true := by
  induction members generalizing tree with
  | nil => exact is
  | cons member members ih =>
    rw [putAll, put_eq]
    exact ih rfl

theorem putAt_child (area : String) (incoming tree : SettingTree) :
    putAt [.child area] incoming tree = tree.change area incoming.onto := put_eq area incoming tree

theorem putAt_deeper (area : String) {steps : List PathStep} (deeper : steps ≠ []) (incoming tree : SettingTree) :
    putAt (.child area :: steps) incoming tree =
      tree.change area fun target => putAt steps incoming (target.getD void) := by
  have last : (PathStep.child area :: steps).getLast? = steps.getLast? := by
    rw [List.getLast?_cons, List.getLast?_eq_some_getLast deeper]
    rfl
  cases ends : steps.getLast? with
  | none => exact absurd (List.getLast?_eq_none_iff.mp ends) deeper
  | some step =>
    cases step <;> simp only [putAt, last, ends, List.dropLast_cons_of_ne_nil deeper, changeAt]

theorem member?_putAt_other {area other : String} (different : other ≠ Text.lower area) (steps : List PathStep)
    (incoming : SettingTree) : (putAt (.child area :: steps) incoming tree).member? other = tree.member? other := by
  cases steps with
  | nil => rw [putAt_child, member?_change, if_neg different]
  | cons step steps => rw [putAt_deeper area (List.cons_ne_nil step steps), member?_change, if_neg different]

def areas : List String := ["txlog", "restore"]

def inside : List PathStep → SettingTree → List (String × SettingTree)
  | [], .table _ members => members.map fun member => (Text.lower member.1, member.2)
  | [.child name], value => [(Text.lower name, value)]
  | _, _ => []

def given? (place : Place) (entry : String × SettingTree) : Option SettingTree :=
  match path entry.1 with
  | .child area :: rest => if place.area = Text.lower area then lastOf place.name (inside rest entry.2) else none
  | _ => none

def scalars : List PathStep → SettingTree → Bool
  | [], .table _ members => members.all fun member => member.2.isLeaf
  | [.child _], value => value.isLeaf
  | _, _ => false

def plain (entry : String × SettingTree) : Bool :=
  match path entry.1 with
  | .child area :: rest => !areas.contains (Text.lower area) || scalars rest entry.2
  | _ => false

theorem plain_cases {entry : String × SettingTree} (regular : plain entry = true) :
    ∃ area rest, path entry.1 = .child area :: rest ∧ (Text.lower area ∈ areas → scalars rest entry.2 = true) := by
  unfold plain at regular
  split at regular
  · rename_i area rest leads
    refine ⟨area, rest, leads, fun known => ?_⟩
    simpa [known] using regular
  · cases regular

theorem section_putAt {rest : List PathStep} {value : SettingTree} (regular : scalars rest value = true) (area : String)
    (tree : SettingTree) :
    ∃ part, (putAt (.child area :: rest) value tree).member? (Text.lower area) = some part ∧
      ((tree.member? (Text.lower area)).all isTable = true → part.isTable = true) ∧
      ∀ name, part.member? name =
        (lastOf name (inside rest value)).or ((tree.member? (Text.lower area)).bind (·.member? name)) := by
  unfold scalars at regular
  split at regular
  · rename_i origin members
    have leaves : ∀ member ∈ members, member.2.isLeaf = true := List.all_eq_true.mp regular
    rw [putAt_child, member?_change, if_pos rfl]
    refine ⟨_, rfl, fun is => isTable_putAll ?_, fun name => ?_⟩
    · cases held : tree.member? (Text.lower area) with
      | none => rfl
      | some target => simpa [held] using is
    · rw [onto, member?_putAll leaves]
      cases tree.member? (Text.lower area) <;> rfl
  · rename_i name
    rw [putAt_deeper area (by simp), member?_change, if_pos rfl, putAt_child]
    refine ⟨_, rfl, fun _ => rfl, fun other => ?_⟩
    rw [member?_change, onto_of_leaf regular, inside, lastOf_single]
    have behind : ((tree.member? (Text.lower area)).getD void).member? other =
        (tree.member? (Text.lower area)).bind (·.member? other) := by
      cases tree.member? (Text.lower area) <;> rfl
    rw [behind]
    split <;> rfl
  · cases regular

def Sectioned (tree : SettingTree) : Prop := ∀ area ∈ areas, (tree.member? area).all isTable = true

theorem sectioned_empty : empty.Sectioned := fun _ _ => rfl

theorem setting?_putAt {entry : String × SettingTree} {place : Place} (known : place.area ∈ areas)
    (regular : plain entry = true) :
    (putAt (path entry.1) entry.2 tree).setting? place = (given? place entry).or (tree.setting? place) := by
  obtain ⟨area, rest, leads, regular⟩ := plain_cases regular
  simp only [given?, setting?, leads]
  by_cases same : place.area = Text.lower area
  · obtain ⟨part, after, -, holds⟩ := section_putAt (regular (same ▸ known)) area tree
    rw [if_pos same, same, after]
    exact holds place.name
  · rw [if_neg same, member?_putAt_other same]
    rfl

theorem Sectioned.putAt {entry : String × SettingTree} (sectioned : tree.Sectioned) (regular : plain entry = true) :
    (putAt (path entry.1) entry.2 tree).Sectioned := by
  obtain ⟨area, rest, leads, regular⟩ := plain_cases regular
  intro other known
  rw [leads]
  by_cases same : other = Text.lower area
  · subst same
    obtain ⟨part, after, is, -⟩ := section_putAt (regular known) area tree
    rw [after]
    exact is (sectioned _ known)
  · rw [member?_putAt_other same]
    exact sectioned other known

theorem setting?_overlay {entries : List (String × SettingTree)} {place : Place} (known : place.area ∈ areas)
    (regular : ∀ entry ∈ entries, plain entry = true) (tree : SettingTree) :
    (tree.overlay entries).setting? place = (entries.reverse.findSome? (given? place)).or (tree.setting? place) := by
  induction entries generalizing tree with
  | nil => rfl
  | cons entry later ih =>
    obtain ⟨here, regular⟩ := List.forall_mem_cons.mp regular
    have step := ih regular (SettingTree.putAt (path entry.1) entry.2 tree)
    rw [setting?_putAt known here] at step
    rw [List.reverse_cons, List.findSome?_append, Option.or_assoc, List.findSome?_singleton]
    exact step

theorem Sectioned.overlay {entries : List (String × SettingTree)} (sectioned : tree.Sectioned)
    (regular : ∀ entry ∈ entries, plain entry = true) : (tree.overlay entries).Sectioned := by
  induction entries generalizing tree with
  | nil => exact sectioned
  | cons entry later ih =>
    obtain ⟨here, regular⟩ := List.forall_mem_cons.mp regular
    exact ih (sectioned.putAt here) regular

end Journal.SettingTree
