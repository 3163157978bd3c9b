import Journal.Decimal.Reader
import Journal.Decimal.Shortest
import Journal.Table
import Journal.Text.Lowercase
/-!
Trees of settings, before they are given types. Names of settings do not depend on letter case and are kept in
lower case. A table that is put where a table is goes into it member by member; anything else replaces what was
there.
-/
namespace Journal

inductive Setting where
  | nil
  | flag (value : Bool)
  | integer (value : Int)
  | real (value : Binary64)
  | text (value : String)
  deriving DecidableEq, Repr

/-- A leaf and a list know which source they come from; so does a table inside a list. -/
inductive SettingTree where
  | leaf (origin : Option String) (value : Setting)
  | list (origin : Option String) (items : List SettingTree)
  | table (origin : Option String) (members : List (String × SettingTree))
  deriving Repr

namespace SettingTree

def empty : SettingTree := .table none []

def void : SettingTree := .leaf none .nil

def members : SettingTree → Table SettingTree
  | .table _ members => members
  | _ => []

def items : SettingTree → List SettingTree
  | .list _ items => items
  | _ => []

def member? (tree : SettingTree) (name : String) : Option SettingTree := Table.get? name tree.members

def tableOrigin : SettingTree → Option String
  | .table origin _ => origin
  | _ => none

def change (name : String) (f : Option SettingTree → SettingTree) (tree : SettingTree) : SettingTree :=
  let name := Text.lower name
  .table tree.tableOrigin (tree.members.insert name (f (tree.member? name)))

mutual

def put (name : String) (incoming tree : SettingTree) : SettingTree :=
  match incoming with
  | .table _ members => tree.change name fun target => putAll members (target.getD empty)
  | .leaf origin value => tree.change name fun _ => .leaf origin value
  | .list origin items => tree.change name fun _ => .list origin items

def putAll : List (String × SettingTree) → SettingTree → SettingTree
  | [], tree => tree
  | (name, incoming) :: rest, tree => putAll rest (put name incoming tree)

end

inductive PathStep where
  | child (name : String)
  | item (index : Int)
  deriving DecidableEq, Repr

def itemIndex (index : Int) (length : Nat) : Nat := if 0 ≤ index then index.toNat else length - index.natAbs

def listOrigin : SettingTree → Option String
  | .list origin _ => origin
  | _ => none

def changeItem (index : Int) (f : SettingTree → SettingTree) (tree : SettingTree) : SettingTree :=
  let items := tree.items
  let n := itemIndex index items.length
  let items := items ++ List.replicate (n + 1 - items.length) void
  .list tree.listOrigin (items.modify n f)

def changeAt : List PathStep → (SettingTree → SettingTree) → SettingTree → SettingTree
  | [], f, tree => f tree
  | .child name :: rest, f, tree => tree.change name fun target => changeAt rest f (target.getD void)
  | .item index :: rest, f, tree => tree.changeItem index (changeAt rest f)

def putAt (steps : List PathStep) (incoming tree : SettingTree) : SettingTree :=
  match steps.getLast? with
  | none => tree
  | some (.child name) => tree.changeAt steps.dropLast (put name incoming)
  | some (.item index) => tree.changeAt steps.dropLast (changeItem index fun _ => incoming)

def isNameChar (c : Char) : Bool := c.isAlphanum || c = ' ' || c = '_' || c = '-'

def dropBlanks (cs : List Char) : List Char := cs.dropWhile fun c => c = ' ' || c = '\t'

def index? (cs : List Char) : Option (Int × List Char) := do
  let cs := dropBlanks cs
  let sign := cs.takeWhile (· = '-')
  let digits := (cs.drop sign.length).takeWhile Char.isDigit
  let index ← Decimal.integer? 10 Decimal.digit? (sign ++ digits)
  match dropBlanks (cs.drop (sign.length + digits.length)) with
  | ']' :: rest => some (index, rest)
  | _ => none

def pathSteps? : (limit : Nat) → List Char → Option (List PathStep)
  | _, [] => some []
  | 0, _ => none
  | limit + 1, '.' :: cs => do
    let name := cs.takeWhile isNameChar
    if name.isEmpty then none
    else return .child (String.ofList name) :: (← pathSteps? limit (cs.drop name.length))
  | limit + 1, '[' :: cs => do
    let (index, rest) ← index? cs
    return .item index :: (← pathSteps? limit rest)
  | _, _ => none

def path (text : String) : List PathStep :=
  let chars := text.toList
  let name := chars.takeWhile isNameChar
  match if name.isEmpty then none else pathSteps? chars.length (chars.drop name.length) with
  | some steps => .child (String.ofList name) :: steps
  | none => [.child text]

def overlay (entries : List (String × SettingTree)) (tree : SettingTree) : SettingTree :=
  entries.foldl (fun tree entry => putAt (path entry.1) entry.2 tree) tree

end SettingTree
end Journal
