import Journal.Settings
import Journal.Settings.Tree
import Journal.Decimal.Reader
import Journal.Text.Quoted
/-!
Settings from trees. A value is coerced to the type of its setting: texts that spell truth values or numbers are
taken for them, truth values count as one and zero, and numbers round to the nearest.
-/
namespace Journal

inductive SettingsError where
  | unreadable (file : String)
  | missing (file : String)
  | notText
  | wrongType (found expected : String) (key origin : Option String)
  | other (text : String)
  deriving DecidableEq, Repr

namespace SettingsError

def message : SettingsError → String
  | .unreadable file => "Configuration error: could not read " ++ file
  | .missing file => "Configuration error: configuration file \"" ++ file ++ "\" not found"
  | .notText => "Configuration error: stream did not contain valid UTF-8"
  | .wrongType found expected key origin =>
    "Configuration error: invalid type: " ++ found ++ ", expected " ++ expected
      ++ (match key with
        | some key => " for key `" ++ key ++ "`"
        | none => "")
      ++ (match origin with
        | some origin => " in " ++ origin
        | none => "")
  | .other text => "Configuration error: " ++ text

def within (name : String) : SettingsError → SettingsError
  | .wrongType found expected key origin =>
    let inner := key.getD ""
    let dot :=
      match inner.toList with
      | [] | '[' :: _ => ""
      | _ => "."
    .wrongType found expected (some (name ++ dot ++ inner)) origin
  | error => error

end SettingsError

namespace SettingTree

def found : SettingTree → String
  | .leaf _ .nil => "unit value"
  | .leaf _ (.flag b) => "boolean `" ++ toString b ++ "`"
  | .leaf _ (.integer n) => "64-bit integer `" ++ toString n ++ "`"
  | .leaf _ (.real x) => "floating point `" ++ x.plainText ++ "`"
  | .leaf _ (.text s) => "string " ++ Text.quoted s
  | .list .. => "sequence"
  | .table .. => "map"

def origin : SettingTree → Option String
  | .leaf origin _ => origin
  | .list origin _ => origin
  | .table origin _ => origin

def wrongType (tree : SettingTree) (expected : String) : SettingsError :=
  .wrongType tree.found expected none tree.origin

def trueWords : List String := ["true", "on", "yes"]

def falseWords : List String := ["false", "off", "no"]

def asFlag (tree : SettingTree) : Except SettingsError Bool :=
  match tree with
  | .leaf _ (.flag b) => .ok b
  | .leaf _ (.integer n) => .ok (n ≠ 0)
  | .leaf _ (.real x) => .ok (!x.isZero)
  | .leaf origin (.text s) =>
    let s := Text.lower s
    if s = "1" ∨ s ∈ trueWords then .ok true
    else if s = "0" ∨ s ∈ falseWords then .ok false
    else .error (wrongType (.leaf origin (.text s)) "a boolean")
  | tree => .error (tree.wrongType "a boolean")

/-- Half a unit rounds up; what lies outside of 64 bits goes to the nearer end. -/
def roundToWord : Binary64 → Nat
  | .nan => 0
  | .infinite true => 0
  | .infinite false => 2 ^ 64 - 1
  | .finite true _ _ => 0
  | .finite false m e => min ((2 * m * 2 ^ e.toNat + 2 ^ (-e).toNat) / (2 * 2 ^ (-e).toNat)) (2 ^ 64 - 1)

def asCount (tree : SettingTree) : Except SettingsError Nat :=
  match tree with
  | .leaf _ (.flag b) => .ok (if b then 1 else 0)
  | .leaf _ (.integer n) =>
    if 0 ≤ n then .ok n.toNat else .error (tree.wrongType "an unsigned 64 bit or less integer")
  | .leaf _ (.real x) => .ok (roundToWord x)
  | .leaf _ (.text s) =>
    if Text.lower s ∈ trueWords then .ok 1
    else if Text.lower s ∈ falseWords then .ok 0
    else match Decimal.word? s with
      | some n => .ok n
      | none => .error (tree.wrongType "an integer")
  | tree => .error (tree.wrongType "an integer")

def asText (tree : SettingTree) : Except SettingsError String :=
  match tree with
  | .leaf _ (.flag b) => .ok (toString b)
  | .leaf _ (.integer n) => .ok (toString n)
  | .leaf _ (.real x) => .ok x.plainText
  | .leaf _ (.text s) => .ok s
  | tree => .error (tree.wrongType "a string")

def policyNamed (name : String) : Except SettingsError UnrecognizedPolicy :=
  match UnrecognizedPolicy.ofName? (Text.lower name) with
  | some policy => .ok policy
  | none => .error (.other ("enum UnrecognizedMethodPolicy does not have variant constructor " ++ name))

def asPolicy (tree : SettingTree) : Except SettingsError UnrecognizedPolicy :=
  match tree with
  | .leaf _ (.text name) => policyNamed name
  | .table _ [(name, _)] => policyNamed name
  | _ => .error (.other ("value of enum UnrecognizedMethodPolicy should be represented by either string or table "
      ++ "with exactly one key"))

def noSection (title : String) : Setting → SettingsError
  | .nil => .other ("invalid type: unit value, expected " ++ title)
  | .flag b => .other ("invalid type: boolean `" ++ toString b ++ "`, expected " ++ title)
  | .integer n => .other ("invalid type: integer `" ++ toString n ++ "`, expected " ++ title)
  | .real x =>
    let text := if x.isFinite && !x.plainText.contains '.' then x.plainText ++ ".0" else x.plainText
    .other ("invalid type: floating point `" ++ text ++ "`, expected " ++ title)
  | .text s => .other ("invalid type: string " ++ Text.quoted s ++ ", expected " ++ title)

def field? (tree : SettingTree) (name : String) (place : Nat) : Option (String × SettingTree) :=
  match tree with
  | .table _ members => (Table.get? name members).map fun value => (name, value)
  | .list _ items => items[place]?.map fun value => ("[" ++ toString place ++ "]", value)
  | .leaf .. => none

def field {α : Type} (tree : SettingTree) (name : String) (place : Nat) (coerce : SettingTree → Except SettingsError α)
    (fallback : α) : Except SettingsError α :=
  match tree.field? name place with
  | none => .ok fallback
  | some (label, value) => (coerce value).mapError (SettingsError.within label)

def logSection (tree : SettingTree) : Except SettingsError LogSettings := do
  let fallback : LogSettings := {}
  if let .leaf _ value := tree then throw (noSection LogSettings.shape.title value)
  let defaultSource ← tree.field "default_source" 0 asText fallback.defaultSource
  let topicPrefix ← tree.field "topic_prefix" 1 asText fallback.topicPrefix
  let topicPerSource ← tree.field "topic_per_source" 2 asFlag fallback.topicPerSource
  pure { defaultSource, topicPrefix, topicPerSource }

def restoreSection (tree : SettingTree) : Except SettingsError RestoreSettings := do
  let fallback : RestoreSettings := {}
  if let .leaf _ value := tree then throw (noSection RestoreSettings.shape.title value)
  let pollInterval ← tree.field "poll_interval_ms" 0 asCount fallback.pollInterval
  let unrecognized ← tree.field "unrecognized_method" 1 asPolicy fallback.unrecognized
  pure { pollInterval, unrecognized }

def section? {α : Type} (tree : SettingTree) (name : String) (read : SettingTree → Except SettingsError α)
    (fallback : α) : Except SettingsError α :=
  match tree.member? name with
  | none => .ok fallback
  | some part => (read part).mapError (SettingsError.within name)

def settings (tree : SettingTree) : Except SettingsError Settings := do
  let log ← tree.section? "txlog" logSection {}
  let restore ← tree.section? "restore" restoreSection {}
  pure { log, restore }

end SettingTree
end Journal
