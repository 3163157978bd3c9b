import Journal.Settings.Coercion
import Journal.Text.Utf8
import Journal.Yaml.Node
/-!
Settings come in layers, the later over the earlier: the file `txlog.yaml` if it is there, a file that is named, a
file that a variable of the environment names, and the variables `TXLOG__SECTION__NAME`.
-/
namespace Journal.Settings

structure Surroundings where
  files : Table Bytes := []
  environment : Table String := []
  deriving Repr

def defaultFile : String := "txlog.yaml"

def fileVariable : String := "TXLOG_CONFIG"

def pathParts (path : String) : List String := (path.splitOn "/").filter fun part => part ≠ "" && part ≠ "."

def plainName (path : String) : String :=
  (if path.startsWith "/" then "/" else "") ++ "/".intercalate (pathParts path)

def endsInDirectory (path : String) : Bool := ["", ".", ".."].contains ((path.splitOn "/").getLastD "")

def extensions : List String := [".yaml", ".yml"]

/-- A file may be named with its extension or without. What has no name is not given an extension. -/
def candidates (path : String) : List String :=
  let exact := if endsInDirectory path then [] else [plainName path]
  match (pathParts path).getLast? with
  | none | some ".." => exact
  | some _ => exact ++ extensions.map (plainName path ++ ·)

def findFile (around : Surroundings) (path : String) : Option (String × Bytes) :=
  (candidates path).findSome? fun file => (around.files.get? file).map fun content => (file, content)

def scalarSetting : Yaml.Scalar → Option Setting
  | .null => some .nil
  | .bool b => some (.flag b)
  | .integer n => some (.integer n)
  | .real s => (Binary64.ofText? s).map .real
  | .string s => some (.text s)

def nameOf : Yaml.Node → Option String
  | .scalar (.string s) => some s
  | .scalar (.integer n) => some (toString n)
  | _ => none

mutual

def treeOf (origin : String) : Yaml.Node → Option SettingTree
  | .undefined => some (.leaf (some origin) .nil)
  | .scalar s => (scalarSetting s).map (.leaf (some origin))
  | .sequence items => (treesOf origin items).map (.list (some origin))
  | .mapping members => (membersOf origin members).map fun members => .table (some origin) (Table.ofList members)

def treesOf (origin : String) : List Yaml.Node → Option (List SettingTree)
  | [] => some []
  | item :: rest => do return (← treeOf origin item) :: (← treesOf origin rest)

def membersOf (origin : String) : List (Yaml.Node × Yaml.Node) → Option (List (String × SettingTree))
  | [] => some []
  | (key, value) :: rest => do
    return (← nameOf key, ← treeOf origin value) :: (← membersOf origin rest)

end

/-- The settings of a file. A file without document has none; a document must be a mapping. -/
def fileSettings (origin text : String) : Option (Table SettingTree) := do
  match ← Yaml.documents? text with
  | [] => some []
  | [document] =>
    match ← treeOf origin document with
    | .table _ members => some members
    | _ => none
  | _ => none

def openFile (around : Surroundings) (path : String) : Except SettingsError (String × String) :=
  match findFile around path with
  | none => .error (.missing path)
  | some (file, content) =>
    match Utf8.decode? content with
    | some text => .ok (file, text)
    | none => .error .notText

def readFile (file text : String) : Except SettingsError (Table SettingTree) :=
  match fileSettings file text with
  | some members => .ok members
  | none => .error (.unreadable file)

def requiredFile (around : Surroundings) (path : String) : Except SettingsError (Table SettingTree) := do
  let (file, text) ← openFile around path
  readFile file text

/-- A file that is not there or is no text has no settings. -/
def optionalFile (around : Surroundings) (path : String) : Except SettingsError (Table SettingTree) :=
  match openFile around path with
  | .ok (file, text) => readFile file text
  | .error _ => .ok []

def environmentName : String := "the environment"

/-- Truth values in any letter case, whole numbers and real numbers are taken for what they look like. -/
def variableSetting (s : String) : Setting :=
  if Text.lower s = "true" then .flag true
  else if Text.lower s = "false" then .flag false
  else match Decimal.signed? s with
    | some n => .integer n
    | none =>
      match Binary64.ofText? s with
      | some x => .real x
      | none => .text s

def variableNames : List String :=
  let names (area : String) (shape : Json.Shape) : List String :=
    ("TXLOG__" ++ area) :: shape.fields.map fun field => "TXLOG__" ++ area ++ "__" ++ field.1.toUpper
  fileVariable :: (names "TXLOG" LogSettings.shape ++ names "RESTORE" RestoreSettings.shape)

def dotted : List Char → List Char
  | '_' :: '_' :: rest => '.' :: dotted rest
  | c :: rest => c :: dotted rest
  | [] => []

def variableMark : List Char := "txlog__".toList

def variablePath? (name : String) : Option String :=
  (variableMark.isPrefixOf? (Text.lower name).toList).map fun rest => String.ofList (dotted rest)

def variableSettings (environment : Table String) : List (String × SettingTree) :=
  environment.filterMap fun entry =>
    (variablePath? entry.1).map fun path => (path, .leaf (some environmentName) (variableSetting entry.2))

def layers (around : Surroundings) (path : Option String) :
    Except SettingsError (List (List (String × SettingTree))) := do
  let base ← optionalFile around defaultFile
  let named ← path.elim (pure []) (requiredFile around)
  let chosen ← (around.environment.get? fileVariable).elim (pure []) (requiredFile around)
  pure [base, named, chosen, variableSettings around.environment]

def load (around : Surroundings) (path : Option String) : Except SettingsError Settings := do
  let tree := (← layers around path).foldl (fun tree entries => tree.overlay entries) SettingTree.empty
  tree.settings

end Journal.Settings
