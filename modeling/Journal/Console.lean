import Journal.Console.Command
import Journal.System.Waiting
import Journal.System.Writing
import Journal.Text.Blank
import Journal.Ulid.Generator
/-!
The console: a system that is given one command per line and answers each line that is not blank with one JSON
object. Writes get ids of their own, which ascend over all sources. Restores run on while the console waits for the
next line.
-/
namespace Journal

structure Console where
  system : System
  generator : Ulid.Generator := {}
  deriving Repr

namespace Console

structure Instant where
  seconds : Int
  nanoseconds : Fin 1000000000
  deriving Repr

namespace Instant

def timestamp (i : Instant) : Timestamp := ⟨i.seconds, i.nanoseconds, 0⟩

def milliseconds (i : Instant) : Nat := i.timestamp.milliseconds.toNat

def ofMilliseconds (ms : Nat) : Instant := ⟨ms / 1000, ⟨ms % 1000 * 1000000, by omega⟩⟩

instance : Coe Nat Instant := ⟨ofMilliseconds⟩

end Instant

structure Moment where
  time : Instant
  readings : List Ulid.Reading
  deriving Repr

def ofSettings (settings : Settings) : Console := { system := .ofSettings settings .logging {} }

def success (members : List (String × Json)) : Json := .object (("ok", .bool true) :: members)

def failure (text : String) : Json := .object [("ok", .bool false), ("error", .string text)]

def failureOf (message : String) (causes : List String) : Json := failure (": ".intercalate (message :: causes))

def restoreAnswer : Option Progress → Json
  | some progress => success [("restore", progress.json)]
  | none => failure "No restore for source"

def operationOf (version : Timestamp) (id : Ulid) (method : Method) (write : Write) : Operation where
  tx := id
  method
  schema := write.schema.getD "default"
  space := write.space.getD "data"
  entity := write.entity
  id := write.id
  version
  body := write.body

def write (moment : Moment) (step : AppendStep) (method : Method) (w : Write) (c : Console) :
    Option (Json × Console) := do
  let (id, generator, _) ← c.generator.next moment.readings
  match c.system.append .caller step w.source (operationOf moment.time.timestamp id method w) with
  | (.error error, system) => some (failureOf error.message error.causes, { system, generator })
  | (.ok appended, system) =>
    some (success [
      ("topic", .string appended.topic),
      ("txId", .string appended.id.text),
      ("position", .string appended.position)], { system, generator })

def restore (request : RestoreRequest) (c : Console) : Json × Console :=
  match request.bounds with
  | .error error => (failureOf error.message error.causes, c)
  | .ok bounds =>
    match c.system.joinRestore request.source bounds with
    | (some (.ok number), system) => (restoreAnswer (system.progressOf number), { c with system })
    | (some (.error error), system) => (failureOf error.message error.causes, { c with system })
    | (none, system) => (restoreAnswer none, { c with system })

def perform (moment : Moment) (command : Command) (c : Console) : Option (Json × Console) :=
  match command with
  | .put w => c.write moment .put .put w
  | .delete w => c.write moment .delete .delete w
  | .restore request => some (c.restore request)
  | .status source => some (restoreAnswer (c.system.status source), c)
  | .stop source =>
    let (progress, system) := c.system.stop .caller source
    some (restoreAnswer progress, { c with system })
  | .list => some (success [("restores", .array (c.system.list.map Progress.json))], c)

/-- The answer to a line, which is none for a blank one. Nothing if the readings give no id; the line is then
to be answered at a later moment. -/
def answer (moment : Moment) (line : String) (c : Console) : Option (Option Json × Console) :=
  let c := { c with system := { c.system with now := moment.time.milliseconds } }
  let text := Text.trimmed line
  if text = "" then some (none, c)
  else match Command.ofText text with
    | .error fault => some (some (failure ("Invalid command: " ++ fault.message)), c)
    | .ok command => (c.perform moment command).map fun (json, c) => (some json.canonical, c)

def settle (c : Console) : Console := { c with system := c.system.drain }

def settingsFile : List String → Option String
  | [] => none
  | "--config" :: rest => rest.head?
  | arg :: rest =>
    match "--config=".toList.isPrefixOf? arg.toList with
    | some name => some (String.ofList name)
    | none => settingsFile rest

end Console
end Journal
