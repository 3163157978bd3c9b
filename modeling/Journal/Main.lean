import Std.Time.DateTime.Timestamp
import Journal.Console
import Journal.Settings.Layers
/-!
The console as a program: it reads its settings and answers the lines of its input one by one.
-/
namespace Journal.Program

def readFile (name : String) : IO (Option (String × Bytes)) := do
  try
    return some (name, (← IO.FS.readBinFile name).toList)
  catch _ => return none

def surroundings (path : Option String) : IO Settings.Surroundings := do
  let given ← Settings.variableNames.filterMapM fun name => do
    return (← IO.getEnv name).map fun value => (name, value)
  let environment := Table.ofList given
  let names := Settings.defaultFile :: path.toList ++ (environment.get? Settings.fileVariable).toList
  let files ← (names.flatMap Settings.candidates).filterMapM readFile
  return { files := .ofList files, environment }

def moment : IO Console.Moment := do
  let nanoseconds := (← Std.Time.Timestamp.now).toNanosecondsSinceUnixEpoch.val
  let time : Console.Instant := ⟨nanoseconds / 1000000000, ⟨(nanoseconds % 1000000000).toNat, by omega⟩⟩
  let draw := (← IO.getRandomBytes 10).toList.foldl (fun n b => n * 256 + b.toNat) 0
  return { time, readings := [⟨time.milliseconds, draw⟩] }

partial def readLine (input : IO.FS.Stream) (done : Bytes) : IO (Option Bytes) := do
  match (← input.read 1).toList with
  | [10] => return some done.reverse
  | [b] => readLine input (b :: done)
  | _ => return if done.isEmpty then none else some done.reverse

partial def answer (line : String) (c : Console) : IO (Option Json × Console) := do
  match c.answer (← moment) line with
  | some result => return result
  | none => answer line c

partial def loop (input output : IO.FS.Stream) (c : Console) : IO UInt32 := do
  match ← readLine input [] with
  | none => return 0
  | some bytes =>
    match Utf8.decode? bytes with
    | none =>
      IO.eprintln "Error: the input is not UTF-8"
      return 1
    | some line =>
      let (json, c) ← answer line c
      if let some json := json then
        output.putStrLn json.text
        output.flush
      loop input output c.settle

end Journal.Program

def main (args : List String) : IO UInt32 := do
  let path := Journal.Console.settingsFile args
  match Journal.Settings.load (← Journal.Program.surroundings path) path with
  | .error error =>
    IO.eprintln ("Error: " ++ error.message)
    return 1
  | .ok settings => Journal.Program.loop (← IO.getStdin) (← IO.getStdout) (.ofSettings settings)
