import Journal.Append
import Journal.Log.Script
import Journal.Restore.Bounds
/-!
What a caller can ask of a system in a rehearsal.
-/
namespace Journal.Rehearsal

inductive Channel where
  | source (name : String)
  | topic (name : String)
  deriving Repr

inductive Command where
  | write (step : AppendStep) (source : Option String) (operation : Operation)
  | append (source : String) (operation : Operation)
  | publish (channel : Channel) (entry : Entry)
  | producer (source : String)
  | newest (channel : Channel)
  | entries (topic : String)
  | topics
  | fail (outage : Outage) (on : Bool)
  | subscribe (name : String) (channel : Channel) (start : Option Start)
  | receive (name : String) (timeout : Nat)
  | drain (name : String) (timeout : Nat)
  | start (request : Json)
  | status (source : Option String)
  | stop (source : Option String)
  | list
  | join (name : String) (source : String) (bounds : Bounds)
  | race (calls : List (String × Bounds))
  | await (source : String) (timeout : Nat)
  | createSession (name : String) (source : String) (bounds : Bounds)
  | startSession (name : String)
  | stopSession (name : String)
  | awaitSession (name : String) (timeout : Nat)
  | showSession (name : String)
  | hold (on : Bool)
  | failDocument (id : String)
  | unavailable (on : Bool)
  | counts
  | execute (saga : Saga) (operation : Operation)
  | submissions
  | settle (duration : Nat)
  | reports

/-- A command, and the steps that the caller goes on with while it waits, each after its delay. Only a receive
lets the caller go on. -/
structure Step where
  command : Command
  meanwhile : List (Nat × Step)

end Journal.Rehearsal
