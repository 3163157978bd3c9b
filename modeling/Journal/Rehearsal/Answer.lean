import Journal.Append
import Journal.Executor
import Journal.Restore.Progress
/-!
What the commands of a rehearsal are answered with.
-/
namespace Journal.Rehearsal

structure Grouped (α : Type) where
  caller : List α
  tasks : List (List α)

def Grouped.of {α : Type} (tasks : Nat) (items : List (Origin × α)) : Grouped α :=
  let sentBy (origin : Origin) : List α := (items.filter fun item => item.1 = origin).map Prod.snd
  { caller := sentBy .caller
    tasks := ((List.range tasks).map fun number => sentBy (.task number)).filter fun group => !group.isEmpty }

inductive Answer where
  | nothing
  | stuck
  | appended (result : Except StepError Appended)
  | topic (result : Except TransportError String)
  | producer (result : Except TransportError Producer) (opened : Nat)
  | newest (result : Except TransportError (Option Entry))
  | entries (entries : List Entry)
  | names (names : List String)
  | received (result : Except TransportError (Option Entry)) (waited : Nat) (meanwhile : List Answer)
  | drained (ids : List Ulid) (error : Option TransportError)
  | unreadable (fault : Json.Fault)
  | restore (result : Except RestoreError Progress)
  | progress (progress : Option Progress)
  | list (progresses : List Progress)
  | race (results : List (Except RestoreError Progress))
  | ended (result : Option Bool)
  | started (result : Except RestoreError Bool)
  | session (progress : Progress)
  | counts (entered submitted : Nat)
  | handoff (result : Except SagaError Handoff)
  | submissions (submissions : Grouped Submission)
  | reports (events : Grouped Event)

end Journal.Rehearsal
