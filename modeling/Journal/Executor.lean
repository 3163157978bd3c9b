import Journal.Event
/-!
Executors run sagas. The recording executor keeps every submission; it can hold submissions back, refuse
them, and fail those for chosen documents. The logging executor reports each submission and succeeds.
-/
namespace Journal

inductive SagaError where
  | unavailable (text : String)
  | rejected (saga : Saga) (text : String)
  deriving DecidableEq, Repr

def SagaError.message : SagaError → String
  | .unavailable text => "Saga engine unavailable: " ++ text
  | .rejected saga text => "Saga '" ++ saga.name ++ "' could not be submitted: " ++ text

structure Handoff where
  executionId : String
  success : Bool
  failureCause : Option String
  deriving DecidableEq, Repr

structure Submission where
  origin : Origin
  saga : Saga
  operation : Operation
  deriving DecidableEq, Repr

structure Recorder where
  held : Bool := false
  unavailable : Bool := false
  failing : List String := []
  entered : Nat := 0
  submissions : List Submission := []
  deriving DecidableEq, Repr

def Recorder.answer (s : Submission) (r : Recorder) : Except SagaError Handoff × Recorder :=
  if r.unavailable then (.error (.unavailable "Mock saga engine down"), r)
  else
    let fails := r.failing.contains s.operation.id
    let handoff : Handoff :=
      { executionId := "exec-" ++ s.operation.tx.text
        success := !fails
        failureCause := if fails then some "Mock document failure" else none }
    (.ok handoff, { r with submissions := r.submissions ++ [s] })

inductive Executor where
  | recording (recorder : Recorder)
  | logging
  deriving DecidableEq, Repr

namespace Executor

def isHeld : Executor → Bool
  | .recording r => r.held
  | .logging => false

def enter : Executor → Executor
  | .recording r => .recording { r with entered := r.entered + 1 }
  | .logging => .logging

/-- Ends a submission that is not held back. The logging executor gives it the id `fresh`. -/
def answer (fresh : Ulid) (s : Submission) : Executor → Except SagaError Handoff × Executor × List Event
  | .recording r =>
    let (outcome, r) := r.answer s
    (outcome, .recording r, [])
  | .logging => (.ok ⟨fresh.text, true, none⟩, .logging, [.sagaExecuted s.saga fresh.text s.operation])

def submissions : Executor → List Submission
  | .recording r => r.submissions
  | .logging => []

def configure (change : Recorder → Recorder) : Executor → Executor
  | .recording r => .recording (change r)
  | .logging => .logging

end Executor
end Journal
