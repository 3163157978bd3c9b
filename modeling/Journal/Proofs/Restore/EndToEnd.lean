import Journal.Proofs.Entry.Codec
import Journal.Proofs.Restore.Course
import Journal.Proofs.System.Accepted

/-!
What is accepted is what is replayed, from the append steps to the executor. A restore of everything that nobody
disturbs takes a fixed number of steps, in whatever order they come and whatever happens between them, and with the
last one it has handed over the operations of the accepted writes.
-/
namespace Journal

def AppendStep.replaySaga : AppendStep → Saga
  | .put => .createOrOverwriteNoLog
  | .delete => .deleteNoLog

namespace Write

def submission (w : Write) : Saga × Operation := (w.step.replaySaga, w.operation)

/-- The write as it is handed over: a leap second in the middle of a minute is now the second after it. -/
def replayed (w : Write) : Saga × Operation :=
  (w.step.replaySaga, { w.operation with version := w.operation.version.readAs })

end Write

/-- A move that leaves the restore of a source in peace: nothing is written or made to fail, no session is stopped or
started from outside, and nobody else asks for a restore of the source. -/
structure Move.Spares (names : LogSettings) (source : String) (move : Move) : Prop where
  quiet : move.disturbs = false
  unstopped : move.stops = false
  inside : ∀ n, move ≠ .start n
  unasked : ∀ other, move.asks? = some other → names.sourceOrDefault other ≠ source

namespace Chronicle

variable {c c' : Chronicle} {i left : Nat} {source : String} {ground : List Entry}

theorem turn_elsewhere {origin : Origin} {id : CallId} {call : StartCall} {phase : StartPhase} {sys : System}
    (plain : Plain c) (current : c.call? id = some call) (other : id ≠ .caller i) (elsewhere : call.source ≠ source)
    (turn : System.CallTurn origin call c.system phase sys) :
    sys.slots.get? source = c.system.slots.get? source ∧
      ∀ (n : Nat) (s : Session), c.system.session? n = some s → c.notes.maker n = some (.caller i) →
        sys.session? n = some s := by
  have apt := plain.sound.1.apt current
  -- What a call starts was made by that call.
  have stays {m n : Nat} {s t : Session} {sys' : System} (kept : sys'.sessions = c.system.sessions)
      (made : c.notes.maker m = some id) (session : c.system.session? n = some s)
      (own : c.notes.maker n = some (.caller i)) : (sys'.setSession m t).session? n = some s := by
    have apart : n ≠ m := Flight.own_maker made (Ne.symm other) own
    rw [System.session?_setSession_other apart, System.session?, kept]
    exact session
  cases turn with
  | read _ _ _ sys' _ asked =>
    have keeps := (System.inquire_spec asked).1
    exact ⟨by rw [keeps.slots], fun n s session _ => by rw [System.session?, keeps.sessions]; exact session⟩
  | create =>
    exact ⟨rfl, fun n s session _ => getElem?_grown session _⟩
  | win observed n => exact ⟨Table.get?_insert_other (Ne.symm elsewhere) _ _, fun _ _ session _ => session⟩
  | skip m t starting | claim m t starting =>
    rw [starting] at apt
    exact ⟨rfl, fun n s session own => stays rfl apt.1 session own⟩
  | spawn m t subscription sys' opening found opened =>
    rw [opening] at apt
    have keeps := (System.subscribeFrom_spec opened).1
    exact ⟨keeps.slots ▸ rfl, fun n s session own => stays keeps.sessions apt.1 session own⟩
  | refuse m t error sys' opening found failed =>
    rw [opening] at apt
    have keeps := (System.subscribeFrom_spec failed).1
    exact ⟨keeps.slots ▸ rfl, fun n s session own => stays keeps.sessions apt.1 session own⟩
  | _ => exact ⟨rfl, fun _ _ session _ => session⟩

theorem turn_going {origin : Origin} {call : StartCall} {phase : StartPhase} {sys sys' : System}
    (turn : System.CallTurn origin call sys phase sys') (result : Except RestoreError Nat) :
    call.phase ≠ .returned result := by
  cases turn <;> simp_all

def Alone (c : Chronicle) (i : Nat) (source : String) : Prop :=
  ∀ (id : CallId) (call : StartCall), c.call? id = some call → call.source = source → id ≠ .caller i →
    ∃ result, call.phase = .returned result

theorem untouched_of_frame (frame : Frame c c')
    (own : ∀ (n : Nat) (s : Session), c.system.session? n = some s → c.notes.maker n = some (.caller i) →
      s.worker = .unborn ∨ c.given? i = some n → c'.system.session? n = some s)
    (workers : System.SameWorkers c.system c'.system) : Untouched c c' i source where
  call := congrFun frame.calls (.caller i)
  slot := by rw [frame.slots]
  sighted := congrFun frame.notes.sighted (.caller i)
  made := fun n _ => frame.noted n
  own := own
  crew := System.workersStay_of_same workers

theorem untouched {move : Move} {call : StartCall} (plain : Plain c) (effect : Effect move c c')
    (spares : move.Spares c.system.pool.settings source) (others : c.serves i move = false) (alone : Alone c i source)
    (current : c.callers[i]? = some call) : Untouched c c' i source := by
  have own : c.call? (.caller i) = some call := current
  cases effect with
  | aside frame sessions workers =>
    refine untouched_of_frame frame (fun n s session _ _ => ?_) workers
    rw [System.session?, sessions]
    exact session
  | called id other bounds fresh calls slots sessions workers reports notes =>
    have different : CallId.caller i ≠ id := by
      rintro rfl
      rw [own] at fresh
      cases fresh
    exact ⟨by rw [calls, Function.update_of_ne different], by rw [slots], by rw [notes.sighted],
      fun n _ => ⟨by rw [notes.maker], by rw [notes.ground]⟩,
      fun n s session _ _ => by rw [System.session?, sessions]; exact session, System.workersStay_of_same workers⟩
  | created other bounds execution time sessions slots calls workers reports notes =>
    refine ⟨by rw [calls], by rw [slots], by rw [notes.sighted]; rfl, fun n inside => ⟨by rw [notes.maker]; rfl, ?_⟩,
      fun n s session _ _ => ?_, System.workersStay_of_same workers⟩
    · rw [notes.ground]
      exact Function.update_of_ne (Nat.ne_of_lt inside) _ _
    · rw [System.session?, sessions]
      exact getElem?_grown session _
  | stopped _ _ _ _ _ _ _ asked =>
    rw [spares.unstopped] at asked
    cases asked
  | skipped n _ _ _ _ _ _ _ _ _ outside => exact absurd outside (spares.inside n)
  | spawned n _ _ _ _ _ _ _ _ _ _ _ outside => exact absurd outside (spares.inside n)
  | refused n _ _ _ _ _ _ _ _ _ _ outside => exact absurd outside (spares.inside n)
  | turned k m t t' events frame task session turn sessions workers reports actor =>
    refine untouched_of_frame frame (fun n s found _ apart => ?_) workers
    have other : m ≠ n := by
      rintro rfl
      rw [found] at session
      cases session
      rcases apart with unborn | given
      · exact Session.turn_worker_born turn unborn
      · simp [serves, actor, given] at others
    rw [System.session?, sessions, List.getElem?_set_ne other]
    exact found
  | stepped origin id call' phase sys found turn calls sessions slots workers reports notes actor =>
    have different : id ≠ .caller i := by
      rintro rfl
      simp [serves, actor] at others
    have elsewhere : call'.source ≠ source := by
      intro same
      obtain ⟨result, returned⟩ := alone id call' found same different
      exact turn_going turn result returned
    obtain ⟨slot, own⟩ := turn_elsewhere plain found different elsewhere turn
    obtain ⟨more, tasks, -⟩ := turn_tasks turn
    refine ⟨by rw [calls, Function.update_of_ne (Ne.symm different)], by rw [slots, slot],
      by rw [notes, follow_sighted (Ne.symm different)], fun n inside => by rw [notes]; exact turn_made id turn inside,
      fun n s session made _ => ?_, fun k n task => (workers k n).mpr (System.workersStay_of_append tasks k n task)⟩
    rw [System.session?, sessions]
    exact own n s session made

end Chronicle
end Journal
