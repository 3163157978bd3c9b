import Journal.Proofs.Restore.Pace
import Journal.Proofs.Restore.Replay

/-!
The course of one restore of everything, from the call to the last entry. A countdown runs along with it: every step
of the call and every turn of the worker takes one from it, whatever else happens in between, and the restore is over
when it stands at zero.
-/
namespace Journal

namespace Chronicle

def given? (c : Chronicle) (i : Nat) : Option Nat :=
  match c.callers[i]? with
  | some { phase := .returned (.ok n), .. } => some n
  | _ => none

/-- Whether a move is a step of the restore that a caller has called for: of the call itself, or of the worker of the
session that the call has returned. -/
def serves (c : Chronicle) (i : Nat) (move : Move) : Bool :=
  match c.actor? move with
  | some (.call id) => id == .caller i
  | some (.worker n) => c.given? i == some n
  | none => false

def turns (i : Nat) : List Move → Chronicle → Nat
  | [], _ => 0
  | move :: later, c => (if c.serves i move then 1 else 0) + ((c.apply move).map (turns i later)).getD 0

structure Own (c : Chronicle) (i : Nat) (source : String) (ground : List Entry) (n : Nat) (s : Session) : Prop where
  session : c.system.session? n = some s
  maker : c.notes.maker n = some (.caller i)
  noted : c.notes.ground n = ground
  source : s.source = source
  brisk : s.Brisk ground

variable {c c' : Chronicle} {i left : Nat} {source : String} {ground : List Entry}

theorem Own.inside {n : Nat} {s : Session} (own : Own c i source ground n s) : n < c.system.sessions.length :=
  (List.getElem?_eq_some_iff.mp own.session).1

theorem Own.carried {n : Nat} {s s' : Session} (own : Own c i source ground n s)
    (session : c'.system.session? n = some s') (same : s'.source = s.source) (brisk : s'.Brisk ground)
    (made : c'.notes.maker n = c.notes.maker n ∧ c'.notes.ground n = c.notes.ground n) : Own c' i source ground n s' :=
  ⟨session, made.1.trans own.maker, made.2.trans own.noted, same.trans own.source, brisk⟩

theorem Own.set {n : Nat} {s s' : Session} (own : Own c i source ground n s)
    (sessions : c'.system.sessions = c.system.sessions.set n s') (same : s'.source = s.source) (brisk : s'.Brisk ground)
    (made : c'.notes.maker n = c.notes.maker n ∧ c'.notes.ground n = c.notes.ground n) : Own c' i source ground n s' := by
  refine own.carried ?_ same brisk made
  rw [System.session?, sessions, List.getElem?_set_self own.inside]

theorem Own.nothing_iff {n : Nat} {s : Session} (plain : Plain c) (own : Own c i source ground n s) :
    s.nothingToReplay = true ↔ ground = [] := by
  have trusts := plain.trusts n s own.session
  constructor
  · intro nothing
    have due := Session.due_nil_of_nothing ((plain.ordered _).sublist trusts.grown.sublist) trusts.ceiling nothing
    rwa [own.noted, own.brisk.bounds, Bounds.due_unbounded] at due
  · rintro rfl
    have ceiling := trusts.ceiling
    rw [own.noted] at ceiling
    simp [Session.nothingToReplay, ceiling]

theorem turn_made {origin : Origin} {call : StartCall} {phase : StartPhase} {sys sys' : System} {notes : Notes}
    (id : CallId) (turn : System.CallTurn origin call sys phase sys') {n : Nat} (inside : n < sys.sessions.length) :
    (notes.follow id call { call with phase } sys sys').maker n = notes.maker n ∧
      (notes.follow id call { call with phase } sys sys').ground n = notes.ground n := by
  cases turn with
  | create observed newest reading =>
    have other : n ≠ sys.sessions.length := Nat.ne_of_lt inside
    simp [Notes.follow, reading, Function.update_of_ne other]
  | read _ _ _ _ reading => simp [Notes.follow, reading, Notes.watch]
  | _ => simp [Notes.follow, Notes.watch, *]

structure Untouched (c c' : Chronicle) (i : Nat) (source : String) : Prop where
  call : c'.call? (.caller i) = c.call? (.caller i)
  slot : c'.system.slots.get? source = c.system.slots.get? source
  sighted : c'.notes.sighted (.caller i) = c.notes.sighted (.caller i)
  made : ∀ n : Nat, n < c.system.sessions.length →
    c'.notes.maker n = c.notes.maker n ∧ c'.notes.ground n = c.notes.ground n
  own : ∀ (n : Nat) (s : Session), c.system.session? n = some s → c.notes.maker n = some (.caller i) →
    s.worker = .unborn ∨ c.given? i = some n → c'.system.session? n = some s
  crew : System.WorkersStay c.system c'.system

end Chronicle
end Journal
