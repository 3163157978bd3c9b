import Journal.Proofs.Restore.Turn

/-!
What a worker does with what its consumer gives. A receive comes to an entry, to nothing or to an error, or it goes on
waiting; each delivery is taken in one of eight ways.
-/
namespace Journal

def Received.delivery? : Received → Option Delivery
  | .entry e => some (.entry e)
  | .nothing => some .idle
  | .failed error => some (.failure error)
  | .waiting => none

namespace Session

/-- One delivery with what it makes of a session and what is reported. The tests are made in this order. -/
inductive Taken (policy : UnrecognizedPolicy) (now : Nat) (subscription : Subscription) (s : Session) :
    Delivery → Reported → Prop where
  | idle : Taken policy now subscription s .idle ({ s with worker := .ready subscription }, [])
  | failed (error : TransportError) :
      Taken policy now subscription s (.failure error) (s.abort now (.transport error))
  | pastEnd {e : Entry} (past : s.bounds.isPastEnd e.id = true) :
      Taken policy now subscription s (.entry e) (s.complete now .reachedEnd)
  | pastCeiling {e : Entry} (inside : s.bounds.isPastEnd e.id = false) (past : s.isPastCeiling e.id = true) :
      Taken policy now subscription s (.entry e) (s.complete now .reachedCeiling)
  | corrupt {e : Entry} {cause : CodecError} (inside : s.bounds.isPastEnd e.id = false)
      (below : s.isPastCeiling e.id = false) (broken : e.decode = .error cause) :
      Taken policy now subscription s (.entry e) (s.abort now (.codec cause))
  | refused {e : Entry} {op : Operation} (inside : s.bounds.isPastEnd e.id = false)
      (below : s.isPastCeiling e.id = false) (decoded : e.decode = .ok op) (unknown : Saga.forReplay op.method = none)
      (strict : policy = .abort) :
      Taken policy now subscription s (.entry e)
        (({ s with tally := s.tally.ignore }.abort now (.unrecognizedMethod e.id op.method.text)).1,
          .ignored e.id e.position op.method ::
            ({ s with tally := s.tally.ignore }.abort now (.unrecognizedMethod e.id op.method.text)).2)
  | ignored {e : Entry} {op : Operation} (inside : s.bounds.isPastEnd e.id = false)
      (below : s.isPastCeiling e.id = false) (decoded : e.decode = .ok op) (unknown : Saga.forReplay op.method = none)
      (lenient : policy = .ignore) :
      Taken policy now subscription s (.entry e)
        (({ s with tally := s.tally.ignore }.proceed now subscription e.id).1,
          .ignored e.id e.position op.method :: ({ s with tally := s.tally.ignore }.proceed now subscription e.id).2)
  | submitted {e : Entry} {op : Operation} {saga : Saga} (inside : s.bounds.isPastEnd e.id = false)
      (below : s.isPastCeiling e.id = false) (decoded : e.decode = .ok op)
      (replay : Saga.forReplay op.method = some saga) :
      Taken policy now subscription s (.entry e) ({ s with worker := .submitting subscription e saga op }, [])

theorem deliver_taken (policy : UnrecognizedPolicy) (now : Nat) (subscription : Subscription) (e : Entry) (s : Session) :
    s.Taken policy now subscription (.entry e) (s.deliver policy now subscription e) := by
  unfold deliver
  split
  · rename_i past
    exact .pastEnd past
  · rename_i inside
    rw [Bool.not_eq_true] at inside
    split
    · rename_i past
      exact .pastCeiling inside past
    · rename_i below
      rw [Bool.not_eq_true] at below
      split
      · rename_i cause broken
        exact .corrupt inside below broken
      · rename_i op decoded
        split
        · rename_i unknown
          cases policy with
          | ignore => exact .ignored inside below decoded unknown rfl
          | abort => exact .refused inside below decoded unknown rfl
        · rename_i saga replay
          exact .submitted inside below decoded replay

theorem receive_cases {settings : RestoreSettings} {now : Nat} {log : Log} {subscription : Subscription} {deadline : Nat}
    {parked : Bool} {s : Session} {result : Reported}
    (h : s.receive settings now log subscription deadline parked = some result) :
    (∃ received subscription' d, subscription.receive log now deadline parked = (received, subscription') ∧
        received.delivery? = some d ∧ s.Taken settings.unrecognized now subscription' d result) ∨
      ∃ subscription', parked = false ∧ subscription.receive log now deadline parked = (.waiting, subscription') ∧
        result = ({ s with worker := .receiving subscription' deadline true }, []) := by
  unfold receive at h
  split at h <;> rename_i given
  · cases h
    exact .inl ⟨_, _, _, given, rfl, deliver_taken ..⟩
  · cases h
    exact .inl ⟨_, _, _, given, rfl, .idle⟩
  · cases h
    exact .inl ⟨_, _, _, given, rfl, .failed _⟩
  · cases parked with
    | true => cases h
    | false =>
      cases h
      exact .inr ⟨_, rfl, given, rfl⟩

end Session
end Journal
