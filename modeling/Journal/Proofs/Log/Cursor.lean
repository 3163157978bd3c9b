import Journal.Log.Script
import Journal.Proofs.Log.Order

/-!
What a consumer gives. Before it lies the rest of its topic, without the entries that its start does not admit;
every look gives the first of the rest, and a topic that grows adds to its end. A start is applied only until it has
admitted an entry, which agrees with applying it to every entry because ids ascend.
-/
namespace Journal

theorem Start.admits_of_le {s : Start} {a b : Ulid} (admitted : s.admits a = true) (above : a ≤ b) :
    s.admits b = true := by
  have order : a.toNat ≤ b.toNat := above
  unfold admits at admitted ⊢
  split at admitted
  · rename_i inclusive
    rw [if_pos inclusive]
    have lower : s.id.toNat ≤ a.toNat := of_decide_eq_true admitted
    exact decide_eq_true (Nat.le_trans lower order)
  · rename_i exclusive
    rw [if_neg exclusive]
    have lower : s.id.toNat < a.toNat := of_decide_eq_true admitted
    exact decide_eq_true (Nat.lt_of_lt_of_le lower order)

theorem Start.admitted_of_le {start : Option Start} {a b : Ulid} (admitted : Start.admitted start a = true)
    (above : a ≤ b) : Start.admitted start b = true := by
  cases start with
  | none => rfl
  | some s => exact s.admits_of_le admitted above

def Start.select (start : Option Start) (entries : List Entry) : List Entry :=
  entries.filter fun e => Start.admitted start e.id

namespace Consumer

variable {start : Option Start} {entries later : List Entry} {c : Consumer}

/-- What a consumer still has before it, if its start was `start` in the beginning. -/
def rest (start : Option Start) (entries : List Entry) (c : Consumer) : List Entry :=
  Start.select start (entries.drop c.cursor)

/-- The start is still to be applied, or it has admitted an entry that was passed. -/
structure Tracks (start : Option Start) (entries : List Entry) (c : Consumer) : Prop where
  inside : c.cursor ≤ entries.length
  applied : c.start = start ∨
    c.start = none ∧ ∃ e ∈ entries.take c.cursor, Start.admitted start e.id = true

theorem tracks_fresh (topic : String) (start : Option Start) (entries : List Entry) :
    Tracks start entries { topic, start } := ⟨Nat.zero_le _, .inl rfl⟩

theorem Tracks.grown (tracks : c.Tracks start entries) (grown : entries <+: later) : c.Tracks start later := by
  obtain ⟨more, rfl⟩ := grown
  refine ⟨by have := tracks.inside; simp only [List.length_append]; omega, ?_⟩
  rw [List.take_append_of_le_length tracks.inside]
  exact tracks.applied

theorem rest_grown (tracks : c.Tracks start entries) (more : List Entry) :
    c.rest start (entries ++ more) = c.rest start entries ++ Start.select start more := by
  simp only [rest, Start.select, List.drop_append_of_le_length tracks.inside, List.filter_append]

theorem rest_applied (ascending : Ascending entries) (tracks : c.Tracks start entries) (applied : c.start = none) :
    c.rest start entries = entries.drop c.cursor := by
  apply List.filter_eq_self.mpr
  intro d ahead
  rcases tracks.applied with same | ⟨-, e, passed, admitted⟩
  · rw [← same, applied]
    rfl
  · have ordered : Ascending (entries.take c.cursor ++ entries.drop c.cursor) := by
      rw [List.take_append_drop]
      exact ascending
    have apart : e.id.toNat < d.id.toNat := (List.pairwise_append.mp ordered).2.2 e passed d ahead
    exact Start.admitted_of_le admitted (Nat.le_of_lt apart)

theorem seek_spec {s : Start} (entries : List Entry) {c : Consumer} (pending : c.start = some s) :
    (Start.select (some s) entries = [] ∧ seek entries c = { c with cursor := c.cursor + entries.length }) ∨
      ∃ (before after : List Entry) (e : Entry), entries = before ++ e :: after ∧ s.admits e.id = true ∧
        Start.select (some s) entries = e :: Start.select (some s) after ∧
        seek entries c = { c with cursor := c.cursor + before.length, start := none } := by
  obtain ⟨topic, cursor, first, seen⟩ := c
  cases pending
  induction entries generalizing cursor with
  | nil => exact .inl ⟨rfl, rfl⟩
  | cons e entries ih =>
    cases admits : s.admits e.id with
    | true =>
      exact .inr ⟨[], entries, e, rfl, admits, by simp [Start.select, Start.admitted, admits], by simp [seek, admits]⟩
    | false =>
      have skipped : Start.select (some s) (e :: entries) = Start.select (some s) entries := by
        simp [Start.select, Start.admitted, admits]
      have step : seek (e :: entries) ⟨topic, cursor, some s, seen⟩ = seek entries ⟨topic, cursor + 1, some s, seen⟩ := by
        simp [seek, admits]
      rw [step, skipped]
      rcases ih (cursor + 1) with ⟨none, same⟩ | ⟨before, after, d, rfl, found, ahead, same⟩
      · refine .inl ⟨none, same.trans ?_⟩
        simp only [List.length_cons, Nat.add_assoc cursor 1, Nat.add_comm 1]
      · refine .inr ⟨e :: before, after, d, rfl, found, ahead, same.trans ?_⟩
        simp only [List.length_cons, Nat.add_assoc cursor 1, Nat.add_comm 1]

theorem look_found {c' : Consumer} {e : Entry}
    (sought : seek (entries.drop c.cursor) { c with seen := entries.length } = c') (applied : c'.start = none)
    (next : entries[c'.cursor]? = some e) (admitted : Start.admitted start e.id = true)
    (ahead : c.rest start entries = e :: Start.select start (entries.drop (c'.cursor + 1))) :
    c.look entries = ((c.rest start entries).head?, { c' with cursor := c'.cursor + 1 }) ∧
      Tracks start entries { c' with cursor := c'.cursor + 1 } ∧
      rest start entries { c' with cursor := c'.cursor + 1 } = (c.rest start entries).tail := by
  obtain ⟨inside, rfl⟩ := List.getElem?_eq_some_iff.mp next
  refine ⟨?_, ⟨inside, .inr ⟨applied, entries[c'.cursor], ?_, admitted⟩⟩, ?_⟩
  · rw [ahead]
    simp only [look, sought, applied, next, List.head?_cons]
  · rw [← List.take_append_getElem inside]
    exact List.mem_append_right _ (List.mem_singleton_self _)
  · rw [ahead]
    rfl

theorem look_missed {c' : Consumer} (sought : seek (entries.drop c.cursor) { c with seen := entries.length } = c')
    (next : entries[c'.cursor]? = none) : c.look entries = (none, c') := by
  simp only [look, sought, next]
  split <;> simp_all

theorem look_spec (ascending : Ascending entries) (tracks : c.Tracks start entries) :
    ∃ c' : Consumer, c.look entries = ((c.rest start entries).head?, c') ∧ c'.topic = c.topic ∧
      c'.Tracks start entries ∧ c'.rest start entries = (c.rest start entries).tail := by
  cases pending : c.start with
  | none =>
    have left := rest_applied ascending tracks pending
    have sought : seek (entries.drop c.cursor) { c with seen := entries.length } = { c with seen := entries.length } := by
      cases entries.drop c.cursor with
      | nil => rfl
      | cons => simp only [seek, pending]
    cases next : entries[c.cursor]? with
    | none =>
      have nothing : entries.drop c.cursor = [] := List.drop_eq_nil_iff.mpr (List.getElem?_eq_none_iff.mp next)
      refine ⟨{ c with seen := entries.length }, ?_, rfl, ⟨tracks.inside, tracks.applied⟩, ?_⟩
      · rw [look_missed sought next, left, nothing]
        rfl
      · simp only [rest, nothing]
        rfl
    | some e =>
      obtain ⟨inside, same⟩ := List.getElem?_eq_some_iff.mp next
      have ahead : entries.drop c.cursor = e :: entries.drop (c.cursor + 1) := by
        rw [List.drop_eq_getElem_cons inside, same]
      have admitted : Start.admitted start e.id = true := by
        have member : e ∈ c.rest start entries := by simp [left, ahead]
        exact (List.mem_filter.mp member).2
      obtain ⟨given, tracks', remains⟩ := look_found sought pending next admitted (by
        simp only [rest, ahead, Start.select, List.filter_cons, admitted, if_true])
      exact ⟨_, given, rfl, tracks', remains⟩
  | some s =>
    have same : start = some s := by
      rcases tracks.applied with same | ⟨none, -⟩
      · rw [← same, pending]
      · simp [pending] at none
    subst same
    rcases seek_spec (entries.drop c.cursor) (c := { c with seen := entries.length }) pending with
      ⟨none, sought⟩ | ⟨before, after, e, parts, admits, ahead, sought⟩
    · have total : c.cursor + (entries.drop c.cursor).length = entries.length := by
        have := tracks.inside
        simp only [List.length_drop]
        omega
      simp only [total] at sought
      refine ⟨{ c with cursor := entries.length, seen := entries.length }, ?_, rfl, ⟨Nat.le_refl _, .inl pending⟩, ?_⟩
      · rw [look_missed sought (List.getElem?_eq_none (Nat.le_refl _)), rest, none]
        rfl
      · simp only [rest, none, List.drop_length]
        rfl
    · have next : entries[c.cursor + before.length]? = some e := by
        rw [← List.getElem?_drop, parts]
        simp
      have remains : entries.drop (c.cursor + before.length + 1) = after := by
        rw [Nat.add_assoc, ← List.drop_drop, parts]
        simp
      have admitted : Start.admitted (some s) e.id = true := admits
      obtain ⟨given, tracks', left⟩ := look_found sought rfl next admitted (by simp only [rest, ahead, remains])
      exact ⟨_, given, rfl, tracks', left⟩

theorem seek_bounds (entries : List Entry) (c : Consumer) :
    (seek entries c).seen = c.seen ∧ (seek entries c).cursor ≤ c.cursor + entries.length ∧
      ((seek entries c).start ≠ none → (seek entries c).cursor = c.cursor + entries.length) := by
  induction entries generalizing c with
  | nil => exact ⟨rfl, Nat.le_refl _, fun _ => rfl⟩
  | cons e entries ih =>
    cases pending : c.start with
    | none =>
      simp only [seek, pending]
      exact ⟨trivial, Nat.le_add_right _ _, fun applied => absurd rfl applied⟩
    | some s =>
      cases admits : s.admits e.id with
      | true =>
        simp only [seek, pending, admits, if_true]
        exact ⟨trivial, Nat.le_add_right _ _, fun applied => absurd rfl applied⟩
      | false =>
        obtain ⟨seen, inside, passed⟩ := ih { c with cursor := c.cursor + 1 }
        simp only [seek, pending, admits, Bool.false_eq_true, if_false, List.length_cons] at seen inside passed ⊢
        exact ⟨seen, by omega, fun left => by have := passed left; omega⟩

theorem look_end {c' : Consumer} (inside : c.cursor ≤ entries.length) (missed : c.look entries = (none, c')) :
    c'.cursor = entries.length ∧ c'.seen = entries.length := by
  obtain ⟨seen, low, passed⟩ := seek_bounds (entries.drop c.cursor) { c with seen := entries.length }
  have total : c.cursor + (entries.drop c.cursor).length = entries.length := by
    rw [List.length_drop]
    omega
  rw [total] at low passed
  unfold look at missed
  simp only at missed
  split at missed
  · cases missed
  · rename_i nothing
    cases missed
    refine ⟨?_, seen⟩
    cases start : (seek (entries.drop c.cursor) { c with seen := entries.length }).start with
    | some s => exact passed (by simp [start])
    | none =>
      refine Nat.le_antisymm low (Nat.le_of_not_lt fun short => ?_)
      exact nothing _ start (List.getElem?_eq_getElem short)

theorem receive_end {now deadline : Nat} {parked : Bool} {received : Received} {c' : Consumer}
    (inside : c.cursor ≤ entries.length) (waits : parked = true → c.cursor = c.seen)
    (h : c.receive now deadline parked entries = (received, c')) (idle : ∀ e, received ≠ .entry e) :
    c'.cursor = entries.length ∧ c'.seen = entries.length := by
  unfold receive at h
  simp only at h
  split at h
  · rename_i unchanged
    cases h
    obtain ⟨parked, seen⟩ : parked = true ∧ c.seen = entries.length := by simpa using unchanged
    exact ⟨(waits parked).trans seen, seen⟩
  · split at h
    · cases h
      exact absurd rfl (idle _)
    · rename_i next looked
      cases h
      exact look_end inside looked

theorem receive_spec {now deadline : Nat} {parked : Bool} {received : Received} {c' : Consumer}
    (ascending : Ascending entries) (tracks : c.Tracks start entries)
    (h : c.receive now deadline parked entries = (received, c')) :
    c'.topic = c.topic ∧ c'.Tracks start entries ∧
      ((∃ e, received = .entry e ∧ c.rest start entries = e :: c'.rest start entries) ∨
        (received = .nothing ∨ received = .waiting) ∧ c'.rest start entries = c.rest start entries ∧
          (parked = false → c.rest start entries = [])) := by
  have idle : ∀ {r : Received}, (if deadline ≤ now then Received.nothing else .waiting) = r →
      r = .nothing ∨ r = .waiting := by
    rintro r rfl
    split
    · exact .inl rfl
    · exact .inr rfl
  simp only [receive] at h
  by_cases unchanged : (parked && c.seen == entries.length) = true
  · rw [if_pos unchanged] at h
    cases h
    exact ⟨rfl, tracks, .inr ⟨idle rfl, rfl, fun fresh => by simp [fresh] at unchanged⟩⟩
  · rw [if_neg unchanged] at h
    obtain ⟨next, looked, topic, tracks', remains⟩ := look_spec ascending tracks
    rw [looked] at h
    cases left : c.rest start entries with
    | nil =>
      rw [left] at h remains
      cases h
      exact ⟨topic, tracks', .inr ⟨idle rfl, remains, fun _ => rfl⟩⟩
    | cons e others =>
      rw [left] at h remains
      cases h
      exact ⟨topic, tracks', .inl ⟨e, rfl, by rw [remains]; rfl⟩⟩

end Consumer
end Journal
