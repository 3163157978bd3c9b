import Journal.Json.Cursor
/-!
What a reader does to the bytes ahead, wherever it stands in the text. Places only matter to faults, so a
reader is described by the bytes before it, its value and the bytes after it.
-/
namespace Journal.Json.Reader

variable {α β : Type}

def Gives (r : Reader α) (before : Bytes) (a : α) (after : Bytes) : Prop :=
  ∀ place, ∃ place', r ⟨place, before⟩ = .ok a ⟨place', after⟩

def Fails (r : Reader α) (before : Bytes) : Prop :=
  ∀ place, ∃ fault c, r ⟨place, before⟩ = .error fault c

theorem Gives.run_ok {r : Reader α} {bytes after : Bytes} {a : α} (gives : Gives r bytes a after) :
    r.run bytes = .ok a := by
  obtain ⟨place, eq⟩ := gives .start
  simp only [Reader.run, Cursor.start, eq]

theorem Fails.run_error {r : Reader α} {bytes : Bytes} (fails : Fails r bytes) :
    ∃ fault, r.run bytes = .error fault := by
  obtain ⟨fault, c, eq⟩ := fails .start
  exact ⟨fault, by simp only [Reader.run, Cursor.start, eq]⟩

theorem gives_pure (a : α) (bytes : Bytes) : Gives (pure a) bytes a bytes := fun place => ⟨place, rfl⟩

theorem Gives.bind {r : Reader α} {f : α → Reader β} {before middle after : Bytes} {a : α} {b : β}
    (first : Gives r before a middle) (second : Gives (f a) middle b after) :
    Gives (r >>= f) before b after := by
  intro place
  obtain ⟨place', eq⟩ := first place
  obtain ⟨place'', eq'⟩ := second place'
  refine ⟨place'', ?_⟩
  show EStateM.bind r f _ = _
  simp only [EStateM.bind, eq, eq']

theorem Gives.map {r : Reader α} {before after : Bytes} {a : α} (f : α → β) (gives : Gives r before a after) :
    Gives (do return f (← r)) before (f a) after :=
  gives.bind (gives_pure (f a) after)

theorem Fails.bind {r : Reader α} {before : Bytes} (f : α → Reader β) (fails : Fails r before) :
    Fails (r >>= f) before := by
  intro place
  obtain ⟨fault, c, eq⟩ := fails place
  refine ⟨fault, c, ?_⟩
  show EStateM.bind r f _ = _
  simp only [EStateM.bind, eq]

theorem Gives.bind_fails {r : Reader α} {f : α → Reader β} {before middle : Bytes} {a : α}
    (first : Gives r before a middle) (second : Fails (f a) middle) : Fails (r >>= f) before := by
  intro place
  obtain ⟨place', eq⟩ := first place
  obtain ⟨fault, c, eq'⟩ := second place'
  refine ⟨fault, c, ?_⟩
  show EStateM.bind r f _ = _
  simp only [EStateM.bind, eq, eq']

theorem Gives.placed {r : Reader α} {before after : Bytes} {a : α} (gives : Gives r before a after) :
    Gives (placed r) before a after := by
  intro place
  obtain ⟨place', eq⟩ := gives place
  exact ⟨place', by simp only [Reader.placed, eq]⟩

theorem gives_peek (b : UInt8) (rest : Bytes) : Gives peek (b :: rest) (some b) (b :: rest) :=
  fun place => ⟨place, rfl⟩

theorem gives_peek_head (bytes : Bytes) : Gives peek bytes bytes.head? bytes := fun place => ⟨place, rfl⟩

theorem gives_bump (b : UInt8) (rest : Bytes) : Gives bump (b :: rest) () rest :=
  fun place => ⟨place.after b, rfl⟩

theorem gives_skip (taken rest : Bytes) : Gives (skip taken.length) (taken ++ rest) () rest := by
  intro place
  refine ⟨⟨place.line, place.column + taken.length⟩, ?_⟩
  show EStateM.Result.ok () (Cursor.skip _ _) = _
  simp only [Cursor.skip, List.drop_left]

theorem gives_pass (taken rest : Bytes) : Gives (pass taken.length) (taken ++ rest) () rest := by
  intro place
  show ∃ place', EStateM.Result.ok () (Cursor.pass _ _) = _
  induction taken generalizing place with
  | nil => exact ⟨place, rfl⟩
  | cons b taken ih => exact ih (place.after b)

theorem gives_remaining (bytes : Bytes) : Gives remaining bytes bytes bytes := fun place => ⟨place, rfl⟩

theorem gives_word (expected rest : Bytes) : Gives (word expected) (expected ++ rest) () rest := by
  induction expected with
  | nil => exact gives_pure () rest
  | cons b expected ih =>
    refine (gives_peek b (expected ++ rest)).bind ((gives_bump b (expected ++ rest)).bind ?_)
    simpa only [if_true] using ih

theorem gives_peekToken {b : UInt8} (solid : isBlank b = false) (rest : Bytes) :
    Gives peekToken (b :: rest) (some b) (b :: rest) := by
  have still : Gives skipBlanks (b :: rest) () (b :: rest) := by
    intro place
    refine ⟨place, ?_⟩
    show EStateM.Result.ok () (afterBlanks _ _) = _
    simp [afterBlanks, solid]
  exact still.bind (gives_peek b rest)

theorem gives_peekToken_end : Gives peekToken [] none [] := fun place => ⟨place, rfl⟩

theorem fails_failAhead (cause : Cause) (bytes : Bytes) : Fails (failAhead cause : Reader α) bytes :=
  fun _ => ⟨_, _, rfl⟩

end Journal.Json.Reader
