import Journal.Settings.Layers
import Mathlib.Data.String.Basic

/-!
A file that is named without directory is looked for under its name, and then with either extension.
-/
namespace Journal.Settings

theorem splitOnAux_slash (before after : List Char) (plain : '/' ∉ after) :
    String.splitOnAux (.ofList (before ++ after)) "/" 0 ⟨String.utf8Len before⟩ 0 [] = [.ofList (before ++ after)] := by
  induction after generalizing before with
  | nil =>
    rw [String.splitOnAux, if_pos ((String.atEnd_of_valid before []).mpr rfl)]
    have whole := String.extract_zero_rawEndPos (.ofList (before ++ []))
    rw [String.rawEndPos_ofList, List.append_nil] at whole
    simp only [List.append_nil, List.reverse_cons, List.reverse_nil, List.nil_append]
    exact congrArg (fun s => [s]) whole
  | cons c after ih =>
    obtain ⟨different, plain⟩ := not_or.mp (mt List.mem_cons.mpr plain)
    have inside : ¬ String.Pos.Raw.atEnd (.ofList (before ++ c :: after)) ⟨String.utf8Len before⟩ = true := by
      rw [String.atEnd_of_valid]
      simp
    have here : String.Pos.Raw.get (.ofList (before ++ c :: after)) ⟨String.utf8Len before⟩ = c := String.get_of_valid ..
    have slash : String.Pos.Raw.get "/" 0 = '/' := rfl
    have next : String.Pos.Raw.next (.ofList (before ++ c :: after)) ⟨String.utf8Len before⟩ =
        ⟨String.utf8Len (before ++ [c])⟩ := by
      simp only [String.next_of_valid, String.utf8Len_append, String.utf8Len_cons, String.utf8Len_nil, Nat.zero_add]
    have later := ih (before ++ [c]) plain
    rw [List.append_assoc, List.singleton_append, ← next] at later
    rw [String.splitOnAux, if_neg inside, here, slash, if_neg (by simpa using Ne.symm different)]
    exact later

theorem splitOn_slash {s : String} (plain : '/' ∉ s.toList) : s.splitOn "/" = [s] := by
  have whole := splitOnAux_slash [] s.toList plain
  simpa [String.splitOn] using whole

theorem startsWith_slash {s : String} (plain : '/' ∉ s.toList) : s.startsWith "/" = false := by
  rw [String.startsWith_string_eq_false_iff]
  rintro ⟨rest, whole⟩
  exact plain (whole ▸ List.mem_cons_self)

theorem candidates_of_name {name : String} (plain : '/' ∉ name.toList) (proper : name ∉ ["", ".", ".."]) :
    candidates name = [name, name ++ ".yaml", name ++ ".yml"] := by
  obtain ⟨solid, dot, dots⟩ : name ≠ "" ∧ name ≠ "." ∧ name ≠ ".." := by simpa using proper
  have parts : pathParts name = [name] := by simp [pathParts, splitOn_slash plain, solid, dot]
  have file : endsInDirectory name = false := by simp [endsInDirectory, splitOn_slash plain, solid, dot, dots]
  have same : plainName name = name := by simp [plainName, startsWith_slash plain, parts]
  simp [candidates, file, parts, same, extensions]

end Journal.Settings
