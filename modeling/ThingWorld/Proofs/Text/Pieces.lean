import ThingWorld.Proofs.Text.Trimming
import ThingWorld.Text.Split
namespace ThingWorld

variable {sep : Char} {cs lead tail : List Char}

theorem pieces_splitOn (sep : Char) (cs : List Char) : Text.pieces sep cs = cs.splitOn sep := by
  induction cs with
  | nil => simp [Text.pieces]
  | cons c rest ih =>
    rw [Text.pieces, ih, List.splitOn_cons_eq_if_modifyHead]
    cases pieces : rest.splitOn sep with
    | nil => exact absurd pieces (List.splitOn_ne_nil sep rest)
    | cons piece more => simp

theorem pieces_apart (sep : Char) (cs : List Char) : ∀ piece ∈ Text.pieces sep cs, sep ∉ piece := by
  induction cs with
  | nil => simp [Text.pieces]
  | cons c rest ih =>
    unfold Text.pieces
    split
    · simp
    · rename_i piece more same
      rw [same] at ih
      obtain ⟨first, others⟩ := List.forall_mem_cons.mp ih
      split
      · exact List.forall_mem_cons.mpr ⟨List.not_mem_nil, ih⟩
      · rename_i differs
        exact List.forall_mem_cons.mpr ⟨by simp [first, Ne.symm differs], others⟩

theorem pieces_iff {pieces : List (List Char)} :
    Text.pieces sep cs = pieces ↔ pieces ≠ [] ∧ (∀ piece ∈ pieces, sep ∉ piece) ∧ [sep].intercalate pieces = cs := by
  constructor
  · rintro rfl
    exact ⟨by simp [pieces_splitOn], pieces_apart sep cs, by simp [pieces_splitOn]⟩
  · rintro ⟨some, apart, rfl⟩
    rw [pieces_splitOn, List.splitOn_intercalate sep apart some]

theorem pieces_behind (apart : sep ∉ lead) :
    Text.pieces sep (lead ++ cs) = (Text.pieces sep cs).modifyHead (lead ++ ·) := by
  induction lead with
  | nil =>
    rw [List.nil_append]
    cases Text.pieces sep cs <;> rfl
  | cons c lead ih =>
    obtain ⟨differs, apart⟩ := not_or.mp (List.mem_cons.not.mp apart)
    rw [pieces_splitOn, pieces_splitOn] at ih ⊢
    simp [List.splitOn_cons_eq_if_modifyHead, Ne.symm differs, ih apart, Function.comp_def]

theorem pieces_before (apart : sep ∉ tail) :
    ∃ front last, Text.pieces sep cs = front ++ [last] ∧ Text.pieces sep (cs ++ tail) = front ++ [last ++ tail] := by
  induction cs with
  | nil => exact ⟨[], [], rfl, by simp [pieces_splitOn, List.splitOn_eq_singleton apart]⟩
  | cons c rest ih =>
    obtain ⟨front, last, same, same'⟩ := ih
    simp only [pieces_splitOn, List.cons_append, List.splitOn_cons_eq_if_modifyHead] at same same' ⊢
    split
    · exact ⟨[] :: front, last, by simp [same], by simp [same']⟩
    · cases front with
      | nil => exact ⟨[], c :: last, by simp [same], by simp [same']⟩
      | cons first front => exact ⟨(c :: first) :: front, last, by simp [same], by simp [same']⟩

theorem pieces_around (shown : Text.isBlank sep = false) (before : lead.all Text.isBlank = true)
    (after : tail.all Text.isBlank = true) :
    (Text.pieces sep (lead ++ cs ++ tail)).map Text.trim = (Text.pieces sep cs).map Text.trim := by
  have apart {blanks : List Char} (blank : blanks.all Text.isBlank = true) : sep ∉ blanks := by
    intro member
    rw [List.all_eq_true.mp blank sep member] at shown
    cases shown
  obtain ⟨front, last, same, same'⟩ := @pieces_before sep cs tail (apart after)
  have behind (piece : List Char) : Text.trim (lead ++ piece) = Text.trim piece := by
    have around : Text.trim (lead ++ piece ++ []) = Text.trim piece := trim_around before rfl
    rwa [List.append_nil] at around
  have ahead (piece : List Char) : Text.trim (piece ++ tail) = Text.trim piece :=
    trim_around (rfl : ([] : List Char).all Text.isBlank = true) after
  rw [List.append_assoc, pieces_behind (apart before), same', same]
  cases front with
  | nil => simp [behind, ahead]
  | cons first front => simp [behind, ahead]

end ThingWorld
