import Mathlib.Data.List.Basic
import ThingWorld.Proofs.Text.Folding
import ThingWorld.Reference
namespace ThingWorld.World

variable {c : Char} {cs pending seen : List Char} {s reference : String}

-- A character that is its own lower case and never blank.
def Literal (c : Char) : Prop :=
  c.toNat < 128 ∧ Text.isBlank c = false ∧ Text.isAsciiUpper c = false

theorem lowerFrom_literal (literal : Literal c) : Text.lowerFrom seen (c :: cs) = c :: Text.lowerFrom (c :: seen) cs := by
  obtain ⟨ascii, _, small⟩ := literal
  have other : c ≠ 'Σ' := by
    rintro rfl
    revert ascii
    decide
  simp [Text.lowerFrom, other, Text.lowerChar, ascii, Text.asciiLowerChar, small]

theorem mem_lowerFrom (literal : Literal c) (member : c ∈ cs) : c ∈ Text.lowerFrom seen cs := by
  induction cs generalizing seen with
  | nil => cases member
  | cons first rest ih =>
    rcases List.mem_cons.mp member with rfl | later
    · rw [lowerFrom_literal literal]
      exact List.mem_cons_self
    · rw [Text.lowerFrom]
      exact List.mem_append_right _ (ih later)

theorem mem_wordsFrom (shown : Text.isBlank c = false) (member : c ∈ pending ∨ c ∈ cs) :
    ∃ word ∈ Text.wordsFrom pending cs, c ∈ word := by
  induction cs generalizing pending with
  | nil =>
    have waits : c ∈ pending := by simpa using member
    refine ⟨pending.reverse, ?_, List.mem_reverse.mpr waits⟩
    simp [Text.wordsFrom, List.ne_nil_of_mem waits]
  | cons first rest ih =>
    rw [Text.wordsFrom]
    split
    · rename_i blank
      rcases member with waits | among
      · refine ⟨pending.reverse, ?_, List.mem_reverse.mpr waits⟩
        simp [List.ne_nil_of_mem waits]
      · have later : c ∈ rest := by
          rcases List.mem_cons.mp among with rfl | later
          · rw [shown] at blank
            cases blank
          · exact later
        obtain ⟨word, listed, inside⟩ := ih (.inr later)
        split
        · exact ⟨word, listed, inside⟩
        · exact ⟨word, List.mem_cons_of_mem _ listed, inside⟩
    · refine ih ?_
      simp only [List.mem_cons] at member ⊢
      tauto

theorem mem_intercalate {words : List (List Char)} {word : List Char} (listed : word ∈ words) (inside : c ∈ word) :
    c ∈ List.intercalate [' '] words := by
  induction words with
  | nil => cases listed
  | cons first rest ih =>
    cases rest with
    | nil =>
      rw [List.intercalate_singleton, ← List.mem_singleton.mp listed]
      exact inside
    | cons second others =>
      rw [List.intercalate_cons_cons]
      rcases List.mem_cons.mp listed with rfl | later
      · simp [inside]
      · simp [ih later]

theorem mem_normalizeName (literal : Literal c) (member : c ∈ s.toList) : c ∈ (normalizeName s).toList := by
  have split : ∃ word ∈ Text.words (Text.lowerFrom [] s.toList), c ∈ word :=
    mem_wordsFrom literal.2.1 (.inr (mem_lowerFrom literal member))
  obtain ⟨word, listed, inside⟩ := split
  have spelled : (Text.lower s).toList = Text.lowerFrom [] s.toList := String.toList_ofList
  rw [normalizeName, String.toList_ofList, spelled]
  exact mem_intercalate listed inside

theorem lowerFrom_literals (literals : ∀ c ∈ cs, Literal c) : Text.lowerFrom seen cs = cs := by
  induction cs generalizing seen with
  | nil => rfl
  | cons c rest ih =>
    rw [lowerFrom_literal (literals c List.mem_cons_self), ih fun d member => literals d (List.mem_cons_of_mem c member)]

theorem wordsFrom_literals (literals : ∀ c ∈ cs, Literal c) (begun : pending ++ cs ≠ []) :
    Text.wordsFrom pending cs = [pending.reverse ++ cs] := by
  induction cs generalizing pending with
  | nil => simpa [Text.wordsFrom] using begun
  | cons c rest ih =>
    simp [Text.wordsFrom, (literals c List.mem_cons_self).2.1,
      ih (fun d member => literals d (List.mem_cons_of_mem c member))]

theorem literal_digit (digit : c.isDigit = true) : Literal c := by
  have bounds : 48 ≤ c.toNat ∧ c.toNat ≤ 57 := by
    simpa [Char.isDigit, UInt32.le_iff_toNat_le] using digit
  refine ⟨by omega, ?_, ?_⟩
  · simp only [Text.isBlank, Bool.or_eq_false_iff, Bool.and_eq_false_iff, decide_eq_false_iff_not, beq_eq_false_iff_ne]
    omega
  · rw [← Bool.not_eq_true, Text.isAsciiUpper_iff]
    omega

-- An id is spelled as it is once it is normalized.
theorem normalizeName_showId (id : ThingId) : normalizeName (showId id) = showId id := by
  have spelled : (showId id).toList = '%' :: Nat.toDigits 10 id.toNat := by simp [showId, Text.showNat]
  have literals : ∀ c ∈ (showId id).toList, Literal c := by
    rw [spelled]
    intro c member
    rcases List.mem_cons.mp member with rfl | digit
    · exact ⟨by decide, by decide, by decide⟩
    · exact literal_digit (Nat.isDigit_of_mem_toDigits (by decide) (by decide) digit)
  have begun : [] ++ (showId id).toList ≠ [] := by simp [spelled]
  rw [normalizeName, Text.lower, String.toList_ofList, lowerFrom_literals literals, Text.words,
    wordsFrom_literals literals begun]
  simp

end ThingWorld.World
