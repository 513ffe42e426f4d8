import Mathlib.Data.List.Basic
import ThingWorld.Text.Case
namespace ThingWorld.Text

variable {c : Char} {n : Nat} {cs seen : List Char}

theorem isAsciiUpper_iff : isAsciiUpper c = true ↔ 65 ≤ c.toNat ∧ c.toNat ≤ 90 := by
  rw [isAsciiUpper, Bool.and_eq_true, decide_eq_true_iff, decide_eq_true_iff]
  exact Iff.rfl

theorem isAsciiUpper_far (far : 90 < n) : isAsciiUpper (Char.ofNat n) = false := by
  rw [← Bool.not_eq_true, isAsciiUpper_iff, Char.ofNat]
  by_cases valid : n.isValidChar
  · rw [dif_pos valid]
    show ¬(65 ≤ n ∧ n ≤ 90)
    omega
  · rw [dif_neg valid]
    decide

theorem isAsciiUpper_asciiLowerChar (c : Char) : isAsciiUpper (asciiLowerChar c) = false := by
  rw [asciiLowerChar]
  cases upper : isAsciiUpper c with
  | false => exact upper
  | true =>
    have letter := isAsciiUpper_iff.mp upper
    exact isAsciiUpper_far (by omega)

theorem lowerShifts_far : ∀ run ∈ lowerShifts, 90 < (run.first : Int) + run.shift := by decide +kernel

theorem lowerSequences_small :
    ∀ entry ∈ lowerSequences, ∀ n ∈ entry.2, isAsciiUpper (Char.ofNat n) = false := by decide +kernel

-- The image of a letter is at least as far as that of the first letter of its run.
theorem image_far {run : ShiftRun} (member : run ∈ lowerShifts) {image : Nat} (shifted : run.image? n = some image) :
    90 < image := by
  have first := lowerShifts_far run member
  rw [ShiftRun.image?] at shifted
  split at shifted
  · rename_i inside
    simp only [Bool.and_eq_true, decide_eq_true_eq] at inside
    cases shifted
    omega
  · cases shifted

theorem isAsciiUpper_caseImage (beyond : 128 ≤ c.toNat) : ∀ d ∈ caseImage lowerSequences lowerShifts c, isAsciiUpper d = false := by
  intro d member
  rw [caseImage] at member
  split at member
  · rename_i image listed
    obtain ⟨n, inside, rfl⟩ := List.mem_map.mp member
    obtain ⟨before, after, same, -⟩ := List.lookup_eq_some_iff.mp listed
    refine lowerSequences_small (c.toNat, image) ?_ n inside
    rw [same]
    exact List.mem_append_right before List.mem_cons_self
  · rw [List.mem_singleton] at member
    subst member
    cases found : lowerShifts.findSome? (·.image? c.toNat) with
    | none =>
      rw [Option.map_none, Option.getD_none, ← Bool.not_eq_true, isAsciiUpper_iff]
      omega
    | some image =>
      obtain ⟨run, listed, shifted⟩ := List.exists_of_findSome?_eq_some found
      exact isAsciiUpper_far (image_far listed shifted)

theorem isAsciiUpper_lowerChar (c : Char) : ∀ d ∈ lowerChar c, isAsciiUpper d = false := by
  intro d member
  rw [lowerChar] at member
  split at member
  · rw [List.mem_singleton.mp member]
    exact isAsciiUpper_asciiLowerChar c
  · rename_i beyond
    exact isAsciiUpper_caseImage (Nat.not_lt.mp beyond) d member

theorem isAsciiUpper_lowerFrom : ∀ d ∈ lowerFrom seen cs, isAsciiUpper d = false := by
  induction cs generalizing seen with
  | nil => exact fun d member => nomatch member
  | cons c cs ih =>
    intro d member
    rw [lowerFrom] at member
    rcases List.mem_append.mp member with first | rest
    · split at first
      · split at first <;> rw [List.mem_singleton.mp first] <;> decide
      · exact isAsciiUpper_lowerChar c d first
    · exact ih d rest

theorem asciiLower_lower (s : String) : asciiLower (lower s) = lower s := by
  rw [asciiLower, lower, String.toList_ofList]
  refine congrArg String.ofList ((List.map_congr_left fun d member => ?_).trans (List.map_id _))
  rw [asciiLowerChar, isAsciiUpper_lowerFrom d member]
  rfl

end ThingWorld.Text
