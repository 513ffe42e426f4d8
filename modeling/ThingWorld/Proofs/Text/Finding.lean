import Mathlib.Data.List.Infix
import ThingWorld.Text.Split
namespace ThingWorld

variable {part body before rest cs : List Char} {first : Char}

theorem find_none_iff : Text.find? part cs = none ↔ ¬ part <:+: cs := by
  induction cs with
  | nil =>
    rw [Text.find?, List.infix_nil]
    cases part with
    | nil => exact ⟨(nomatch ·), fun absent => absurd rfl absent⟩
    | cons c more => exact ⟨fun _ same => (nomatch same), fun _ => rfl⟩
  | cons c cs ih =>
    rw [Text.find?, List.infix_cons_iff, not_or, ← ih, ← List.isPrefixOf_iff_prefix]
    cases part.isPrefixOf (c :: cs) with
    | true => exact ⟨(nomatch ·), fun absent => absurd rfl absent.1⟩
    | false =>
      exact ⟨fun absent => ⟨Bool.false_ne_true, Option.map_eq_none_iff.mp absent⟩,
        fun absent => Option.map_eq_none_iff.mpr absent.2⟩

-- A part of a text holds nothing that the text does not hold.
theorem find_none_within (within : before <:+: cs) (absent : Text.find? part cs = none) :
    Text.find? part before = none :=
  find_none_iff.mpr fun found => find_none_iff.mp absent (found.trans within)

-- A mark that begins before `first :: rest` ends before it.
theorem prefix_within (once : first ∉ body) (nonempty : before ≠ [])
    (begins : first :: body <+: before ++ first :: rest) : first :: body <+: before := by
  obtain ⟨tail, same⟩ := begins
  rcases List.append_eq_append_iff.mp same with ⟨more, whole, -⟩ | ⟨more, whole, split⟩
  · exact ⟨more, whole.symm⟩
  · cases before with
    | nil => exact absurd rfl nonempty
    | cons c before =>
      obtain ⟨rfl, inside⟩ := List.cons.inj whole
      cases more with
      | nil => exact ⟨[], by rw [List.append_nil, whole, List.append_nil]⟩
      | cons d more =>
        obtain ⟨rfl, -⟩ := List.cons.inj split
        exact absurd (by rw [inside]; exact List.mem_append_right _ List.mem_cons_self) once

-- Nothing of the mark is found before the first whole one.
theorem find_after (once : first ∉ body) (absent : Text.find? (first :: body) before = none) :
    Text.find? (first :: body) (before ++ first :: rest) =
      (Text.find? (first :: body) (first :: rest)).map (· + before.length) := by
  induction before with
  | nil => simp
  | cons c before ih =>
    rw [find_none_iff, List.infix_cons_iff, not_or, ← find_none_iff] at absent
    have elsewhere : (first :: body).isPrefixOf (c :: (before ++ first :: rest)) = false :=
      Bool.eq_false_iff.mpr fun begins =>
        absent.1 (prefix_within once (List.cons_ne_nil c before) (List.isPrefixOf_iff_prefix.mp begins))
    rw [List.cons_append, Text.find?, elsewhere, ih absent.2, List.length_cons]
    cases Text.find? (first :: body) (first :: rest) with
    | none => rfl
    | some place => exact congrArg some (Nat.add_assoc place before.length 1)

theorem find_skips (skipped : first ∉ before) (absent : Text.find? (first :: body) cs = none) :
    Text.find? (first :: body) (before ++ cs) = none := by
  induction before with
  | nil => exact absent
  | cons c before ih =>
    obtain ⟨here, later⟩ := not_or.mp (List.mem_cons.not.mp skipped)
    have elsewhere : (first :: body).isPrefixOf (c :: (before ++ cs)) = false := by
      rw [List.isPrefixOf, beq_eq_false_iff_ne.mpr here, Bool.false_and]
    rw [List.cons_append, Text.find?, elsewhere, ih later]
    rfl

theorem find_here : Text.find? (first :: body) (first :: body ++ rest) = some 0 := by
  have begins : (first :: body).isPrefixOf (first :: (body ++ rest)) = true :=
    List.isPrefixOf_iff_prefix.mpr (List.prefix_append (first :: body) rest)
  rw [List.cons_append, Text.find?, begins]
  rfl

end ThingWorld
