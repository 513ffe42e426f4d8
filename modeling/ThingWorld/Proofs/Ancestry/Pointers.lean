import Mathlib.Logic.Relation
namespace ThingWorld

variable {α : Type} {before after : α → α → Prop} {source target : α}

-- Nothing comes back to itself.
def Uncircled (leads : α → α → Prop) : Prop :=
  ∀ one, ¬Relation.TransGen leads one one

-- `source` leads to `target` and nowhere else, and all others lead where they led.
def Redirected (before after : α → α → Prop) (source target : α) : Prop :=
  (∀ next, after source next ↔ next = target) ∧ ∀ one next, one ≠ source → (after one next ↔ before one next)

-- What leads to the source leads there without passing through it.
theorem leads_redirected (redirected : Redirected before after source target) {start : α}
    (leads : Relation.ReflTransGen before start source) : Relation.ReflTransGen after start source := by
  induction leads using Relation.ReflTransGen.head_induction_on with
  | refl => exact .refl
  | @head one next step _ ih =>
    by_cases same : one = source
    · rw [same]
    · exact .head ((redirected.2 one next same).mpr step) ih

-- If nothing leads from the new target to the source, whatever the target now leads to it led to before.
theorem leads_before (redirected : Redirected before after source target)
    (apart : ¬Relation.ReflTransGen before target source) {last : α} (leads : Relation.ReflTransGen after target last) :
    Relation.ReflTransGen before target last := by
  induction leads with
  | refl => exact .refl
  | @tail one next _ step ih =>
    have other : one ≠ source := by
      rintro rfl
      exact apart ih
    exact ih.tail ((redirected.2 one next other).mp step)

theorem leads_cases (redirected : Redirected before after source target) {start last : α}
    (leads : Relation.TransGen after start last) :
    Relation.TransGen before start last ∨
      Relation.ReflTransGen after start source ∧ Relation.ReflTransGen after target last := by
  induction leads with
  | @single next step =>
    by_cases same : start = source
    · subst same
      rw [(redirected.1 next).mp step]
      exact .inr ⟨.refl, .refl⟩
    · exact .inl (.single ((redirected.2 start next same).mp step))
  | @tail one next earlier step ih =>
    rcases ih with old | ⟨toSource, fromTarget⟩
    · by_cases same : one = source
      · subst same
        rw [(redirected.1 next).mp step]
        exact .inr ⟨earlier.to_reflTransGen, .refl⟩
      · exact .inl (old.tail ((redirected.2 one next same).mp step))
    · exact .inr ⟨toSource, fromTarget.tail step⟩

theorem uncircled_redirected (uncircled : Uncircled before) (redirected : Redirected before after source target) :
    Uncircled after ↔ ¬Relation.ReflTransGen before target source := by
  constructor
  · intro uncircled' leads
    exact uncircled' source (.head' ((redirected.1 target).mpr rfl) (leads_redirected redirected leads))
  · intro apart one circle
    rcases leads_cases redirected circle with old | ⟨toSource, fromTarget⟩
    · exact uncircled one old
    · exact apart (leads_before redirected apart (fromTarget.trans toSource))

-- Whatever is ranked above what it leads to never comes back to itself.
theorem uncircled_of_ranked {leads : α → α → Prop} (rank : α → Nat)
    (ranked : ∀ one next, leads one next → rank next < rank one) : Uncircled leads := by
  have below {start last : α} (way : Relation.TransGen leads start last) : rank last < rank start := by
    induction way with
    | single step => exact ranked _ _ step
    | tail _ step ih => exact Nat.lt_trans (ranked _ _ step) ih
  exact fun one circle => absurd (below circle) (Nat.lt_irrefl _)

end ThingWorld
