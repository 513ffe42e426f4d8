import Mathlib.Algebra.BigOperators.Group.Finset.Piecewise
import Mathlib.Algebra.Order.BigOperators.Group.Finset
import Mathlib.Data.FinEnum
import ThingWorld.Proofs.Course.Discipline
namespace ThingWorld

theorem card_ids : Fintype.card ThingId = Text.wordSize := by
  rw [← FinEnum.card_eq_fintypeCard]
  rfl

namespace World

-- The turns that an id still has: the thing that is there is not marked, and one may come.
def spare (world : World) (marked : IdSet) (id : ThingId) : Nat :=
  (if world.contains id = true ∧ marked.contains id = false then 1 else 0) + if world.info.nextId ≤ id then 1 else 0

def room (world : World) : Nat :=
  ∑ id, (world.spare world.schedule.reacted id + world.spare world.schedule.checking id)

def mostRoom : Nat := 4 * Text.wordSize

variable {world last : World} {marked marked' : IdSet} {id : ThingId}

theorem spare_le (world : World) (marked : IdSet) (id : ThingId) : world.spare marked id ≤ 2 := by
  rw [spare]
  split <;> split <;> omega

theorem room_le (world : World) : world.room ≤ mostRoom := by
  have each (id : ThingId) : world.spare world.schedule.reacted id + world.spare world.schedule.checking id ≤ 4 := by
    have reacts := world.spare_le world.schedule.reacted id
    have checks := world.spare_le world.schedule.checking id
    omega
  calc world.room ≤ ∑ _id : ThingId, 4 := Finset.sum_le_sum fun id _ => each id
    _ = mostRoom := by rw [Finset.sum_const, Finset.card_univ, card_ids, Nat.nsmul_eq_mul, Nat.mul_comm, mostRoom]

-- A thing that came was still to come before.
theorem spare_quiet (quiet : world.Quiet last)
    (same : last.contains id = true → marked'.contains id = marked.contains id) :
    last.spare marked' id ≤ world.spare marked id := by
  rw [spare, spare]
  have later (high : last.info.nextId ≤ id) : world.info.nextId ≤ id := UInt64.le_trans quiet.next high
  by_cases held : last.contains id = true
  · rw [same held]
    rcases quiet.came id held with before | ⟨high, low⟩
    · rw [before, held]
      split <;> split <;> simp_all
    · have handed : ¬last.info.nextId ≤ id := UInt64.not_le.mpr low
      rw [if_neg handed, if_pos high]
      split <;> omega
  · rw [if_neg fun both => held both.1]
    split <;> simp_all

theorem room_quiet (quiet : world.Quiet last) : last.room ≤ world.room := by
  refine Finset.sum_le_sum fun id _ => Nat.add_le_add ?_ ?_
  · exact spare_quiet quiet fun held => congrArg Prod.fst (quiet.turns id fun _ => held)
  · exact spare_quiet quiet fun held => congrArg (fun turn => turn.2.1) (quiet.turns id fun _ => held)

theorem spare_insert (world : World) (marked : IdSet) (id other : ThingId) :
    world.spare (marked.insert id) other ≤ world.spare marked other := by
  rw [spare, spare, Std.ExtTreeSet.contains_insert]
  refine Nat.add_le_add_right ?_ _
  split
  · rename_i both
    rw [if_pos ⟨both.1, (Bool.or_eq_false_iff.mp both.2).2⟩]
  · exact Nat.zero_le _

theorem spare_insert_self (held : world.contains id = true) (unmarked : marked.contains id = false) :
    world.spare (marked.insert id) id < world.spare marked id := by
  have marks : (marked.insert id).contains id ≠ false := by
    rw [Std.ExtTreeSet.contains_insert_self]
    exact Bool.noConfusion
  have both : world.contains id = true ∧ marked.contains id = false := ⟨held, unmarked⟩
  rw [spare, spare, if_neg fun both => marks both.2, if_pos both]
  omega

theorem spare_erase (world : World) (marked : IdSet) (id other : ThingId) :
    world.spare (marked.erase id) other ≤ world.spare marked other + if other = id then 1 else 0 := by
  rw [spare, spare]
  by_cases same : other = id
  · rw [if_pos same]
    split <;> omega
  · have unlike : (marked.erase id).contains other = marked.contains other := by
      rw [Std.ExtTreeSet.contains_erase]
      simp [Ne.symm same]
    rw [unlike, if_neg same]
    exact Nat.le_refl _

theorem room_claim (held : world.contains id = true) (fresh : world.schedule.hasReacted id = false) :
    (world.pace (.claim id)).room < world.room := by
  refine Finset.sum_lt_sum (fun other _ => ?_) ⟨id, Finset.mem_univ id, ?_⟩
  · exact Nat.add_le_add_right (spare_insert world _ id other) _
  · exact Nat.add_lt_add_right (spare_insert_self held fresh) _

theorem room_startCheck (held : world.contains id = true) (free : world.schedule.isChecking id = false) :
    (world.pace (.startCheck id)).room < world.room := by
  refine Finset.sum_lt_sum (fun other _ => ?_) ⟨id, Finset.mem_univ id, ?_⟩
  · exact Nat.add_le_add (spare_insert world _ id other) (spare_insert world _ id other)
  · exact Nat.add_lt_add_of_le_of_lt (spare_insert world _ id id) (spare_insert_self held free)

theorem room_endCheck (id : ThingId) (world : World) : (world.pace (.endCheck id)).room ≤ world.room + 1 := by
  calc (world.pace (.endCheck id)).room
      ≤ ∑ other, (world.spare world.schedule.reacted other + world.spare world.schedule.checking other
          + if other = id then 1 else 0) :=
        Finset.sum_le_sum fun other _ => (Nat.add_le_add_left (spare_erase world _ id other) _).trans
          (Nat.add_assoc _ _ _).ge
    _ = world.room + 1 := by
      rw [Finset.sum_add_distrib, Finset.sum_ite_eq' Finset.univ id fun _ => 1, if_pos (Finset.mem_univ id)]
      rfl

theorem room_park (id : ThingId) (event : Event) (world : World) :
    (world.pace (.park id event)).room = world.room := rfl

end World
end ThingWorld
