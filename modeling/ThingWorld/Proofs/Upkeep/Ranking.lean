import Mathlib.Data.List.Sort
import ThingWorld.Proofs.Index.Rebuild
import ThingWorld.World.Relations
namespace ThingWorld.World

variable (world : World)

-- A list in which everything that stands is given once, in the order of priority.
structure Ranked (ids : List ThingId) (stands : ThingId → Prop) : Prop where
  ordered : ids.Pairwise fun a b =>
    world.priority b < world.priority a ∨ world.priority a = world.priority b ∧ a < b
  members : ∀ id, id ∈ ids ↔ stands id

theorem goesBefore_total (a b : ThingId) : world.goesBefore a b = true ∨ world.goesBefore b a = true := by
  simp only [goesBefore, Bool.or_eq_true, decide_eq_true_eq, Bool.and_eq_true, beq_iff_eq]
  grind

theorem goesBefore_trans {a b c : ThingId} (first : world.goesBefore a b = true) (second : world.goesBefore b c = true) :
    world.goesBefore a c = true := by
  simp only [goesBefore, Bool.or_eq_true, decide_eq_true_eq, Bool.and_eq_true, beq_iff_eq] at first second ⊢
  grind

theorem goesBefore_strict {a b : ThingId} (before : world.goesBefore a b = true) (differs : a ≠ b) :
    world.priority b < world.priority a ∨ world.priority a = world.priority b ∧ a < b := by
  simp only [goesBefore, Bool.or_eq_true, decide_eq_true_eq, Bool.and_eq_true, beq_iff_eq] at before
  grind

theorem insertByPriority_ordered (id : ThingId) (ids : List ThingId) :
    world.insertByPriority id ids = ids.orderedInsert (fun a b => world.goesBefore a b = true) id := by
  induction ids with
  | nil => rfl
  | cons other rest ih => rw [insertByPriority, List.orderedInsert_cons, ih]

theorem byPriority_sort (ids : List ThingId) :
    world.byPriority ids = ids.insertionSort fun a b => world.goesBefore a b = true := by
  induction ids with
  | nil => rfl
  | cons id rest ih =>
    rw [List.insertionSort_cons, ← ih, ← insertByPriority_ordered]
    rfl

theorem perm_byPriority (ids : List ThingId) : (world.byPriority ids).Perm ids := by
  rw [byPriority_sort]
  exact List.perm_insertionSort _ ids

theorem mem_contents {item place : ThingId} :
    item ∈ world.contents place ↔ item ∈ world.index.associated Relation.location place :=
  (world.perm_byPriority _).mem_iff

theorem ranked_byPriority {ids : List ThingId} {stands : ThingId → Prop} (lists : Index.Lists ids stands) :
    world.Ranked (world.byPriority ids) stands := by
  have permuted := world.perm_byPriority ids
  have distinct : (world.byPriority ids).Nodup :=
    permuted.nodup_iff.mpr (lists.ascending.imp fun before => UInt64.ne_of_lt before)
  refine ⟨?_, fun id => permuted.mem_iff.trans (lists.members id)⟩
  have sorted : (world.byPriority ids).Pairwise fun a b => world.goesBefore a b = true := by
    have total : Std.Total fun a b => world.goesBefore a b = true := ⟨world.goesBefore_total⟩
    have transitive : IsTrans ThingId fun a b => world.goesBefore a b = true :=
      ⟨fun _ _ _ first second => world.goesBefore_trans first second⟩
    rw [byPriority_sort]
    exact List.pairwise_insertionSort _ ids
  exact (sorted.and distinct).imp fun both => world.goesBefore_strict both.1 both.2

theorem ranked_contents (current : Index.Current world.index world.things) (place : ThingId) :
    world.Ranked (world.contents place)
      fun id => ∃ thing, world.things[id]? = some thing ∧ ⟨Relation.location, place⟩ ∈ thing.edges :=
  world.ranked_byPriority (current.associated Relation.location place)

theorem ranked_links (current : Index.Current world.index world.things) (owner : ThingId) :
    world.Ranked (world.links owner)
      fun id => ∃ thing, world.things[id]? = some thing ∧ ⟨Relation.linkOwner, owner⟩ ∈ thing.edges :=
  world.ranked_byPriority (current.associated Relation.linkOwner owner)

end ThingWorld.World
