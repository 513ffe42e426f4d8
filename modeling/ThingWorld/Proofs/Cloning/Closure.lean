import Mathlib.Logic.Relation
import ThingWorld.Proofs.Upkeep.Upkept
import ThingWorld.World.Copy
namespace ThingWorld.World

-- A thing is in another, or is a link of it.
def Houses (world : World) (holder id : ThingId) : Prop :=
  ∃ thing, world.things[id]? = some thing ∧
    (⟨Relation.location, holder⟩ ∈ thing.edges ∨ ⟨Relation.linkOwner, holder⟩ ∈ thing.edges)

variable {world : World} {rounds : Nat} {found : IdSet} {latest : List ThingId}

theorem mem_newlyHeld {id : ThingId} :
    id ∈ world.newlyHeld found latest ↔ (∃ holder ∈ latest, id ∈ world.held holder) ∧ id ∉ found := by
  rw [newlyHeld, Std.ExtTreeSet.mem_diff_iff]
  simp [List.mem_flatMap]

theorem size_lt {ids more : IdSet} {id : ThingId} (within : ∀ other ∈ ids, other ∈ more) (new : id ∈ more)
    (unknown : id ∉ ids) : ids.size < more.size := by
  have distinct : (id :: ids.toList).Nodup :=
    List.nodup_cons.mpr ⟨fun member => unknown (Std.ExtTreeSet.mem_toList.mp member), Index.nodup_toList ids⟩
  have fewer : (id :: ids.toList).Subperm more.toList := List.subperm_of_subset distinct fun other member => by
    rcases List.mem_cons.mp member with rfl | member
    · exact Std.ExtTreeSet.mem_toList.mpr new
    · exact Std.ExtTreeSet.mem_toList.mpr (within other (Std.ExtTreeSet.mem_toList.mp member))
  have length := fewer.length_le
  rw [List.length_cons, Std.ExtTreeSet.length_toList, Std.ExtTreeSet.length_toList] at length
  exact length

theorem spread_grows : ∀ {found : IdSet} {latest : List ThingId} {id : ThingId}, id ∈ found →
    id ∈ world.spread rounds found latest := by
  induction rounds with
  | zero => exact fun member => member
  | succ rounds ih =>
    intro found latest id member
    rw [spread]
    split
    · exact member
    · exact ih (Std.ExtTreeSet.mem_union_iff.mpr (.inl member))

theorem spread_keeps {P : ThingId → Prop} (passes : ∀ holder id, P holder → id ∈ world.held holder → P id) :
    ∀ {found : IdSet} {latest : List ThingId}, (∀ id ∈ found, P id) → (∀ id ∈ latest, P id) →
      ∀ id ∈ world.spread rounds found latest, P id := by
  induction rounds with
  | zero => exact fun holds _ => holds
  | succ rounds ih =>
    intro found latest holds holds'
    have new : ∀ id ∈ world.newlyHeld found latest, P id := by
      intro id member
      obtain ⟨⟨holder, last, held⟩, _⟩ := mem_newlyHeld.mp member
      exact passes holder id (holds' holder last) held
    rw [spread]
    split
    · exact holds
    · refine ih (fun id member => ?_) fun id member => new id (Std.ExtTreeSet.mem_toList.mp member)
      exact (Std.ExtTreeSet.mem_union_iff.mp member).elim (holds id) (new id)

theorem mem_of_size {all : List ThingId} {ids : IdSet} (within : ∀ id ∈ ids, id ∈ all) (many : all.length ≤ ids.size)
    {id : ThingId} (listed : id ∈ all) : id ∈ ids := by
  have fewer : ids.toList.Subperm all := List.subperm_of_subset (Index.nodup_toList ids)
    fun other member => within other (Std.ExtTreeSet.mem_toList.mp member)
  have same : ids.toList.Perm all := fewer.perm_of_length_le (by rwa [Std.ExtTreeSet.length_toList])
  exact Std.ExtTreeSet.mem_toList.mp (same.mem_iff.mpr listed)

-- The rounds and what was found together stay as many as all that can be found, so when no round is left all was found.
theorem spread_closed (all : List ThingId) (within : ∀ holder id, id ∈ world.held holder → id ∈ all) :
    ∀ {found : IdSet} {latest : List ThingId}, (∀ id ∈ found, id ∈ all) → all.length ≤ rounds + found.size →
      (∀ holder ∈ found, holder ∉ latest → ∀ id ∈ world.held holder, id ∈ found) →
      ∀ holder ∈ world.spread rounds found latest, ∀ id ∈ world.held holder, id ∈ world.spread rounds found latest := by
  induction rounds with
  | zero =>
    intro found latest known enough _ holder _ id held
    exact mem_of_size known (by omega) (within holder id held)
  | succ rounds ih =>
    intro found latest known enough closed
    have reached (holder : ThingId) (member : holder ∈ found) (id : ThingId) (held : id ∈ world.held holder) :
        id ∈ found ∨ id ∈ world.newlyHeld found latest := by
      by_cases last : holder ∈ latest
      · by_cases before : id ∈ found
        · exact .inl before
        · exact .inr (mem_newlyHeld.mpr ⟨⟨holder, last, held⟩, before⟩)
      · exact .inl (closed holder member last id held)
    rw [spread]
    split
    · rename_i nothing
      intro holder member id held
      refine (reached holder member id held).resolve_right fun new => ?_
      rw [Std.ExtTreeSet.isEmpty_iff] at nothing
      rw [nothing] at new
      exact Std.ExtTreeSet.not_mem_empty new
    · rename_i some
      refine ih (fun id member => ?_) ?_ fun holder member old id held => ?_
      · rcases Std.ExtTreeSet.mem_union_iff.mp member with before | new
        · exact known id before
        · obtain ⟨⟨holder, _, held⟩, _⟩ := mem_newlyHeld.mp new
          exact within holder id held
      · obtain ⟨id, new⟩ : ∃ id, id ∈ world.newlyHeld found latest := by
          by_contra none
          refine some (Std.ExtTreeSet.isEmpty_iff.mpr (Std.ExtTreeSet.ext_mem fun id => ?_))
          exact ⟨fun new => absurd ⟨id, new⟩ none, fun new => absurd new Std.ExtTreeSet.not_mem_empty⟩
        have grown : found.size < (found ∪ world.newlyHeld found latest).size :=
          size_lt (fun other before => Std.ExtTreeSet.mem_union_iff.mpr (.inl before))
            (Std.ExtTreeSet.mem_union_iff.mpr (.inr new)) (mem_newlyHeld.mp new).2
        omega
      · have before : holder ∈ found :=
          (Std.ExtTreeSet.mem_union_iff.mp member).resolve_right fun new => old (Std.ExtTreeSet.mem_toList.mpr new)
        exact Std.ExtTreeSet.mem_union_iff.mpr (reached holder before id held)

theorem held_iff (tracked : world.Tracked []) {holder id : ThingId} :
    id ∈ world.held holder ↔ world.Houses holder id := by
  have current := tracked_current tracked
  rw [held, List.mem_append, associated, associated, (current.associated Relation.location holder).members,
    (current.associated Relation.linkOwner holder).members, ← exists_or]
  simp only [← and_or_left]
  rfl

theorem indexed_of_held {states : ThingId → Indexed} (reflects : Index.Reflects world.index states) {holder id : ThingId}
    (held : id ∈ world.held holder) : id ∈ world.index.indexed.keys := by
  have edge : ⟨Relation.location, holder⟩ ∈ (states id).edges ∨ ⟨Relation.linkOwner, holder⟩ ∈ (states id).edges := by
    simpa [World.held, associated, Index.mem_associated reflects.edges.holders] using held
  have something : states id ≠ .nothing := by
    intro nothing
    rw [nothing] at edge
    exact edge.elim Std.ExtTreeSet.not_mem_empty Std.ExtTreeSet.not_mem_empty
  rw [Std.ExtTreeMap.mem_keys, Std.ExtTreeMap.mem_iff_isSome_getElem?, reflects.indexed, if_neg something]
  rfl

theorem mem_connected {states : ThingId → Indexed} (reflects : Index.Reflects world.index states) {id other : ThingId} :
    other ∈ world.connected id ↔
      world.contains id = true ∧ Relation.ReflTransGen (fun holder held => held ∈ world.held holder) id other := by
  rw [connected]
  split
  · rename_i there
    have start : ∀ one ∈ ((∅ : IdSet).insert id), one = id := fun one member =>
      (by simpa using member : id = one).symm
    have keys : world.index.indexed.keys.length = world.index.indexed.size := Std.ExtTreeMap.length_keys
    refine ⟨fun member => ⟨there, ?_⟩, fun both => ?_⟩
    · refine spread_keeps (P := Relation.ReflTransGen (fun holder held => held ∈ world.held holder) id)
        (fun holder one reached held => reached.tail held) (fun one member => ?_) (fun one member => ?_) other member
      · rw [start one member]
      · rw [List.mem_singleton.mp member]
    · have closed := @spread_closed world (world.index.indexed.size + 1) (id :: world.index.indexed.keys)
        (fun holder one held => List.mem_cons_of_mem id (indexed_of_held reflects held))
        ((∅ : IdSet).insert id) [id] (fun one member => start one member ▸ List.mem_cons_self)
        (by rw [List.length_cons, keys]; omega)
        (fun holder member old => absurd (List.mem_singleton.mpr (start holder member)) old)
      obtain ⟨_, reached⟩ := both
      induction reached with
      | refl => exact spread_grows Std.ExtTreeSet.mem_insert_self
      | tail _ held ih => exact closed _ ih _ held
  · rename_i absent
    simp [absent]

-- The closure of a thing that is there: itself, and whatever it holds through any number of steps.
theorem connected_iff (tracked : world.Tracked []) {id other : ThingId} :
    other ∈ world.connected id ↔ world.contains id = true ∧ Relation.ReflTransGen world.Houses id other := by
  obtain ⟨_, reflects, _⟩ := tracked.shown
  have same : (fun holder held => held ∈ world.held holder) = world.Houses := by
    funext holder id
    exact propext (held_iff tracked)
  rw [mem_connected reflects, same]

theorem contains_of_connected (tracked : world.Tracked []) {id other : ThingId} (member : other ∈ world.connected id) :
    world.contains other = true := by
  obtain ⟨there, reached⟩ := (connected_iff tracked).mp member
  cases reached with
  | refl => exact there
  | tail _ housed =>
    obtain ⟨thing, found, _⟩ := housed
    exact contains_of_some found

end ThingWorld.World
