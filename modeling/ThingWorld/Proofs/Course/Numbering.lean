import Mathlib.Data.List.Perm.Subperm
import ThingWorld.Proofs.Course.Operations
import ThingWorld.Proofs.Index.Tables
namespace ThingWorld.World

-- Ids are left for so many things before the next id goes back to zero.
def Affords (world : World) (count : Nat) : Prop :=
  world.info.nextId.toNat + count < Text.wordSize

instance (world : World) (count : Nat) : Decidable (world.Affords count) :=
  inferInstanceAs (Decidable (_ < _))

theorem toNat_next {id : ThingId} (left : id.toNat + 1 < Text.wordSize) : (id + 1).toNat = id.toNat + 1 := by
  rw [UInt64.toNat_add]
  exact Nat.mod_eq_of_lt left

theorem climbs_next {id : ThingId} (left : id.toNat + 1 < Text.wordSize) : id ≤ id + 1 := by
  rw [UInt64.le_iff_toNat_le, toNat_next left]
  exact Nat.le_succ _

theorem affords_less {world : World} {count less : Nat} (left : world.Affords count) (fewer : less ≤ count) :
    world.Affords less := by
  unfold Affords at *
  omega

def allot : Nat → World → World
  | 0, world => world
  | count + 1, world => allot count (Deed.allocated.perform world)

theorem allot_replay (count : Nat) : ∀ world : World,
    allot count world = world.replay ((List.replicate count Deed.allocated).map .did) := by
  induction count with
  | zero => exact fun world => rfl
  | succ count ih => exact fun world => ih (Deed.allocated.perform world)

theorem allot_same (count : Nat) : ∀ world : World, ∃ next noted,
    allot count world = { world with info := { world.info with nextId := next }, infoDirty := noted } := by
  induction count with
  | zero => exact fun world => ⟨_, _, rfl⟩
  | succ count ih =>
    intro world
    obtain ⟨next, noted, same⟩ := ih (Deed.allocated.perform world)
    exact ⟨next, noted, same⟩

theorem toNat_allot (count : Nat) : ∀ world : World, world.Affords count →
    (allot count world).info.nextId.toNat = world.info.nextId.toNat + count := by
  induction count with
  | zero => exact fun world _ => rfl
  | succ count ih =>
    intro world left
    unfold Affords at left
    have step : (world.info.nextId + 1).toNat = world.info.nextId.toNat + 1 := toNat_next (by omega)
    have rest : (Deed.allocated.perform world).Affords count := by
      show (world.info.nextId + 1).toNat + count < _
      omega
    rw [allot, ih _ rest]
    show (world.info.nextId + 1).toNat + count = _
    omega

-- Handing out ids only goes on upwards while there are some left.
theorem affords_of_ascends (count : Nat) : ∀ world : World,
    world.Ascends ((List.replicate count Deed.allocated).map .did) → world.Affords count := by
  induction count with
  | zero => exact fun world _ => world.info.nextId.toNat_lt
  | succ count ih =>
    intro world ascends
    obtain ⟨climbs, rest⟩ := ascends
    have left : (world.info.nextId + 1).toNat + count < Text.wordSize := ih _ rest
    have higher : world.info.nextId.toNat < (world.info.nextId + 1).toNat :=
      UInt64.lt_iff_toNat_lt.mp (next_is_greater climbs)
    unfold Affords
    omega

-- The next ids for the members, in their order.
def numberFrom (numbers : Renumbering) (first : ThingId) : List ThingId → Renumbering
  | [] => numbers
  | id :: rest => numberFrom (numbers.insert id first) (first + 1) rest

theorem numberFrom_elsewhere (ids : List ThingId) : ∀ (numbers : Renumbering) (first old : ThingId), old ∉ ids →
    (numberFrom numbers first ids)[old]? = numbers[old]? := by
  induction ids with
  | nil => exact fun _ _ _ _ => rfl
  | cons id rest ih =>
    intro numbers first old outside
    obtain ⟨differs, outside⟩ := not_or.mp ((not_congr List.mem_cons).mp outside)
    rw [numberFrom, ih _ _ old outside, Std.ExtTreeMap.getElem?_insert]
    simp [Ne.symm differs]

theorem numberFrom_at (ids : List ThingId) : ∀ (numbers : Renumbering) (first : ThingId) (k : Nat) (old : ThingId),
    ids.Nodup → first.toNat + ids.length < Text.wordSize → ids[k]? = some old →
      ∃ new, (numberFrom numbers first ids)[old]? = some new ∧ new.toNat = first.toNat + k := by
  induction ids with
  | nil => exact fun _ _ _ _ _ _ found => nomatch found
  | cons id rest ih =>
    intro numbers first k old distinct left found
    obtain ⟨new, distinct⟩ := List.nodup_cons.mp distinct
    rw [List.length_cons] at left
    cases k with
    | zero =>
      cases found
      refine ⟨first, ?_, rfl⟩
      rw [numberFrom, numberFrom_elsewhere rest _ _ id new]
      simp
    | succ k =>
      have step : (first + 1).toNat = first.toNat + 1 := toNat_next (by omega)
      obtain ⟨number, numbered, counts⟩ := ih (numbers.insert id first) (first + 1) k old distinct (by omega) found
      exact ⟨number, numbered, by omega⟩

-- Those of the ids that are there are numbered on from the next id, and nothing else happens.
theorem run_renumberAll (ids : List ThingId) : ∀ (numbers : Renumbering) (world : World),
    (renumberAll numbers ids).run world =
      (.ok (numberFrom numbers world.info.nextId (ids.filter (world.contains ·))),
        allot (ids.filter (world.contains ·)).length world) := by
  induction ids with
  | nil => exact fun numbers world => rfl
  | cons id rest ih =>
    intro numbers world
    rw [renumberAll, Act.run_bind, Act.run_get]
    dsimp only
    cases held : world.contains id with
    | true =>
      rw [List.filter_cons_of_pos held, if_pos rfl, Act.run_bind, run_allocate]
      exact ih (numbers.insert id world.info.nextId) (Deed.allocated.perform world)
    | false =>
      rw [List.filter_cons_of_neg (by rw [held]; exact Bool.false_ne_true), if_neg Bool.false_ne_true]
      exact ih numbers world

-- The members of a set that are there.
def present (world : World) (members : IdSet) : IdSet :=
  members.filter (world.contains ·)

theorem mem_present {world : World} {members : IdSet} {id : ThingId} :
    id ∈ world.present members ↔ id ∈ members ∧ world.contains id = true := by
  rw [present, ← Std.ExtTreeSet.mem_toList, Std.ExtTreeSet.toList_filter, List.mem_filter, Std.ExtTreeSet.mem_toList]

theorem size_present (world : World) (members : IdSet) : (world.present members).size ≤ world.things.size := by
  have keyed (id : ThingId) (member : id ∈ (world.present members).toList) : id ∈ world.things.keys := by
    rw [Std.ExtTreeMap.mem_keys, ← Std.ExtTreeMap.contains_iff_mem]
    exact (mem_present.mp (Std.ExtTreeSet.mem_toList.mp member)).2
  have fewer := (List.subperm_of_subset (Index.nodup_toList (world.present members)) keyed).length_le
  rwa [Std.ExtTreeSet.length_toList, Std.ExtTreeMap.length_keys] at fewer

theorem run_renumbering (members : IdSet) (world : World) : (renumberAll ∅ members.toList).run world =
    (.ok (numberFrom ∅ world.info.nextId (world.present members).toList),
      allot (world.present members).size world) := by
  rw [run_renumberAll, ← Std.ExtTreeSet.length_toList, present, Std.ExtTreeSet.toList_filter]

-- The numbers of the members of a set: they go on from the next id, in the order of the members.
structure Counts (first : ThingId) (members : IdSet) (numbers : Renumbering) : Prop where
  inOrder : ∀ (k : Nat) (old : ThingId), members.toList[k]? = some old →
    ∃ new, numbers[old]? = some new ∧ new.toNat = first.toNat + k
  only : ∀ old new : ThingId, numbers[old]? = some new → old ∈ members

theorem counts_numberFrom {first : ThingId} {members : IdSet} (left : first.toNat + members.size < Text.wordSize) :
    Counts first members (numberFrom ∅ first members.toList) where
  inOrder k old found :=
    numberFrom_at members.toList ∅ first k old (Index.nodup_toList members) (by rwa [Std.ExtTreeSet.length_toList]) found
  only old new found := by
    by_cases member : old ∈ members
    · exact member
    · rw [numberFrom_elsewhere _ _ _ _ ((not_congr Std.ExtTreeSet.mem_toList).mpr member)] at found
      simp at found

-- No two members get the same number.
def Distinct (numbers : Renumbering) : Prop :=
  ∀ one other new : ThingId, numbers[one]? = some new → numbers[other]? = some new → one = other

section

variable {first : ThingId} {members : IdSet} {numbers : Renumbering} (counts : Counts first members numbers)

include counts

theorem Counts.place {old new : ThingId} (found : numbers[old]? = some new) :
    ∃ k, members.toList[k]? = some old ∧ new.toNat = first.toNat + k := by
  obtain ⟨k, listed⟩ := List.getElem?_of_mem (Std.ExtTreeSet.mem_toList.mpr (counts.only old new found))
  obtain ⟨number, found', place⟩ := counts.inOrder k old listed
  rw [found] at found'
  exact ⟨k, listed, Option.some.inj found' ▸ place⟩

theorem Counts.numbered {old : ThingId} (member : old ∈ members) : ∃ new, numbers[old]? = some new := by
  obtain ⟨k, listed⟩ := List.getElem?_of_mem (Std.ExtTreeSet.mem_toList.mpr member)
  obtain ⟨new, found, _⟩ := counts.inOrder k old listed
  exact ⟨new, found⟩

theorem Counts.high {old new : ThingId} (found : numbers[old]? = some new) : first ≤ new := by
  obtain ⟨k, _, place⟩ := counts.place found
  exact UInt64.le_iff_toNat_le.mpr (by omega)

theorem Counts.low {old new next : ThingId} (found : numbers[old]? = some new)
    (after : next.toNat = first.toNat + members.size) : new < next := by
  obtain ⟨k, listed, place⟩ := counts.place found
  have bound := (List.getElem?_eq_some_iff.mp listed).1
  rw [Std.ExtTreeSet.length_toList] at bound
  exact UInt64.lt_iff_toNat_lt.mpr (by omega)

theorem Counts.distinct : Distinct numbers := by
  intro one other new found found'
  obtain ⟨k, listed, place⟩ := counts.place found
  obtain ⟨k', listed', place'⟩ := counts.place found'
  have same : k = k' := by omega
  subst same
  exact Option.some.inj (listed.symm.trans listed')

end

end ThingWorld.World
