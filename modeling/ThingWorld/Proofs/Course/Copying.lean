import ThingWorld.Proofs.Course.Raising
namespace ThingWorld.World

theorem copyOne_leaves (numbers : Renumbering) (old new : ThingId) (world : World) :
    ∃ mid, (copyOne numbers old new).run world = (.ok (), mid) ∧ mid.schedule = world.schedule ∧
      ∀ id : ThingId, mid.things[id]? =
        if new = id then (world.things[old]?.map (numbers.thing new)).or world.things[id]? else world.things[id]? := by
  have ran := run_copyOne numbers old new world
  cases found : world.things[old]? with
  | none =>
    rw [found] at ran
    exact ⟨world, ran, rfl, fun id => by simp⟩
  | some thing =>
    rw [found] at ran
    refine ⟨_, ran, ?_, fun id => ?_⟩
    · obtain ⟨index, same⟩ := reindex_same ((world.place new (numbers.thing new thing)).touch new) new
      rw [Deed.perform, same]
      rfl
    · rw [Deed.perform, reindex_things]
      show (world.things.insert new _)[id]? = _
      rw [Std.ExtTreeMap.getElem?_insert]
      simp

-- Copies that do not meet each other or what is copied.
theorem copied (numbers : Renumbering) (pairs : List (ThingId × ThingId)) : ∀ {world last : World},
    pairs.Pairwise (fun one other => one.2 ≠ other.2) → (∀ one ∈ pairs, ∀ other ∈ pairs, one.1 ≠ other.2) →
      (copyEach numbers pairs).run world = (.ok (), last) →
        (∀ pair ∈ pairs, ∀ thing, world.things[pair.1]? = some thing →
          last.things[pair.2]? = some (numbers.thing pair.2 thing)) ∧
        (∀ id : ThingId, (∀ pair ∈ pairs, pair.2 ≠ id) → last.things[id]? = world.things[id]?) ∧
        last.schedule = world.schedule := by
  induction pairs with
  | nil =>
    intro world last _ _ ran
    cases ran
    refine ⟨?_, fun id _ => rfl, rfl⟩
    exact fun pair member => nomatch member
  | cons pair rest ih =>
    intro world last differ apart ran
    obtain ⟨old, new⟩ := pair
    obtain ⟨others, differ⟩ := List.pairwise_cons.mp differ
    obtain ⟨mid, first, schedule, things⟩ := copyOne_leaves numbers old new world
    obtain ⟨_, _, ran', ran⟩ := Act.bind_ok (x := copyOne numbers old new) ran
    cases first.symm.trans ran'
    obtain ⟨copies, others', schedule'⟩ := ih differ (fun one member other member' =>
      apart one (List.mem_cons_of_mem _ member) other (List.mem_cons_of_mem _ member')) ran
    refine ⟨?_, ?_, schedule'.trans schedule⟩
    · intro pair member thing found
      rcases List.mem_cons.mp member with rfl | member
      · rw [others' new fun other member => (others other member).symm, things, if_pos rfl, found]
        rfl
      · refine copies pair member thing ?_
        rw [things, if_neg (Ne.symm (apart pair (List.mem_cons_of_mem _ member) _ List.mem_cons_self)), found]
    · intro id free
      rw [others' id fun pair member => free pair (List.mem_cons_of_mem _ member), things,
        if_neg (free (old, new) List.mem_cons_self)]

-- How a set of members was copied.
structure Copied (members : IdSet) (world last : World) (numbers : Renumbering) : Prop where
  distinct : Distinct numbers
  lifts : ∀ old new : ThingId, numbers[old]? = some new → world.info.nextId ≤ new
  covers : ∀ old : ThingId, (∃ new, numbers[old]? = some new) ↔ old ∈ members ∧ world.contains old = true
  copies : ∀ (old new : ThingId) (thing : Thing), numbers[old]? = some new → world.things[old]? = some thing →
    last.things[new]? = some (numbers.thing new thing)
  others : ∀ id : ThingId, (∀ old : ThingId, numbers[old]? ≠ some id) → last.things[id]? = world.things[id]?
  schedule : last.schedule = world.schedule

section

variable {world : World} {members : IdSet} {numbers : Renumbering}
  (counts : Counts world.info.nextId members numbers)

include counts

theorem numbers_differ : numbers.toList.Pairwise fun one other => one.2 ≠ other.2 := by
  have listed (pair : ThingId × ThingId) (member : pair ∈ numbers.toList) : numbers[pair.1]? = some pair.2 :=
    Std.ExtTreeMap.mem_toList_iff_getElem?_eq_some.mp member
  refine Std.ExtTreeMap.distinct_keys_toList.imp_of_mem fun {one other} member member' keys same => ?_
  exact keys (Std.LawfulEqCmp.compare_eq_iff_eq.mpr
    (counts.distinct one.1 other.1 one.2 (listed one member) (same ▸ listed other member')))

theorem numbers_apart (below : ∀ old ∈ members, old < world.info.nextId) (one : ThingId × ThingId)
    (member : one ∈ numbers.toList) (other : ThingId × ThingId) (member' : other ∈ numbers.toList) :
    one.1 ≠ other.2 := by
  intro same
  have low := below one.1 (counts.only _ _ (Std.ExtTreeMap.mem_toList_iff_getElem?_eq_some.mp member))
  have high := counts.high (Std.ExtTreeMap.mem_toList_iff_getElem?_eq_some.mp member')
  exact UInt64.not_lt.mpr high (same ▸ low)

end

theorem copySet_copies {id root : ThingId} {members : IdSet} {world last : World}
    (below : ∀ old, world.contains old = true → old < world.info.nextId)
    (left : world.Affords (world.present members).size)
    (ran : (copySet id members).run world = (.ok root, last)) :
    ∃ numbers, Copied members world last numbers ∧ numbers[id]? = some root := by
  rw [copySet, Act.run_bind, Act.run_get] at ran
  dsimp only at ran
  split at ran
  · cases ran
  obtain ⟨mid, ran, things, _, schedule⟩ := scope_gave ran
  let numbers := numberFrom ∅ world.info.nextId (world.present members).toList
  have counts : Counts world.info.nextId (world.present members) numbers := counts_numberFrom left
  obtain ⟨next, noted, same⟩ := allot_same (world.present members).size { world with inScope := true }
  have hands : (renumberAll ∅ members.toList).run { world with inScope := true } = (.ok numbers, _) :=
    (run_renumbering members { world with inScope := true }).trans (congrArg (Prod.mk _) same)
  obtain ⟨deeds, enters, _⟩ := copying_enters numbers numbers.toList
    (note { world with inScope := true, info := { world.info with nextId := next }, infoDirty := noted })
  have both := (run_copying Std.ExtTreeMap.toList id hands enters).symm.trans ran
  obtain ⟨gave, rfl⟩ := Prod.mk.inj both
  have apart := numbers_apart counts fun old member => below old (mem_present.mp member).2
  obtain ⟨copies, others, schedule'⟩ := copied numbers numbers.toList (numbers_differ counts) apart enters
  refine ⟨numbers, ⟨counts.distinct, fun _ _ => counts.high, fun old => ?_, fun old new thing number there => ?_,
    fun other free => ?_, schedule.trans schedule'⟩, ?_⟩
  · refine ⟨fun numbered => ?_, fun member => counts.numbered (mem_present.mpr member)⟩
    obtain ⟨new, number⟩ := numbered
    exact mem_present.mp (counts.only old new number)
  · rw [things]
    exact copies (old, new) (Std.ExtTreeMap.mem_toList_iff_getElem?_eq_some.mpr number) thing there
  · rw [things]
    refine others other fun pair member same => free pair.1 ?_
    exact same ▸ Std.ExtTreeMap.mem_toList_iff_getElem?_eq_some.mp member
  · rw [rootOf] at gave
    split at gave
    · rename_i number
      exact number.trans (congrArg some (Except.ok.inj gave))
    · cases gave

end ThingWorld.World
