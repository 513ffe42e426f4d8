import ThingWorld.Proofs.Course.Seed
import ThingWorld.Proofs.Index.Rebuild
namespace ThingWorld

-- What was changed by hand since the last commit.
def Moment.pending (moment : Moment) (ids : List ThingId) : List ThingId :=
  match moment with
  | did (.edited id _) => id :: ids
  | did .flushed => []
  | ended _ => []
  | _ => ids

namespace World

-- The index is right for every thing but those listed.
def ShownBut (world : World) (off : List ThingId) : Prop :=
  ∃ states, Index.Reflects world.index states ∧ ∀ id, id ∉ off → states id = Index.stateAmong world.things id

variable {world : World} {off : List ThingId} {id : ThingId}

theorem shownBut_congr {world' : World} (shown : world.ShownBut off) (index : world'.index = world.index)
    (things : world'.things = world.things) : world'.ShownBut off := by
  rw [ShownBut, index, things]
  exact shown

theorem shownBut_mono {more : List ThingId} (shown : world.ShownBut off) (within : ∀ id, id ∈ off → id ∈ more) :
    world.ShownBut more := by
  obtain ⟨states, reflects, right⟩ := shown
  exact ⟨states, reflects, fun id outside => right id fun member => outside (within id member)⟩

theorem shownBut_change {things : Std.ExtTreeMap ThingId Thing} (shown : world.ShownBut off)
    (elsewhere : ∀ other, other ≠ id → things[other]? = world.things[other]?) :
    { world with things := things }.ShownBut (id :: off) := by
  obtain ⟨states, reflects, right⟩ := shown
  refine ⟨states, reflects, ?_⟩
  intro other outside
  obtain ⟨differs, outside⟩ := not_or.mp (List.mem_cons.not.mp outside)
  rw [right other outside, Index.stateAmong, Index.stateAmong, elsewhere other differs]

theorem reindex_index (keyed : Index.Keyed world.things) (id : ThingId) :
    (world.reindex id).index = world.index.apply id (Index.stateAmong world.things id) := by
  rw [reindex, Index.stateAmong]
  cases found : world.things[id]? with
  | none => rfl
  | some thing =>
    have own := keyed id thing found
    simp [Index.reindex, own]

theorem shownBut_reindex (keyed : Index.Keyed world.things) (shown : world.ShownBut (id :: off)) :
    (world.reindex id).ShownBut off := by
  obtain ⟨states, reflects, right⟩ := shown
  refine ⟨Function.update states id (Index.stateAmong world.things id), ?_, ?_⟩
  · rw [reindex_index keyed]
    exact Index.reflects_apply reflects id _
  · intro other outside
    rw [reindex_things]
    by_cases same : other = id
    · rw [same, Function.update_self]
    · rw [Function.update_of_ne same]
      exact right other fun member => (List.mem_cons.mp member).elim same outside

theorem shownBut_reindexAll (ids : List ThingId) : ∀ {world : World}, Index.Keyed world.things →
    world.ShownBut (ids ++ off) → (ids.foldl reindex world).ShownBut off := by
  induction ids with
  | nil => exact fun _ shown => shown
  | cons id rest ih =>
    intro world keyed shown
    have keyed' : Index.Keyed (world.reindex id).things := by rwa [reindex_things]
    exact ih keyed' (shownBut_reindex keyed shown)

theorem shownBut_catchUp (keyed : Index.Keyed world.things) (shown : world.ShownBut off)
    (touched : ∀ id ∈ off, id ∈ world.dirty) : world.catchUp.ShownBut [] := by
  have start : ({ world with dirty := ∅ } : World).ShownBut (world.dirty.toList ++ []) := by
    refine shownBut_mono (shownBut_congr shown rfl rfl) ?_
    intro id member
    rw [List.append_nil, Std.ExtTreeSet.mem_toList]
    exact touched id member
  exact shownBut_reindexAll world.dirty.toList keyed start

theorem shownBut_commit (keep : Bool) (keyed : Index.Keyed world.things) (shown : world.ShownBut off)
    (touched : ∀ id ∈ off, id ∈ world.dirty) : ((commit keep).run world).2.ShownBut [] := by
  obtain ⟨_, _, _, _, same⟩ := backstage_writing (writing_commit keep world)
  rw [same]
  exact shownBut_congr (shownBut_catchUp keyed shown touched) rfl rfl

theorem shownBut_retouch (shown : world.ShownBut off) (id : ThingId) (f : Thing → Thing) :
    (world.retouch id f).ShownBut (id :: off) := by
  rw [retouch]
  cases found : world.things[id]? with
  | none => exact shownBut_mono shown fun _ member => List.mem_cons_of_mem id member
  | some thing =>
    refine shownBut_congr (shownBut_change shown ?_) rfl rfl
    intro other differs
    show (world.things.insert id (f thing))[other]? = _
    rw [Std.ExtTreeMap.getElem?_insert]
    simp [Ne.symm differs]

-- Values that the index does not look at do not make it wrong.
theorem shownBut_dress (shown : world.ShownBut off) (id : ThingId) {properties : List (String × Datum)}
    (apart : ∀ written ∈ properties, written.1 ≠ Property.everywhere) :
    (world.retouch id (dress properties)).ShownBut off := by
  have unseen (thing : Thing) : Indexed.of (dress properties thing) = Indexed.of thing := by
    induction properties generalizing thing with
    | nil => rfl
    | cons written rest ih =>
      have first := apart written List.mem_cons_self
      rw [dress, List.foldl_cons]
      refine (ih (fun other member => apart other (List.mem_cons_of_mem _ member)) _).trans ?_
      simp [Indexed.of, Thing.write, Thing.edgeSet, Thing.ownFlag, Thing.own?, Std.ExtTreeMap.getElem?_insert, first]
  rw [retouch]
  cases found : world.things[id]? with
  | none => exact shown
  | some thing =>
    obtain ⟨states, reflects, right⟩ := shown
    refine ⟨states, reflects, ?_⟩
    intro other outside
    rw [right other outside, Index.stateAmong, Index.stateAmong]
    show _ = ((world.things.insert id (dress properties thing))[other]?.map Indexed.of).getD .nothing
    rw [Std.ExtTreeMap.getElem?_insert]
    by_cases same : id = other
    · subst same
      simp [found, unseen]
    · simp [same]

theorem keyed_insert {things : Std.ExtTreeMap ThingId Thing} (keyed : Index.Keyed things) {thing : Thing}
    (own : thing.id = id) : Index.Keyed (things.insert id thing) := by
  intro other held found
  rw [Std.ExtTreeMap.getElem?_insert] at found
  split at found
  · rename_i same
    cases found
    rw [own]
    exact Std.LawfulEqOrd.eq_of_compare same
  · exact keyed other held found

theorem keyed_erase {things : Std.ExtTreeMap ThingId Thing} (keyed : Index.Keyed things) :
    Index.Keyed (things.erase id) := by
  intro other held found
  rw [Std.ExtTreeMap.getElem?_erase] at found
  split at found
  · cases found
  · exact keyed other held found

theorem keyed_retouch (keyed : Index.Keyed world.things) {f : Thing → Thing} (own : ∀ thing, (f thing).id = thing.id) :
    Index.Keyed (world.retouch id f).things := by
  rw [retouch]
  cases found : world.things[id]? with
  | none => exact keyed
  | some thing => exact keyed_insert keyed ((own thing).trans (keyed id thing found))

end World
end ThingWorld
