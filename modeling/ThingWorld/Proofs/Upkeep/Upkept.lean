import ThingWorld.Proofs.Store.Writing
import ThingWorld.Proofs.Upkeep.Tracking
namespace ThingWorld

namespace World

structure Tracked (world : World) (pending : List ThingId) : Prop where
  keyed : Index.Keyed world.things
  shown : world.ShownBut pending
  touched : ∀ id ∈ pending, id ∈ world.dirty

variable {world : World} {pending : List ThingId}

section Tracking

theorem tracked_congr {world' : World} (kept : world.Tracked pending) (things : world'.things = world.things)
    (index : world'.index = world.index) (dirty : world'.dirty = world.dirty) : world'.Tracked pending := by
  refine ⟨?_, shownBut_congr kept.shown index things, ?_⟩
  · rw [things]
    exact kept.keyed
  · rw [dirty]
    exact kept.touched

theorem dirty_retouch {other : ThingId} (marked : other ∈ world.dirty) (id : ThingId) (f : Thing → Thing) :
    other ∈ (world.retouch id f).dirty := by
  rw [retouch]
  split
  · exact Std.ExtTreeSet.mem_insert.mpr (.inr marked)
  · exact marked

theorem tracked_reindex {id : ThingId} (keyed : Index.Keyed world.things) (shown : world.ShownBut (id :: pending))
    (touched : ∀ other ∈ pending, other ∈ world.dirty) : (world.reindex id).Tracked pending := by
  refine ⟨?_, shownBut_reindex keyed shown, ?_⟩
  · rwa [reindex_things]
  · rw [reindex_dirty]
    exact touched

theorem change_id (change : Change) (thing : Thing) : (change.apply thing).id = thing.id := by
  cases change with
  | point relation target multi => cases multi <;> rfl
  | _ => rfl

theorem dress_id (properties : List (String × Datum)) : ∀ thing, (dress properties thing).id = thing.id := by
  induction properties with
  | nil => exact fun thing => rfl
  | cons written rest ih => exact fun thing => ih _

theorem tracked_revise (kept : world.Tracked pending) (id : ThingId) {f : Thing → Thing}
    (own : ∀ thing, (f thing).id = thing.id) : (world.revise id f).Tracked pending := by
  refine tracked_reindex (keyed_retouch kept.keyed own) (shownBut_retouch kept.shown id f) ?_
  exact fun other member => dirty_retouch (kept.touched other member) id f

theorem tracked_touch (kept : world.Tracked pending) (id : ThingId) : (world.touch id).Tracked pending :=
  ⟨kept.keyed, shownBut_congr kept.shown rfl rfl,
    fun other member => Std.ExtTreeSet.mem_insert.mpr (.inr (kept.touched other member))⟩

theorem tracked_vanish (kept : world.Tracked pending) (id : ThingId) : (world.vanish id).Tracked pending := by
  rw [vanish]
  split
  · refine tracked_reindex (keyed_erase kept.keyed) ?_ ?_
    · refine shownBut_congr (shownBut_change kept.shown ?_) rfl rfl
      intro other differs
      show (world.things.erase id)[other]? = _
      rw [Std.ExtTreeMap.getElem?_erase]
      simp [Ne.symm differs]
    · exact fun other member => Std.ExtTreeSet.mem_insert.mpr (.inr (kept.touched other member))
  · exact kept

theorem tracked_vanishAll (ids : List ThingId) : ∀ {world : World}, world.Tracked pending →
    (ids.foldl vanish world).Tracked pending := by
  induction ids with
  | nil => exact fun kept => kept
  | cons id rest ih => exact fun kept => ih (tracked_vanish kept id)

theorem tracked_enter (kept : world.Tracked pending) {id : ThingId} {thing : Thing} (own : thing.id = id) :
    (((world.place id thing).touch id).reindex id).Tracked pending := by
  refine tracked_reindex (keyed_insert kept.keyed own) ?_ ?_
  · refine shownBut_congr (shownBut_change kept.shown ?_) rfl rfl
    intro other differs
    show (world.things.insert id thing)[other]? = _
    rw [Std.ExtTreeMap.getElem?_insert]
    simp [Ne.symm differs]
  · exact fun other member => Std.ExtTreeSet.mem_insert.mpr (.inr (kept.touched other member))

theorem tracked_commit (keep : Bool) (kept : world.Tracked pending) : ((commit keep).run world).2.Tracked [] := by
  refine ⟨?_, shownBut_commit keep kept.keyed kept.shown kept.touched, fun id member => nomatch member⟩
  rw [commit_things]
  exact kept.keyed

theorem tracked_edit (kept : world.Tracked pending) {id : ThingId} {f : Thing → Thing} (held : world.contains id = true)
    (own : ∀ thing, (f thing).id = thing.id) : (world.retouch id f).Tracked (id :: pending) := by
  refine ⟨keyed_retouch kept.keyed own, shownBut_retouch kept.shown id f, ?_⟩
  intro other member
  rcases List.mem_cons.mp member with same | member
  · rw [same, retouch]
    split
    · exact Std.ExtTreeSet.mem_insert_self
    · rename_i absent
      rw [contains, Std.ExtTreeMap.contains_eq_isSome_getElem?, absent] at held
      cases held
  · exact dirty_retouch (kept.touched other member) id f

theorem tracked_dress (kept : world.Tracked pending) (id : ThingId) {properties : List (String × Datum)}
    (apart : ∀ written ∈ properties, written.1 ≠ Property.everywhere) :
    (world.retouch id (dress properties)).Tracked pending :=
  ⟨keyed_retouch kept.keyed (dress_id properties), shownBut_dress kept.shown id apart,
    fun other member => dirty_retouch (kept.touched other member) id _⟩

theorem tracked_deed (kept : world.Tracked pending) (deed : Deed) (allowed : deed.allowed world) :
    (deed.perform world).Tracked ((Moment.did deed).pending pending) := by
  cases handled : deed.handles with
  | true =>
    cases deed with
    | revised id change => exact tracked_revise kept id (change_id change)
    | dressed id properties => exact tracked_dress kept id allowed.2
    | edited id f => exact tracked_edit kept allowed.1 fun thing => (allowed.2 thing).1
    | touched id => exact tracked_touch kept id
    | entered id thing => exact tracked_enter kept allowed.1
    | vanished ids => exact tracked_vanishAll ids kept
    | flushed => exact tracked_commit true kept
    | _ => cases handled
  | false =>
    have same : (Moment.did deed).pending pending = pending := by
      cases deed <;> first | rfl | cases handled
    obtain ⟨things, index, dirty⟩ := deed_apart handled world
    rw [same]
    exact tracked_congr kept things index dirty

theorem tracked_moment (kept : world.Tracked pending) (moment : Moment) (allowed : moment.allowed world) :
    (moment.perform world).Tracked (moment.pending pending) := by
  cases moment with
  | did deed => exact tracked_deed kept deed allowed
  | opened => exact tracked_congr kept rfl rfl rfl
  | ended keep =>
    have closed : ({ world with inScope := false } : World).Tracked pending := tracked_congr kept rfl rfl rfl
    exact tracked_commit keep closed

theorem tracked_current (kept : world.Tracked []) : Index.Current world.index world.things := by
  obtain ⟨states, reflects, right⟩ := kept.shown
  have same : states = Index.stateAmong world.things := funext fun id => right id List.not_mem_nil
  rw [same] at reflects
  exact Index.current_of_reflects kept.keyed reflects

theorem tracked_rebuilt (keyed : Index.Keyed world.things) (rebuilt : world.index = Index.rebuild world.things.values) :
    world.Tracked [] := by
  have built := Index.reflects_rebuild world.things.values (Index.keyed_values keyed)
  rw [Index.stateIn_values keyed (List.Perm.refl _), ← rebuilt] at built
  exact ⟨keyed, ⟨_, built, fun id _ => rfl⟩, fun id member => nomatch member⟩

theorem checked_of_tracked (kept : world.Tracked []) : world.checkIndices = true := by
  rw [checkIndices, (tracked_current kept).rebuilt _ (List.Perm.refl _)]
  exact BEq.rfl

theorem tracked_of_checked (keyed : Index.Keyed world.things) (checked : world.checkIndices = true) :
    world.Tracked [] :=
  tracked_rebuilt keyed (eq_of_beq checked)

-- What is pending after a run: changes by hand add to it, a commit leaves nothing.
def pendingAfter (pending : List ThingId) (moments : List Moment) : List ThingId :=
  moments.foldl (fun pending moment => moment.pending pending) pending

theorem tracked_replay {moments : List Moment} : ∀ {world : World} {pending : List ThingId}, world.Tracked pending →
    world.Permits moments → (world.replay moments).Tracked (pendingAfter pending moments) := by
  induction moments with
  | nil => exact fun kept _ => kept
  | cons moment rest ih => exact fun kept permitted => ih (tracked_moment kept moment permitted.1) permitted.2

end Tracking

section Ids

theorem below_retouch (below : world.Below) (id : ThingId) (f : Thing → Thing) : (world.retouch id f).Below := by
  intro other held
  rw [retouch_info]
  refine below other ?_
  rw [retouch] at held
  cases found : world.things[id]? with
  | none => rwa [found] at held
  | some thing =>
    rw [found] at held
    have held : (world.things.insert id (f thing)).contains other = true := held
    rw [Std.ExtTreeMap.contains_insert] at held
    rcases Bool.or_eq_true_iff.mp held with same | held
    · rw [← Std.LawfulEqOrd.eq_of_compare (beq_iff_eq.mp same)]
      exact contains_of_some found
    · exact held

theorem below_reindex (below : world.Below) (id : ThingId) : (world.reindex id).Below :=
  below_congr below (reindex_things world id) (congrArg Info.nextId (reindex_info world id))

theorem below_vanishAll (ids : List ThingId) : ∀ {world : World}, world.Below → (ids.foldl vanish world).Below := by
  induction ids with
  | nil => exact fun below => below
  | cons id rest ih =>
    intro world below
    refine ih ?_
    rw [vanish]
    split
    · refine below_reindex ?_ id
      intro other held
      have erased : (world.things.erase id).contains other = true := held
      rw [Std.ExtTreeMap.contains_erase] at erased
      exact below other (Bool.and_eq_true_iff.mp erased).2
    · exact below

theorem below_enter (below : world.Below) {id : ThingId} {thing : Thing} (handed : id < world.info.nextId) :
    (((world.place id thing).touch id).reindex id).Below := by
  refine below_reindex ?_ id
  intro other held
  have inserted : (world.things.insert id thing).contains other = true := held
  rw [Std.ExtTreeMap.contains_insert] at inserted
  rcases Bool.or_eq_true_iff.mp inserted with same | held
  · rw [← Std.LawfulEqOrd.eq_of_compare (beq_iff_eq.mp same)]
    exact handed
  · exact below other held

theorem below_commit (below : world.Below) (keep : Bool) : ((commit keep).run world).2.Below :=
  below_congr below (commit_things keep world) (congrArg Info.nextId (commit_info keep world))

-- While the next id does not go back and only what was handed out is entered.
theorem below_moment (below : world.Below) (moment : Moment) (climbs : moment.climbs world)
    (handed : moment.handed world) : (moment.perform world).Below := by
  cases moment with
  | opened => exact below_congr below rfl rfl
  | ended keep =>
    have closed : ({ world with inScope := false } : World).Below := below_congr below rfl rfl
    exact below_commit closed keep
  | did deed =>
    cases handled : deed.handles with
    | true =>
      cases deed with
      | revised id change => exact below_reindex (below_retouch below id change.apply) id
      | dressed id properties => exact below_retouch below id (dress properties)
      | edited id f => exact below_retouch below id f
      | touched id => exact below_congr below rfl rfl
      | entered id thing => exact below_enter below handed
      | vanished ids => exact below_vanishAll ids below
      | flushed => exact below_commit below true
      | _ => cases handled
    | false =>
      by_cases allocates : deed = .allocated
      · subst allocates
        exact fun id held => UInt64.lt_of_lt_of_le (below id held) climbs
      · exact below_congr below (deed_apart handled world).1 ((deed_record deed world).2 allocates)

theorem below_replay {moments : List Moment} : ∀ {world : World}, world.Below → world.Ascends moments →
    world.Hands moments → (world.replay moments).Below := by
  induction moments with
  | nil => exact fun below _ _ => below
  | cons moment rest ih =>
    exact fun below ascends hands => ih (below_moment below moment ascends.1 hands.1) ascends.2 (hands.2 ascends.1)

end Ids

end World
end ThingWorld
