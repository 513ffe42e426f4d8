import ThingWorld.Proofs.Removal.Release
import ThingWorld.Proofs.Turns.Playing
import ThingWorld.Proofs.Upkeep.Reached
import ThingWorld.Proofs.Upkeep.Scopes
namespace ThingWorld.World

-- What a world knows of an id besides the thing that is there: its listener, the event that waits for it, and whether
-- it is told of ticks, has reacted in this one and is in a check.
def knownOf (world : World) (id : ThingId) : Option Listener × Option Event × Bool × Bool × Bool :=
  (world.listeners[id]?, world.schedule.pending[id]?, world.schedule.subscribers.contains id,
    world.schedule.hasReacted id, world.schedule.isChecking id)

def unknown : Option Listener × Option Event × Bool × Bool × Bool :=
  (none, none, false, false, false)

-- Whether an id is that of a thing that goes.
def goes (world : World) (doomed : IdSet) (id : ThingId) : Bool :=
  doomed.contains id && world.contains id

-- A thing outside of the set has a member as its prototype.
def InUse (world : World) (doomed : IdSet) (id user : ThingId) : Prop :=
  user ∉ doomed ∧ ∃ thing, world.things[user]? = some thing ∧ thing.prototype = some id

-- Why a set may not be deleted: a member belongs to the foundation of the world, or is in use.
inductive Refused (world : World) (doomed : IdSet) : Failure → Prop where
  | founding {id : ThingId} (member : id ∈ doomed) (known : world.isWellKnown id = true) :
      Refused world doomed (.permissionDenied (showId id ++ " is part of the world's foundation"))
  | used {id : ThingId} {users : List ThingId} (member : id ∈ doomed) (some : users ≠ [])
      (lists : Index.Lists users (InUse world doomed id)) : Refused world doomed (.prototypeInUse id users)

-- The world in which a set of things was deleted.
structure Toasted (world last : World) (doomed : IdSet) : Prop where
  allowed : ∀ id ∈ doomed, world.isWellKnown id = false ∧ ∀ user, ¬InUse world doomed id user
  gone : ∀ id ∈ doomed, last.contains id = false
  forgotten : ∀ id, last.knownOf id = if world.goes doomed id then unknown else world.knownOf id
  survivors : ∀ id : ThingId, id ∉ doomed →
    last.things[id]? = world.things[id]?.map (Thing.bereft (world.goes doomed) world.info.limbo)
  unused : ∀ (id : ThingId) (thing : Thing), last.things[id]? = some thing →
    ∀ prototype, thing.prototype = some prototype → prototype ∉ doomed
  severed : ∀ (id : ThingId) (thing : Thing), last.things[id]? = some thing →
    ∀ edge ∈ thing.edges, world.goes doomed edge.target = false
  unlinked : ∀ (id : ThingId) (thing : Thing), id ∉ doomed → world.things[id]? = some thing →
    thing.pointsAt Relation.linkOwner (world.goes doomed) = true →
      ∃ left, last.things[id]? = some left ∧ left.targets Relation.linkOwner = [] ∧
        left.targets Relation.location = [world.info.limbo]
  moved : ∀ (id : ThingId) (thing : Thing), id ∉ doomed → world.things[id]? = some thing →
    thing.pointsAt Relation.location (world.goes doomed) = true →
      ∃ left, last.things[id]? = some left ∧ left.targets Relation.location = [world.info.limbo]
  indexed : last.checkIndices = true
  same : ∃ things index persisted dirty infoDirty store listeners pending subscribers reacted checking, last =
    { world with
      things := things, index := index, persisted := persisted, dirty := dirty, infoDirty := infoDirty, store := store,
      listeners := listeners
      schedule := { world.schedule with
        pending := pending, subscribers := subscribers, reacted := reacted, checking := checking } }

section

variable {world mid last : World} {doomed : IdSet}

theorem vanish_same (id : ThingId) (world : World) :
    ∃ things index dirty listeners pending subscribers reacted checking, world.vanish id =
      { world with
        things := things, index := index, dirty := dirty, listeners := listeners
        schedule := { world.schedule with
          pending := pending, subscribers := subscribers, reacted := reacted, checking := checking } } := by
  rw [vanish]
  split
  · obtain ⟨index, same⟩ := reindex_same (touch { world with
      things := world.things.erase id
      listeners := world.listeners.erase id
      schedule := world.schedule.forget id } id) id
    exact ⟨_, _, _, _, _, _, _, _, same⟩
  · exact ⟨_, _, _, _, _, _, _, _, rfl⟩

theorem vanish_each (id : ThingId) (world : World) (other : ThingId) :
    (world.vanish id).things[other]? = (if id = other then none else world.things[other]?) ∧
      (world.vanish id).knownOf other =
        if id = other ∧ world.contains other = true then unknown else world.knownOf other := by
  rw [vanish]
  split
  · rename_i present
    obtain ⟨index, same⟩ := reindex_same (touch { world with
      things := world.things.erase id
      listeners := world.listeners.erase id
      schedule := world.schedule.forget id } id) id
    rw [same]
    refine ⟨?_, ?_⟩
    · show (world.things.erase id)[other]? = _
      rw [Std.ExtTreeMap.getElem?_erase]
      simp
    · by_cases first : id = other
      · subst first
        simp [knownOf, unknown, touch, Schedule.forget, Schedule.hasReacted, Schedule.isChecking, present]
      · simp [knownOf, touch, Schedule.forget, Schedule.hasReacted, Schedule.isChecking, first,
          Std.ExtTreeMap.getElem?_erase, Std.ExtTreeSet.contains_erase]
  · rename_i absent
    by_cases first : id = other
    · subst first
      rw [contains, Std.ExtTreeMap.contains_eq_isSome_getElem?, Option.not_isSome_iff_eq_none] at absent
      simp [contains, Std.ExtTreeMap.contains_eq_isSome_getElem?, absent]
    · simp [first]

theorem vanishAll_same (ids : List ThingId) : ∀ world : World,
    ∃ things index dirty listeners pending subscribers reacted checking, ids.foldl vanish world =
      { world with
        things := things, index := index, dirty := dirty, listeners := listeners
        schedule := { world.schedule with
          pending := pending, subscribers := subscribers, reacted := reacted, checking := checking } } := by
  induction ids with
  | nil => exact fun world => ⟨_, _, _, _, _, _, _, _, rfl⟩
  | cons id rest ih =>
    intro world
    obtain ⟨_, _, _, _, _, _, _, _, same⟩ := vanish_same id world
    obtain ⟨_, _, _, _, _, _, _, _, same'⟩ := ih (world.vanish id)
    rw [List.foldl_cons, same', same]
    exact ⟨_, _, _, _, _, _, _, _, rfl⟩

-- Of those that are there all is gone, and of nothing else.
theorem vanishAll_each (ids : List ThingId) (other : ThingId) : ∀ world : World,
    (ids.foldl vanish world).things[other]? = (if other ∈ ids then none else world.things[other]?) ∧
      (ids.foldl vanish world).knownOf other =
        if other ∈ ids ∧ world.contains other = true then unknown else world.knownOf other := by
  induction ids with
  | nil => exact fun world => ⟨by simp, by simp⟩
  | cons id rest ih =>
    intro world
    obtain ⟨things, known⟩ := vanish_each id world other
    obtain ⟨things', known'⟩ := ih (world.vanish id)
    have held : (world.vanish id).contains other = if id = other then false else world.contains other := by
      rw [contains, contains, Std.ExtTreeMap.contains_eq_isSome_getElem?, Std.ExtTreeMap.contains_eq_isSome_getElem?,
        things]
      split <;> rfl
    rw [List.foldl_cons, things', known', things, known, held]
    by_cases first : id = other
    · subst first
      simp
    · simp [first, Ne.symm first]

theorem lists_outsideInstances (tracked : world.Tracked []) (id : ThingId) :
    Index.Lists (world.outsideInstances doomed id) (InUse world doomed id) := by
  obtain ⟨ascending, members⟩ := (tracked_current tracked).instancesOf id
  refine ⟨ascending.filter _, fun user => ?_⟩
  rw [outsideInstances, List.mem_filter, members, InUse, and_comm, ← Std.ExtTreeSet.contains_iff_mem, Bool.not_eq_true,
    Bool.not_eq_true']

theorem refusal_iff (tracked : world.Tracked []) {failure : Failure} (refused : world.toastRefusal? doomed = some failure) :
    Refused world doomed failure := by
  obtain ⟨id, member, refused⟩ := List.exists_of_findSome?_eq_some refused
  have member := Std.ExtTreeSet.mem_toList.mp member
  rw [toastRefusalOf?] at refused
  split at refused
  · rename_i known
    cases refused
    exact .founding member known
  · split at refused
    · cases refused
    · rename_i users _ listed
      cases refused
      exact .used member listed (lists_outsideInstances tracked id)

theorem allowed_of_unrefused (tracked : world.Tracked []) (unrefused : world.toastRefusal? doomed = none) :
    ∀ id ∈ doomed, world.isWellKnown id = false ∧ ∀ user, ¬InUse world doomed id user := by
  intro id member
  have listed := Std.ExtTreeSet.mem_toList.mpr member
  have unknown := not_wellKnown_of_unrefused unrefused listed
  have free := List.findSome?_eq_none_iff.mp unrefused id listed
  rw [toastRefusalOf?, unknown, if_neg Bool.false_ne_true] at free
  refine ⟨unknown, fun user uses => ?_⟩
  have lists := ((lists_outsideInstances tracked id).members user).mpr uses
  split at free
  · rename_i nobody
    rw [nobody] at lists
    cases lists
  · cases free

theorem run_removal (inside : world.inScope = true) (tracked : world.Tracked [])
    (spared : world.info.limbo ∉ doomed) :
    ∃ last, (do
        doomed.toList.forM (release doomed world.info.limbo)
        modify fun world => doomed.toList.foldl vanish world : Act Unit).run world = (.ok (), last) ∧
      last.Tracked [] ∧
      (∀ id, last.knownOf id = if world.goes doomed id then unknown else world.knownOf id) ∧
      (∀ id : ThingId, last.things[id]? = if doomed.contains id then none
        else world.things[id]?.map (Thing.bereft (world.goes doomed) world.info.limbo)) ∧
      ∃ things index dirty listeners pending subscribers reacted checking, last =
        { world with
          things := things, index := index, dirty := dirty, listeners := listeners
          schedule := { world.schedule with
            pending := pending, subscribers := subscribers, reacted := reacted, checking := checking } } := by
  have start : Alters world world fun id thing =>
      if doomed.contains id then thing else thing.bereft (world.foundAmong []) world.info.limbo :=
    alters_congr (alters_refl tracked) fun id thing => by
      have nothing : world.foundAmong [] = fun _ => false := rfl
      rw [nothing, Thing.bereft_nothing, ite_self]
  obtain ⟨mid, ran, alters⟩ := run_releases doomed world.info.limbo doomed.toList [] world
    (fun listed => spared (Std.ExtTreeSet.mem_toList.mp listed)) inside start
  have all : world.foundAmong ([] ++ doomed.toList) = world.goes doomed := by
    funext id
    rw [foundAmong, goes, List.nil_append, Bool.eq_iff_iff]
    simp [Std.ExtTreeSet.mem_toList]
  rw [all] at alters
  refine ⟨doomed.toList.foldl vanish mid, ?_, tracked_vanishAll _ alters.tracked, fun id => ?_, fun id => ?_, ?_⟩
  · rw [Act.run_bind, ran]
    rfl
  · obtain ⟨_, _, _, same⟩ := alters.same
    have known : mid.knownOf id = world.knownOf id := by
      rw [same]
      rfl
    rw [(vanishAll_each doomed.toList id mid).2, known, alters.contains, goes]
    simp [Std.ExtTreeSet.mem_toList, Std.ExtTreeSet.contains_iff_mem]
  · rw [(vanishAll_each doomed.toList id mid).1, alters.each]
    simp only [Std.ExtTreeSet.mem_toList, ← Std.ExtTreeSet.contains_iff_mem]
    cases doomed.contains id <;> rfl
  · obtain ⟨_, _, _, same⟩ := alters.same
    obtain ⟨_, _, _, _, _, _, _, _, same'⟩ := vanishAll_same doomed.toList mid
    rw [same', same]
    exact ⟨_, _, _, _, _, _, _, _, rfl⟩

theorem toasted (unrefused : world.toastRefusal? doomed = none) (before : world.Tracked []) (tracked : last.Tracked [])
    (forgotten : ∀ id, last.knownOf id = if world.goes doomed id then unknown else world.knownOf id)
    (things : ∀ id : ThingId, last.things[id]? = if doomed.contains id then none
      else world.things[id]?.map (Thing.bereft (world.goes doomed) world.info.limbo))
    (same : ∃ things index persisted dirty infoDirty store listeners pending subscribers reacted checking, last =
      { world with
        things := things, index := index, persisted := persisted, dirty := dirty, infoDirty := infoDirty, store := store,
        listeners := listeners
        schedule := { world.schedule with
          pending := pending, subscribers := subscribers, reacted := reacted, checking := checking } }) :
    Toasted world last doomed := by
  have allowed := allowed_of_unrefused before unrefused
  have limbo : world.goes doomed world.info.limbo = false := by
    rw [goes]
    cases member : doomed.contains world.info.limbo with
    | false => rfl
    | true =>
      have known := (allowed _ (Std.ExtTreeSet.contains_iff_mem.mp member)).1
      simp [isWellKnown, Info.isWellKnown] at known
  have survivors (id : ThingId) (spared : id ∉ doomed) :
      last.things[id]? = world.things[id]?.map (Thing.bereft (world.goes doomed) world.info.limbo) := by
    rw [things, if_neg (Std.ExtTreeSet.contains_iff_mem.not.mpr spared)]
  -- Whatever is left was there and outlived the deletion.
  have outlived {id : ThingId} {left : Thing} (found : last.things[id]? = some left) : id ∉ doomed ∧ ∃ thing,
      world.things[id]? = some thing ∧ thing.bereft (world.goes doomed) world.info.limbo = left := by
    rw [things] at found
    split at found
    · cases found
    · rename_i spared
      exact ⟨Std.ExtTreeSet.contains_iff_mem.not.mp spared, Option.map_eq_some_iff.mp found⟩
  refine ⟨allowed, fun id member => ?_, forgotten, survivors, ?_, ?_, ?_, ?_, checked_of_tracked tracked, same⟩
  · rw [contains, Std.ExtTreeMap.contains_eq_isSome_getElem?, things, if_pos (Std.ExtTreeSet.contains_iff_mem.mpr member)]
    rfl
  · intro id left found prototype inherits member
    obtain ⟨spared, thing, held, rfl⟩ := outlived found
    exact (allowed prototype member).2 id ⟨spared, thing, held, inherits⟩
  · intro id left found edge member
    obtain ⟨_, thing, _, rfl⟩ := outlived found
    rcases Thing.mem_trimmed.mp member with ⟨_, spares⟩ | ⟨_, rfl⟩
    · exact (Thing.spares_iff.mp spares).1
    · exact limbo
  · intro id thing spared held points
    refine ⟨_, (survivors id spared).trans (congrArg (Option.map _) held), ?_, ?_⟩ <;>
      rw [Thing.bereft, points, Bool.true_or]
    · exact Thing.targets_unlinked
    · exact Thing.targets_moved
  · intro id thing spared held points
    refine ⟨_, (survivors id spared).trans (congrArg (Option.map _) held), ?_⟩
    rw [Thing.bereft, points, Bool.or_true]
    exact Thing.targets_moved

end

-- On a store that refuses nothing, in a world in which every thing is held under its own id.
theorem toasts_are_all_or_nothing (world : World) (doomed : IdSet) (keyed : Index.Keyed world.things)
    (indexed : world.checkIndices = true) (accepts : ∀ asked call, world.store.refuses asked call = false) :
    (∃ failure, (toast doomed).run world = (.error failure, world) ∧ Refused world doomed failure) ∨
      ∃ last, (toast doomed).run world = (.ok (), last) ∧ Toasted world last doomed := by
  have tracked := tracked_of_checked keyed indexed
  cases refusal : world.toastRefusal? doomed with
  | some failure =>
    refine .inl ⟨failure, ?_, refusal_iff tracked refusal⟩
    rw [toast, Act.run_bind, Act.run_get]
    dsimp only
    rw [refusal]
    rfl
  | none =>
    have spared : world.info.limbo ∉ doomed := by
      intro member
      have known := (allowed_of_unrefused tracked refusal _ member).1
      simp [isWellKnown, Info.isWellKnown] at known
    have opens : (toast doomed).run world = (Act.scope do
        doomed.toList.forM (release doomed world.info.limbo)
        modify fun world => doomed.toList.foldl vanish world).run world := by
      rw [toast, Act.run_bind, Act.run_get]
      dsimp only
      rw [refusal]
      dsimp only
      rw [Act.run_bind, Act.run_get]
    have inside : ({ world with inScope := true } : World).Tracked [] := tracked_congr tracked rfl rfl rfl
    obtain ⟨mid, ran, tracked', forgotten, things, _, _, _, _, _, _, _, _, same⟩ := run_removal rfl inside spared
    have accepts' : ∀ asked call, mid.store.refuses asked call = false := by
      rw [same]
      exact accepts
    obtain ⟨_, last, closed, tracked'', _, well, _, _, _, _, _, same'⟩ := scope_ends ran (by rw [same]) tracked'
    refine .inr ⟨last, by rw [opens, closed, well (.inr accepts')],
      toasted refusal tracked tracked'' (fun id => ?_) (fun id => ?_) ?_⟩
    · have known : last.knownOf id = mid.knownOf id := by
        rw [same']
        rfl
      exact known.trans (forgotten id)
    · have left : last.things = mid.things := by rw [same']
      rw [left]
      exact things id
    · rw [same', same]
      exact ⟨_, _, _, _, _, _, _, _, _, _, _, rfl⟩

-- A thing that lies under another id is deleted there, but the index forgets it under that other id.
theorem misplaced_things_stay_in_the_index :
    ∃ start world last, openOn .inMemory ⟨"new", .standard, 1000, fun _ => 0⟩ = .ok start ∧
      openOn (start.store.perform (.put 8 (rock start.info.limbo).toBytes)) ⟨"new", .standard, 1000, fun _ => 0⟩ =
        .ok world ∧
      world.checkIndices = true ∧ (∀ asked call, world.store.refuses asked call = false) ∧
      (toast (Std.ExtTreeSet.ofList [(8 : ThingId)])).run world = (.ok (), last) ∧ last.checkIndices = false := by
  have checked : opensTo .inMemory ⟨"new", .standard, 1000, fun _ => 0⟩ (fun start =>
      opensTo (start.store.perform (.put 8 (rock start.info.limbo).toBytes)) ⟨"new", .standard, 1000, fun _ => 0⟩
        fun world => world.checkIndices &&
          Run.gives ((Operation.toast (Std.ExtTreeSet.ofList [(8 : ThingId)])).run.run world)
            fun _ last => !last.checkIndices) = true := by decide +kernel
  obtain ⟨start, opened, checked⟩ := opensTo_iff.mp checked
  obtain ⟨world, reopened, checked⟩ := opensTo_iff.mp checked
  obtain ⟨indexed, checked⟩ := Bool.and_eq_true_iff.mp checked
  obtain ⟨_, last, ran, unindexed⟩ := Run.gives_iff.mp checked
  exact ⟨start, world, last, opened, reopened, indexed, (settled_tampered opened reopened).2.accepts,
    Option.some.inj ran, by simpa using unindexed⟩

-- A box with a coin in it, a lid that belongs to it, and a key that hangs in two places and is its lid's.
def furnish : Run Unit :=
  (Operation.create "box" "").run >>= fun box => (Operation.create "coin" "").run >>= fun coin =>
    (Operation.create "lid" "").run >>= fun lid =>
      inTurn [.setLocation coin box, .setAssociation coin Relation.location lid true,
        .setAssociation lid Relation.linkOwner box false, .setAssociation lid "hinge" box true,
        .setAssociation lid "hinge" coin true]

theorem built_furnish : Built false furnish :=
  .follows (.calls _ fun byHand => nomatch byHand) fun _ => .follows (.calls _ fun byHand => nomatch byHand) fun _ =>
    .follows (.calls _ fun byHand => nomatch byHand) fun _ => built_inTurn _ (by simp [Operation.byHand])

-- The coin hung in the box and elsewhere, and the lid belonged to the box.
theorem boxes_leave_their_contents :
    ∃ start before last, openOn .inMemory ⟨"new", .standard, 1000, fun _ => 0⟩ = .ok start ∧
      furnish.run start = some (.ok (), before) ∧
      (toast (Std.ExtTreeSet.ofList [(7 : ThingId)])).run before = (.ok (), last) ∧
      Toasted before last (Std.ExtTreeSet.ofList [(7 : ThingId)]) ∧ before.contains 7 = true ∧ last.contains 7 = false ∧
      (last.things[(8 : ThingId)]?.map Thing.edges) = some [⟨Relation.location, before.info.limbo⟩] ∧
      (last.things[(9 : ThingId)]?.map Thing.edges) = some [⟨"hinge", 8⟩, ⟨Relation.location, before.info.limbo⟩] := by
  have checked : opensTo .inMemory ⟨"new", .standard, 1000, fun _ => 0⟩ (fun start =>
      Run.gives (furnish.run start) fun _ before =>
        let doomed : IdSet := Std.ExtTreeSet.ofList [(7 : ThingId)]
        let left (id : ThingId) : Option (List Edge) :=
          (before.things[id]?.map (Thing.bereft (before.goes doomed) before.info.limbo)).map Thing.edges
        decide (((toast doomed).run before).1.isOk = true ∧ before.contains 7 = true ∧
          left 8 = some [⟨Relation.location, before.info.limbo⟩] ∧
          left 9 = some [⟨"hinge", 8⟩, ⟨Relation.location, before.info.limbo⟩])) = true := by
    decide +kernel
  obtain ⟨start, opened, checked⟩ := opensTo_iff.mp checked
  obtain ⟨_, before, ran, checked⟩ := Run.gives_iff.mp checked
  obtain ⟨well, there, coin, lid⟩ := of_decide_eq_true checked
  obtain ⟨_, tracked, mirrored⟩ := settled_after opened built_furnish ran
  rcases toasts_are_all_or_nothing before (Std.ExtTreeSet.ofList [(7 : ThingId)]) tracked.keyed
    (checked_of_tracked tracked) mirrored.accepts with ⟨failure, refused, _⟩ | ⟨last, gone, toasted⟩
  · rw [refused] at well
    cases well
  · have spared (id : ThingId) (other : id ≠ 7) : id ∉ (Std.ExtTreeSet.ofList [(7 : ThingId)] : IdSet) := by
      simpa using Ne.symm other
    refine ⟨start, before, last, opened, ran, gone, toasted, there, toasted.gone 7 (by simp), ?_, ?_⟩
    · rw [toasted.survivors 8 (spared 8 (by decide))]
      exact coin
    · rw [toasted.survivors 9 (spared 9 (by decide))]
      exact lid

end ThingWorld.World
