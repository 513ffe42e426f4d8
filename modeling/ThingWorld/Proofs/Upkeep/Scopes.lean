import ThingWorld.Proofs.Course.Public
import ThingWorld.Proofs.Store.Calls
import ThingWorld.Proofs.Upkeep.Opened
namespace ThingWorld.World

variable {world mid : World}

-- What was written of a scope in which the world became `mid`.
structure Written (world mid last : World) : Prop where
  memory : ∃ index persisted store, last = { mid with
    inScope := false, dirty := ∅, infoDirty := false, index := index, persisted := persisted, store := store }
  touched : ∀ id ∈ mid.dirty, last.store.get? id = mid.things[id]?.map Thing.toBytes
  others : ∀ id : ThingId, id ∉ mid.dirty → last.store.get? id = world.store.get? id
  info : mid.info ≠ world.info → last.store.info = some mid.info.toBytes
  calls : ∃ calls, last.store.asked = calls ++ world.store.asked ∧ last.store.log = calls ++ world.store.log ∧
    last.store.medium = world.store.medium.after calls ∧
    ∀ id blob, calls.count (.put id blob) =
      if id ∈ mid.dirty ∧ mid.things[id]?.map Thing.toBytes = some blob ∧ world.store.get? id ≠ some blob then 1 else 0

-- A commit that is not to write takes what was touched and brings the index up to date.
theorem commit_skipped (world : World) :
    ∃ index, ((commit false).run world).2 = { world with index := index, dirty := ∅ } := by
  obtain ⟨index, caught⟩ := catchUp_same world
  exact ⟨index, caught⟩

-- A store that refuses nothing does not change how a scope ends.
theorem settle_accepted {α : Type} (accepts : ∀ asked call, mid.store.refuses asked call = false)
    (result : Except Failure α) :
    mid.settle result = (result, ((commit result.isOk).run { mid with inScope := false }).2) := by
  cases result with
  | error failure => rfl
  | ok a =>
    have accepts : ∀ asked call, ({ mid with inScope := false } : World).store.refuses asked call = false := accepts
    obtain ⟨⟨stats, ended⟩, _⟩ := commit_accepted accepts
    rw [settle, show (commit true).run { mid with inScope := false } = (.ok stats, _) from Prod.ext ended rfl]
    rfl

-- What a commit on a store that refuses nothing writes, when what the world remembers is all that lies there.
theorem written_commit (mirrored : mid.Mirrored) (store : mid.store = world.store)
    (noted : mid.infoDirty = true ∨ mid.info = world.info) :
    Written world mid ((commit true).run { mid with inScope := false }).2 := by
  have closed : ({ mid with inScope := false } : World).Mirrored := ⟨mirrored.accepts, mirrored.known⟩
  obtain ⟨⟨stats, ended⟩, asked⟩ := commit_accepted closed.accepts
  obtain ⟨dirty, infoDirty⟩ := commit_completed ended
  have known := (mirrored_commit closed true).known
  obtain ⟨index, persisted, _, _, shelf, same⟩ := commit_same true { mid with inScope := false }
  refine ⟨?_, ?_, ?_, ?_, ?_⟩
  · rw [same] at dirty infoDirty
    obtain rfl := dirty
    obtain rfl := infoDirty
    exact ⟨index, persisted, shelf, same⟩
  · exact fun id touched => (known id).symm.trans ((commit_remembers id).2 stats ended touched)
  · intro id untouched
    have kept := ((@commit_remembers { mid with inScope := false } id).1 untouched).1
    rw [← store, ← known id, kept]
    exact mirrored.known id
  · intro changed
    have noted : mid.infoDirty = true := noted.resolve_right changed
    have unwritten : ({ mid with inScope := false } : World).Recorded := by
      intro unnoted
      rw [show mid.infoDirty = false from unnoted] at noted
      cases noted
    exact (recorded_commit unwritten true infoDirty).trans (by rw [commit_info])
  · have accepted := Store.issueAll_accepts ({ mid with inScope := false } : World).demands closed.accepts
    refine ⟨({ mid with inScope := false } : World).demands.reverse, ?_, ?_, ?_, ?_⟩
    · rw [asked, accepted, ← store]
    · rw [asked, accepted, ← store]
    · rw [asked, accepted, ← store]
    · intro id blob
      rw [List.count_reverse, count_demands, ← store]
      show (if id ∈ mid.dirty ∧ _ ∧ mid.persisted[id]? ≠ some blob then 1 else 0) = _
      rw [mirrored.known]

theorem built_inside {hand : Bool} {α : Type} {body : Run α} {result : Except Failure α} (built : Built hand body)
    (ran : body.run (Moment.opened.perform world) = some (result, mid)) :
    ∃ moments, Unfolds body (Moment.opened.perform world) moments result mid ∧
      (∀ moment ∈ moments, moment.quiet) ∧ ∀ moment ∈ moments, moment.later := by
  obtain ⟨moments, unfolds, within⟩ := charted_built built (Moment.opened.perform world) result mid ran
  exact ⟨moments, unfolds, unfolds_quiet unfolds rfl,
    Moment.later_of_deeds fun deed member => deed.later_of_within (within deed member)⟩

-- A new world is one in which nothing waits and whose store refuses nothing.
theorem settled_inMemory {start : World} {options : Options} (opened : openOn .inMemory options = .ok start) :
    start.inScope = false ∧ start.Tracked [] ∧ start.Mirrored ∧ start.store.Sound start.info := by
  obtain ⟨mid, planted⟩ := planted_of_seed rfl opened
  obtain ⟨tracked, _, recorded⟩ := tracked_seeded planted
  have backed := backed_seeded (Store.own_of_empty Store.empty_inMemory 0).owned planted
  exact ⟨outside_seeded planted, tracked, mirrored_seeded (fun _ _ => rfl) Store.empty_inMemory planted,
    sound_of_backed backed recorded (faithful_seeded planted).2.2⟩

theorem settled_tampered {start world : World} {options options' : Options} {id : ThingId} {blob : Bytes}
    (opened : openOn .inMemory options = .ok start)
    (reopened : openOn (start.store.perform (.put id blob)) options' = .ok world) :
    world.inScope = false ∧ world.Mirrored := by
  obtain ⟨_, _, mirrored, sound⟩ := settled_inMemory opened
  have recorded : (start.store.perform (.put id blob)).info = some start.info.toBytes :=
    (Medium.info_put _ _ _).trans sound.recorded
  have loaded := reloaded recorded reopened
  exact ⟨loaded.inScope, mirrored_reloaded loaded mirrored.accepts⟩

-- Two changes of a thing, each of which is a scope of its own where it stands alone.
def redecorate (id : ThingId) : Run Unit :=
  (Operation.setProperty id Property.name (.text "square")).run >>= fun _ =>
    (Operation.setProperty id Property.description (.text "You are on $this.")).run

theorem built_redecorate (id : ThingId) : Built false (redecorate id) :=
  .follows (.calls _ fun byHand => nomatch byHand) fun _ => .calls _ fun byHand => nomatch byHand

def rock (limbo : ThingId) : Thing :=
  ⟨7, none, (∅ : Properties).insert Property.name (.text "rock"), [⟨Relation.location, limbo⟩], Thing.currentSchema⟩

-- Whatever is done within it, and whatever is nested there: the store does not hear of it before the end.
theorem outermost_scopes_settle {hand : Bool} {α : Type} {body : Run α} {result : Except Failure α} {last : World}
    (outside : world.inScope = false) (indexed : world.checkIndices = true) (mirrored : world.Mirrored)
    (built : Built hand body) (ran : body.scope.run world = some (result, last)) :
    ∃ moments mid, Unfolds body (Moment.opened.perform world) moments result mid ∧
      (∀ before after, moments = before ++ after →
        ((Moment.opened.perform world).replay before).store = world.store) ∧
      (∀ id : ThingId, id ∉ mid.dirty → id ∉ world.dirty ∧ mid.things[id]? = world.things[id]?) ∧
      (∀ a, result = .ok a → Written world mid last) ∧
      (∀ failure, result = .error failure → last.store = world.store ∧
        ∃ index, last = { mid with inScope := false, dirty := ∅, index := index }) ∧
      last.inScope = false ∧ last.dirty = ∅ ∧ (∀ id : ThingId, last.persisted[id]? = last.store.get? id) ∧
      (Index.Keyed world.things → last.checkIndices = true) := by
  rw [Run.run_outermost outside] at ran
  cases inner : body.run { world with inScope := true } with
  | none =>
    rw [inner] at ran
    cases ran
  | some pair =>
    obtain ⟨result', mid⟩ := pair
    rw [inner] at ran
    have settled : mid.settle result' = (result, last) := Option.some.inj ran
    obtain ⟨moments, unfolds, quiet, later⟩ := built_inside built inner
    obtain ⟨same, permitted, _⟩ := unfolds_replay unfolds
    obtain ⟨persisted, store⟩ := quiet_shelf quiet (Moment.opened.perform world)
    rw [← same] at persisted store
    have mirrored : mid.Mirrored := by
      refine ⟨?_, ?_⟩
      · rw [store]
        exact mirrored.accepts
      · rw [store, persisted]
        exact mirrored.known
    have closed : ({ mid with inScope := false } : World).Mirrored := ⟨mirrored.accepts, mirrored.known⟩
    rw [settle_accepted mirrored.accepts] at settled
    obtain ⟨rfl, rfl⟩ := Prod.mk.inj settled
    refine ⟨moments, mid, unfolds, ?_, ?_, ?_, ?_, commit_inScope _ _, ?_, (mirrored_commit closed _).known, ?_⟩
    · rintro before after rfl
      exact (quiet_shelf (fun moment member => quiet moment (List.mem_append_left after member)) _).2
    · intro id untouched
      rw [same] at untouched ⊢
      exact quiet_elsewhere quiet untouched
    · rintro a rfl
      refine written_commit mirrored store ?_
      rw [same]
      exact (quiet_noted quiet later _).imp id And.left
    · rintro failure rfl
      obtain ⟨index, skipped⟩ := commit_skipped { mid with inScope := false }
      exact ⟨(congrArg World.store skipped).trans store, index, skipped⟩
    · cases result' with
      | error failure =>
        obtain ⟨index, skipped⟩ := commit_skipped { mid with inScope := false }
        exact congrArg World.dirty skipped
      | ok a =>
        obtain ⟨⟨stats, ended⟩, _⟩ := commit_accepted closed.accepts
        exact (commit_completed ended).1
    · intro keyed
      have start : (Moment.opened.perform world).Tracked [] :=
        tracked_congr (tracked_of_checked keyed indexed) rfl rfl rfl
      have tracked := tracked_replay start permitted
      rw [← same] at tracked
      exact checked_of_tracked (tracked_commit _ (tracked_congr tracked rfl rfl rfl))

-- A thing that lies under another id is not the one that the index forgets when it is deleted.
theorem misplaced_things_escape_the_index :
    ∃ start world last, openOn .inMemory ⟨"new", .standard, 1000, fun _ => 0⟩ = .ok start ∧
      openOn (start.store.perform (.put 8 (rock start.info.limbo).toBytes)) ⟨"new", .standard, 1000, fun _ => 0⟩ =
        .ok world ∧
      world.inScope = false ∧ world.dirty = ∅ ∧ world.checkIndices = true ∧ world.Mirrored ∧
      Built false (Operation.toast (Std.ExtTreeSet.ofList [(8 : ThingId)])).run ∧
      (Operation.toast (Std.ExtTreeSet.ofList [(8 : ThingId)])).run.scope.run world = some (.ok (), last) ∧
      last.checkIndices = false := by
  have checked : opensTo .inMemory ⟨"new", .standard, 1000, fun _ => 0⟩ (fun start =>
      opensTo (start.store.perform (.put 8 (rock start.info.limbo).toBytes)) ⟨"new", .standard, 1000, fun _ => 0⟩
        fun world => world.checkIndices &&
          Run.gives ((Operation.toast (Std.ExtTreeSet.ofList [(8 : ThingId)])).run.scope.run world)
            fun _ last => !last.checkIndices) = true := by decide +kernel
  obtain ⟨start, opened, checked⟩ := opensTo_iff.mp checked
  obtain ⟨world, reopened, checked⟩ := opensTo_iff.mp checked
  obtain ⟨indexed, checked⟩ := Bool.and_eq_true_iff.mp checked
  obtain ⟨_, last, ran, unindexed⟩ := Run.gives_iff.mp checked
  obtain ⟨_, _, mirrored, sound⟩ := settled_inMemory opened
  have recorded : (start.store.perform (.put 8 (rock start.info.limbo).toBytes)).info = some start.info.toBytes :=
    (Medium.info_put _ _ _).trans sound.recorded
  have loaded := reloaded recorded reopened
  exact ⟨start, world, last, opened, reopened, loaded.inScope, loaded.dirty, indexed,
    mirrored_reloaded loaded mirrored.accepts, .calls _ (fun byHand => nomatch byHand), ran, by simpa using unindexed⟩

theorem redecorated_lobby_settles :
    ∃ start last blob, openOn .inMemory ⟨"new", .standard, 1000, fun _ => 0⟩ = .ok start ∧
      (redecorate start.info.lobby).scope.run start = some (.ok (), last) ∧
      start.store.get? start.info.lobby ≠ some blob ∧ last.store.get? start.info.lobby = some blob ∧
      (∃ calls, last.store.log = calls ++ start.store.log ∧ calls.count (.put start.info.lobby blob) = 1) ∧
      last.dirty = ∅ ∧ last.checkIndices = true := by
  have checked : opensTo .inMemory ⟨"new", .standard, 1000, fun _ => 0⟩ (fun start =>
      Run.gives ((redecorate start.info.lobby).run (Moment.opened.perform start)) fun _ mid =>
        decide (start.info.lobby ∈ mid.dirty ∧ mid.contains start.info.lobby = true ∧
          mid.things[start.info.lobby]?.map Thing.toBytes ≠ start.store.get? start.info.lobby)) = true := by
    decide +kernel
  obtain ⟨start, opened, checked⟩ := opensTo_iff.mp checked
  obtain ⟨done, mid, inner, checked⟩ := Run.gives_iff.mp checked
  obtain ⟨touched, present, differs⟩ := of_decide_eq_true checked
  obtain ⟨outside, tracked, mirrored, _⟩ := settled_inMemory opened
  have ran : (redecorate start.info.lobby).scope.run start = some (mid.settle (.ok done)) := by
    rw [Run.run_outermost outside]
    exact congrArg (Option.map _) inner
  obtain ⟨moments, mid', unfolds, _, _, written, _, _, clean, _, holds⟩ :=
    outermost_scopes_settle outside (checked_of_tracked tracked) mirrored (built_redecorate start.info.lobby) ran
  obtain ⟨kept, rfl⟩ := Prod.mk.inj (Option.some.inj ((unfolds_ran unfolds).symm.trans inner))
  obtain ⟨_, lies, _, _, calls, _, logged, _, counts⟩ := written done kept
  obtain ⟨thing, found⟩ := some_of_contains present
  have blob : mid'.things[start.info.lobby]?.map Thing.toBytes = some thing.toBytes := by
    rw [found]
    rfl
  have differs : start.store.get? start.info.lobby ≠ some thing.toBytes := fun same => differs (blob.trans same.symm)
  refine ⟨start, _, thing.toBytes, opened, ran.trans (congrArg some (Prod.ext kept rfl)), differs,
    (lies _ touched).trans blob, ⟨calls, logged, ?_⟩, clean, holds tracked.keyed⟩
  rw [counts, if_pos ⟨touched, blob, differs⟩]

-- A body that ends well ends its scope well unless the store refuses what an outermost one writes; a scope that met
-- another one writes nothing.
theorem scope_ends {α : Type} {body : Act α} {a : α} (ran : body.run { world with inScope := true } = (.ok a, mid))
    (inside : mid.inScope = true) (tracked : mid.Tracked []) :
    ∃ result last, body.scope.run world = (result, last) ∧ last.Tracked [] ∧
      (result = .ok a ∨ result = .error Store.refusal) ∧
      (world.inScope = true ∨ (∀ asked call, mid.store.refuses asked call = false) → result = .ok a) ∧
      ∃ index persisted dirty infoDirty store, last =
        { mid with
          inScope := world.inScope, index := index, persisted := persisted, dirty := dirty, infoDirty := infoDirty,
          store := store } := by
  cases scope : world.inScope with
  | true =>
    have met : { world with inScope := true } = world := by rw [← scope]
    have stays : { mid with inScope := true } = mid := by rw [← inside]
    rw [met] at ran
    exact ⟨.ok a, mid, (Act.run_joined scope body).trans ran, tracked, .inl rfl, fun _ => rfl, _, _, _, _, _,
      stays.symm⟩
  | false =>
    have after : (mid.settle (.ok a)).2 = ((commit true).run { mid with inScope := false }).2 :=
      settle_world mid (.ok a)
    have closed : ({ mid with inScope := false } : World).Tracked [] := tracked_congr tracked rfl rfl rfl
    refine ⟨_, _, by rw [Act.run_outermost scope, ran], after ▸ tracked_commit true closed, settle_gives mid a, ?_, ?_⟩
    · rintro (met | accepts)
      · cases met
      · rw [settle_accepted accepts]
    · rw [after]
      exact commit_same true _

theorem scope_congr {α : Type} {body other : Act α}
    (same : body.run { world with inScope := true } = other.run { world with inScope := true }) :
    body.scope.run world = other.scope.run world := by
  cases scope : world.inScope with
  | true =>
    have met : { world with inScope := true } = world := by rw [← scope]
    rw [Act.run_joined scope, Act.run_joined scope, ← met, same]
  | false => rw [Act.run_outermost scope, Act.run_outermost scope, same]

end ThingWorld.World
