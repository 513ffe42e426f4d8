import ThingWorld.Proofs.Upkeep.Scopes
namespace ThingWorld.World

variable {world mid : World}

-- A commit does nothing about a thing that is not touched.
theorem commit_elsewhere {id : ThingId} (untouched : id ∉ world.dirty) (keep : Bool) :
    ((commit keep).run world).2.store.get? id = world.store.get? id := by
  cases keep with
  | true => exact ((commit_remembers id).1 untouched).2
  | false =>
    obtain ⟨index, skipped⟩ := commit_skipped world
    rw [skipped]

theorem untouched_moment {id : ThingId} (moment : Moment) (before : id ∉ world.dirty)
    (after : id ∉ (moment.perform world).dirty) : (moment.perform world).things[id]? = world.things[id]? ∧
      (moment.perform world).store.get? id = world.store.get? id := by
  rcases moment_cases moment world with ⟨deed, rfl, unflushed⟩ | rfl | ⟨keep, inside, same, _⟩
  · refine ⟨(deed_elsewhere deed unflushed after).2, ?_⟩
    rw [Moment.perform, (deed_shelf deed unflushed world).2]
  · exact ⟨rfl, rfl⟩
  · have closed : id ∉ ({ world with inScope := inside } : World).dirty := before
    rw [same, commit_things]
    exact ⟨rfl, commit_elsewhere closed keep⟩

-- As long as nothing touches a thing, it stays as it is, and so does what lies there of it.
theorem untouched_replay {id : ThingId} (moments : List Moment) : ∀ {world : World},
    (∀ before after, moments = before ++ after → id ∉ (world.replay before).dirty) →
      (world.replay moments).things[id]? = world.things[id]? ∧
        (world.replay moments).store.get? id = world.store.get? id := by
  induction moments with
  | nil => exact fun _ => ⟨rfl, rfl⟩
  | cons moment rest ih =>
    intro world untouched
    have now : id ∉ world.dirty := untouched [] (moment :: rest) rfl
    have then' : id ∉ (moment.perform world).dirty := untouched [moment] rest rfl
    obtain ⟨things, lies⟩ := untouched_moment moment now then'
    obtain ⟨things', lies'⟩ := @ih (moment.perform world) fun before after split =>
      untouched (moment :: before) after (congrArg (moment :: ·) split)
    exact ⟨things'.trans things, lies'.trans lies⟩

theorem flush_writes {flushed : World} {stats : CommitStats} (outside : world.inScope = false) (kept : world.Kept)
    (ended : flush.run world = (.ok stats, flushed)) {id : ThingId} {thing : Thing} (touched : id ∈ world.dirty)
    (found : world.things[id]? = some thing) : flushed.store.get? id = some thing.toBytes := by
  rw [run_flush outside] at ended
  have known := (commit_remembers id).2 stats (congrArg Prod.fst ended) touched
  have kept := kept_commit kept true
  rw [ended] at known kept
  exact kept id thing.toBytes (known.trans (by rw [found]; rfl))

-- At a flush that ends well: what is touched then is written as it is, what never was since a while ago has stayed as it
-- was then.
theorem later_flush {last flushed : World} {moments : List Moment} {stats : CommitStats} (kept : last.Kept)
    (permitted : last.Permits moments) (outside : (last.replay moments).inScope = false)
    (ended : flush.run (last.replay moments) = (.ok stats, flushed)) (id : ThingId) :
    (∀ thing, id ∈ (last.replay moments).dirty → (last.replay moments).things[id]? = some thing →
      flushed.store.get? id = some thing.toBytes) ∧
    ((∀ before after, moments = before ++ after → id ∉ (last.replay before).dirty) →
      flushed.things[id]? = last.things[id]? ∧ flushed.store.get? id = last.store.get? id) := by
  have kept := replay_keeps (P := Kept) (fun _ moment kept _ => kept_moment kept moment) kept permitted
  refine ⟨fun thing touched found => flush_writes outside kept ended touched found, fun untouched => ?_⟩
  obtain ⟨things, lies⟩ := untouched_replay moments untouched
  have clean := untouched moments [] (List.append_nil moments).symm
  rw [run_flush outside] at ended
  have things' := commit_things true (last.replay moments)
  have lies' := commit_elsewhere clean true
  rw [ended] at things' lies'
  rw [things', lies']
  exact ⟨things, lies⟩

theorem failed_scope_ends {hand : Bool} {α : Type} {body : Run α} {failure : Failure} (outside : world.inScope = false)
    (built : Built hand body) (failed : body.run (Moment.opened.perform world) = some (.error failure, mid)) :
    mid.persisted = world.persisted ∧ mid.store = world.store ∧
      ∃ index, body.scope.run world = some (.error failure, { mid with inScope := false, dirty := ∅, index := index }) := by
  obtain ⟨moments, unfolds, quiet, _⟩ := built_inside built failed
  obtain ⟨persisted, store⟩ := quiet_shelf quiet (Moment.opened.perform world)
  rw [← (unfolds_replay unfolds).1] at persisted store
  obtain ⟨index, skipped⟩ := commit_skipped { mid with inScope := false }
  refine ⟨persisted, store, index, ?_⟩
  rw [Run.run_outermost outside]
  refine (congrArg (Option.map _) failed).trans (congrArg some (Prod.ext rfl ?_))
  exact skipped

-- What was touched before the scope was opened waits no longer when it has failed: a flush would have written it, and
-- afterwards what lies there stays, until something touches the thing again.
theorem failed_scopes_lose_what_waited {hand : Bool} {α : Type} {body : Run α} {failure : Failure}
    (outside : world.inScope = false) (kept : world.Kept) (built : Built hand body)
    (failed : body.run (Moment.opened.perform world) = some (.error failure, mid)) :
    ∃ last, body.scope.run world = some (.error failure, last) ∧ last.things = mid.things ∧
      last.store = world.store ∧ last.dirty = ∅ ∧ last.inScope = false ∧
      (∀ stats flushed, flush.run world = (.ok stats, flushed) → ∀ (id : ThingId) (thing : Thing),
        id ∈ world.dirty → world.things[id]? = some thing → flushed.store.get? id = some thing.toBytes) ∧
      ∀ moments, last.Permits moments → (last.replay moments).inScope = false →
        ∀ stats flushed, flush.run (last.replay moments) = (.ok stats, flushed) → ∀ id : ThingId,
          (∀ thing, id ∈ (last.replay moments).dirty → (last.replay moments).things[id]? = some thing →
            flushed.store.get? id = some thing.toBytes) ∧
          ((∀ before after, moments = before ++ after → id ∉ (last.replay before).dirty) →
            flushed.things[id]? = mid.things[id]? ∧ flushed.store.get? id = world.store.get? id) := by
  obtain ⟨persisted, store, index, ran⟩ := failed_scope_ends outside built failed
  refine ⟨_, ran, rfl, store, rfl, rfl, ?_, ?_⟩
  · exact fun stats flushed ended id thing touched found => flush_writes outside kept ended touched found
  · intro moments permitted outside' stats flushed ended id
    have got (other : ThingId) : mid.store.get? other = world.store.get? other := by rw [store]
    have kept' : ({ mid with inScope := false, dirty := ∅, index := index } : World).Kept :=
      kept_congr kept persisted got
    obtain ⟨written, stays⟩ := later_flush kept' permitted outside' ended id
    refine ⟨written, fun untouched => ?_⟩
    obtain ⟨things, lies⟩ := stays untouched
    exact ⟨things, lies.trans (got id)⟩

-- A lobby that was changed by hand, a scope that does nothing but fail, and a flush.
theorem changed_lobby_is_lost :
    ∃ start world last stats flushed, openOn .inMemory ⟨"new", .standard, 1000, fun _ => 0⟩ = .ok start ∧
      (edit start.info.lobby fun thing => thing.write "color" (.text "red")).run start = (.ok (), world) ∧
      (Run.ofExcept (.error (.internal "boom")) : Run Unit).scope.run world =
        some (.error (.internal "boom"), last) ∧
      flush.run last = (.ok stats, flushed) ∧ flushed.things = world.things ∧
      flushed.store.get? start.info.lobby ≠ world.things[start.info.lobby]?.map Thing.toBytes := by
  have checked : opensTo .inMemory ⟨"new", .standard, 1000, fun _ => 0⟩ (fun start =>
      decide (start.contains start.info.lobby = true ∧ start.store.get? start.info.lobby ≠
        (start.retouch start.info.lobby fun thing => thing.write "color" (.text "red")).things[
          start.info.lobby]?.map Thing.toBytes)) = true := by decide +kernel
  obtain ⟨start, opened, checked⟩ := opensTo_iff.mp checked
  obtain ⟨present, differs⟩ := of_decide_eq_true checked
  obtain ⟨outside, _, mirrored, _⟩ := settled_inMemory opened
  have changed := run_edit start.info.lobby (fun thing => thing.write "color" (.text "red")) start
  rw [if_pos present] at changed
  have turned := turned_retouch start.info.lobby (fun thing => thing.write "color" (.text "red")) start
  generalize start.retouch start.info.lobby (fun thing => thing.write "color" (.text "red")) = world at *
  obtain ⟨inScope, store, persisted⟩ : world.inScope = start.inScope ∧ world.store = start.store ∧
      world.persisted = start.persisted := by
    obtain ⟨_, _, _, _, _, _, _, _, _, same⟩ := turned
    rw [same]
    exact ⟨rfl, rfl, rfl⟩
  have kept : world.Kept := by
    intro id blob known
    rw [store, ← mirrored.known id, ← persisted]
    exact known
  have built : Built false (Run.ofExcept (.error (.internal "boom")) : Run Unit) := .gives _
  obtain ⟨last, ran, things, store', clean, outside', _, later⟩ :=
    failed_scopes_lose_what_waited (inScope.trans outside) kept built rfl
  have accepts : ∀ asked call, last.store.refuses asked call = false := by
    rw [store', store]
    exact mirrored.accepts
  obtain ⟨⟨stats, ended⟩, _⟩ := commit_accepted accepts
  have flushed : flush.run last = (.ok stats, ((commit true).run last).2) :=
    (run_flush outside').trans (Prod.ext ended rfl)
  have untouched (before after : List Moment) (split : [] = before ++ after) :
      start.info.lobby ∉ (last.replay before).dirty := by
    obtain ⟨rfl, _⟩ := List.append_eq_nil_iff.mp split.symm
    show _ ∉ last.dirty
    rw [clean]
    exact Std.ExtTreeSet.not_mem_empty
  obtain ⟨_, lies⟩ := (later [] trivial outside' stats _ flushed start.info.lobby).2 untouched
  refine ⟨start, world, last, stats, _, opened, changed, ran, flushed, (commit_things true last).trans things, ?_⟩
  rw [lies, store]
  exact differs

end ThingWorld.World
