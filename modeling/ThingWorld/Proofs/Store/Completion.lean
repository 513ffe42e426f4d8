import ThingWorld.Proofs.Store.Writing
namespace ThingWorld.World

variable {world : World}

-- Things that are neither touched nor still to be looked at were last written as they are.
def FaithfulBut (world : World) (left : List ThingId) : Prop :=
  ∀ id : ThingId, id ∉ world.dirty → id ∉ left → world.persisted[id]? = world.things[id]?.map Thing.toBytes

theorem faithful_of_nothing_left (faithful : world.FaithfulBut []) : world.Faithful :=
  fun id clean => faithful id clean List.not_mem_nil

-- Looking at a thing changes what is remembered of it alone, and what lies there of it alone; when it ends well, that is
-- remembered which the thing is.
theorem persist_shape (id : ThingId) (world : World) :
    ∃ persisted store, ((persist id).run world).2 = { world with persisted := persisted, store := store } ∧
      (∀ other : ThingId, other ≠ id →
        persisted[other]? = world.persisted[other]? ∧ store.get? other = world.store.get? other) ∧
      ∀ outcome, ((persist id).run world).1 = .ok outcome → persisted[id]? = world.things[id]?.map Thing.toBytes := by
  rw [run_persist]
  cases found : world.things[id]? with
  | none =>
    dsimp only
    rw [run_persistMissing]
    split
    · refine ⟨_, _, rfl, ?_, ?_⟩
      · intro other differs
        rw [Std.ExtTreeMap.getElem?_erase]
        exact ⟨by simp [Ne.symm differs], (get_deleted world.store id other).resolve_right fun gone => differs gone.1.symm⟩
      · exact fun _ _ => Std.ExtTreeMap.getElem?_erase_self
    · rename_i unknown
      refine ⟨_, _, rfl, fun _ _ => ⟨rfl, rfl⟩, fun _ _ => ?_⟩
      exact Std.ExtTreeMap.getElem?_eq_none_of_contains_eq_false (Bool.eq_false_iff.mpr unknown)
  | some thing =>
    dsimp only
    rw [run_persistPresent]
    split
    · rename_i known
      exact ⟨_, _, rfl, fun _ _ => ⟨rfl, rfl⟩, fun _ _ => known⟩
    · cases asked : (world.store.issue (.put id thing.toBytes)).1 with
      | ok =>
        refine ⟨_, _, rfl, ?_, fun _ _ => Std.ExtTreeMap.getElem?_insert_self⟩
        intro other differs
        rw [Std.ExtTreeMap.getElem?_insert]
        refine ⟨by simp [Ne.symm differs], ?_⟩
        exact (get_accepted asked other).trans ((Medium.get_put _ _ _ _).trans (if_neg (Ne.symm differs)))
      | error failure =>
        have unheard := (issue_refused asked).2
        exact ⟨_, _, rfl, fun other _ => ⟨rfl, congrArg (fun medium => medium.get? other) unheard⟩,
          fun _ ended => nomatch ended⟩

theorem mem_touchAll (ids : List ThingId) : ∀ {dirty : IdSet} {id : ThingId},
    id ∈ ids.foldl .insert dirty ↔ id ∈ ids ∨ id ∈ dirty := by
  induction ids with
  | nil => simp
  | cons first rest ih =>
    intro dirty id
    rw [List.foldl_cons, ih, Std.ExtTreeSet.mem_insert, Std.compare_eq_iff_eq, List.mem_cons]
    grind

theorem faithful_persistAll (ids : List ThingId) : ∀ (stats : CommitStats) (world : World), world.FaithfulBut ids →
    ((persistAll stats ids).run world).2.Faithful := by
  induction ids with
  | nil => exact fun stats world faithful => faithful_of_nothing_left faithful
  | cons id rest ih =>
    intro stats world faithful
    obtain ⟨persisted, store, same, apart, done⟩ := persist_shape id world
    rw [persistAll, Act.run_bind, Act.run_observe]
    cases outcome : ((persist id).run world).1 with
    | ok counted =>
      dsimp only
      rw [same]
      refine ih (stats.count counted) _ ?_
      intro other clean unlisted
      by_cases named : other = id
      · subst named
        exact done counted outcome
      · refine (apart other named).1.trans (faithful other clean ?_)
        exact fun member => (List.mem_cons.mp member).elim named unlisted
    | error failure =>
      dsimp only
      rw [same, Act.run_bind, Act.run_modify, touchAll_same]
      intro other clean
      have clean := not_or.mp (mem_touchAll (id :: rest) |>.not.mp clean)
      have named : other ≠ id := fun named => clean.1 (List.mem_cons.mpr (.inl named))
      exact (apart other named).1.trans (faithful other clean.2 clean.1)

theorem persistAll_shape (ids : List ThingId) : ∀ (stats : CommitStats) (world : World),
    ∃ persisted dirty store, ((persistAll stats ids).run world).2 =
        { world with persisted := persisted, dirty := dirty, store := store } ∧
      ∀ outcome, ((persistAll stats ids).run world).1 = .ok outcome → dirty = world.dirty := by
  induction ids with
  | nil => exact fun stats world => ⟨_, _, _, rfl, fun _ _ => rfl⟩
  | cons id rest ih =>
    intro stats world
    obtain ⟨persisted, store, same, _, _⟩ := persist_shape id world
    rw [persistAll, Act.run_bind, Act.run_observe]
    cases outcome : ((persist id).run world).1 with
    | ok counted =>
      dsimp only
      rw [same]
      obtain ⟨_, _, _, last, done⟩ := ih (stats.count counted) { world with persisted := persisted, store := store }
      exact ⟨_, _, _, last, done⟩
    | error failure =>
      dsimp only
      rw [same, Act.run_bind, Act.run_modify, touchAll_same]
      refine ⟨_, _, _, rfl, ?_⟩
      intro _ ended
      cases ended

theorem persistInfo_shape (world : World) :
    ∃ infoDirty store, (persistInfo.run world).2 = { world with infoDirty := infoDirty, store := store } ∧
      (∀ id, store.get? id = world.store.get? id) ∧ ((persistInfo.run world).1 = .ok () → infoDirty = false) := by
  rw [run_persistInfo]
  split
  · have got := get_recorded world.store world.info.toBytes
    cases asked : (world.store.issue (.putInfo world.info.toBytes)).1 with
    | ok => exact ⟨false, _, rfl, got, fun _ => rfl⟩
    | error failure => exact ⟨world.infoDirty, _, rfl, got, fun ended => nomatch ended⟩
  · rename_i unnoted
    exact ⟨world.infoDirty, world.store, rfl, fun _ => rfl, fun _ => Bool.eq_false_iff.mpr unnoted⟩

-- The world record comes after the things and changes nothing about them.
theorem writeBack_shape (ids : List ThingId) (world : World) :
    ∃ infoDirty store, ((writeBack ids).run world).2 =
        { ((persistAll .zero ids).run world).2 with infoDirty := infoDirty, store := store } ∧
      (∀ id, store.get? id = ((persistAll .zero ids).run world).2.store.get? id) ∧
      ∀ outcome, ((writeBack ids).run world).1 = .ok outcome →
        (∃ stats, ((persistAll .zero ids).run world).1 = .ok stats) ∧ infoDirty = false := by
  rw [writeBack, Act.run_bind]
  cases things : (persistAll .zero ids).run world with
  | mk result mid =>
    cases result with
    | error failure => exact ⟨_, _, rfl, fun _ => rfl, fun _ ended => nomatch ended⟩
    | ok stats =>
      obtain ⟨infoDirty, store, same, got, noted⟩ := persistInfo_shape mid
      dsimp only
      rw [Act.run_bind]
      cases info : persistInfo.run mid with
      | mk result last =>
        rw [info] at same noted
        dsimp only at same
        subst same
        cases result with
        | error failure => exact ⟨_, _, rfl, got, fun _ ended => nomatch ended⟩
        | ok =>
          have noted := noted rfl
          have flushed (id : ThingId) : (store.issue .flush).2.get? id = mid.store.get? id :=
            (congrArg (fun medium => medium.get? id) (medium_flush store)).trans (got id)
          dsimp only
          split
          · rw [Act.run_bind, run_issue]
            cases (store.issue .flush).1 with
            | ok => exact ⟨infoDirty, _, rfl, flushed, fun _ _ => ⟨⟨stats, rfl⟩, noted⟩⟩
            | error failure => exact ⟨infoDirty, _, rfl, flushed, fun _ ended => nomatch ended⟩
          · exact ⟨infoDirty, store, rfl, got, fun _ _ => ⟨⟨stats, rfl⟩, noted⟩⟩

theorem faithfulBut_catchUp (faithful : world.Faithful) : world.catchUp.FaithfulBut world.dirty.toList := by
  obtain ⟨index, same⟩ := catchUp_same world
  rw [same]
  intro id _ unlisted
  exact faithful id fun touched => unlisted (Std.ExtTreeSet.mem_toList.mpr touched)

theorem faithful_commit (faithful : world.Faithful) : ((commit true).run world).2.Faithful := by
  obtain ⟨infoDirty, store, same, _, _⟩ := writeBack_shape world.dirty.toList world.catchUp
  rw [run_commit, if_pos rfl, same]
  exact faithful_persistAll _ .zero _ (faithfulBut_catchUp faithful)

-- A commit that ends well leaves nothing for the next one.
theorem commit_completed {stats : CommitStats} (ended : ((commit true).run world).1 = .ok stats) :
    ((commit true).run world).2.dirty = ∅ ∧ ((commit true).run world).2.infoDirty = false := by
  obtain ⟨infoDirty, store, same, _, done⟩ := writeBack_shape world.dirty.toList world.catchUp
  rw [run_commit, if_pos rfl] at ended ⊢
  obtain ⟨⟨counted, all⟩, noted⟩ := done stats ended
  rw [same]
  refine ⟨?_, noted⟩
  obtain ⟨_, dirty, _, shape, untouched⟩ := persistAll_shape world.dirty.toList .zero world.catchUp
  obtain ⟨index, caught⟩ := catchUp_same world
  rw [shape, untouched counted all, caught]

end ThingWorld.World
