import ThingWorld.Proofs.Store.Completion
namespace ThingWorld

-- What a medium is after these calls, the latest first.
def Medium.after (medium : Medium) (calls : List StoreCall) : Medium :=
  calls.foldr (fun call medium => medium.apply call) medium

-- Things that a commit wrote or deleted.
def CommitStats.changes (stats : CommitStats) : Nat := stats.written + stats.deleted

namespace Store

-- Issues one call after the other, whatever their results are.
def issueAll (store : Store) (calls : List StoreCall) : Store :=
  calls.foldl (fun store call => (store.issue call).2) store

variable {store : Store}

theorem issueAll_append (store : Store) (before after : List StoreCall) :
    store.issueAll (before ++ after) = (store.issueAll before).issueAll after :=
  List.foldl_append

theorem issue_accepts (accepts : ∀ asked call, store.refuses asked call = false) (call : StoreCall) :
    store.issue call = (.ok (), { store with
      medium := store.medium.apply call, log := call :: store.log, asked := call :: store.asked }) := by
  rw [issue, accepts, if_neg Bool.false_ne_true]
  rfl

theorem issueAll_refuses (calls : List StoreCall) : ∀ store : Store, (store.issueAll calls).refuses = store.refuses := by
  induction calls with
  | nil => exact fun store => rfl
  | cons call rest ih => exact fun store => (ih _).trans (issue_refuses store call)

-- A store that refuses nothing has done all it was asked.
theorem issueAll_accepts (calls : List StoreCall) : ∀ {store : Store},
    (∀ asked call, store.refuses asked call = false) → store.issueAll calls = { store with
      medium := store.medium.after calls.reverse, log := calls.reverse ++ store.log,
      asked := calls.reverse ++ store.asked } := by
  induction calls with
  | nil => exact fun _ => rfl
  | cons call rest ih =>
    intro store accepts
    have one := congrArg Prod.snd (issue_accepts accepts call)
    have later (asked : List StoreCall) (other : StoreCall) : (store.issue call).2.refuses asked other = false := by
      rw [issue_refuses]
      exact accepts asked other
    refine (ih later).trans ?_
    rw [one]
    simp [Medium.after]

end Store

namespace World

variable {world : World}

-- What the store has to be asked for a thing: nothing, if it lies there as it is.
def owed (world : World) (id : ThingId) : Option StoreCall :=
  match world.things[id]? with
  | some thing => if world.persisted[id]? = some thing.toBytes then none else some (.put id thing.toBytes)
  | none => if world.persisted.contains id then some (.delete id) else none

def demands (world : World) : List StoreCall :=
  let calls := world.dirty.toList.filterMap world.owed
  calls ++ (if world.infoDirty then [.putInfo world.info.toBytes] else []) ++ (if calls = [] then [] else [.flush])

theorem owed_congr {world' : World} {id : ThingId} (things : world'.things = world.things)
    (persisted : world'.persisted[id]? = world.persisted[id]?) : world'.owed id = world.owed id := by
  simp only [owed, things, persisted, Std.ExtTreeMap.contains_eq_isSome_getElem?]

-- Nothing is owed for a thing just when it is as it was last written.
theorem owed_none {id : ThingId} :
    world.owed id = none ↔ world.persisted[id]? = world.things[id]?.map Thing.toBytes := by
  rw [owed]
  cases world.things[id]? with
  | some thing => simp
  | none =>
    cases known : world.persisted[id]? <;> simp [Std.ExtTreeMap.contains_eq_isSome_getElem?, known,
      -Std.ExtTreeMap.isSome_getElem?_eq_contains]

-- A thing is put only as it is, and only if it does not lie there so.
theorem owed_put {id other : ThingId} {blob : Bytes} : world.owed id = some (.put other blob) ↔
    id = other ∧ world.things[id]?.map Thing.toBytes = some blob ∧ world.persisted[id]? ≠ some blob := by
  rw [owed]
  cases found : world.things[id]? with
  | none =>
    dsimp only
    split <;> simp
  | some thing =>
    dsimp only
    split
    · rename_i known
      simp only [reduceCtorEq, Option.map_some, Option.some.injEq, false_iff, not_and, not_not]
      rintro - rfl
      exact known
    · rename_i unknown
      simp only [Option.some.injEq, StoreCall.put.injEq, Option.map_some]
      constructor
      · rintro ⟨rfl, rfl⟩
        exact ⟨rfl, rfl, unknown⟩
      · rintro ⟨rfl, rfl, _⟩
        exact ⟨rfl, rfl⟩

theorem nodup_dirty (dirty : IdSet) : dirty.toList.Nodup := by
  refine Std.ExtTreeSet.distinct_toList.imp ?_
  exact fun differs same => differs (Std.compare_eq_iff_eq.mpr same)

-- A thing that was touched is put once if it does not lie there as it is, and nothing else is ever put.
theorem count_demands (world : World) (id : ThingId) (blob : Bytes) : world.demands.count (.put id blob) =
    if id ∈ world.dirty ∧ world.things[id]?.map Thing.toBytes = some blob ∧ world.persisted[id]? ≠ some blob
      then 1 else 0 := by
  have owes (other : ThingId) : (world.owed other == some (.put id blob)) = (other == id && decide
      (world.things[id]?.map Thing.toBytes = some blob ∧ world.persisted[id]? ≠ some blob)) := by
    rw [Bool.eq_iff_iff, beq_iff_eq, owed_put, Bool.and_eq_true, beq_iff_eq, decide_eq_true_iff]
    exact ⟨fun ⟨same, put⟩ => ⟨same, same ▸ put⟩, fun ⟨same, put⟩ => ⟨same, same ▸ put⟩⟩
  have things : (world.dirty.toList.filterMap world.owed).count (.put id blob) =
      if id ∈ world.dirty ∧ world.things[id]?.map Thing.toBytes = some blob ∧ world.persisted[id]? ≠ some blob
        then 1 else 0 := by
    rw [List.count_filterMap, List.countP_congr fun other _ => by rw [owes other]]
    by_cases put : world.things[id]?.map Thing.toBytes = some blob ∧ world.persisted[id]? ≠ some blob
    · simp only [decide_eq_true put, Bool.and_true]
      rw [← List.count, (nodup_dirty world.dirty).count]
      simp only [Std.ExtTreeSet.mem_toList, and_iff_left put]
    · rw [decide_eq_false put, if_neg fun both => put both.2]
      simp
  have info : (if world.infoDirty then [StoreCall.putInfo world.info.toBytes] else []).count (.put id blob) = 0 := by
    split <;> simp
  have flush (calls : List StoreCall) : (if calls = [] then [] else [StoreCall.flush]).count (.put id blob) = 0 := by
    split <;> simp
  rw [demands, List.count_append, List.count_append, info, flush, things]
  omega

section Remembering

theorem persistAll_remembers (ids : List ThingId) : ∀ (stats : CommitStats) (world : World) (id : ThingId),
    (id ∉ ids → ((persistAll stats ids).run world).2.persisted[id]? = world.persisted[id]? ∧
      ((persistAll stats ids).run world).2.store.get? id = world.store.get? id) ∧
      ∀ outcome, ((persistAll stats ids).run world).1 = .ok outcome → id ∈ ids →
        ((persistAll stats ids).run world).2.persisted[id]? = world.things[id]?.map Thing.toBytes := by
  induction ids with
  | nil => exact fun stats world id => ⟨fun _ => ⟨rfl, rfl⟩, fun _ _ member => absurd member List.not_mem_nil⟩
  | cons first rest ih =>
    intro stats world id
    obtain ⟨persisted, store, same, apart, done⟩ := persist_shape first world
    rw [persistAll, Act.run_bind, Act.run_observe]
    cases outcome : ((persist first).run world).1 with
    | ok counted =>
      dsimp only
      rw [same]
      obtain ⟨others, listed⟩ := ih (stats.count counted) { world with persisted := persisted, store := store } id
      refine ⟨?_, ?_⟩
      · intro unlisted
        obtain ⟨differs, unlisted⟩ := not_or.mp (List.mem_cons.not.mp unlisted)
        exact ⟨(others unlisted).1.trans (apart id differs).1, (others unlisted).2.trans (apart id differs).2⟩
      · intro last ended member
        by_cases again : id ∈ rest
        · exact listed last ended again
        · obtain rfl := (List.mem_cons.mp member).resolve_right again
          exact (others again).1.trans (done counted outcome)
    | error failure =>
      dsimp only
      rw [same, Act.run_bind, Act.run_modify, touchAll_same]
      refine ⟨fun unlisted => apart id fun named => unlisted (List.mem_cons.mpr (.inl named)), ?_⟩
      intro outcome ended
      cases ended

theorem commit_remembers (id : ThingId) :
    (id ∉ world.dirty → ((commit true).run world).2.persisted[id]? = world.persisted[id]? ∧
      ((commit true).run world).2.store.get? id = world.store.get? id) ∧
      ∀ stats, ((commit true).run world).1 = .ok stats → id ∈ world.dirty →
        ((commit true).run world).2.persisted[id]? = world.things[id]?.map Thing.toBytes := by
  obtain ⟨index, caught⟩ := catchUp_same world
  obtain ⟨infoDirty, store, same, got, done⟩ := writeBack_shape world.dirty.toList world.catchUp
  obtain ⟨others, listed⟩ := persistAll_remembers world.dirty.toList .zero world.catchUp id
  rw [run_commit, if_pos rfl, same]
  rw [caught] at others listed done got ⊢
  refine ⟨?_, ?_⟩
  · intro untouched
    obtain ⟨persisted, lies⟩ := others fun member => untouched (Std.ExtTreeSet.mem_toList.mp member)
    exact ⟨persisted, (got id).trans lies⟩
  · intro stats ended touched
    obtain ⟨⟨counted, all⟩, _⟩ := done stats ended
    exact listed counted all (Std.ExtTreeSet.mem_toList.mpr touched)

end Remembering

section Accepting

theorem issueAll_accepting (accepts : ∀ asked call, world.store.refuses asked call = false) (calls : List StoreCall)
    (asked : List StoreCall) (call : StoreCall) : (world.store.issueAll calls).refuses asked call = false := by
  rw [Store.issueAll_refuses]
  exact accepts asked call

theorem persist_accepted (accepts : ∀ asked call, world.store.refuses asked call = false) (id : ThingId) :
    ((persist id).run world).2.store = world.store.issueAll (world.owed id).toList ∧
      ∃ outcome, ((persist id).run world).1 = .ok outcome ∧
        ∀ stats : CommitStats, (stats.count outcome).changes = stats.changes + (world.owed id).toList.length := by
  rw [run_persist, owed]
  cases found : world.things[id]? with
  | none =>
    dsimp only
    rw [run_persistMissing]
    split
    · refine ⟨rfl, .deleted, ?_, fun stats => ?_⟩
      · rw [accepted_of_accepts accepts]
        rfl
      · simp only [CommitStats.count, CommitStats.changes, Option.toList_some, List.length_singleton]
        omega
    · exact ⟨rfl, .unchanged, rfl, fun stats => rfl⟩
  | some thing =>
    dsimp only
    rw [run_persistPresent, accepted_of_accepts accepts]
    split
    · exact ⟨rfl, .unchanged, rfl, fun stats => rfl⟩
    · refine ⟨rfl, .written, rfl, fun stats => ?_⟩
      simp only [CommitStats.count, CommitStats.changes, Option.toList_some, List.length_singleton]
      omega

theorem persistAll_accepted (ids : List ThingId) : ∀ (stats : CommitStats) {world : World}, ids.Nodup →
    (∀ asked call, world.store.refuses asked call = false) →
      ((persistAll stats ids).run world).2.store = world.store.issueAll (ids.filterMap world.owed) ∧
        ∃ outcome, ((persistAll stats ids).run world).1 = .ok outcome ∧
          outcome.changes = stats.changes + (ids.filterMap world.owed).length := by
  induction ids with
  | nil => exact fun stats world _ _ => ⟨rfl, stats, rfl, rfl⟩
  | cons id rest ih =>
    intro stats world nodup accepts
    obtain ⟨unlisted, nodup⟩ := List.nodup_cons.mp nodup
    obtain ⟨asked, counted, ended, counts⟩ := persist_accepted accepts id
    obtain ⟨persisted, store, same, apart, _⟩ := persist_shape id world
    have shelf : store = world.store.issueAll (world.owed id).toList := by rw [← asked, same]
    subst shelf
    -- What is owed for the others is as before, since only this thing's memory has changed.
    have others : rest.filterMap ({ world with
        persisted := persisted, store := world.store.issueAll (world.owed id).toList } : World).owed =
          rest.filterMap world.owed := by
      refine List.filterMap_congr fun other member => owed_congr rfl (apart other ?_).1
      rintro rfl
      exact unlisted member
    have calls : (id :: rest).filterMap world.owed = (world.owed id).toList ++ rest.filterMap world.owed := by
      cases owes : world.owed id <;> simp [owes]
    rw [persistAll, Act.run_bind, Act.run_observe, ended]
    dsimp only
    rw [same, calls, Store.issueAll_append, List.length_append]
    obtain ⟨asked', outcome, ended', counts'⟩ := @ih (stats.count counted) { world with
      persisted := persisted, store := world.store.issueAll (world.owed id).toList } nodup
        (issueAll_accepting accepts _)
    rw [others] at asked' counts'
    refine ⟨asked', outcome, ended', ?_⟩
    rw [counts', counts]
    omega

theorem persistInfo_accepted (accepts : ∀ asked call, world.store.refuses asked call = false) :
    persistInfo.run world = (.ok (), { world with
      infoDirty := false, store := world.store.issueAll (if world.infoDirty then [.putInfo world.info.toBytes] else []) }) := by
  rw [run_persistInfo, accepted_of_accepts accepts]
  cases noted : world.infoDirty with
  | true => rfl
  | false =>
    rw [if_neg Bool.false_ne_true, if_neg Bool.false_ne_true, ← noted]
    rfl

theorem writeBack_accepted {ids : List ThingId} (nodup : ids.Nodup)
    (accepts : ∀ asked call, world.store.refuses asked call = false) :
    (∃ stats, ((writeBack ids).run world).1 = .ok stats ∧ stats.changes = (ids.filterMap world.owed).length) ∧
      ((writeBack ids).run world).2.store = world.store.issueAll (ids.filterMap world.owed ++
        (if world.infoDirty then [.putInfo world.info.toBytes] else []) ++
          (if ids.filterMap world.owed = [] then [] else [.flush])) := by
  obtain ⟨asked, stats, ended, counts⟩ := persistAll_accepted ids .zero nodup accepts
  obtain ⟨persisted, dirty, store, shape, _⟩ := persistAll_shape ids .zero world
  have shelf : store = world.store.issueAll (ids.filterMap world.owed) := by rw [← asked, shape]
  subst shelf
  have counts : stats.changes = (ids.filterMap world.owed).length := by
    rw [counts]
    exact Nat.zero_add _
  have wrote : stats.written + stats.deleted > 0 ↔ ids.filterMap world.owed ≠ [] := by
    rw [← List.length_pos_iff, ← counts]
    rfl
  rw [writeBack, Act.run_bind, show (persistAll .zero ids).run world = (.ok stats, _) from Prod.ext ended shape]
  dsimp only
  rw [Act.run_bind, persistInfo_accepted (issueAll_accepting accepts _)]
  dsimp only
  rw [← Store.issueAll_append, Store.issueAll_append _ (_ ++ _)]
  by_cases nothing : ids.filterMap world.owed = []
  · rw [if_neg (wrote.not.mpr (not_not.mpr nothing)), if_pos nothing]
    exact ⟨⟨stats, rfl, counts⟩, rfl⟩
  · rw [if_pos (wrote.mpr nothing), if_neg nothing, Act.run_bind, run_issue,
      accepted_of_accepts (issueAll_accepting accepts _)]
    exact ⟨⟨stats, rfl, counts⟩, rfl⟩

theorem commit_counted (accepts : ∀ asked call, world.store.refuses asked call = false) :
    (∃ stats, ((commit true).run world).1 = .ok stats ∧
      stats.changes = (world.dirty.toList.filterMap world.owed).length) ∧
      ((commit true).run world).2.store = world.store.issueAll world.demands := by
  obtain ⟨index, caught⟩ := catchUp_same world
  rw [run_commit, if_pos rfl, caught]
  exact writeBack_accepted (nodup_dirty world.dirty) accepts

-- A store that refuses nothing lets every commit end well.
theorem commit_accepted (accepts : ∀ asked call, world.store.refuses asked call = false) :
    (∃ stats, ((commit true).run world).1 = .ok stats) ∧
      ((commit true).run world).2.store = world.store.issueAll world.demands := by
  obtain ⟨⟨stats, ended, _⟩, asked⟩ := commit_counted accepts
  exact ⟨⟨stats, ended⟩, asked⟩

end Accepting

end World
end ThingWorld
