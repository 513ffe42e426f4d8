import Mathlib.Logic.Relation
import ThingWorld.Proofs.Course.Steps
namespace ThingWorld.World

-- One write of a commit.
inductive Wrote (world : World) : World → Prop where
  -- Forgotten and, unless the store refuses, deleted.
  | deleted {id : ThingId} (absent : world.things[id]? = none) (known : world.persisted.contains id = true) :
      Wrote world { world with
        persisted := world.persisted.erase id, store := (world.store.issue (.delete id)).2 }
  | put {id : ThingId} {thing : Thing} (present : world.things[id]? = some thing)
      (accepted : (world.store.issue (.put id thing.toBytes)).1 = .ok ()) :
      Wrote world { world with
        persisted := world.persisted.insert id thing.toBytes, store := (world.store.issue (.put id thing.toBytes)).2 }
  | recorded (accepted : (world.store.issue (.putInfo world.info.toBytes)).1 = .ok ()) :
      Wrote world { world with infoDirty := false, store := (world.store.issue (.putInfo world.info.toBytes)).2 }
  -- A call that changes nothing on the medium: a flush, or whatever but a deletion was refused.
  | asked {call : StoreCall} (unheard : (world.store.issue call).2.medium = world.store.medium)
      (idle : call = .flush ∨ (world.store.issue call).1 = .error Store.refusal ∧ ∀ id, call ≠ .delete id) :
      Wrote world { world with store := (world.store.issue call).2 }
  -- After a refusal the thing and all later ones wait for the next commit.
  | returned (ids : List ThingId) : Wrote world { world with dirty := ids.foldl .insert world.dirty }

abbrev Writing : World → World → Prop := Relation.ReflTransGen Wrote

-- All that writing to the store may change.
def Backstage (world world' : World) : Prop :=
  ∃ persisted dirty infoDirty store, world' =
    { world with persisted := persisted, dirty := dirty, infoDirty := infoDirty, store := store }

theorem backstage_writing {world world' : World} (writing : Writing world world') : Backstage world world' := by
  induction writing with
  | refl => exact ⟨_, _, _, _, rfl⟩
  | tail _ wrote ih =>
    obtain ⟨_, _, _, _, rfl⟩ := ih
    cases wrote <;> exact ⟨_, _, _, _, rfl⟩

theorem touchAll_same (ids : List ThingId) : ∀ world : World,
    ids.foldl touch world = { world with dirty := ids.foldl .insert world.dirty } := by
  induction ids with
  | nil => exact fun world => rfl
  | cons id rest ih => exact fun world => ih (world.touch id)

theorem run_issue (call : StoreCall) (world : World) :
    (issue call).run world = ((world.store.issue call).1, { world with store := (world.store.issue call).2 }) := rfl

theorem issue_refused {store : Store} {call : StoreCall} {failure : Failure}
    (refused : (store.issue call).1 = .error failure) :
    failure = Store.refusal ∧ (store.issue call).2.medium = store.medium := by
  rw [Store.issue] at refused ⊢
  split
  · rename_i refuses
    rw [if_pos refuses] at refused
    exact ⟨(Except.error.inj refused).symm, rfl⟩
  · rename_i accepted
    rw [if_neg accepted] at refused
    cases refused

-- A call other than a deletion that was refused.
theorem wrote_refused {world : World} {call : StoreCall} {failure : Failure}
    (refused : (world.store.issue call).1 = .error failure) (undeleted : ∀ id, call ≠ .delete id) :
    Wrote world { world with store := (world.store.issue call).2 } := by
  obtain ⟨rfl, unheard⟩ := issue_refused refused
  exact .asked unheard (.inr ⟨refused, undeleted⟩)

def Writes {α : Type} (act : Act α) : Prop :=
  ∀ world, Writing world (act.run world).2

section

variable {α β : Type}

theorem writes_bind {x : Act α} {f : α → Act β} (first : Writes x) (rest : ∀ a, Writes (f a)) : Writes (x >>= f) := by
  intro world
  have one := first world
  rw [Act.run_bind]
  cases ran : x.run world with
  | mk result mid =>
    rw [ran] at one
    cases result with
    | ok a => exact one.trans (rest a mid)
    | error failure => exact one

theorem writes_pure (a : α) : Writes (pure a) := fun _ => .refl

theorem writes_throw (failure : Failure) : Writes (throw failure : Act α) := fun _ => .refl

theorem writes_observe {act : Act α} (writes : Writes act) : Writes act.observe := writes

end

theorem run_persistMissing (id : ThingId) (world : World) :
    (persistMissing id).run world =
      if world.persisted.contains id then
        ((world.store.issue (.delete id)).1.map fun _ => .deleted,
          { world with persisted := world.persisted.erase id, store := (world.store.issue (.delete id)).2 })
      else (.ok .unchanged, world) := by
  rw [persistMissing, Act.run_bind, Act.run_get]
  dsimp only
  split
  · rw [Act.run_bind, Act.run_modify]
    dsimp only
    rw [Act.run_bind, run_issue]
    dsimp only
    cases (world.store.issue (.delete id)).1 <;> rfl
  · rfl

theorem run_persistPresent (id : ThingId) (thing : Thing) (world : World) :
    (persistPresent id thing).run world =
      if world.persisted[id]? = some thing.toBytes then (.ok .unchanged, world)
      else match (world.store.issue (.put id thing.toBytes)).1 with
        | .ok () => (.ok .written, { world with
            persisted := world.persisted.insert id thing.toBytes,
            store := (world.store.issue (.put id thing.toBytes)).2 })
        | .error failure => (.error failure, { world with store := (world.store.issue (.put id thing.toBytes)).2 }) := by
  rw [persistPresent, Act.run_bind, Act.run_get]
  dsimp only
  split
  · rfl
  · rw [Act.run_bind, run_issue]
    cases (world.store.issue (.put id thing.toBytes)).1 <;> rfl

theorem run_persist (id : ThingId) (world : World) :
    (persist id).run world =
      match world.things[id]? with
      | none => (persistMissing id).run world
      | some thing => (persistPresent id thing).run world := by
  rw [persist, Act.run_bind, Act.run_get]
  dsimp only
  cases world.things[id]? <;> rfl

theorem run_persistInfo (world : World) :
    persistInfo.run world =
      if world.infoDirty then
        match (world.store.issue (.putInfo world.info.toBytes)).1 with
        | .ok () => (.ok (), { world with
            infoDirty := false, store := (world.store.issue (.putInfo world.info.toBytes)).2 })
        | .error failure => (.error failure, { world with store := (world.store.issue (.putInfo world.info.toBytes)).2 })
      else (.ok (), world) := by
  rw [persistInfo, Act.run_bind, Act.run_get]
  dsimp only
  split
  · rw [Act.run_bind, run_issue]
    cases (world.store.issue (.putInfo world.info.toBytes)).1 <;> rfl
  · rfl

theorem writes_persist (id : ThingId) : Writes (persist id) := by
  intro world
  rw [run_persist]
  cases found : world.things[id]? with
  | none =>
    dsimp only
    rw [run_persistMissing]
    split
    · rename_i known
      exact .single (.deleted found known)
    · exact .refl
  | some thing =>
    dsimp only
    rw [run_persistPresent]
    split
    · exact .refl
    · cases asked : (world.store.issue (.put id thing.toBytes)).1 with
      | ok => exact .single (.put found asked)
      | error failure => exact .single (wrote_refused asked fun _ => StoreCall.noConfusion)

theorem writes_persistAll (ids : List ThingId) : ∀ stats, Writes (persistAll stats ids) := by
  induction ids with
  | nil => exact fun stats => writes_pure stats
  | cons id rest ih =>
    intro stats
    refine writes_bind (writes_observe (writes_persist id)) ?_
    intro outcome
    cases outcome with
    | ok outcome => exact ih (stats.count outcome)
    | error failure =>
      refine writes_bind ?_ fun _ => writes_throw failure
      intro world
      rw [Act.run_modify, touchAll_same]
      exact .single (.returned (id :: rest))

theorem writes_persistInfo : Writes persistInfo := by
  intro world
  rw [run_persistInfo]
  split
  · cases asked : (world.store.issue (.putInfo world.info.toBytes)).1 with
    | ok => exact .single (.recorded asked)
    | error failure => exact .single (wrote_refused asked fun _ => StoreCall.noConfusion)
  · exact .refl

theorem medium_flush (store : Store) : (store.issue .flush).2.medium = store.medium := by
  rw [Store.issue]
  split
  · rfl
  · show store.medium.apply .flush = store.medium
    cases store.medium <;> rfl

theorem writes_flush : Writes (issue .flush) :=
  fun world => .single (.asked (medium_flush world.store) (.inl rfl))

theorem writes_writeBack (dirty : List ThingId) : Writes (writeBack dirty) := by
  refine writes_bind (writes_persistAll dirty _) ?_
  intro stats
  refine writes_bind writes_persistInfo ?_
  intro _
  split
  · exact writes_bind writes_flush fun _ => writes_pure stats
  · exact writes_pure stats

theorem reindex_same (world : World) (id : ThingId) : ∃ index, world.reindex id = { world with index := index } := by
  rw [reindex]
  split <;> exact ⟨_, rfl⟩

theorem reindex_things (world : World) (id : ThingId) : (world.reindex id).things = world.things := by
  obtain ⟨index, same⟩ := reindex_same world id
  rw [same]

theorem reindex_info (world : World) (id : ThingId) : (world.reindex id).info = world.info := by
  obtain ⟨index, same⟩ := reindex_same world id
  rw [same]

theorem reindex_dirty (world : World) (id : ThingId) : (world.reindex id).dirty = world.dirty := by
  obtain ⟨index, same⟩ := reindex_same world id
  rw [same]

theorem reindexAll_same (ids : List ThingId) : ∀ world : World,
    ∃ index, ids.foldl reindex world = { world with index := index } := by
  induction ids with
  | nil => exact fun world => ⟨world.index, rfl⟩
  | cons id rest ih =>
    intro world
    obtain ⟨index, same⟩ := reindex_same world id
    obtain ⟨index', same'⟩ := ih (world.reindex id)
    exact ⟨index', by rw [List.foldl_cons, same', same]⟩

-- The index catches up with all that was touched.
def catchUp (world : World) : World :=
  world.dirty.toList.foldl reindex { world with dirty := ∅ }

theorem catchUp_same (world : World) : ∃ index, world.catchUp = { world with index := index, dirty := ∅ } := by
  obtain ⟨index, caught⟩ := reindexAll_same world.dirty.toList { world with dirty := ∅ }
  exact ⟨index, caught⟩

theorem run_commit (keep : Bool) (world : World) :
    (commit keep).run world =
      if keep then (writeBack world.dirty.toList).run world.catchUp
      else (.ok { CommitStats.zero with skipped := world.dirty.toList.length }, world.catchUp) := by
  cases keep <;> rfl

theorem writing_commit (keep : Bool) (world : World) : Writing world.catchUp ((commit keep).run world).2 := by
  rw [run_commit]
  cases keep with
  | true => exact writes_writeBack _ _
  | false => exact .refl

-- What holds once the index has caught up, and writing keeps, the commit keeps.
theorem commit_keeps {P : World → Prop} {world : World} (writes : ∀ {mid last}, P mid → Writing mid last → P last)
    (caught : ∀ index, P { world with index := index, dirty := ∅ }) (keep : Bool) : P ((commit keep).run world).2 := by
  obtain ⟨index, same⟩ := catchUp_same world
  have start := caught index
  rw [← same] at start
  exact writes start (writing_commit keep world)

theorem run_flush {world : World} (outside : world.inScope = false) : flush.run world = (commit true).run world := by
  rw [flush, Act.run_bind, Act.run_get]
  dsimp only
  rw [outside, if_neg Bool.false_ne_true]

theorem commit_same (keep : Bool) (world : World) :
    ∃ index persisted dirty infoDirty store, ((commit keep).run world).2 =
      { world with index := index, persisted := persisted, dirty := dirty, infoDirty := infoDirty, store := store } := by
  obtain ⟨index, caught⟩ := catchUp_same world
  obtain ⟨persisted, dirty, infoDirty, store, same⟩ := backstage_writing (writing_commit keep world)
  refine ⟨index, persisted, dirty, infoDirty, store, ?_⟩
  rw [same, caught]

theorem commit_things (keep : Bool) (world : World) : ((commit keep).run world).2.things = world.things := by
  obtain ⟨_, _, _, _, _, same⟩ := commit_same keep world
  rw [same]

theorem commit_info (keep : Bool) (world : World) : ((commit keep).run world).2.info = world.info := by
  obtain ⟨_, _, _, _, _, same⟩ := commit_same keep world
  rw [same]

theorem commit_listeners (keep : Bool) (world : World) :
    ((commit keep).run world).2.listeners = world.listeners := by
  obtain ⟨_, _, _, _, _, same⟩ := commit_same keep world
  rw [same]

theorem commit_schedule (keep : Bool) (world : World) : ((commit keep).run world).2.schedule = world.schedule := by
  obtain ⟨_, _, _, _, _, same⟩ := commit_same keep world
  rw [same]

theorem commit_inScope (keep : Bool) (world : World) : ((commit keep).run world).2.inScope = world.inScope := by
  obtain ⟨_, _, _, _, _, same⟩ := commit_same keep world
  rw [same]

theorem commit_registry (keep : Bool) (world : World) : ((commit keep).run world).2.registry = world.registry := by
  obtain ⟨_, _, _, _, _, same⟩ := commit_same keep world
  rw [same]

-- Fails, if it fails, because the store refused a call.
def OnlyRefused {α : Type} (act : Act α) : Prop :=
  ∀ world failure, (act.run world).1 = .error failure → failure = Store.refusal

theorem refused_pure {α : Type} (a : α) : OnlyRefused (pure a) := fun _ _ failed => nomatch failed

theorem refused_bind {α β : Type} {x : Act α} {f : α → Act β} (first : OnlyRefused x) (rest : ∀ a, OnlyRefused (f a)) :
    OnlyRefused (x >>= f) := by
  intro world failure failed
  rw [Act.run_bind] at failed
  cases ran : x.run world with
  | mk result mid =>
    rw [ran] at failed
    cases result with
    | ok a => exact rest a mid failure failed
    | error other =>
      obtain rfl := Except.error.inj failed
      exact first world other (congrArg Prod.fst ran)

theorem refused_read {β : Type} {f : World → Act β} (rest : ∀ world, OnlyRefused (f world)) :
    OnlyRefused (get >>= f) :=
  refused_bind (fun _ _ failed => nomatch failed) rest

theorem refused_modify (f : World → World) : OnlyRefused (modify f : Act Unit) := fun _ _ failed => nomatch failed

theorem refused_issue (call : StoreCall) : OnlyRefused (issue call) :=
  fun _ _ failed => (issue_refused failed).1

theorem refused_persist (id : ThingId) : OnlyRefused (persist id) := by
  refine refused_read fun world => ?_
  split
  · refine refused_read fun world => ?_
    split
    · exact refused_bind (refused_modify _) fun _ => refused_bind (refused_issue _) fun _ => refused_pure _
    · exact refused_pure _
  · refine refused_read fun world => ?_
    split
    · exact refused_pure _
    · exact refused_bind (refused_issue _) fun _ => refused_bind (refused_modify _) fun _ => refused_pure _

theorem refused_persistAll (ids : List ThingId) : ∀ stats, OnlyRefused (persistAll stats ids) := by
  induction ids with
  | nil => exact fun stats => refused_pure stats
  | cons id rest ih =>
    intro stats world failure failed
    rw [persistAll, Act.run_bind, Act.run_observe] at failed
    cases ran : (persist id).run world with
    | mk result mid =>
      rw [ran] at failed
      cases result with
      | ok outcome => exact ih (stats.count outcome) mid failure failed
      | error other =>
        obtain rfl := Except.error.inj failed
        exact refused_persist id world other (congrArg Prod.fst ran)

theorem refused_persistInfo : OnlyRefused persistInfo := by
  refine refused_read fun world => ?_
  split
  · exact refused_bind (refused_issue _) fun _ => refused_modify _
  · exact refused_pure _

theorem refused_commit (keep : Bool) : OnlyRefused (commit keep) := by
  refine refused_bind (fun _ _ failed => nomatch failed) fun dirty => refused_bind (refused_modify _) fun _ => ?_
  split
  · refine refused_bind (refused_persistAll dirty _) fun stats => refused_bind refused_persistInfo fun _ => ?_
    split
    · exact refused_bind (refused_issue _) fun _ => refused_pure _
    · exact refused_pure _
  · exact refused_pure _

-- The end of a scope passes on what its body gave, unless the store refuses what is written.
theorem settle_gives {α : Type} (mid : World) (a : α) :
    (mid.settle (.ok a)).1 = .ok a ∨ (mid.settle (.ok a)).1 = .error Store.refusal := by
  rw [settle]
  cases ended : (commit true).run { mid with inScope := false } with
  | mk result last =>
    cases result with
    | ok stats => exact .inl rfl
    | error failure =>
      exact .inr (congrArg Except.error (refused_commit true _ failure (congrArg Prod.fst ended)))

end ThingWorld.World
