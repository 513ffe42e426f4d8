import ThingWorld.Proofs.Course.Raising
import ThingWorld.Proofs.Store.Reload
import ThingWorld.Proofs.Upkeep.Backing
namespace ThingWorld

namespace World

variable {store : Store} {options : Options} {world : World}

-- Whether a world can be opened and passes a check.
def opensTo (store : Store) (options : Options) (check : World → Bool) : Bool :=
  (openOn store options).toOption.any check

theorem opensTo_iff {check : World → Bool} :
    opensTo store options check = true ↔ ∃ world, openOn store options = .ok world ∧ check world = true := by
  rw [opensTo]
  cases openOn store options with
  | ok world => simp [Except.toOption]
  | error failure => simp [Except.toOption]

theorem sound_of_backed (backed : world.Backed) (recorded : world.Recorded) (written : world.infoDirty = false) :
    world.store.Sound world.info :=
  ⟨backed.owned, recorded written⟩

section Seeded

-- How the planting of a world went: within a scope, and then all was written.
structure Planted (store : Store) (options : Options) (mid world : World) : Prop where
  founded : mid.Founded
  noted : mid.infoDirty = true
  below : mid.Below
  deeds : ∃ moments, mid = (Moment.opened.perform (blank store options)).replay moments ∧
    (Moment.opened.perform (blank store options)).Permits moments ∧ ∀ moment ∈ moments, ∃ deed, moment = .did deed
  written : ∃ stats, (commit true).run { mid with inScope := false } = (.ok stats, world)

theorem seed_ran (fresh : store.info = none) (opened : openOn store options = .ok world) :
    seed.run (blank store options) = (.ok (), world) := by
  rw [openOn, fresh] at opened
  dsimp only at opened
  cases ran : seed.run (blank store options) with
  | mk result last =>
    rw [ran] at opened
    cases result with
    | error failure => cases opened
    | ok =>
      cases opened
      rfl

theorem below_blank : (Moment.opened.perform (blank store options)).Below := by
  intro id held
  have held : (∅ : Std.ExtTreeMap ThingId Thing).contains id = true := held
  simp at held

theorem below_plantAll {last : World} (ran : plantAll.run (Moment.opened.perform (blank store options)) = (.ok (), last)) :
    last.Below := by
  have left : (Moment.opened.perform (blank store options)).Affords 7 :=
    (by decide : (0 : ThingId).toNat + 7 < Text.wordSize)
  have raised := builds_plantAll (Moment.opened.perform (blank store options)) (UInt64.le_refl _) left
  rw [ran] at raised
  intro id held
  rcases raised.came id held with before | handed
  · exact UInt64.lt_of_lt_of_le (below_blank id before) raised.climbs
  · exact handed

theorem planted_of_seed (fresh : store.info = none) (opened : openOn store options = .ok world) :
    ∃ mid, Planted store options mid world := by
  have ran := seed_ran fresh opened
  obtain ⟨mid, stats, ran, written⟩ := scope_kept rfl ran
  obtain ⟨founded, noted⟩ := founded_plantAll ran
  have charted := charted_plantAll (Law.suffers_of_grants (Law.grants_free _)) (Moment.opened.perform (blank store options))
  obtain ⟨moments, unfolds, _⟩ := charted _ _ (congrArg some ran)
  obtain ⟨same, permitted, _⟩ := unfolds_replay unfolds
  have deeds := unfolds_inside unfolds rfl
  exact ⟨mid, founded, noted, below_plantAll ran, ⟨moments, same, permitted, deeds⟩, stats, written⟩

variable {mid : World}

theorem planted_last (planted : Planted store options mid world) :
    ((commit true).run { mid with inScope := false }).2 = world := by
  obtain ⟨stats, written⟩ := planted.written
  rw [written]

theorem planted_info (planted : Planted store options mid world) : world.info = mid.info := by
  rw [← planted_last planted]
  exact commit_info true _

theorem tracked_blank : (Moment.opened.perform (blank store options)).Tracked [] := by
  refine ⟨?_, ?_, fun id member => nomatch member⟩
  · intro id thing found
    have found : (∅ : Std.ExtTreeMap ThingId Thing)[id]? = some thing := found
    simp at found
  · refine ⟨Index.stateAmong ∅, ?_, fun id _ => rfl⟩
    exact cast (congrArg (Index.Reflects .empty) (funext fun id => by simp [Index.stateAmong])) Index.reflects_empty

theorem tracked_planted (planted : Planted store options mid world) :
    ∃ pending, ({ mid with inScope := false } : World).Tracked pending := by
  obtain ⟨moments, same, permitted, _⟩ := planted.deeds
  have kept := tracked_replay tracked_blank permitted
  rw [← same] at kept
  exact ⟨_, tracked_congr kept rfl rfl rfl⟩

theorem tracked_seeded (planted : Planted store options mid world) :
    world.Tracked [] ∧ world.Founded ∧ world.Recorded := by
  obtain ⟨pending, kept⟩ := tracked_planted planted
  refine ⟨?_, ?_, ?_⟩
  · rw [← planted_last planted]
    exact tracked_commit true kept
  · rw [← planted_last planted]
    exact founded_congr planted.founded (commit_things true _) (commit_info true _)
  · have unwritten : ({ mid with inScope := false } : World).Recorded := by
      intro unnoted
      have noted := planted.noted
      rw [show mid.infoDirty = false from unnoted] at noted
      cases noted
    rw [← planted_last planted]
    exact recorded_commit unwritten true

theorem outside_seeded (planted : Planted store options mid world) : world.inScope = false := by
  rw [← planted_last planted]
  exact commit_inScope true _

theorem registry_seeded (planted : Planted store options mid world) : world.registry = .standard := by
  obtain ⟨moments, same, _⟩ := planted.deeds
  rw [← planted_last planted, commit_registry]
  show mid.registry = .standard
  rw [same, replay_registry]
  rfl

-- Until the planting ends nothing is written and nothing is known to be.
theorem planted_shelf (planted : Planted store options mid world) : mid.store = store ∧ mid.persisted = ∅ := by
  obtain ⟨moments, same, permitted, inside⟩ := planted.deeds
  obtain ⟨known, shelf⟩ := quiet_shelf (quiet_inside rfl permitted inside) (Moment.opened.perform (blank store options))
  rw [same]
  exact ⟨shelf, known⟩

theorem backed_seeded (owns : store.Owns) (planted : Planted store options mid world) : world.Backed := by
  obtain ⟨pending, tracked⟩ := tracked_planted planted
  obtain ⟨shelf, known⟩ := planted_shelf planted
  have backed : ({ mid with inScope := false } : World).Backed := by
    refine ⟨?_, ?_⟩
    · show mid.store.Owns
      rwa [shelf]
    · intro id blob found
      have found : mid.persisted[id]? = some blob := found
      rw [known] at found
      simp at found
  rw [← planted_last planted]
  exact backed_commit backed tracked.keyed true

theorem ahead_seeded (under : store.Under world.info.nextId) (planted : Planted store options mid world) :
    world.Ahead := by
  have ahead : ({ mid with inScope := false } : World).Ahead := by
    refine ⟨below_congr planted.below rfl rfl, ?_⟩
    show mid.store.Under mid.info.nextId
    rwa [(planted_shelf planted).1, ← planted_info planted]
  rw [← planted_last planted]
  exact ahead_commit ahead true

theorem faithful_seeded (planted : Planted store options mid world) :
    world.Faithful ∧ world.dirty = ∅ ∧ world.infoDirty = false := by
  obtain ⟨moments, same, permitted, inside⟩ := planted.deeds
  obtain ⟨stats, written⟩ := planted.written
  have faithful : mid.Faithful := by
    rw [same]
    refine replay_keeps (P := Faithful) ?_ (fun id _ => rfl) (heeds_of_forall inside _)
    rintro world moment faithful ⟨deed, rfl⟩
    exact faithful_moment faithful _ fun ended => nomatch ended
  have closed : ({ mid with inScope := false } : World).Faithful := faithful
  have ended : ((commit true).run { mid with inScope := false }).1 = .ok stats := by rw [written]
  rw [← planted_last planted]
  exact ⟨faithful_commit closed, commit_completed ended⟩

theorem mirrored_seeded (accepts : ∀ asked call, store.refuses asked call = false) (empty : store.Empty)
    (planted : Planted store options mid world) : world.Mirrored := by
  obtain ⟨shelf, known⟩ := planted_shelf planted
  have mirrored : ({ mid with inScope := false } : World).Mirrored := by
    refine ⟨?_, ?_⟩
    · rw [shelf]
      exact accepts
    · intro id
      rw [shelf, known, empty.2 id]
      rfl
  rw [← planted_last planted]
  exact mirrored_commit mirrored true

end Seeded

-- Where nothing is touched, all that is there lies in the store.
theorem stored_of_faithful (backed : world.Backed) (faithful : world.Faithful) (written : world.dirty = ∅) {id : ThingId}
    (held : world.contains id = true) : world.Stored id := by
  refine ⟨held, ?_⟩
  obtain ⟨thing, found⟩ := some_of_contains held
  refine ⟨thing.toBytes, backed.kept id _ ?_⟩
  have clean : id ∉ world.dirty := by
    rw [written]
    exact Std.ExtTreeSet.not_mem_empty
  rw [faithful id clean, found]
  rfl

theorem tracked_reloaded {info : Info} (sound : store.Sound info) (fits : info.Fits)
    (opened : openOn store options = .ok world) :
    world.info = info ∧ world.Tracked [] ∧ world.Backed ∧ world.Recorded ∧
      (store.Under info.nextId → world.Ahead) ∧ ∀ id blob, store.get? id = some blob → world.Stored id := by
  have loaded := reloaded sound.recorded opened
  have info' : world.info = info := by
    obtain ⟨bytes, recorded, read⟩ := loaded.info
    obtain rfl := Option.some.inj (recorded.symm.trans sound.recorded)
    exact Info.eq_of_ofBytes fits read
  have origin (id : ThingId) (thing : Thing) (found : world.things[id]? = some thing) :
      thing.id = id ∧ ∃ blob, store.get? id = some blob := by
    rw [loaded.things] at found
    obtain ⟨blob, lies, read⟩ := Option.bind_eq_some_iff.mp found
    obtain ⟨own, named, rfl⟩ := sound.owned id blob lies
    refine ⟨?_, _, lies⟩
    obtain ⟨other, read'⟩ := loaded.readable id _ lies
    rw [read'] at read
    cases read
    exact (Thing.ofBytes_id read').trans named
  have keyed : Index.Keyed world.things := fun id thing found => (origin id thing found).1
  have held (id : ThingId) (blob : Bytes) (lies : store.get? id = some blob) : world.contains id = true := by
    obtain ⟨thing, read⟩ := loaded.readable id blob lies
    have found : world.things[id]? = some thing := by
      rw [loaded.things, lies, Option.bind_some, read]
      rfl
    exact contains_of_some found
  refine ⟨info', tracked_rebuilt keyed loaded.index, ⟨?_, ?_⟩, ?_, ?_, ?_⟩
  · rw [loaded.store]
    exact sound.owned
  · intro id blob known
    rw [loaded.store]
    exact (loaded.persisted id).symm.trans known
  · intro _
    rw [loaded.store, info']
    exact sound.recorded
  · intro under
    refine ⟨?_, ?_⟩
    · intro id present
      obtain ⟨thing, found⟩ := some_of_contains present
      obtain ⟨_, blob, lies⟩ := origin id thing found
      rw [info']
      exact under id blob lies
    · rwa [loaded.store, info']
  · intro id blob lies
    refine ⟨held id blob lies, blob, ?_⟩
    rw [loaded.store]
    exact lies

end World
end ThingWorld
