import ThingWorld.Proofs.Course.Public
import ThingWorld.Proofs.Store.Calls
import ThingWorld.Proofs.Upkeep.Opened
namespace ThingWorld

namespace World

-- Only what this library would read again.
structure Versed (world : World) : Prop where
  things : ∀ (id : ThingId) (thing : Thing), world.things[id]? = some thing → thing.schema = Thing.currentSchema
  info : world.info.schema = Info.currentSchema

-- The lengths of all texts and sequences fit where they are written.
structure Fits (world : World) : Prop where
  things : ∀ (id : ThingId) (thing : Thing), world.things[id]? = some thing → thing.Fits
  info : world.info.Fits

variable {world : World}

instance (world : World) : Decidable world.Fits :=
  decidable_of_iff ((∀ thing ∈ world.things.values, thing.Fits) ∧ world.info.Fits)
    ⟨fun ⟨things, info⟩ => ⟨fun id thing found => things thing ((Index.mem_values _ thing).mpr ⟨id, found⟩), info⟩,
      fun fits => ⟨fun thing member => by
        obtain ⟨id, found⟩ := (Index.mem_values _ thing).mp member
        exact fits.things id thing found, fits.info⟩⟩

theorem versed_congr {world' : World} (versed : world.Versed) (things : world'.things = world.things)
    (info : world'.info.schema = world.info.schema) : world'.Versed := by
  refine ⟨?_, info.trans versed.info⟩
  rw [things]
  exact versed.things

theorem versed_insert {things : Std.ExtTreeMap ThingId Thing} {id : ThingId} {thing : Thing}
    (versed : ∀ (other : ThingId) (held : Thing), things[other]? = some held → held.schema = Thing.currentSchema)
    (same : thing.schema = Thing.currentSchema) :
    ∀ (other : ThingId) (held : Thing), (things.insert id thing)[other]? = some held →
      held.schema = Thing.currentSchema := by
  intro other held found
  rw [Std.ExtTreeMap.getElem?_insert] at found
  split at found
  · cases found
    exact same
  · exact versed other held found

theorem versed_retouch (versed : world.Versed) (id : ThingId) {f : Thing → Thing}
    (keeps : ∀ thing, (f thing).schema = thing.schema) : (world.retouch id f).Versed := by
  refine ⟨?_, ?_⟩
  · rw [retouch]
    cases found : world.things[id]? with
    | none => exact versed.things
    | some thing => exact versed_insert versed.things ((keeps thing).trans (versed.things id thing found))
  · rw [retouch_info]
    exact versed.info

theorem versed_reindex (versed : world.Versed) (id : ThingId) : (world.reindex id).Versed :=
  versed_congr versed (reindex_things world id) (congrArg Info.schema (reindex_info world id))

theorem change_schema (change : Change) (thing : Thing) : (change.apply thing).schema = thing.schema := by
  cases change with
  | point relation target multi => cases multi <;> rfl
  | _ => rfl

theorem dress_schema (properties : List (String × Datum)) : ∀ thing, (dress properties thing).schema = thing.schema := by
  induction properties with
  | nil => exact fun thing => rfl
  | cons written rest ih => exact fun thing => ih _

theorem versed_vanishAll (ids : List ThingId) : ∀ {world : World}, world.Versed → (ids.foldl vanish world).Versed := by
  induction ids with
  | nil => exact fun versed => versed
  | cons id rest ih =>
    intro world versed
    refine ih ?_
    rw [vanish]
    split
    · refine versed_reindex ?_ id
      refine ⟨?_, versed.info⟩
      intro other held found
      have found : (world.things.erase id)[other]? = some held := found
      rw [Std.ExtTreeMap.getElem?_erase] at found
      split at found
      · cases found
      · exact versed.things other held found
    · exact versed

theorem versed_commit (versed : world.Versed) (keep : Bool) : ((commit keep).run world).2.Versed :=
  versed_congr versed (commit_things keep world) (congrArg Info.schema (commit_info keep world))

theorem versed_deed (versed : world.Versed) (deed : Deed) (allowed : deed.allowed world) (unflushed : deed ≠ .flushed) :
    (deed.perform world).Versed := by
  cases handled : deed.handles with
  | false => exact versed_congr versed (deed_apart handled world).1 (deed_record deed world).1
  | true =>
    cases deed with
    | revised id change => exact versed_reindex (versed_retouch versed id (change_schema change)) id
    | dressed id properties => exact versed_retouch versed id (dress_schema properties)
    | edited id f => exact versed_retouch versed id fun thing => (allowed.2 thing).2
    | touched id => exact versed_congr versed rfl rfl
    | entered id thing =>
      refine versed_reindex ?_ id
      refine ⟨versed_insert versed.things ?_, versed.info⟩
      rcases allowed.2 with fresh | ⟨old, source, found, same⟩
      · exact fresh
      · exact same.symm.trans (versed.things old source found)
    | vanished ids => exact versed_vanishAll ids versed
    | flushed => exact absurd rfl unflushed
    | _ => cases handled

theorem versed_moment (versed : world.Versed) (moment : Moment) (allowed : moment.allowed world) :
    (moment.perform world).Versed := by
  rcases moment_cases moment world with ⟨deed, rfl, unflushed⟩ | rfl | ⟨keep, inside, same, _⟩
  · exact versed_deed versed deed allowed unflushed
  · exact versed_congr versed rfl rfl
  · have before : ({ world with inScope := inside } : World).Versed := versed_congr versed rfl rfl
    rw [same]
    exact versed_commit before keep

-- All that a world must be so that its store can be opened again after the next commit.
structure Tended (world : World) : Prop where
  tracked : ∃ pending, world.Tracked pending
  backed : world.Backed
  recorded : world.Recorded
  mirrored : world.Mirrored
  faithful : world.Faithful
  versed : world.Versed

theorem tended_moment (tended : world.Tended) (moment : Moment) (allowed : moment.allowed world)
    (later : moment.later) (clean : moment.clean world) : (moment.perform world).Tended := by
  obtain ⟨pending, tracked⟩ := tended.tracked
  exact ⟨⟨_, tracked_moment tracked moment allowed⟩, backed_moment tended.backed tracked.keyed moment,
    recorded_moment tended.recorded moment later, mirrored_moment tended.mirrored moment,
    faithful_moment tended.faithful moment clean, versed_moment tended.versed moment allowed⟩

theorem tended_replay (tended : world.Tended) {moments : List Moment} (permitted : world.Permits moments)
    (later : ∀ deed, .did deed ∈ moments → deed.later)
    (clean : Heeds (fun world moment => moment.clean world) world moments) : (world.replay moments).Tended := by
  have each := Moment.later_of_deeds later
  refine replay_keeps (P := Tended) ?_ tended (heeds_and permitted (heeds_and (heeds_of_forall each _) clean))
  exact fun world moment tended heeds => tended_moment tended moment heeds.1 heeds.2.1 heeds.2.2

theorem versed_seeded {store : Store} {options : Options} (fresh : store.info = none)
    (opened : openOn store options = .ok world) : world.Versed := by
  obtain ⟨mid, planted⟩ := planted_of_seed fresh opened
  obtain ⟨moments, same, permitted, _⟩ := planted.deeds
  have start : (Moment.opened.perform (blank store options)).Versed := by
    refine ⟨?_, rfl⟩
    intro id thing found
    have found : (∅ : Std.ExtTreeMap ThingId Thing)[id]? = some thing := found
    simp at found
  have versed : mid.Versed := by
    rw [same]
    exact replay_keeps (P := Versed) (fun _ moment versed allowed => versed_moment versed moment allowed) start permitted
  have closed : ({ mid with inScope := false } : World).Versed := versed_congr versed rfl rfl
  rw [← planted_last planted]
  exact versed_commit closed true

theorem tended_seeded {store : Store} {options : Options} (empty : store.Empty)
    (accepts : ∀ asked call, store.refuses asked call = false) (opened : openOn store options = .ok world) :
    world.Tended ∧ world.inScope = false := by
  obtain ⟨mid, planted⟩ := planted_of_seed empty.1 opened
  obtain ⟨tracked, _, recorded⟩ := tracked_seeded planted
  have backed := backed_seeded (Store.own_of_empty empty 0).owned planted
  obtain ⟨faithful, _⟩ := faithful_seeded planted
  exact ⟨⟨⟨[], tracked⟩, backed, recorded, mirrored_seeded accepts empty planted, faithful, versed_seeded empty.1 opened⟩,
    outside_seeded planted⟩

theorem snapshots_restored {store : Store} (versed : world.Versed) (fits : world.Fits)
    (recorded : store.info = some world.info.toBytes)
    (lies : ∀ id : ThingId, store.get? id = world.things[id]?.map Thing.toBytes) (options : Options) :
    ∃ again, openOn store options = .ok again ∧ again.things = world.things ∧ again.info = world.info ∧
      Reloaded store again := by
  have info : Info.ofBytes world.info.toBytes = .ok world.info := by
    rw [Info.ofBytes_toBytes fits.info, Info.checkSchema, if_pos versed.info]
  have read (id : ThingId) (thing : Thing) (found : world.things[id]? = some thing) :
      Thing.ofBytes thing.toBytes = .ok thing := by
    rw [Thing.ofBytes_toBytes (fits.things id thing found), Thing.checkSchema, if_pos (versed.things id thing found)]
  obtain ⟨again, opened⟩ := reloads recorded info (fun id bytes lies' => by
    rw [lies] at lies'
    obtain ⟨thing, found, rfl⟩ := Option.map_eq_some_iff.mp lies'
    exact ⟨thing, read id thing found⟩) options
  have loaded := reloaded recorded opened
  have things : again.things = world.things := by
    refine Std.ExtTreeMap.ext_getElem? fun id => ?_
    rw [loaded.things, lies]
    cases found : world.things[id]? with
    | none => rfl
    | some thing =>
      rw [Option.map_some, Option.bind_some, read id thing found]
      rfl
  obtain ⟨bytes, found, read⟩ := loaded.info
  obtain rfl := Option.some.inj (found.symm.trans recorded)
  exact ⟨again, opened, things, Except.ok.inj (read.symm.trans info), loaded⟩

theorem restored (tended : world.Tended) (tracked : world.Tracked []) (fits : world.Fits) (untouched : world.dirty = ∅)
    (written : world.infoDirty = false) (options : Options) :
    ∃ again, openOn world.store options = .ok again ∧ again.things = world.things ∧ again.info = world.info ∧
      again.index = world.index := by
  have lies (id : ThingId) : world.store.get? id = world.things[id]?.map Thing.toBytes := by
    refine (tended.mirrored.known id).symm.trans (tended.faithful id ?_)
    rw [untouched]
    exact Std.ExtTreeSet.not_mem_empty
  obtain ⟨again, opened, things, info, loaded⟩ :=
    snapshots_restored tended.versed fits (tended.recorded written) lies options
  refine ⟨again, opened, things, info, ?_⟩
  rw [loaded.index, things]
  exact (tracked_current tracked).rebuilt _ (List.Perm.refl _)

theorem flushed_restored (tended : world.Tended) (outside : world.inScope = false) (fits : world.Fits) :
    ∃ stats flushed, flush.run world = (.ok stats, flushed) ∧ flushed.things = world.things ∧
      flushed.info = world.info ∧ flushed.store.info = some world.info.toBytes ∧
      ∀ options, ∃ again, openOn flushed.store options = .ok again ∧
        again.things = world.things ∧ again.info = world.info ∧ again.index = flushed.index := by
  obtain ⟨⟨stats, ended⟩, _⟩ := commit_accepted tended.mirrored.accepts
  obtain ⟨untouched, written⟩ := commit_completed ended
  obtain ⟨pending, tracked⟩ := tended.tracked
  have flushed := tended_moment tended (.did .flushed) outside trivial fun ended => nomatch ended
  have things := commit_things true world
  have info := commit_info true world
  have fits : ((commit true).run world).2.Fits := by
    refine ⟨?_, ?_⟩
    · rw [things]
      exact fits.things
    · rw [info]
      exact fits.info
  refine ⟨stats, ((commit true).run world).2, ?_, things, info, ?_, ?_⟩
  · rw [run_flush outside]
    exact Prod.ext ended rfl
  · rw [← info]
    exact flushed.recorded written
  · intro options
    obtain ⟨again, reopened, same, same', index⟩ :=
      restored flushed (tracked_commit true tracked) fits untouched written options
    exact ⟨again, reopened, same.trans things, same'.trans info, index⟩

theorem flushed_worlds_are_restored {store : Store} {options : Options} {start : World} (empty : store.Empty)
    (accepts : ∀ asked call, store.refuses asked call = false) (opened : openOn store options = .ok start)
    {α : Type} {steps : Run α} (built : Built true steps) {result : Except Failure α} {last : World}
    (ran : steps.run start = some (result, last)) :
    (∃ moments, Unfolds steps start moments result last ∧ ∀ deed, .did deed ∈ moments → deed.later) ∧
      ∀ moments, Unfolds steps start moments result last → (∀ deed, .did deed ∈ moments → deed.later) →
        Heeds (fun world moment => moment.clean world) start moments → last.Fits →
          ∃ stats flushed, flush.run last = (.ok stats, flushed) ∧
            flushed.things = last.things ∧ flushed.info = last.info ∧
            ∀ options', ∃ again, openOn flushed.store options' = .ok again ∧
              again.things = last.things ∧ again.info = last.info ∧ again.index = flushed.index := by
  obtain ⟨tended, outside⟩ := tended_seeded empty accepts opened
  refine ⟨?_, ?_⟩
  · obtain ⟨moments, unfolds, within⟩ := charted_built built start result last ran
    exact ⟨moments, unfolds, fun deed member => deed.later_of_within (within deed member)⟩
  intro moments unfolds later clean fits
  obtain ⟨rfl, permitted, scope⟩ := unfolds_replay unfolds
  obtain ⟨stats, flushed, ended, things, info, _, found⟩ :=
    flushed_restored (tended_replay tended permitted later clean) (scope.trans outside) fits
  exact ⟨stats, flushed, ended, things, info, found⟩

theorem unfolds_setProperty (outside : world.inScope = false) {id : ThingId} (held : world.contains id = true)
    (property : String) (value : Datum) : ∃ result last,
      Unfolds (Operation.setProperty id property value).run world
        [.opened, .did (.revised id (.write property value)), .ended true] result last := by
  have inner : Unfolds (Run.ofAct do
      edit id (Change.write property value).apply
      modify (reindex · id)) (Moment.opened.perform world) [.did (.revised id (.write property value))] (.ok ()) _ :=
    .does _ ⟨held, fun prototype inherits => nomatch inherits⟩ trivial
      (congrArg some ((run_revise id _ () (Moment.opened.perform world)).trans (if_pos held)))
  have unfolds := Unfolds.outermost outside inner
  rw [← Run.ofAct_scope] at unfolds
  exact ⟨_, _, unfolds⟩

-- A lobby with a name of its own, found again.
theorem renamed_lobby_is_restored :
    ∃ start last stats flushed, openOn .inMemory ⟨"new", .standard, 1000, fun _ => 0⟩ = .ok start ∧
      (setProperty start.info.lobby Property.name (.text "square")).run start = (.ok (), last) ∧
      flush.run last = (.ok stats, flushed) ∧
      ∀ options, ∃ again, openOn flushed.store options = .ok again ∧
        again.things = last.things ∧ again.info = last.info ∧ again.index = flushed.index := by
  have checked : (match openOn .inMemory ⟨"new", .standard, 1000, fun _ => 0⟩ with
      | .ok start => decide (start.contains start.info.lobby = true ∧
          ((setProperty start.info.lobby Property.name (.text "square")).run start).1.isOk = true ∧
          ((setProperty start.info.lobby Property.name (.text "square")).run start).2.Fits)
      | .error _ => false) = true := by decide +kernel
  cases opened : openOn .inMemory ⟨"new", .standard, 1000, fun _ => 0⟩ with
  | error failure =>
    rw [opened] at checked
    cases checked
  | ok start =>
    rw [opened] at checked
    obtain ⟨present, kept, fits⟩ := of_decide_eq_true checked
    have accepts : ∀ asked call, Store.inMemory.refuses asked call = false := fun _ _ => rfl
    have outside := (tended_seeded Store.empty_inMemory accepts opened).2
    obtain ⟨result, last, unfolds⟩ := unfolds_setProperty outside present Property.name (.text "square")
    have ran := unfolds_ran unfolds
    have ran' : (setProperty start.info.lobby Property.name (.text "square")).run start = (result, last) :=
      Option.some.inj ran
    rw [ran'] at kept fits
    cases result with
    | error failure => cases kept
    | ok =>
      have built : Built true (Operation.setProperty start.info.lobby Property.name (.text "square")).run :=
        .calls _ fun byHand => nomatch byHand
      obtain ⟨stats, flushed, ended, _, _, found⟩ :=
        (flushed_worlds_are_restored Store.empty_inMemory accepts opened built ran).2 _ unfolds (by simp [Deed.later])
          (by simp [Heeds, Moment.clean]) fits
      exact ⟨start, last, stats, flushed, rfl, ran', ended, found⟩

end World
end ThingWorld
