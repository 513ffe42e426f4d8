import ThingWorld.Proofs.Course.Making
import ThingWorld.Proofs.Store.Cuts
import ThingWorld.Proofs.Upkeep.Reached
namespace ThingWorld.World

variable {base : Store} {world : World} {ledger : Ledger}

-- Until the next id goes back, whatever happens before, what is made while ids are left is new, and all that is there
-- stays as it is.
def Unrepeated (world : World) : Prop :=
  ∀ {α : Type} {before : Run α} {moments : List Moment} {given : Except Failure α} {mid : World},
    Unfolds before world moments given mid → world.Ascends moments →
      ∀ {β : Type} (operation : Operation β), operation.makes = true → mid.Affords (operation.takes mid) →
        ∀ result last, operation.run.run mid = some (result, last) →
          (∀ id : ThingId, mid.contains id = true → last.things[id]? = mid.things[id]?) ∧
          ∀ b, result = .ok b → ∀ id ∈ operation.made b, mid.contains id = false

theorem unrepeated_of_below (below : world.Below) : world.Unrepeated := by
  intro α before moments given mid unfolds ascends β operation makes left result last ran
  have below : mid.Below := by
    rw [(unfolds_replay unfolds).1]
    exact below_replay below ascends (unfolds_hands unfolds)
  obtain ⟨act, same, raises⟩ := raised_operation operation makes
  have raised := raises (UInt64.le_refl _) left
  have ran' : act.run mid = (result, last) := by
    rw [same] at ran
    exact Option.some.inj ran
  rw [ran'] at raised
  refine ⟨fun id held => raised.things id (below id held), fun b gave id member => ?_⟩
  cases held : mid.contains id with
  | false => rfl
  | true => exact absurd (below id held) (UInt64.not_lt.mpr (raised.gives b gave id member))

theorem trail_commit {left : Bool} (ahead : left = true → world.Ahead) (fits : world.info.Fits)
    (trail : base.Trail left world.store) (keep : Bool) : base.Trail left ((commit keep).run world).2.store := by
  obtain ⟨index, same⟩ := catchUp_same world
  refine trail_writing ?_ ?_ ?_ (writing_commit keep world) <;> rw [same]
  · exact fun kept => ⟨below_congr (ahead kept).below rfl rfl, (ahead kept).under⟩
  · exact fits
  · exact trail

theorem trail_moment {left : Bool} (ahead : left = true → world.Ahead) (fits : world.info.Fits)
    (trail : base.Trail left world.store) (moment : Moment) : base.Trail left (moment.perform world).store := by
  rcases moment_cases moment world with ⟨deed, rfl, unflushed⟩ | rfl | ⟨keep, inside, same, _⟩
  · rw [Moment.perform, (deed_shelf deed unflushed world).2]
    exact trail
  · exact trail
  · have before (kept : left = true) : ({ world with inScope := inside } : World).Ahead :=
      ⟨below_congr (ahead kept).below rfl rfl, (ahead kept).under⟩
    rw [same]
    exact trail_commit before fits trail keep

-- All that a world must be so that its store can be cut off at any call.
structure Traced (base : Store) (world : World) (ledger : Ledger) : Prop where
  tracked : world.Tracked ledger.pending
  backed : world.Backed
  recorded : world.Recorded
  ahead : ledger.left = true → world.Ahead
  fits : world.info.Fits
  trail : base.Trail ledger.left world.store

theorem traced_moment (traced : Traced base world ledger) (moment : Moment) (allowed : moment.allowed world)
    (handed : ledger.left = true → moment.handed world) (later : moment.later) :
    Traced base (moment.perform world) (ledger.note world moment) := by
  refine ⟨tracked_moment traced.tracked moment allowed, backed_moment traced.backed traced.tracked.keyed moment,
    recorded_moment traced.recorded moment later, ?_, fits_congr (foundation_moment moment later world) traced.fits, ?_⟩
  · intro left
    obtain ⟨before, climbs⟩ := Bool.and_eq_true_iff.mp left
    exact ahead_moment (traced.ahead before) moment (of_decide_eq_true climbs) (handed before)
  · exact Store.trail_mono (trail_moment traced.ahead traced.fits traced.trail moment) fun left =>
      (Bool.and_eq_true_iff.mp left).1

section Opening

variable {store : Store} {options : Options}

theorem traced_opened (opened : openOn store options = .ok world) (own : store.Own world.info.nextId)
    (recorded : store.info = none ∨ store.info = some world.info.toBytes) (fits : world.info.Fits) :
    Traced store world .clear := by
  rcases recorded with fresh | recorded
  · obtain ⟨mid, planted⟩ := planted_of_seed fresh opened
    obtain ⟨tracked, _, recorded⟩ := tracked_seeded planted
    refine ⟨tracked, backed_seeded own.owned planted, recorded, fun _ => ahead_seeded own.below planted, fits, ?_⟩
    have unrecorded : store.Trail true store := Store.trail_refl fun bytes info recorded => by
      cases fresh.symm.trans recorded
    rw [planted_info planted] at own fits
    rw [← planted_last planted]
    have closed : ({ mid with inScope := false } : World).Ahead := by
      refine ⟨below_congr planted.below rfl rfl, ?_⟩
      show mid.store.Under mid.info.nextId
      rw [(planted_shelf planted).1]
      exact own.below
    refine trail_commit (fun _ => closed) fits ?_ true
    show store.Trail true mid.store
    rwa [(planted_shelf planted).1]
  · obtain ⟨_, tracked, backed, noted, ahead, _⟩ := tracked_reloaded ⟨own.owned, recorded⟩ fits opened
    refine ⟨tracked, backed, noted, fun _ => ahead own.below, fits, ?_⟩
    rw [(reloaded recorded opened).store]
    exact Store.trail_refl (guarded_recorded recorded own.below fits)

-- What is not guarded there is all that the opened world may have beyond its next id.
theorem below_of_guarded {but : List ThingId} (guarded : store.medium.Guarded but)
    (opened : openOn store options = .ok world) :
    ∀ id, world.contains id = true → id < world.info.nextId ∨ id ∈ but := by
  intro id held
  cases recorded : store.info with
  | none =>
    obtain ⟨mid, planted⟩ := planted_of_seed recorded opened
    rw [← planted_last planted] at held ⊢
    rw [contains_congr (commit_things true _)] at held
    rw [commit_info]
    exact .inl (planted.below id held)
  | some bytes =>
    have loaded := reloaded recorded opened
    obtain ⟨bytes', recorded', read⟩ := loaded.info
    obtain ⟨thing, found⟩ := some_of_contains held
    rw [loaded.things] at found
    obtain ⟨blob, lies, _⟩ := Option.bind_eq_some_iff.mp found
    exact guarded bytes' world.info recorded' read id blob lies

end Opening

-- The store is cut off after any of the calls that a run has it do, the seeding included, and is opened again.
theorem cut_stores_repeat_only_unrecorded_ids {store : Store} {options : Options} {start : World}
    (opened : openOn store options = .ok start) (own : store.Own start.info.nextId)
    (recorded : store.info = none ∨ store.info = some start.info.toBytes) (fits : start.info.Fits) {hand : Bool}
    {α : Type} {steps : Run α} {result : Except Failure α} {last : World} (built : Built hand steps)
    (ran : steps.run start = some (result, last)) :
    (∃ moments, Unfolds steps start moments result last ∧ ∀ deed, .did deed ∈ moments → deed.within hand) ∧
    ∃ calls, last.store.log = calls ++ store.log ∧ last.store.medium = store.medium.after calls ∧
      ∀ later before, calls = later ++ before → ∀ (cut : Store) (options' : Options) (again : World),
        cut.medium = store.medium.after before → openOn cut options' = .ok again →
          (∀ moments, Unfolds steps start moments result last → (∀ deed, .did deed ∈ moments → deed.within hand) →
            start.Ascends moments →
              (∀ id, again.contains id = true → id < again.info.nextId ∨ id ∈ unrecorded before) ∧
              (later = [] → last.infoDirty = false → again.Below)) ∧
          (again.Below → again.Unrepeated) ∧
          ∀ prototype name description id made,
            (createFrom prototype name description).run again = (.ok id, made) → id = again.info.nextId ∧
              made.things[id]? = some (describeNew name description
                ((Thing.fresh id prototype).addEdge ⟨Relation.location, again.info.limbo⟩)) := by
  have traced (moments : List Moment) (unfolds : Unfolds steps start moments result last)
      (within : ∀ deed, .did deed ∈ moments → deed.within hand) :
      Traced store last (Ledger.clear.after start moments) := by
    obtain ⟨same, permitted, _⟩ := unfolds_replay unfolds
    rw [same]
    refine ledger_keeps (P := Traced store) traced_moment (traced_opened opened own recorded fits) permitted
      (fun _ => unfolds_hands unfolds) fun deed member => deed.later_of_within (within deed member)
  obtain ⟨moments, unfolds, within⟩ := charted_built built start result last ran
  refine ⟨⟨moments, unfolds, within⟩, ?_⟩
  obtain ⟨calls, logged, reached, _⟩ := (traced moments unfolds within).trail
  refine ⟨calls, logged, reached, ?_⟩
  intro later before split cut options' again medium reopened
  refine ⟨?_, unrepeated_of_below, fun prototype name description id made ran => createFrom_takes ran⟩
  intro moments unfolds within ascends
  have traced := traced moments unfolds within
  have left : (Ledger.clear.after start moments).left = true := (left_after moments .clear start).mpr ⟨rfl, ascends⟩
  obtain ⟨calls', logged', _, cuts⟩ := traced.trail
  obtain rfl := List.append_cancel_right (logged.symm.trans logged')
  have guarded : cut.medium.Guarded (unrecorded before) := by
    rw [medium]
    exact cuts left later before split
  refine ⟨below_of_guarded guarded reopened, ?_⟩
  rintro rfl written
  have all : cut.medium.Guarded [] := by
    rw [show cut.medium = last.store.medium by rw [medium, reached, split, List.nil_append]]
    exact guarded_recorded (traced.recorded written) (traced.ahead left).under traced.fits
  exact fun id held => (below_of_guarded all reopened id held).resolve_right List.not_mem_nil

-- A named thing is entered under the next id and named within one scope.
def creation (id : ThingId) (name : String) (thing : Thing) : List Moment :=
  [.opened, .did .allocated, .did (.entered id thing), .did (.dressed id [(Property.name, .text name)]), .ended true]

theorem unfolds_create (outside : world.inScope = false) (name : String) : ∃ thing result last,
    Unfolds (Operation.create name "").run world (creation world.info.nextId name thing) result last := by
  let prototype := world.prototype? Standard.thing
  let thing := (Thing.fresh world.info.nextId prototype).addEdge ⟨Relation.location, world.info.limbo⟩
  let entered := (Deed.entered world.info.nextId thing).perform (Deed.allocated.perform (Moment.opened.perform world))
  have bare : Unfolds (Run.ofAct (createBare prototype (some world.info.limbo))) (Moment.opened.perform world)
      [.did .allocated, .did (.entered world.info.nextId thing)] (.ok world.info.nextId) entered := by
    rw [createBare, Run.ofAct_scope]
    refine .joined rfl (.batch [.allocated, .entered world.info.nextId thing] ?_ ?_ rfl)
    · exact ⟨trivial, ⟨rfl, .inl rfl⟩, trivial⟩
    · exact ⟨trivial, fun climbs => ⟨next_is_greater climbs, fun _ => trivial⟩⟩
  have held : entered.contains world.info.nextId = true := contains_createBare (Option.some.inj (unfolds_ran bare))
  have named : Unfolds (Run.ofAct (edit world.info.nextId (describeNew name ""))) entered
      [.did (.dressed world.info.nextId [(Property.name, .text name)])] (.ok ()) _ :=
    .does (.dressed world.info.nextId [(Property.name, .text name)]) ⟨held, by simp; decide⟩ trivial
      (congrArg some ((run_edit _ _ _).trans (if_pos held)))
  have inner : Unfolds (Run.ofAct do
      let id ← createBare prototype (some world.info.limbo)
      edit id (describeNew name "")
      return id) (Moment.opened.perform world)
      [.did .allocated, .did (.entered world.info.nextId thing),
        .did (.dressed world.info.nextId [(Property.name, .text name)])] (.ok world.info.nextId)
      ((Deed.dressed world.info.nextId [(Property.name, .text name)]).perform entered) := by
    rw [Run.ofAct_bind]
    refine .next bare ?_
    rw [Run.ofAct_bind]
    exact .next named (.still rfl)
  obtain ⟨result, last, outer⟩ : ∃ result last, Unfolds (Run.ofAct (createFrom prototype name "")) world
      (creation world.info.nextId name thing) result last := by
    have outer := Unfolds.outermost outside inner
    rw [← Run.ofAct_scope] at outer
    rw [createFrom, Run.ofAct_bind]
    generalize World.settle _ _ = settled at outer
    exact ⟨settled.1, settled.2, .next (.still rfl) outer⟩
  rw [Operation.run, create, Run.ofAct_bind]
  exact ⟨thing, result, last, .next (.still rfl) outer⟩

-- A store that has lost the last two of the calls that were done on it since it was empty.
def shortened (store : Store) : Store :=
  .ofMedium (Store.inMemory.medium.after (store.log.drop 2))

-- The store of a new world is cut off after a rock was put and before the world record was.
theorem pebbles_replace_unrecorded_rocks :
    ∃ start rock last again made, openOn .inMemory ⟨"new", .standard, 1000, fun _ => 0⟩ = .ok start ∧
      (Operation.create "rock" "").run.run start = some (.ok rock, last) ∧
      openOn (shortened last.store) ⟨"new", .standard, 1000, fun _ => 0⟩ = .ok again ∧
      again.contains rock = true ∧ rock ∈ unrecorded (last.store.log.drop 2) ∧
      (createFrom none "pebble" "").run again = (.ok rock, made) ∧ made.things[rock]? ≠ again.things[rock]? := by
  have checked : opensTo .inMemory ⟨"new", .standard, 1000, fun _ => 0⟩ (fun start =>
      Run.gives ((Operation.create "rock" "").run.run start) fun rock last =>
        opensTo (shortened last.store) ⟨"new", .standard, 1000, fun _ => 0⟩ fun again =>
          Run.gives (some ((createFrom none "pebble" "").run again)) fun pebble made =>
            decide (pebble = rock ∧ again.contains rock = true ∧ made.things[rock]? ≠ again.things[rock]? ∧
              start.info.Fits ∧ start.info.nextId ≤ start.info.nextId + 1)) = true := by decide +kernel
  obtain ⟨start, opened, checked⟩ := opensTo_iff.mp checked
  obtain ⟨rock, last, ran, checked⟩ := Run.gives_iff.mp checked
  obtain ⟨again, reopened, checked⟩ := opensTo_iff.mp checked
  obtain ⟨pebble, made, ran', checked⟩ := Run.gives_iff.mp checked
  obtain ⟨rfl, held, replaced, fits, climbs⟩ := of_decide_eq_true checked
  have built : Built false (Operation.create "rock" "").run := .calls _ fun byHand => nomatch byHand
  obtain ⟨_, calls, logged, _, cuts⟩ := cut_stores_repeat_only_unrecorded_ids opened
    (Store.own_of_empty Store.empty_inMemory _) (.inl rfl) fits built ran
  have all : last.store.log = calls := logged.trans (List.append_nil calls)
  obtain ⟨loaded, _, takes⟩ := cuts (calls.take 2) (calls.drop 2) (List.take_append_drop 2 calls).symm
    (shortened last.store) _ again (by rw [← all]; rfl) reopened
  have next := (takes _ _ _ _ _ (Option.some.inj ran')).1
  obtain ⟨thing, result, made', unfolds⟩ := unfolds_create (reached_frame (.seeded rfl opened
    (Store.own_of_empty Store.empty_inMemory _))).1 "rock"
  obtain ⟨given, same⟩ := Prod.mk.inj (Option.some.inj ((unfolds_ran unfolds).symm.trans ran))
  rw [given, same] at unfolds
  have ascends : start.Ascends (creation start.info.nextId "rock" thing) :=
    ⟨UInt64.le_refl _, climbs, ascends_elsewhere (by simp) _⟩
  obtain ⟨loaded, _⟩ := loaded _ unfolds (by simp [creation, Deed.within, Deed.lives]) ascends
  have late := (loaded pebble held).resolve_left (by rw [← next]; exact UInt64.lt_irrefl pebble)
  rw [← all] at late
  exact ⟨start, pebble, last, again, made, opened, ran, reopened, held, late, Option.some.inj ran', replaced⟩

end ThingWorld.World
