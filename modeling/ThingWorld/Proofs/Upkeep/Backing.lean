import ThingWorld.Proofs.Store.Completion
import ThingWorld.Proofs.Upkeep.Upkept
namespace ThingWorld

namespace Moment

-- A scope that ended with a failure had touched nothing.
def clean (moment : Moment) (world : World) : Prop :=
  moment = .ended false → world.dirty = ∅

-- A deed other than a commit. Inside a scope there is nothing else.
def quiet (moment : Moment) : Prop :=
  ∃ deed, moment = .did deed ∧ deed ≠ .flushed

end Moment

namespace World

variable {world : World} {pending : List ThingId}

section Deeds

variable (deed : Deed)

theorem deed_shelf (unflushed : deed ≠ .flushed) (world : World) :
    (deed.perform world).persisted = world.persisted ∧ (deed.perform world).store = world.store := by
  rcases deed_turns unflushed world with turned | ⟨_, _, _, same⟩
  · obtain ⟨_, _, _, _, _, _, _, _, _, same⟩ := turned
    rw [same]
    exact ⟨rfl, rfl⟩
  · rw [same]
    exact ⟨rfl, rfl⟩

theorem deed_noted (later : deed.later) (unflushed : deed ≠ .flushed) (world : World) :
    (deed.perform world).infoDirty = true ∨
      (deed.perform world).info = world.info ∧ (deed.perform world).infoDirty = world.infoDirty := by
  rcases deed_turns unflushed world with turned | ⟨recorded, _⟩
  · obtain ⟨_, _, _, _, _, _, _, _, _, same⟩ := turned
    rw [same]
    exact .inr ⟨rfl, rfl⟩
  · cases deed with
    | allocated => exact .inl rfl
    | noted => exact .inl rfl
    | rated interval =>
      rcases rate_same interval world with same | ⟨rate, same⟩
      · rw [Deed.perform, same]
        exact .inr ⟨rfl, rfl⟩
      · rw [Deed.perform, same]
        exact .inl rfl
    | limboed limbo => exact later.elim
    | founded hall lobby prototypes => exact later.elim
    | _ => cases recorded

theorem retouch_elsewhere {id other : ThingId} {f : Thing → Thing} (clean : other ∉ (world.retouch id f).dirty) :
    other ∉ world.dirty ∧ (world.retouch id f).things[other]? = world.things[other]? := by
  rw [retouch] at clean ⊢
  split
  · rename_i found
    rw [found] at clean
    have clean : other ∉ world.dirty.insert id := clean
    rw [Std.ExtTreeSet.mem_insert, Std.compare_eq_iff_eq] at clean
    obtain ⟨differs, clean⟩ := not_or.mp clean
    refine ⟨clean, ?_⟩
    show (world.things.insert id _)[other]? = _
    rw [Std.ExtTreeMap.getElem?_insert]
    simp [differs]
  · rename_i found
    rw [found] at clean
    exact ⟨clean, rfl⟩

theorem vanish_elsewhere {id other : ThingId} (clean : other ∉ (world.vanish id).dirty) :
    other ∉ world.dirty ∧ (world.vanish id).things[other]? = world.things[other]? := by
  rw [vanish] at clean ⊢
  split
  · rename_i present
    rw [if_pos present, reindex_dirty] at clean
    have clean : other ∉ world.dirty.insert id := clean
    rw [Std.ExtTreeSet.mem_insert, Std.compare_eq_iff_eq] at clean
    obtain ⟨differs, clean⟩ := not_or.mp clean
    refine ⟨clean, ?_⟩
    rw [reindex_things]
    show (world.things.erase id)[other]? = _
    rw [Std.ExtTreeMap.getElem?_erase]
    simp [differs]
  · rename_i absent
    rw [if_neg absent] at clean
    exact ⟨clean, rfl⟩

theorem vanishAll_elsewhere (ids : List ThingId) : ∀ {world : World} {other : ThingId},
    other ∉ (ids.foldl vanish world).dirty →
      other ∉ world.dirty ∧ (ids.foldl vanish world).things[other]? = world.things[other]? := by
  induction ids with
  | nil => exact fun clean => ⟨clean, rfl⟩
  | cons id rest ih =>
    intro world other clean
    obtain ⟨clean, same⟩ := ih clean
    obtain ⟨clean, same'⟩ := vanish_elsewhere clean
    exact ⟨clean, same.trans same'⟩

theorem deed_elsewhere (unflushed : deed ≠ .flushed) {other : ThingId} (clean : other ∉ (deed.perform world).dirty) :
    other ∉ world.dirty ∧ (deed.perform world).things[other]? = world.things[other]? := by
  cases handled : deed.handles with
  | false =>
    obtain ⟨things, _, dirty⟩ := deed_apart handled world
    rw [dirty] at clean
    rw [things]
    exact ⟨clean, rfl⟩
  | true =>
    cases deed with
    | revised id change =>
      rw [Deed.perform, revise] at clean ⊢
      rw [reindex_dirty] at clean
      rw [reindex_things]
      exact retouch_elsewhere clean
    | dressed id properties => exact retouch_elsewhere clean
    | edited id f => exact retouch_elsewhere clean
    | touched id =>
      have clean : other ∉ world.dirty.insert id := clean
      rw [Std.ExtTreeSet.mem_insert] at clean
      exact ⟨(not_or.mp clean).2, rfl⟩
    | entered id thing =>
      rw [Deed.perform] at clean ⊢
      rw [reindex_dirty] at clean
      rw [reindex_things]
      have clean : other ∉ world.dirty.insert id := clean
      rw [Std.ExtTreeSet.mem_insert, Std.compare_eq_iff_eq] at clean
      obtain ⟨differs, clean⟩ := not_or.mp clean
      refine ⟨clean, ?_⟩
      show (world.things.insert id thing)[other]? = _
      rw [Std.ExtTreeMap.getElem?_insert]
      simp [differs]
    | vanished ids => exact vanishAll_elsewhere ids clean
    | flushed => exact absurd rfl unflushed
    | _ => cases handled

end Deeds

theorem heeds_clean {moments : List Moment} (kept : ∀ moment ∈ moments, moment ≠ .ended false) :
    ∀ world, Heeds (fun world moment => moment.clean world) world moments := by
  induction moments with
  | nil => exact fun _ => trivial
  | cons moment rest ih =>
    refine fun world => ⟨fun failed => absurd failed (kept moment List.mem_cons_self), ?_⟩
    exact ih (fun other member => kept other (List.mem_cons_of_mem moment member)) _

section Quiet

theorem quiet_inside {moments : List Moment} : ∀ {world : World}, world.inScope = true → world.Permits moments →
    (∀ moment ∈ moments, ∃ deed, moment = .did deed) → ∀ moment ∈ moments, moment.quiet := by
  induction moments with
  | nil => exact fun _ _ _ _ member => nomatch member
  | cons first rest ih =>
    intro world inside permitted deeds
    obtain ⟨deed, rfl⟩ := deeds first List.mem_cons_self
    have unflushed : deed ≠ .flushed := by
      rintro rfl
      rw [show world.inScope = false from permitted.1] at inside
      cases inside
    intro moment member
    rcases List.mem_cons.mp member with rfl | member
    · exact ⟨deed, rfl, unflushed⟩
    · exact ih ((deed_frame deed world).1.trans inside) permitted.2
        (fun other member => deeds other (List.mem_cons_of_mem _ member)) moment member

theorem unfolds_quiet {α : Type} {steps : Run α} {moments : List Moment} {result : Except Failure α} {world' : World}
    (unfolds : Unfolds steps world moments result world') (inside : world.inScope = true) :
    ∀ moment ∈ moments, moment.quiet :=
  quiet_inside inside (unfolds_replay unfolds).2.1 (unfolds_inside unfolds inside)

theorem quiet_shelf {moments : List Moment} (quiet : ∀ moment ∈ moments, moment.quiet) : ∀ world : World,
    (world.replay moments).persisted = world.persisted ∧ (world.replay moments).store = world.store := by
  induction moments with
  | nil => exact fun world => ⟨rfl, rfl⟩
  | cons first rest ih =>
    intro world
    obtain ⟨deed, rfl, unflushed⟩ := quiet first List.mem_cons_self
    obtain ⟨persisted, store⟩ := ih (fun other member => quiet other (List.mem_cons_of_mem _ member)) (deed.perform world)
    obtain ⟨persisted', store'⟩ := deed_shelf deed unflushed world
    exact ⟨persisted.trans persisted', store.trans store'⟩

theorem quiet_elsewhere {moments : List Moment} {id : ThingId} (quiet : ∀ moment ∈ moments, moment.quiet) :
    ∀ {world : World}, id ∉ (world.replay moments).dirty →
      id ∉ world.dirty ∧ (world.replay moments).things[id]? = world.things[id]? := by
  induction moments with
  | nil => exact fun clean => ⟨clean, rfl⟩
  | cons first rest ih =>
    intro world clean
    obtain ⟨deed, rfl, unflushed⟩ := quiet first List.mem_cons_self
    obtain ⟨clean, same⟩ := ih (fun other member => quiet other (List.mem_cons_of_mem _ member)) clean
    obtain ⟨clean, same'⟩ := deed_elsewhere deed unflushed clean
    exact ⟨clean, same.trans same'⟩

theorem quiet_noted {moments : List Moment} (quiet : ∀ moment ∈ moments, moment.quiet)
    (later : ∀ moment ∈ moments, moment.later) : ∀ world : World, (world.replay moments).infoDirty = true ∨
      (world.replay moments).info = world.info ∧ (world.replay moments).infoDirty = world.infoDirty := by
  induction moments with
  | nil => exact fun world => .inr ⟨rfl, rfl⟩
  | cons first rest ih =>
    intro world
    obtain ⟨deed, rfl, unflushed⟩ := quiet first List.mem_cons_self
    have later' : deed.later := later _ List.mem_cons_self
    rcases ih (fun other member => quiet other (List.mem_cons_of_mem _ member))
      (fun other member => later other (List.mem_cons_of_mem _ member)) (deed.perform world) with noted | ⟨info, noted⟩
    · exact .inl noted
    · rcases deed_noted deed later' unflushed world with noted' | ⟨info', noted'⟩
      · exact .inl (noted.trans noted')
      · exact .inr ⟨info.trans info', noted.trans noted'⟩

end Quiet

theorem contains_vanishAll {id : ThingId} (ids : List ThingId) : ∀ {world : World}, world.contains id = true → id ∉ ids →
    (ids.foldl vanish world).contains id = true := by
  induction ids with
  | nil => exact fun held _ => held
  | cons gone rest ih =>
    intro world held spared
    obtain ⟨differs, spared⟩ := not_or.mp (List.mem_cons.not.mp spared)
    refine ih ?_ spared
    rw [vanish]
    split
    · refine (contains_congr (reindex_things _ gone) id).trans ?_
      show (world.things.erase gone).contains id = true
      rw [Std.ExtTreeMap.contains_erase]
      simp [Ne.symm differs, show world.things.contains id = true from held]
    · exact held

-- What belongs to the foundation of the world never goes.
theorem contains_moment {id : ThingId} (known : world.isWellKnown id = true) (held : world.contains id = true)
    (moment : Moment) (allowed : moment.allowed world) : (moment.perform world).contains id = true := by
  cases moment with
  | did deed =>
    cases deed with
    | vanished ids =>
      refine contains_vanishAll ids held fun member => ?_
      rw [allowed id member] at known
      cases known
    | edited other f => exact contains_retouch held other f
    | _ => exact contains_deed held _ trivial
  | opened => exact held
  | ended kept => exact (contains_congr (commit_things kept _) id).trans held

theorem backed_commit (backed : world.Backed) (keyed : Index.Keyed world.things) (keep : Bool) :
    ((commit keep).run world).2.Backed := by
  obtain ⟨index, same⟩ := catchUp_same world
  have caught : world.catchUp.Backed := by
    rw [same]
    exact backed_congr backed rfl fun _ => rfl
  refine backed_writing ?_ caught (writing_commit keep world)
  rw [same]
  exact keyed

theorem ahead_commit (ahead : world.Ahead) (keep : Bool) : ((commit keep).run world).2.Ahead :=
  commit_keeps ahead_writing (fun _ => ⟨below_congr ahead.below rfl rfl, ahead.under⟩) keep

theorem kept_commit (kept : world.Kept) (keep : Bool) : ((commit keep).run world).2.Kept :=
  commit_keeps kept_writing (fun _ => kept) keep

theorem recorded_commit (recorded : world.Recorded) (keep : Bool) : ((commit keep).run world).2.Recorded :=
  commit_keeps recorded_writing (fun _ => recorded) keep

theorem stored_commit {id : ThingId} (stored : world.Stored id) (keep : Bool) :
    ((commit keep).run world).2.Stored id :=
  commit_keeps stored_writing (fun _ => stored) keep

theorem mirrored_commit (mirrored : world.Mirrored) (keep : Bool) : ((commit keep).run world).2.Mirrored :=
  commit_keeps mirrored_writing (fun _ => ⟨mirrored.accepts, mirrored.known⟩) keep

theorem shelf_moment {P : World → Prop}
    (congr : ∀ {mid last : World}, P mid → last.persisted = mid.persisted → last.store = mid.store → P last)
    (commits : ∀ {mid : World}, P mid → ∀ keep, P ((commit keep).run mid).2) (start : P world) (moment : Moment) :
    P (moment.perform world) := by
  rcases moment_cases moment world with ⟨deed, rfl, unflushed⟩ | rfl | ⟨keep, inside, same, _⟩
  · obtain ⟨persisted, store⟩ := deed_shelf deed unflushed world
    exact congr start persisted store
  · exact congr start rfl rfl
  · have before : P { world with inScope := inside } := congr start rfl rfl
    rw [same]
    exact commits before keep

theorem backed_moment (backed : world.Backed) (keyed : Index.Keyed world.things) (moment : Moment) :
    (moment.perform world).Backed := by
  rcases moment_cases moment world with ⟨deed, rfl, unflushed⟩ | rfl | ⟨keep, inside, same, _⟩
  · obtain ⟨persisted, store⟩ := deed_shelf deed unflushed world
    refine backed_congr backed persisted fun id => ?_
    rw [Moment.perform, store]
  · exact backed_congr backed rfl fun _ => rfl
  · have before : ({ world with inScope := inside } : World).Backed := backed_congr backed rfl fun _ => rfl
    rw [same]
    exact backed_commit before keyed keep

theorem ahead_moment (ahead : world.Ahead) (moment : Moment) (climbs : moment.climbs world)
    (handed : moment.handed world) : (moment.perform world).Ahead := by
  rcases moment_cases moment world with ⟨deed, rfl, unflushed⟩ | rfl | ⟨keep, inside, same, _⟩
  · refine ⟨below_moment ahead.below _ climbs handed, fun id blob lies => ?_⟩
    rw [Moment.perform, (deed_shelf deed unflushed world).2] at lies
    exact UInt64.lt_of_lt_of_le (ahead.under id blob lies) climbs
  · exact ⟨below_congr ahead.below rfl rfl, ahead.under⟩
  · have before : ({ world with inScope := inside } : World).Ahead := ⟨below_congr ahead.below rfl rfl, ahead.under⟩
    rw [same]
    exact ahead_commit before keep

theorem kept_moment (kept : world.Kept) (moment : Moment) : (moment.perform world).Kept := by
  refine shelf_moment (fun kept persisted store => ?_) kept_commit kept moment
  exact kept_congr kept persisted fun id => congrArg (fun store : Store => store.get? id) store

theorem recorded_moment (recorded : world.Recorded) (moment : Moment) (later : moment.later) :
    (moment.perform world).Recorded := by
  rcases moment_cases moment world with ⟨deed, rfl, unflushed⟩ | rfl | ⟨keep, inside, same, _⟩
  · intro unnoted
    rcases deed_noted deed later unflushed world with noted | ⟨info, same⟩
    · rw [Moment.perform, noted] at unnoted
      cases unnoted
    · rw [Moment.perform, (deed_shelf deed unflushed world).2, info]
      exact recorded (same.symm.trans unnoted)
  · exact recorded
  · have before : ({ world with inScope := inside } : World).Recorded := recorded
    rw [same]
    exact recorded_commit before keep

theorem stored_moment {id : ThingId} (known : world.isWellKnown id = true) (stored : world.Stored id) (moment : Moment)
    (allowed : moment.allowed world) : (moment.perform world).Stored id := by
  have held := contains_moment known stored.1 moment allowed
  rcases moment_cases moment world with ⟨deed, rfl, unflushed⟩ | rfl | ⟨keep, inside, same, _⟩
  · refine ⟨held, ?_⟩
    rw [Moment.perform, (deed_shelf deed unflushed world).2]
    exact stored.2
  · exact stored
  · have before : ({ world with inScope := inside } : World).Stored id := stored
    rw [same]
    exact stored_commit before keep

theorem mirrored_moment (mirrored : world.Mirrored) (moment : Moment) : (moment.perform world).Mirrored := by
  refine shelf_moment (fun mirrored persisted store => ⟨?_, ?_⟩) mirrored_commit mirrored moment
  · rw [store]
    exact mirrored.accepts
  · rw [store, persisted]
    exact mirrored.known

-- A commit that does not write lets go of what was touched, so nothing may have been.
theorem faithful_moment (faithful : world.Faithful) (moment : Moment) (clean : moment.clean world) :
    (moment.perform world).Faithful := by
  rcases moment_cases moment world with ⟨deed, rfl, unflushed⟩ | rfl | ⟨keep, inside, same, failed⟩
  · intro id untouched
    obtain ⟨untouched, same⟩ := deed_elsewhere deed unflushed untouched
    rw [Moment.perform, same, (deed_shelf deed unflushed world).1]
    exact faithful id untouched
  · exact faithful
  · have before : ({ world with inScope := inside } : World).Faithful := faithful
    rw [same]
    cases keep with
    | true => exact faithful_commit before
    | false =>
      have nothing := clean (failed rfl)
      obtain ⟨index, caught⟩ := catchUp_same { world with inScope := inside }
      rw [run_commit, if_neg Bool.false_ne_true, caught]
      intro id _
      refine faithful id ?_
      rw [nothing]
      exact Std.ExtTreeSet.not_mem_empty

end World
end ThingWorld
