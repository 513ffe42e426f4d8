import ThingWorld.Proofs.Course.Copying
import ThingWorld.Proofs.Upkeep.Ticking
namespace ThingWorld

namespace Operation

-- What a line or a reaction may do is read off its course, and what is done by hand may be anything.
def scripted {α : Type} : Operation α → Bool
  | dispatch _ _ => true
  | command _ _ => true
  | tick => true
  | react _ _ => true
  | reactToCheck _ _ => true
  | emitFailure _ _ _ _ _ _ => true
  | edit _ _ _ => true
  | _ => false

-- The operation speaks to the flags alone.
def parts {α : Type} (operation : Operation α) (world : World) : Prop :=
  match operation with
  | setProperty id property value => property = Property.ticking ∧ value.holds ≠ world.subscribed id
  | unsetProperty id property => property = Property.ticking ∧ world.subscribed id = true
  | copy id => ∃ old ∈ world.connected id, world.ticks old = true
  | copySet _ members => ∃ old ∈ members, world.ticks old = true
  | _ => False

end Operation

namespace World

structure Paired (world : World) : Prop where
  inStep : world.InStep
  below : world.Below

variable {α β : Type} {world last : World}

theorem paired_congr {world' : World} (paired : world.Paired) (things : world'.things = world.things)
    (schedule : world'.schedule = world.schedule) (next : world'.info.nextId = world.info.nextId) : world'.Paired :=
  ⟨inStep_congr paired.inStep things schedule, below_congr paired.below things next⟩

-- Nobody of an id that was not handed out is told of ticks.
theorem unsubscribed_above (paired : world.Paired) {id : ThingId} (high : world.info.nextId ≤ id) :
    world.subscribed id = false := by
  rw [paired.inStep id]
  exact Bool.eq_false_iff.mpr fun ticks => UInt64.not_lt.mpr high (paired.below id (contains_of_ticks ticks))

theorem paired_reindex (paired : world.Paired) (id : ThingId) : (world.reindex id).Paired :=
  paired_congr paired (reindex_things world id) (reindex_schedule world id)
    (congrArg Info.nextId (reindex_info world id))

theorem paired_retouch (paired : world.Paired) (id : ThingId) {f : Thing → Thing}
    (keeps : ∀ thing, (f thing).ownFlag Property.ticking = thing.ownFlag Property.ticking) :
    (world.retouch id f).Paired := by
  refine ⟨fun other => ?_, below_retouch paired.below id f⟩
  rw [subscribed_congr (retouch_schedule id f world), paired.inStep]
  cases found : world.things[id]? with
  | none => rw [retouch, found]
  | some thing => exact (ticks_marked found [] (List.forall_mem_nil _) (keeps thing) other).symm

theorem paired_made (paired : world.Paired) (left : world.Affords 1) {thing : Thing}
    (unmarked : thing.ownFlag Property.ticking = false) :
    ((Deed.entered world.info.nextId thing).perform (Deed.allocated.perform world)).Paired := by
  have handed : world.info.nextId < world.info.nextId + 1 := next_is_greater (climbs_next left)
  have below : (Deed.allocated.perform world).Below := fun id held => UInt64.lt_trans (paired.below id held) handed
  refine ⟨fun id => ?_, below_enter below handed⟩
  have told : ((Deed.entered world.info.nextId thing).perform (Deed.allocated.perform world)).subscribed id =
      world.subscribed id := subscribed_congr (reindex_schedule _ _) id
  have marked : ((Deed.entered world.info.nextId thing).perform (Deed.allocated.perform world)).ticks id =
      if world.info.nextId = id then thing.ownFlag Property.ticking else world.ticks id :=
    (ticks_congr (reindex_things _ _) id).trans (ticks_insert world.things rfl id)
  rw [told, marked, unmarked]
  split
  · rename_i same
    exact same ▸ unsubscribed_above paired (UInt64.le_refl _)
  · exact paired.inStep id

theorem paired_vanish (paired : world.Paired) (id : ThingId) : (world.vanish id).Paired := by
  refine ⟨fun other => ?_, below_vanishAll [id] paired.below⟩
  obtain ⟨_, told, marked⟩ := vanish_forgets id other world
  rw [told, marked, paired.inStep]
  by_cases same : id = other
  · by_cases held : world.contains other = true
    · simp [same, held]
    · simp [same, held, Bool.eq_false_iff.mpr fun ticks => held (contains_of_ticks ticks)]
  · simp [same]

section Acts

-- Whatever becomes of the act, while ids are left it hands out so many at most and leaves scheduler and flags in step.
def Pairs (count : Nat) (act : Act α) : Prop :=
  ∀ world : World, world.Paired → world.Affords count →
    (act.run world).2.Paired ∧ (act.run world).2.info.nextId.toNat ≤ world.info.nextId.toNat + count

variable {count : Nat}

theorem pairs_pure (a : α) : Pairs 0 (pure a) :=
  fun _ paired _ => ⟨paired, Nat.le_refl _⟩

theorem pairs_throw (failure : Failure) : Pairs 0 (throw failure : Act α) :=
  fun _ paired _ => ⟨paired, Nat.le_refl _⟩

theorem pairs_bind (used count : Nat) {x : Act α} {f : α → Act β} (first : Pairs used x) (rest : ∀ a, Pairs count (f a)) :
    Pairs (used + count) (x >>= f) := by
  intro world paired left
  obtain ⟨one, most⟩ := first world paired (affords_less left (Nat.le_add_right used count))
  rw [Act.run_bind]
  cases ran : x.run world with
  | mk result mid =>
    rw [ran] at one most
    dsimp only at most
    cases result with
    | ok a =>
      have left' : mid.Affords count := by
        unfold Affords at *
        omega
      obtain ⟨two, most'⟩ := rest a mid one left'
      exact ⟨two, show ((f a).run mid).2.info.nextId.toNat ≤ _ by omega⟩
    | error failure => exact ⟨one, show mid.info.nextId.toNat ≤ _ by omega⟩

theorem pairs_read {f : World → Act β} (rest : ∀ world, Pairs count (f world)) : Pairs count (get >>= f) :=
  fun world paired => rest world world paired

theorem pairs_modify {f : World → World} (each : ∀ world : World, world.Paired → (f world).Paired)
    (next : ∀ world, (f world).info.nextId = world.info.nextId) : Pairs 0 (modify f) :=
  fun world paired _ => ⟨each world paired, Nat.le_of_eq (congrArg UInt64.toNat (next world))⟩

theorem pairs_forM {f : α → Act Unit} {as : List α} (each : ∀ a, Pairs 0 (f a)) : Pairs 0 (as.forM f) := by
  induction as with
  | nil => exact pairs_pure ()
  | cons a rest ih => exact pairs_bind 0 0 (each a) fun _ => ih

theorem pairs_scope {body : Act α} (inner : Pairs count body) : Pairs count body.scope := by
  intro world paired left
  obtain ⟨_, _, _, _, _, _, same, _⟩ := scope_leaves body world
  obtain ⟨ended, most⟩ := inner { world with inScope := true } (paired_congr paired rfl rfl rfl) left
  rw [same]
  exact ⟨paired_congr ended rfl rfl rfl, most⟩

variable {f : Thing → Thing}

theorem pairs_edit (id : ThingId) (keeps : ∀ thing, (f thing).ownFlag Property.ticking = thing.ownFlag Property.ticking) :
    Pairs 0 (edit id f) := by
  intro world paired _
  rw [run_edit]
  split
  · exact ⟨paired_retouch paired id keeps, Nat.le_of_eq (congrArg (fun info => info.nextId.toNat) (retouch_info id f world))⟩
  · exact ⟨paired, Nat.le_refl _⟩

theorem pairs_reindex (id : ThingId) : Pairs 0 (modify (reindex · id)) :=
  pairs_modify (fun _ paired => paired_reindex paired id) fun world => congrArg Info.nextId (reindex_info world id)

theorem pairs_amend (id : ThingId)
    (keeps : ∀ thing, (f thing).ownFlag Property.ticking = thing.ownFlag Property.ticking) : Pairs 0 (amend id f) :=
  pairs_scope (pairs_bind 0 0 (pairs_edit id keeps) fun _ => pairs_reindex id)

theorem pairs_change (id : ThingId) (change : Change) (silent : change.flags Property.ticking = none) :
    Pairs 0 (amend id change.apply) := by
  refine pairs_amend id fun thing => ?_
  rw [Change.ownFlag_apply, silent]
  rfl

theorem pairs_setAssociation (id : ThingId) (relation : String) (target : ThingId) (multi : Bool) :
    Pairs 0 (setAssociation id relation target multi) :=
  pairs_change id (.point relation target multi) rfl

theorem pairs_createBare (prototype place : Option ThingId) : Pairs 1 (createBare prototype place) := by
  refine pairs_scope fun world paired left => ?_
  rw [Act.run_bind, run_allocate]
  refine ⟨paired_made paired left ?_, ?_⟩
  · cases place <;> simp [Thing.fresh, Thing.addEdge, Thing.ownFlag, Thing.own?]
  · refine Nat.le_of_eq ((congrArg (fun info => info.nextId.toNat) (reindex_info _ _)).trans ?_)
    exact toNat_next left

theorem pairs_createFrom (prototype : Option ThingId) (name description : String) :
    Pairs 1 (createFrom prototype name description) := by
  refine pairs_read fun world => pairs_scope (pairs_bind 1 0 (pairs_createBare prototype _) fun id => ?_)
  refine pairs_bind 0 0 (pairs_edit id fun thing => ?_) fun _ => pairs_pure id
  rw [describeNew]
  split <;> simp [Thing.ownFlag_write, Property.name, Property.description, Property.ticking]

theorem pairs_linkRooms (room : ThingId) (thereName : String) (other : ThingId) (backName : String) :
    Pairs 2 (linkRooms room thereName other backName) := by
  refine pairs_read fun world => pairs_scope ?_
  refine pairs_bind 1 1 (pairs_createFrom _ thereName "") fun there => ?_
  refine pairs_bind 1 0 (pairs_createFrom _ backName "") fun back => ?_
  refine pairs_bind 0 0 (pairs_setAssociation there _ _ _) fun _ => ?_
  refine pairs_bind 0 0 (pairs_setAssociation back _ _ _) fun _ => ?_
  refine pairs_bind 0 0 (pairs_setAssociation there _ _ _) fun _ => ?_
  exact pairs_bind 0 0 (pairs_setAssociation back _ _ _) fun _ => pairs_pure _

theorem pairs_setPrototype (id : ThingId) (prototype : Option ThingId) : Pairs 0 (setPrototype id prototype) := by
  refine pairs_read fun world => ?_
  split
  · exact pairs_throw _
  · exact pairs_change id (.inherit prototype) rfl

theorem pairs_release (doomed : IdSet) (limbo id : ThingId) : Pairs 0 (release doomed limbo id) := by
  refine pairs_read fun world => ?_
  split
  · exact pairs_pure ()
  · refine pairs_read fun world => pairs_bind 0 0 (pairs_forM fun content => pairs_setAssociation content _ _ _) fun _ => ?_
    refine pairs_read fun world => pairs_bind 0 0 (pairs_forM fun link => ?_) fun _ => ?_
    · exact pairs_bind 0 0 (pairs_change link (.cut _) rfl) fun _ => pairs_setAssociation link _ _ _
    · exact pairs_read fun world => pairs_forM fun source => pairs_change source (.cut _) rfl

theorem pairs_toast (doomed : IdSet) : Pairs 0 (toast doomed) := by
  refine pairs_read fun world => ?_
  split
  · exact pairs_throw _
  · refine pairs_read fun world => pairs_scope (pairs_bind 0 0 (pairs_forM fun id => pairs_release doomed _ id) fun _ => ?_)
    refine pairs_modify (fun world paired => ?_) fun world => (thinned_vanishAll doomed.toList world).next
    induction doomed.toList generalizing world with
    | nil => exact paired
    | cons id rest ih => exact ih (world.vanish id) (paired_vanish paired id)

theorem pairs_flush : Pairs 0 flush := by
  refine pairs_read fun world => ?_
  split
  · exact pairs_pure _
  · intro world paired _
    have next : ((commit true).run world).2.info.nextId = world.info.nextId :=
      congrArg Info.nextId (commit_info true world)
    exact ⟨paired_congr paired (commit_things true world) (commit_schedule true world) next,
      Nat.le_of_eq (congrArg UInt64.toNat next)⟩

theorem pairs_plant (prototype place : Option ThingId) {properties : List (String × Datum)}
    (unmarked : ∀ written ∈ properties, written.1 ≠ Property.ticking) : Pairs 1 (plant prototype place properties) := by
  refine pairs_bind 1 0 (pairs_createBare prototype place) fun id => pairs_bind 0 0 (pairs_edit id fun thing => ?_) fun _ => ?_
  · have none : (properties.filter fun written => written.1 = Property.ticking) = [] :=
      List.filter_eq_nil_iff.mpr fun written member named => unmarked written member (of_decide_eq_true named)
    exact (ownFlag_dress id properties thing).trans (by rw [none]; rfl)
  · exact pairs_pure id

theorem pairs_plantAll : Pairs 7 plantAll := by
  refine pairs_bind 1 6 (pairs_plant _ _ (by decide)) fun limbo => ?_
  refine pairs_bind 0 6 (pairs_modify (fun _ paired => paired_congr paired rfl rfl rfl) fun _ => rfl) fun _ => ?_
  refine pairs_bind 1 5 (pairs_plant _ _ (by decide)) fun thing => ?_
  refine pairs_bind 1 4 (pairs_plant _ _ (by decide)) fun room => ?_
  refine pairs_bind 1 3 (pairs_plant _ _ (by decide)) fun link => ?_
  refine pairs_bind 1 2 (pairs_plant _ _ (by decide)) fun person => ?_
  refine pairs_bind 1 1 (pairs_plant _ _ (by decide)) fun hall => ?_
  refine pairs_bind 1 0 (pairs_plant _ _ (by decide)) fun lobby => ?_
  refine pairs_bind 0 0 (pairs_forM fun prototype => pairs_setAssociation prototype _ _ _) fun _ => ?_
  exact pairs_modify (fun _ paired => paired_congr paired rfl rfl rfl) fun _ => rfl

theorem paired_seeded {store : Store} {options : Options} (fresh : store.info = none)
    (opened : openOn store options = .ok world) : world.Paired := by
  have blank : (blank store options).Paired := by
    refine ⟨fun id => ?_, fun id held => ?_⟩
    · simp [subscribed, ticks, blank, Schedule.start]
    · simp [contains, blank] at held
  have left : (World.blank store options).Affords 7 := (by decide : (0 : ThingId).toNat + 7 < Text.wordSize)
  have planted := (pairs_scope pairs_plantAll _ blank left).1
  rwa [show plantAll.scope.run _ = _ from seed_ran fresh opened] at planted

end Acts

section Speaking

-- One flag was set and nothing said to the scheduler.
theorem inStep_iff_of_marked (inStep : world.InStep) {id : ThingId} {holds : Bool}
    (schedule : last.schedule = world.schedule)
    (marked : ∀ other, last.ticks other = if id = other then holds else world.ticks other) :
    last.InStep ↔ holds = world.subscribed id := by
  constructor
  · intro after
    have same := after id
    rw [marked, if_pos rfl, subscribed_congr schedule] at same
    exact same.symm
  · intro same other
    rw [subscribed_congr schedule, marked]
    split
    · rename_i named
      rw [same, named]
    · exact inStep other

theorem revision_ran {body : Act α} {id : ThingId} (change : Change) {a : α}
    (does : ∀ world : World, ∃ b, body.run world =
      if world.contains id then (.ok b, world.revise id change.apply) else (.error (missing id), world))
    (ran : body.scope.run world = (.ok a, last)) {holds : Bool} (flags : change.flags Property.ticking = some holds) :
    last.schedule = world.schedule ∧
      ∀ other, last.ticks other = if id = other then holds else world.ticks other := by
  obtain ⟨mid, ran, things, _, schedule⟩ := scope_gave ran
  obtain ⟨b, does⟩ := does { world with inScope := true }
  rw [does] at ran
  split at ran
  · rename_i held
    obtain ⟨thing, found⟩ := some_of_contains held
    cases ran
    refine ⟨?_, fun other => ?_⟩
    · rw [schedule, revise, reindex_schedule, retouch_schedule]
    · rw [ticks_congr things, revise, ticks_congr (reindex_things _ id), ticks_retouch found, Change.ownFlag_apply, flags]
      rfl
  · cases ran

theorem setProperty_marks {id : ThingId} {value : Datum}
    (ran : (setProperty id Property.ticking value).run world = (.ok (), last)) :
    last.schedule = world.schedule ∧
      ∀ other, last.ticks other = if id = other then value.holds else world.ticks other :=
  revision_ran (.write Property.ticking value) (fun world => ⟨(), run_revise id _ () world⟩) ran rfl

theorem unsetProperty_marks {id : ThingId} {old : Option Datum}
    (ran : (unsetProperty id Property.ticking).run world = (.ok old, last)) :
    last.schedule = world.schedule ∧ ∀ other, last.ticks other = if id = other then false else world.ticks other :=
  revision_ran (.erase Property.ticking) (fun world => ⟨_, run_revise id _ _ world⟩) ran rfl

theorem pairs_unsetProperty (id : ThingId) {property : String} (apart : property ≠ Property.ticking) :
    Pairs 0 (unsetProperty id property) := by
  refine pairs_scope (pairs_read fun world => pairs_bind 0 0 (pairs_edit id fun thing => ?_) fun _ => ?_)
  · rw [Thing.ownFlag_erase, if_neg apart]
  · exact pairs_bind 0 0 (pairs_reindex id) fun _ => pairs_pure _

theorem inStep_subscribe {id : ThingId} (inStep : world.InStep) (ran : (subscribeTicks id).run world = (.ok (), last)) :
    last.InStep := by
  obtain ⟨_, mid, ran', ran⟩ := Act.bind_ok ran
  obtain ⟨schedule, marked⟩ := setProperty_marks ran'
  cases ran
  intro other
  refine (subscribed_deed (.paced (.subscribe id)) mid other).trans ?_
  show (if id = other then true else mid.subscribed other) = mid.ticks other
  rw [marked, subscribed_congr schedule, inStep other]
  rfl

theorem inStep_unsubscribe {id : ThingId} (inStep : world.InStep)
    (ran : (unsubscribeTicks id).run world = (.ok (), last)) : last.InStep := by
  obtain ⟨_, mid, ran', ran⟩ := Act.bind_ok ran
  obtain ⟨schedule, marked⟩ := unsetProperty_marks ran'
  cases ran
  intro other
  refine (subscribed_deed (.paced (.unsubscribe id)) mid other).trans ?_
  show (if id = other then false else mid.subscribed other) = mid.ticks other
  rw [marked, subscribed_congr schedule, inStep other]

theorem inStep_iff_of_copied (paired : world.Paired) {members : IdSet} {numbers : Renumbering}
    (copied : Copied members world last numbers) : last.InStep ↔ ∀ old ∈ members, world.ticks old = false := by
  have marked {old new : ThingId} (numbered : numbers[old]? = some new) : last.ticks new = world.ticks old := by
    obtain ⟨thing, found⟩ := some_of_contains ((copied.covers old).mp ⟨new, numbered⟩).2
    rw [ticks, ticks, copied.copies old new thing numbered found, found]
    rfl
  have untold {old new : ThingId} (numbered : numbers[old]? = some new) : last.subscribed new = false :=
    (subscribed_congr copied.schedule new).trans (unsubscribed_above paired (copied.lifts old new numbered))
  constructor
  · intro after old member
    refine Bool.eq_false_iff.mpr fun ticks => ?_
    obtain ⟨new, numbered⟩ := (copied.covers old).mpr ⟨member, contains_of_ticks ticks⟩
    have same := after new
    rw [untold numbered, marked numbered, ticks] at same
    cases same
  · intro unmarked id
    by_cases numbered : ∃ old : ThingId, numbers[old]? = some id
    · obtain ⟨old, numbered⟩ := numbered
      rw [untold numbered, marked numbered, unmarked old ((copied.covers old).mp ⟨id, numbered⟩).1]
    · have kept := copied.others id fun old found => numbered ⟨old, found⟩
      rw [subscribed_congr copied.schedule, paired.inStep, ticks, ticks, kept]

theorem inStep_of_pairs {act : Act α} {count : Nat} (pairs : Pairs count act) (paired : world.Paired)
    (left : world.Affords count) {result : Except Failure α} (ran : act.run world = (result, last)) : last.InStep := by
  have ended := (pairs world paired left).1.inStep
  rwa [ran] at ended

-- An operation that gives a result leaves the two in step unless it speaks to the flags alone.
theorem operation_keeps_inStep_iff {operation : Operation α} (unscripted : operation.scripted = false)
    (paired : world.Paired) (left : world.Affords (operation.takes world)) {a : α}
    (ran : operation.run.run world = some (.ok a, last)) : last.InStep ↔ ¬operation.parts world := by
  have stays {act : Act α} (pairs : Pairs (operation.takes world) act) (ran : (Run.ofAct act).run world = some (.ok a, last))
      (whole : ¬operation.parts world) : last.InStep ↔ ¬operation.parts world :=
    iff_of_true (inStep_of_pairs pairs paired left (Option.some.inj ran)) whole
  have silent (deed : Deed) (allowed : deed.allowed world) (untold : (Moment.did deed).tells world = [])
      (unmarked : (Moment.did deed).marks world = [])
      (ran : (modify deed.perform : Run Unit).run world = some (.ok (), last)) : last.InStep := by
    cases ran
    intro id
    show (deed.perform world).subscribed id = (deed.perform world).ticks id
    rw [subscribed_deed, ticks_deed allowed, untold, unmarked]
    exact paired.inStep id
  have copies {id root : ThingId} (members : IdSet) (left : world.Affords (world.present members).size)
      (ran : (copySet id members).run world = (.ok root, last)) : last.InStep ↔ ¬∃ old ∈ members, world.ticks old = true := by
    obtain ⟨numbers, copied, _⟩ := copySet_copies paired.below left ran
    rw [inStep_iff_of_copied paired copied]
    simp
  cases operation with
  | create name description => exact stays (pairs_read fun _ => pairs_createFrom _ name description) ran not_false
  | createFrom prototype name description => exact stays (pairs_createFrom prototype name description) ran not_false
  | linkRooms room thereName other backName => exact stays (pairs_linkRooms room thereName other backName) ran not_false
  | setProperty id property value =>
    by_cases named : property = Property.ticking
    · subst named
      obtain ⟨schedule, marked⟩ := setProperty_marks (Option.some.inj ran)
      rw [inStep_iff_of_marked paired.inStep schedule marked]
      simp [Operation.parts]
    · refine stays (pairs_change id (.write property value) ?_) ran fun parts => named parts.1
      rw [Change.flags, if_neg named]
  | unsetProperty id property =>
    by_cases named : property = Property.ticking
    · subst named
      obtain ⟨schedule, marked⟩ := unsetProperty_marks (Option.some.inj ran)
      rw [inStep_iff_of_marked paired.inStep schedule marked]
      simp [Operation.parts]
    · exact stays (pairs_unsetProperty id named) ran fun parts => named parts.1
  | setPrototype id prototype => exact stays (pairs_setPrototype id prototype) ran not_false
  | setAssociation id relation target multi => exact stays (pairs_setAssociation id relation target multi) ran not_false
  | dissociate id relation target => exact stays (pairs_change id (.cut _) rfl) ran not_false
  | dissociateAll id relation => exact stays (pairs_change id (.cut _) rfl) ran not_false
  | dissociateFrom id target => exact stays (pairs_change id (.cut _) rfl) ran not_false
  | setLocation id place => exact stays (pairs_setAssociation id _ place _) ran not_false
  | copy id => exact copies _ left ((run_copy id world).symm.trans (Option.some.inj ran))
  | copySet id members => exact copies members left (Option.some.inj ran)
  | toast doomed => exact stays (pairs_toast doomed) ran not_false
  | subscribeTicks id => exact iff_of_true (inStep_subscribe paired.inStep (Option.some.inj ran)) not_false
  | unsubscribeTicks id => exact iff_of_true (inStep_unsubscribe paired.inStep (Option.some.inj ran)) not_false
  | attach id listener => exact iff_of_true (silent (.attached id listener) trivial rfl rfl ran) not_false
  | detach id => exact iff_of_true (silent (.detached id) trivial rfl rfl ran) not_false
  | setClockRunning running => exact iff_of_true (silent (.ran running) trivial rfl rfl ran) not_false
  | setClockInterval interval => exact iff_of_true (silent (.rated interval) trivial rfl rfl ran) not_false
  | flush => exact stays pairs_flush ran not_false
  | touch id => exact iff_of_true (silent (.touched id) trivial rfl rfl ran) not_false
  | tell id line => exact iff_of_true (silent (.told id line) trivial rfl rfl ran) not_false
  | _ => cases unscripted

end Speaking

-- In a new world scheduler and flags are in step, and later on each is what was said to it last, whatever was done. The
-- next one to open the store has the flags, so the same things are told of ticks just where the two were in step; and an
-- operation that gives a result brings them out of step just if it speaks to the flags alone.
theorem silent_marks_wait_for_reopening {store : Store} {options : Options} {start : World} (empty : store.Empty)
    (accepts : ∀ asked call, store.refuses asked call = false) (opened : openOn store options = .ok start)
    {hand : Bool} {steps : Run α} (built : Built hand steps) {result : Except Failure α}
    (ran : steps.run start = some (result, last)) :
    start.InStep ∧
    (∃ moments, Unfolds steps start moments result last ∧ ∀ deed, .did deed ∈ moments → deed.later) ∧
    (∀ moments, Unfolds steps start moments result last → (start.Ascends moments → last.Below) ∧
      (∀ id, last.subscribed id = latest (start.report Moment.tells moments) id (start.ticks id) ∧
        last.ticks id = latest (start.report Moment.marks moments) id (start.ticks id)) ∧
      ((∀ deed, .did deed ∈ moments → deed.later) → Heeds (fun world moment => moment.clean world) start moments →
        last.Fits → ∃ stats flushed, flush.run last = (.ok stats, flushed) ∧
          ∀ options', ∃ again, openOn flushed.store options' = .ok again ∧ again.InStep ∧
            (∀ id, again.ticks id = last.ticks id) ∧
            (again.schedule.subscribers = last.schedule.subscribers ↔ last.InStep))) ∧
    (last.Below → last.InStep → ∀ {β : Type} (operation : Operation β) (b : β) (next : World),
      operation.scripted = false → last.Affords (operation.takes last) → operation.run.run last = some (.ok b, next) →
        (next.InStep ↔ ¬operation.parts last)) := by
  have paired := paired_seeded empty.1 opened
  obtain ⟨tended, outside⟩ := tended_seeded empty accepts opened
  obtain ⟨moments, unfolds, within⟩ := charted_built built start result last ran
  refine ⟨paired.inStep, ⟨moments, unfolds, fun deed member => deed.later_of_within (within deed member)⟩, ?_, ?_⟩
  · intro moments unfolds
    obtain ⟨rfl, permitted, scope⟩ := unfolds_replay unfolds
    refine ⟨fun ascends => below_replay paired.below ascends (unfolds_hands unfolds),
      fun id => ⟨?_, ticks_replay permitted id⟩, fun later clean fits => ?_⟩
    · rw [subscribed_replay permitted, paired.inStep]
    · have tended := tended_replay tended permitted later clean
      obtain ⟨stats, flushed, ended, _, _, recorded, found⟩ := flushed_restored tended (scope.trans outside) fits
      refine ⟨stats, flushed, ended, fun options' => ?_⟩
      obtain ⟨again, reopened, things, _⟩ := found options'
      obtain ⟨pending, tracked⟩ := tended.tracked
      have keyed : Index.Keyed again.things := by
        rw [things]
        exact tracked.keyed
      have inStep := inStep_loaded recorded reopened keyed
      refine ⟨again, reopened, inStep, ticks_congr things, ?_⟩
      constructor
      · intro same id
        rw [← ticks_congr things, ← inStep id, subscribed, subscribed, same]
      · intro inStep'
        refine Std.ExtTreeSet.ext_contains fun id => ?_
        exact (inStep id).trans ((ticks_congr things id).trans (inStep' id).symm)
  · exact fun below inStep β operation b next unscripted left ran =>
      operation_keeps_inStep_iff unscripted ⟨inStep, below⟩ left ran

-- The lobby is made to say that it is told of ticks, and is not, until the store is opened again.
theorem marked_lobby_waits :
    ∃ start last stats flushed, openOn .inMemory ⟨"new", .standard, 1000, fun _ => 0⟩ = .ok start ∧
      (setProperty start.info.lobby Property.ticking (.flag true)).run start = (.ok (), last) ∧ ¬last.InStep ∧
      flush.run last = (.ok stats, flushed) ∧
      ∀ options, ∃ again, openOn flushed.store options = .ok again ∧ again.InStep ∧
        again.schedule.subscribers ≠ last.schedule.subscribers := by
  have opens : opensTo .inMemory ⟨"new", .standard, 1000, fun _ => 0⟩ (fun start =>
      decide (start.contains start.info.lobby = true ∧ start.subscribed start.info.lobby = false ∧
        ((setProperty start.info.lobby Property.ticking (.flag true)).run start).1.isOk = true ∧
        ((setProperty start.info.lobby Property.ticking (.flag true)).run start).2.Fits)) = true := by decide +kernel
  obtain ⟨start, opened, checked⟩ := opensTo_iff.mp opens
  obtain ⟨present, untold, kept, fits⟩ := of_decide_eq_true checked
  have accepts : ∀ asked call, Store.inMemory.refuses asked call = false := fun _ _ => rfl
  have outside := (tended_seeded Store.empty_inMemory accepts opened).2
  obtain ⟨result, last, unfolds⟩ := unfolds_setProperty outside present Property.ticking (.flag true)
  have ran := unfolds_ran unfolds
  have ran' : (setProperty start.info.lobby Property.ticking (.flag true)).run start = (result, last) :=
    Option.some.inj ran
  rw [ran'] at kept fits
  cases result with
  | error failure => cases kept
  | ok =>
    have built : Built false (Operation.setProperty start.info.lobby Property.ticking (.flag true)).run :=
      .calls _ fun byHand => nomatch byHand
    -- Nothing has happened yet when the flag is written.
    have idle : Built false (Run.ofExcept (.ok ()) : Run Unit) := .gives _
    obtain ⟨inStep, _, courses, each⟩ := silent_marks_wait_for_reopening Store.empty_inMemory accepts opened idle rfl
    have parts : (Operation.setProperty start.info.lobby Property.ticking (.flag true)).parts start :=
      ⟨rfl, by rw [untold]; decide⟩
    have below := (courses [] (.still rfl)).1 trivial
    have left : start.Affords 0 := start.info.nextId.toNat_lt
    have apart : ¬last.InStep := fun after => (each below inStep (.setProperty start.info.lobby Property.ticking (.flag true)) () last rfl left ran).mp after parts
    obtain ⟨_, _, courses, _⟩ := silent_marks_wait_for_reopening Store.empty_inMemory accepts opened built ran
    obtain ⟨stats, flushed, ended, found⟩ :=
      (courses _ unfolds).2.2 (by simp [Deed.later]) (by simp [Heeds, Moment.clean]) fits
    refine ⟨start, last, stats, flushed, opened, ran', apart, ended, fun options => ?_⟩
    obtain ⟨again, reopened, inStep, _, same⟩ := found options
    exact ⟨again, reopened, inStep, fun told => apart (same.mp told)⟩

end World
end ThingWorld
