import ThingWorld.Proofs.Upkeep.Reopening
namespace ThingWorld

namespace Moment

-- What is said to the scheduler: who is told of ticks from now on, and who is not.
def tells (moment : Moment) (world : World) : List (ThingId × Bool) :=
  match moment with
  | did (.paced (.subscribe id)) => [(id, true)]
  | did (.paced (.unsubscribe id)) => [(id, false)]
  | did (.vanished ids) => (ids.filter world.contains).map fun id => (id, false)
  | _ => []

-- What things are made to say of themselves.
def marks (moment : Moment) (world : World) : List (ThingId × Bool) :=
  match moment with
  | did (.revised id change) => (change.flags Property.ticking).toList.map fun holds => (id, holds)
  | did (.dressed id properties) =>
    (properties.filter fun written => written.1 = Property.ticking).map fun written => (id, written.2.holds)
  | did (.edited id f) => world.things[id]?.toList.map fun thing => (id, (f thing).ownFlag Property.ticking)
  | did (.entered id thing) => [(id, thing.ownFlag Property.ticking)]
  | did (.vanished ids) => (ids.filter world.contains).map fun id => (id, false)
  | _ => []

end Moment

-- What was said of an id last, or else what was so before.
def latest (said : List (ThingId × Bool)) (id : ThingId) (before : Bool) : Bool :=
  said.foldl (fun before (other, now) => if other = id then now else before) before

namespace World

def subscribed (world : World) (id : ThingId) : Bool :=
  world.schedule.subscribers.contains id

-- The thing of that id says of itself that it is told of ticks.
def ticks (world : World) (id : ThingId) : Bool :=
  world.things[id]?.any fun thing => thing.ownFlag Property.ticking

def InStep (world : World) : Prop :=
  ∀ id, world.subscribed id = world.ticks id

-- All that is said on a course of moments, in its order.
def report (speech : Moment → World → List (ThingId × Bool)) (world : World) : List Moment → List (ThingId × Bool)
  | [] => []
  | moment :: rest => speech moment world ++ report speech (moment.perform world) rest

variable {world : World}

theorem latest_append (first rest : List (ThingId × Bool)) (id : ThingId) (before : Bool) :
    latest (first ++ rest) id before = latest rest id (latest first id before) :=
  List.foldl_append

theorem latest_one (other id : ThingId) (now before : Bool) :
    latest [(other, now)] id before = if other = id then now else before := rfl

theorem latest_elsewhere {said : List (ThingId × Bool)} {id : ThingId} (apart : ∀ entry ∈ said, entry.1 ≠ id) :
    ∀ before, latest said id before = before := by
  induction said with
  | nil => exact fun before => rfl
  | cons entry rest ih =>
    intro before
    rw [← List.singleton_append, latest_append, ih fun other member => apart other (List.mem_cons_of_mem _ member),
      latest_one, if_neg (apart entry List.mem_cons_self)]

theorem latest_gone (ids : List ThingId) (id : ThingId) : ∀ before,
    latest (ids.map fun id => (id, false)) id before = if id ∈ ids then false else before := by
  induction ids with
  | nil => simp [latest]
  | cons other rest ih =>
    intro before
    rw [List.map_cons, ← List.singleton_append, latest_append, ih, latest_one]
    by_cases same : other = id
    · simp [same]
    · simp [same, Ne.symm same]

theorem reindex_schedule (world : World) (id : ThingId) : (world.reindex id).schedule = world.schedule := by
  obtain ⟨_, same⟩ := reindex_same world id
  rw [same]

theorem retouch_schedule (id : ThingId) (f : Thing → Thing) (world : World) :
    (world.retouch id f).schedule = world.schedule := by
  obtain ⟨_, _, same⟩ := retouch_same id f world
  rw [same]

theorem ticks_congr {world' : World} (things : world'.things = world.things) (id : ThingId) :
    world'.ticks id = world.ticks id := by
  rw [ticks, ticks, things]

theorem subscribed_congr {world' : World} (schedule : world'.schedule = world.schedule) (id : ThingId) :
    world'.subscribed id = world.subscribed id := by
  rw [subscribed, subscribed, schedule]

theorem inStep_congr {world' : World} (inStep : world.InStep) (things : world'.things = world.things)
    (schedule : world'.schedule = world.schedule) : world'.InStep :=
  fun id => (subscribed_congr schedule id).trans ((inStep id).trans (ticks_congr things id).symm)

theorem ownFlag_dress (id : ThingId) (properties : List (String × Datum)) : ∀ thing : Thing,
    (dress properties thing).ownFlag Property.ticking =
      latest ((properties.filter fun written => written.1 = Property.ticking).map fun written => (id, written.2.holds)) id
        (thing.ownFlag Property.ticking) := by
  induction properties with
  | nil => exact fun thing => rfl
  | cons written rest ih =>
    intro thing
    rw [dress, List.foldl_cons]
    refine (ih _).trans ?_
    rw [Thing.ownFlag_write, List.filter_cons]
    by_cases named : written.1 = Property.ticking
    · simp [named, latest]
    · simp [named]

section Things

theorem ticks_insert (things : Std.ExtTreeMap ThingId Thing) {id : ThingId} {thing : Thing}
    (placed : world.things = things.insert id thing) (other : ThingId) : world.ticks other =
      if id = other then thing.ownFlag Property.ticking
      else things[other]?.any fun thing : Thing => thing.ownFlag Property.ticking := by
  rw [ticks, placed, Std.ExtTreeMap.getElem?_insert]
  simp only [Std.LawfulEqCmp.compare_eq_iff_eq]
  split <;> rfl

theorem ticks_retouch {id : ThingId} {thing : Thing} (found : world.things[id]? = some thing) (f : Thing → Thing)
    (other : ThingId) :
    (world.retouch id f).ticks other = if id = other then (f thing).ownFlag Property.ticking else world.ticks other := by
  have placed : (world.retouch id f).things = world.things.insert id (f thing) := by
    rw [retouch, found]
    rfl
  exact ticks_insert world.things placed other

-- A thing that is there says what it was last made to say.
theorem ticks_marked {id : ThingId} {thing : Thing} (found : world.things[id]? = some thing) {f : Thing → Thing}
    (said : List (ThingId × Bool)) (own : ∀ entry ∈ said, entry.1 = id)
    (marks : (f thing).ownFlag Property.ticking = latest said id (thing.ownFlag Property.ticking)) (other : ThingId) :
    (world.retouch id f).ticks other = latest said other (world.ticks other) := by
  rw [ticks_retouch found]
  by_cases same : id = other
  · subst same
    rw [if_pos rfl, marks, ticks, found]
    rfl
  · rw [if_neg same, latest_elsewhere]
    exact fun entry member named => same ((own entry member).symm.trans named)

theorem contains_of_ticks {id : ThingId} (ticks : world.ticks id = true) : world.contains id = true := by
  rw [World.ticks] at ticks
  cases found : world.things[id]? with
  | none =>
    rw [found] at ticks
    cases ticks
  | some thing => exact contains_of_some found

theorem vanish_forgets (id other : ThingId) (world : World) :
    (world.vanish id).contains other = (if id = other then false else world.contains other) ∧
      (world.vanish id).subscribed other =
        (if id = other ∧ world.contains other = true then false else world.subscribed other) ∧
      (world.vanish id).ticks other = if id = other then false else world.ticks other := by
  have absent (unheld : ¬world.contains other = true) : world.ticks other = false :=
    Bool.eq_false_iff.mpr fun ticks => unheld (contains_of_ticks ticks)
  rw [vanish]
  split
  · rename_i held
    refine ⟨?_, ?_, ?_⟩
    · rw [contains, reindex_things]
      show (world.things.erase id).contains other = _
      rw [Std.ExtTreeMap.contains_erase]
      by_cases same : id = other <;> simp [same, contains]
    · rw [subscribed, reindex_schedule]
      show (world.schedule.subscribers.erase id).contains other = _
      rw [Std.ExtTreeSet.contains_erase]
      by_cases same : id = other
      · subst same
        simp [held]
      · simp [same, subscribed]
    · rw [ticks, reindex_things]
      show (world.things.erase id)[other]?.any _ = _
      rw [Std.ExtTreeMap.getElem?_erase]
      by_cases same : id = other <;> simp [same, ticks]
  · rename_i unheld
    by_cases same : id = other
    · subst same
      simp [unheld, absent unheld]
    · simp [same]

theorem vanishAll_forgets (ids : List ThingId) (other : ThingId) : ∀ world : World,
    (ids.foldl vanish world).subscribed other =
        (if other ∈ ids ∧ world.contains other = true then false else world.subscribed other) ∧
      (ids.foldl vanish world).ticks other = if other ∈ ids then false else world.ticks other := by
  induction ids with
  | nil => exact fun world => ⟨by simp, by simp⟩
  | cons id rest ih =>
    intro world
    obtain ⟨held, told, marked⟩ := vanish_forgets id other world
    obtain ⟨told', marked'⟩ := ih (world.vanish id)
    rw [List.foldl_cons, told', marked', held, told, marked]
    by_cases same : id = other
    · subst same
      simp
    · simp [same, Ne.symm same]

end Things

section Moments

variable {deed : Deed}

theorem deed_schedule (unpaced : ∀ pace, deed ≠ .paced pace) (stays : ∀ ids, deed ≠ .vanished ids) (world : World) :
    (deed.perform world).schedule = world.schedule := by
  cases deed with
  | revised id change => exact (reindex_schedule _ id).trans (retouch_schedule id change.apply world)
  | dressed id properties => exact retouch_schedule id (dress properties) world
  | edited id f => exact retouch_schedule id f world
  | entered id thing => exact reindex_schedule _ id
  | vanished ids => exact absurd rfl (stays ids)
  | rated interval =>
    rcases rate_same interval world with same | ⟨rate, same⟩ <;> rw [Deed.perform, same]
  | told id line =>
    obtain ⟨heard, same⟩ := tell_same id line world
    rw [Deed.perform, same]
  | paced pace => exact absurd rfl (unpaced pace)
  | flushed => exact commit_schedule true world
  | _ => rfl

theorem subscribed_deed (deed : Deed) (world : World) (id : ThingId) :
    (deed.perform world).subscribed id = latest ((Moment.did deed).tells world) id (world.subscribed id) := by
  by_cases paced : ∃ pace, deed = .paced pace
  · obtain ⟨pace, rfl⟩ := paced
    cases pace with
    | subscribe other =>
      show (world.schedule.subscribers.insert other).contains id = _
      rw [Std.ExtTreeSet.contains_insert]
      by_cases same : other = id <;> simp [same, Moment.tells, latest, subscribed]
    | unsubscribe other =>
      show (world.schedule.subscribers.erase other).contains id = _
      rw [Std.ExtTreeSet.contains_erase]
      by_cases same : other = id <;> simp [same, Moment.tells, latest, subscribed]
    | _ => rfl
  · by_cases vanished : ∃ ids, deed = .vanished ids
    · obtain ⟨ids, rfl⟩ := vanished
      rw [Moment.tells, latest_gone]
      simp only [List.mem_filter]
      exact (vanishAll_forgets ids id world).1
    · have silent : (Moment.did deed).tells world = [] := by
        cases deed with
        | paced pace => exact absurd ⟨pace, rfl⟩ paced
        | vanished ids => exact absurd ⟨ids, rfl⟩ vanished
        | _ => rfl
      rw [silent]
      exact subscribed_congr (deed_schedule (fun pace same => paced ⟨pace, same⟩)
        (fun ids same => vanished ⟨ids, same⟩) world) id

theorem subscribed_moment (moment : Moment) (world : World) (id : ThingId) :
    (moment.perform world).subscribed id = latest (moment.tells world) id (world.subscribed id) := by
  cases moment with
  | did deed => exact subscribed_deed deed world id
  | opened => rfl
  | ended kept => exact subscribed_congr (commit_schedule kept _) id

theorem ticks_deed (allowed : deed.allowed world) (id : ThingId) :
    (deed.perform world).ticks id = latest ((Moment.did deed).marks world) id (world.ticks id) := by
  cases handled : deed.handles with
  | false =>
    have silent : (Moment.did deed).marks world = [] := by
      cases deed <;> first | rfl | cases handled
    rw [silent]
    exact ticks_congr (deed_apart handled world).1 id
  | true =>
    cases deed with
    | revised other change =>
      obtain ⟨thing, found⟩ := some_of_contains allowed.1
      rw [Deed.perform, revise, ticks_congr (reindex_things _ other)]
      refine ticks_marked found _ ?_ ?_ id
      · intro entry member
        obtain ⟨holds, _, rfl⟩ := List.mem_map.mp member
        rfl
      · rw [Change.ownFlag_apply, Moment.marks]
        cases change.flags Property.ticking <;> simp [latest]
    | dressed other properties =>
      obtain ⟨thing, found⟩ := some_of_contains allowed.1
      exact ticks_marked found _ (by simp) (ownFlag_dress other properties thing) id
    | edited other f =>
      obtain ⟨thing, found⟩ := some_of_contains allowed.1
      exact ticks_marked found _ (by simp [Moment.marks]) (by simp [Moment.marks, found, latest]) id
    | touched other => rfl
    | entered other thing =>
      rw [Deed.perform, ticks_congr (reindex_things _ other)]
      exact ticks_insert world.things rfl id
    | vanished ids =>
      rw [Deed.perform, (vanishAll_forgets ids id world).2, Moment.marks, latest_gone]
      by_cases held : world.contains id = true
      · simp [held]
      · simp [held, Bool.eq_false_iff.mpr fun ticks => held (contains_of_ticks ticks)]
    | flushed => exact ticks_congr (commit_things true world) id
    | _ => cases handled

theorem ticks_moment (moment : Moment) (allowed : moment.allowed world) (id : ThingId) :
    (moment.perform world).ticks id = latest (moment.marks world) id (world.ticks id) := by
  cases moment with
  | did deed => exact ticks_deed allowed id
  | opened => rfl
  | ended kept => exact ticks_congr (commit_things kept _) id

theorem latest_replay {speech : Moment → World → List (ThingId × Bool)} {shows : World → ThingId → Bool}
    (step : ∀ (world : World) (moment : Moment), moment.allowed world → ∀ id,
      shows (moment.perform world) id = latest (speech moment world) id (shows world id)) {moments : List Moment} :
    ∀ {world : World}, world.Permits moments → ∀ id,
      shows (world.replay moments) id = latest (world.report speech moments) id (shows world id) := by
  induction moments with
  | nil => exact fun _ id => rfl
  | cons moment rest ih =>
    intro world permitted id
    rw [report, latest_append, ← step world moment permitted.1]
    exact ih permitted.2 id

variable {moments : List Moment}

theorem subscribed_replay (permitted : world.Permits moments) (id : ThingId) :
    (world.replay moments).subscribed id = latest (world.report Moment.tells moments) id (world.subscribed id) :=
  latest_replay (fun world moment _ => subscribed_moment moment world) permitted id

theorem ticks_replay (permitted : world.Permits moments) (id : ThingId) :
    (world.replay moments).ticks id = latest (world.report Moment.marks moments) id (world.ticks id) :=
  latest_replay (fun _ moment allowed => ticks_moment moment allowed) permitted id

end Moments

section Loading

variable {store : Store} {options : Options}

theorem subscribed_foldl (things : List Thing) (id : ThingId) : ∀ schedule : Schedule,
    (things.foldl (fun schedule thing => schedule.subscribe thing.id) schedule).subscribers.contains id =
      (schedule.subscribers.contains id || things.any fun thing => thing.id == id) := by
  induction things with
  | nil => simp
  | cons thing rest ih =>
    intro schedule
    have named : (compare thing.id id == .eq) = (thing.id == id) := by
      rw [Bool.eq_iff_iff]
      simp
    rw [List.foldl_cons, ih, List.any_cons, ← Bool.or_assoc, Schedule.subscribe, Std.ExtTreeSet.contains_insert,
      Bool.or_comm (compare thing.id id == .eq), named]

theorem inStep_loaded {bytes : Bytes} (recorded : store.info = some bytes) (opened : openOn store options = .ok world)
    (keyed : Index.Keyed world.things) : world.InStep := by
  obtain ⟨info, loaded, _, _, resumed⟩ := loads_of_opened recorded opened
  intro id
  have schedule : world.subscribed id =
      (world.things.values.filter fun thing => thing.ownFlag Property.ticking).any fun thing => thing.id == id := by
    rw [subscribed, resumed, resume]
    exact (subscribed_foldl _ id _).trans (by simp [blank, Schedule.start])
  rw [schedule, Bool.eq_iff_iff, List.any_eq_true, ticks, Option.any_eq_true]
  constructor
  · rintro ⟨thing, listed, named⟩
    obtain ⟨among, flagged⟩ := List.mem_filter.mp listed
    obtain ⟨key, found⟩ := (Index.mem_values _ thing).mp among
    have same : key = id := (keyed key thing found).symm.trans (beq_iff_eq.mp named)
    exact ⟨thing, same ▸ found, flagged⟩
  · rintro ⟨thing, found, flagged⟩
    refine ⟨thing, List.mem_filter.mpr ⟨(Index.mem_values _ thing).mpr ⟨id, found⟩, flagged⟩, ?_⟩
    exact beq_iff_eq.mpr (keyed id thing found)

end Loading

end World
end ThingWorld
