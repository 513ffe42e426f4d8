import ThingWorld.Proofs.Course.Commit
import ThingWorld.World.Open
import ThingWorld.World.Toast
namespace ThingWorld

inductive Change where
  | write (property : String) (value : Datum)
  | erase (property : String)
  | point (relation : String) (target : ThingId) (multi : Bool)
  | cut (keep : Edge → Bool)
  | inherit (prototype : Option ThingId)

def Change.apply (change : Change) (thing : Thing) : Thing :=
  match change with
  | write property value => thing.write property value
  | erase property => thing.erase property
  | point relation target multi =>
    let thing := if multi then thing else thing.keepEdges fun edge => edge.property != relation
    thing.addEdge ⟨relation, target⟩
  | cut keep => thing.keepEdges keep
  | inherit prototype => { thing with prototype := prototype }

-- What a change says of the own flag of that name, if anything.
def Change.flags (change : Change) (property : String) : Option Bool :=
  match change with
  | write other value => if other = property then some value.holds else none
  | erase other => if other = property then some false else none
  | _ => none

theorem Thing.ownFlag_write (thing : Thing) (property other : String) (value : Datum) :
    (thing.write other value).ownFlag property = if other = property then value.holds else thing.ownFlag property := by
  rw [Thing.ownFlag, Thing.own?, Thing.write, Std.ExtTreeMap.getElem?_insert]
  simp only [Std.LawfulEqCmp.compare_eq_iff_eq]
  split <;> rfl

theorem Thing.ownFlag_erase (thing : Thing) (property other : String) :
    (thing.erase other).ownFlag property = if other = property then false else thing.ownFlag property := by
  rw [Thing.ownFlag, Thing.own?, Thing.erase, Std.ExtTreeMap.getElem?_erase]
  simp only [Std.LawfulEqCmp.compare_eq_iff_eq]
  split <;> rfl

theorem Change.ownFlag_apply (change : Change) (thing : Thing) (property : String) :
    (change.apply thing).ownFlag property = (change.flags property).getD (thing.ownFlag property) := by
  cases change with
  | write other value =>
    rw [Change.apply, Thing.ownFlag_write, Change.flags]
    split <;> rfl
  | erase other =>
    rw [Change.apply, Thing.ownFlag_erase, Change.flags]
    split <;> rfl
  | point relation target multi => cases multi <;> rfl
  | cut keep => rfl
  | inherit prototype => rfl

inductive Pace where
  | subscribe (id : ThingId)
  | unsubscribe (id : ThingId)
  | claim (id : ThingId)
  | park (id : ThingId) (event : Event)
  | startCheck (id : ThingId)
  | endCheck (id : ThingId)
  | advance

def Pace.apply (pace : Pace) (schedule : Schedule) : Schedule :=
  match pace with
  | subscribe id => schedule.subscribe id
  | unsubscribe id => schedule.unsubscribe id
  | claim id => schedule.claim id
  | park id event => schedule.park id event
  | startCheck id => schedule.startCheck id
  | endCheck id => schedule.endCheck id
  | advance => schedule.advance.2

inductive Deed where
  -- An own value, an edge or the prototype is changed, and the index follows at once.
  | revised (id : ThingId) (change : Change)
  -- Values that the index does not look at are given to a thing that was just made.
  | dressed (id : ThingId) (properties : List (String × Datum))
  -- A thing is changed by hand; the index follows with the next commit.
  | edited (id : ThingId) (f : Thing → Thing)
  -- The next commit is to look at an id, whether there is a thing or not.
  | touched (id : ThingId)
  | allocated
  | entered (id : ThingId) (thing : Thing)
  | vanished (ids : List ThingId)
  | limboed (limbo : ThingId)
  | founded (hall lobby : ThingId) (prototypes : List (String × ThingId))
  | noted
  | rated (interval : UInt64)
  | ran (running : Bool)
  | told (id : ThingId) (line : String)
  | attached (id : ThingId) (listener : Listener)
  | detached (id : ThingId)
  | paced (pace : Pace)
  | versioned
  | rolled
  -- A commit that no scope asked for.
  | flushed

namespace World

-- Touches a thing and changes it, if there is one; the index follows later.
def retouch (id : ThingId) (f : Thing → Thing) (world : World) : World :=
  match world.things[id]? with
  | some thing => (world.touch id).place id (f thing)
  | none => world

-- The same, and the index follows at once.
def revise (id : ThingId) (f : Thing → Thing) (world : World) : World :=
  (world.retouch id f).reindex id

def dress (properties : List (String × Datum)) (thing : Thing) : Thing :=
  properties.foldl (fun thing (property, value) => thing.write property value) thing

def roll (world : World) : World :=
  { world with thrown := world.thrown + 1 }

def note (world : World) : World :=
  { world with infoDirty := true }

def pace (pace : Pace) (world : World) : World :=
  { world with schedule := pace.apply world.schedule }

end World

namespace Deed

def perform (deed : Deed) (world : World) : World :=
  match deed with
  | revised id change => world.revise id change.apply
  | dressed id properties => world.retouch id (World.dress properties)
  | edited id f => world.retouch id f
  | touched id => world.touch id
  | allocated => { world with info := { world.info with nextId := world.info.nextId + 1 }, infoDirty := true }
  | entered id thing => ((world.place id thing).touch id).reindex id
  | vanished ids => ids.foldl World.vanish world
  | limboed limbo => world.setLimbo limbo
  | founded hall lobby prototypes => world.setFoundation hall lobby prototypes
  | noted => world.note
  | rated interval => world.setClockInterval interval
  | ran running => world.setClockRunning running
  | told id line => world.tell id line
  | attached id listener => world.attach id listener
  | detached id => world.detach id
  | paced pace => world.pace pace
  | versioned => world.nextVersion
  | rolled => world.roll
  | flushed => ((World.commit true).run world).2

-- What every place that does the deed has made sure of.
def allowed (deed : Deed) (world : World) : Prop :=
  match deed with
  | revised id change =>
    world.contains id = true ∧
      ∀ prototype, change = .inherit (some prototype) → world.prototypeRefusal id prototype = none
  | dressed id properties =>
    world.contains id = true ∧ ∀ written ∈ properties, written.1 ≠ Property.everywhere
  | edited id f =>
    world.contains id = true ∧ ∀ thing, (f thing).id = thing.id ∧ (f thing).schema = thing.schema
  | entered id thing =>
    thing.id = id ∧
      (thing.schema = Thing.currentSchema ∨
        ∃ (old : ThingId) (source : Thing), world.things[old]? = some source ∧ source.schema = thing.schema)
  | vanished ids => ∀ id ∈ ids, world.isWellKnown id = false
  | limboed limbo => world.contains limbo = true
  | founded hall lobby prototypes =>
    world.contains hall = true ∧ world.contains lobby = true ∧
      ∀ named ∈ prototypes, world.contains named.2 = true
  | flushed => world.inScope = false
  | _ => True

-- What is done to things, or to the index because of them.
def handles : Deed → Bool
  | revised _ _ => true
  | dressed _ _ => true
  | edited _ _ => true
  | touched _ => true
  | entered _ _ => true
  | vanished _ => true
  | flushed => true
  | _ => false

-- What is noted down in the world record.
def records : Deed → Bool
  | allocated => true
  | limboed _ => true
  | founded _ _ _ => true
  | noted => true
  | rated _ => true
  | _ => false

end Deed

namespace World

-- What deeds change that touch neither the world record nor the store.
def Turned (world world' : World) : Prop :=
  ∃ things index dirty listeners heard schedule version running thrown, world' =
    { world with
      things := things, index := index, dirty := dirty, listeners := listeners, heard := heard, schedule := schedule,
      version := version, clockRunning := running, thrown := thrown }

variable {world : World}

theorem turned_refl (world : World) : Turned world world := ⟨_, _, _, _, _, _, _, _, _, rfl⟩

theorem turned_trans {mid last : World} (first : Turned world mid) (rest : Turned mid last) : Turned world last := by
  obtain ⟨_, _, _, _, _, _, _, _, _, rfl⟩ := first
  obtain ⟨_, _, _, _, _, _, _, _, _, rfl⟩ := rest
  exact ⟨_, _, _, _, _, _, _, _, _, rfl⟩

theorem turned_reindex (world : World) (id : ThingId) : Turned world (world.reindex id) := by
  obtain ⟨index, same⟩ := reindex_same world id
  exact ⟨_, _, _, _, _, _, _, _, _, same⟩

theorem retouch_same (id : ThingId) (f : Thing → Thing) (world : World) :
    ∃ things dirty, world.retouch id f = { world with things := things, dirty := dirty } := by
  rw [retouch]
  split <;> exact ⟨_, _, rfl⟩

theorem retouch_info (id : ThingId) (f : Thing → Thing) (world : World) : (world.retouch id f).info = world.info := by
  obtain ⟨things, dirty, same⟩ := retouch_same id f world
  rw [same]

theorem revise_same (id : ThingId) (f : Thing → Thing) (world : World) :
    ∃ things index dirty, world.revise id f = { world with things := things, index := index, dirty := dirty } := by
  obtain ⟨index, same⟩ := reindex_same (world.retouch id f) id
  obtain ⟨things, dirty, same'⟩ := retouch_same id f world
  rw [revise, same, same']
  exact ⟨things, index, dirty, rfl⟩

theorem revise_things (id : ThingId) (f : Thing → Thing) (world : World) (other : ThingId) :
    (world.revise id f).things[other]? = world.things[other]?.map fun thing => if other = id then f thing else thing := by
  rw [revise, reindex_things, retouch]
  cases found : world.things[id]? with
  | none =>
    by_cases same : other = id
    · subst same
      simp [found]
    · simp [same]
  | some thing =>
    show (world.things.insert id (f thing))[other]? = _
    rw [Std.ExtTreeMap.getElem?_insert]
    by_cases same : id = other
    · subst same
      simp [found]
    · simp [same, Ne.symm same]

theorem turned_retouch (id : ThingId) (f : Thing → Thing) (world : World) : Turned world (world.retouch id f) := by
  obtain ⟨things, dirty, same⟩ := retouch_same id f world
  exact ⟨_, _, _, _, _, _, _, _, _, same⟩

theorem turned_vanishAll (ids : List ThingId) : ∀ world : World, Turned world (ids.foldl vanish world) := by
  induction ids with
  | nil => exact turned_refl
  | cons id rest ih =>
    intro world
    refine turned_trans ?_ (ih (world.vanish id))
    rw [vanish]
    split
    · exact turned_trans ⟨_, _, _, _, _, _, _, _, _, rfl⟩ (turned_reindex _ id)
    · exact turned_refl world

theorem tell_same (id : ThingId) (line : String) (world : World) :
    ∃ heard, world.tell id line = { world with heard := heard } := by
  rw [tell]
  split <;> exact ⟨_, rfl⟩

theorem tell_things (id : ThingId) (line : String) (world : World) : (world.tell id line).things = world.things := by
  obtain ⟨heard, same⟩ := tell_same id line world
  rw [same]

theorem rate_same (interval : UInt64) (world : World) : world.setClockInterval interval = world ∨
    ∃ rate, world.setClockInterval interval =
      { world with info := { world.info with clockInterval := rate }, infoDirty := true } := by
  rw [setClockInterval]
  generalize (if interval = 0 then 1 else interval) = rate
  dsimp only
  split
  · exact .inl rfl
  · exact .inr ⟨rate, rfl⟩

theorem deed_apart {deed : Deed} (apart : deed.handles = false) (world : World) :
    (deed.perform world).things = world.things ∧ (deed.perform world).index = world.index ∧
      (deed.perform world).dirty = world.dirty := by
  cases deed with
  | told id line =>
    obtain ⟨heard, same⟩ := tell_same id line world
    rw [Deed.perform, same]
    exact ⟨rfl, rfl, rfl⟩
  | rated interval =>
    rcases rate_same interval world with same | ⟨rate, same⟩ <;> rw [Deed.perform, same] <;> exact ⟨rfl, rfl, rfl⟩
  | revised id change => cases apart
  | dressed id properties => cases apart
  | edited id f => cases apart
  | touched id => cases apart
  | entered id thing => cases apart
  | vanished ids => cases apart
  | flushed => cases apart
  | _ => exact ⟨rfl, rfl, rfl⟩

theorem deed_turns {deed : Deed} (unflushed : deed ≠ .flushed) (world : World) :
    Turned world (deed.perform world) ∨ deed.records = true ∧
      ∃ info infoDirty, deed.perform world = { world with info := info, infoDirty := infoDirty } := by
  cases deed with
  | revised id change => exact .inl (turned_trans (turned_retouch id change.apply world) (turned_reindex _ id))
  | dressed id properties => exact .inl (turned_retouch id (dress properties) world)
  | edited id f => exact .inl (turned_retouch id f world)
  | entered id thing => exact .inl (turned_trans ⟨_, _, _, _, _, _, _, _, _, rfl⟩ (turned_reindex _ id))
  | vanished ids => exact .inl (turned_vanishAll ids world)
  | told id line =>
    obtain ⟨heard, same⟩ := tell_same id line world
    exact .inl ⟨_, _, _, _, _, _, _, _, _, same⟩
  | allocated => exact .inr ⟨rfl, _, _, rfl⟩
  | limboed limbo => exact .inr ⟨rfl, _, _, rfl⟩
  | founded hall lobby prototypes => exact .inr ⟨rfl, _, _, rfl⟩
  | noted => exact .inr ⟨rfl, _, _, rfl⟩
  | rated interval =>
    rcases rate_same interval world with same | ⟨rate, same⟩ <;> exact .inr ⟨rfl, _, _, same⟩
  | flushed => exact absurd rfl unflushed
  | _ => exact .inl ⟨_, _, _, _, _, _, _, _, _, rfl⟩

-- Whoever is not among those who write into the world record leaves it as it was.
theorem deed_info {deed : Deed} (unrecorded : deed.records = false) (world : World) :
    (deed.perform world).info = world.info := by
  by_cases flushed : deed = .flushed
  · subst flushed
    exact commit_info true world
  · rcases deed_turns flushed world with turned | ⟨recorded, _⟩
    · obtain ⟨_, _, _, _, _, _, _, _, _, same⟩ := turned
      rw [same]
    · rw [unrecorded] at recorded
      cases recorded

theorem deed_record (deed : Deed) (world : World) : (deed.perform world).info.schema = world.info.schema ∧
    (deed ≠ .allocated → (deed.perform world).info.nextId = world.info.nextId) := by
  cases recorded : deed.records with
  | false =>
    rw [deed_info recorded]
    exact ⟨rfl, fun _ => rfl⟩
  | true =>
    cases deed with
    | allocated => exact ⟨rfl, fun differs => absurd rfl differs⟩
    | limboed limbo => exact ⟨rfl, fun _ => rfl⟩
    | founded hall lobby prototypes => exact ⟨rfl, fun _ => rfl⟩
    | noted => exact ⟨rfl, fun _ => rfl⟩
    | rated interval =>
      rcases rate_same interval world with same | ⟨rate, same⟩ <;> rw [Deed.perform, same] <;>
        exact ⟨rfl, fun _ => rfl⟩
    | _ => cases recorded

end World

inductive Moment where
  | did (deed : Deed)
  | opened
  -- Whether the body of the scope gave a result.
  | ended (kept : Bool)

namespace Moment

def perform (moment : Moment) (world : World) : World :=
  match moment with
  | did deed => deed.perform world
  | opened => { world with inScope := true }
  | ended kept => ((World.commit kept).run { world with inScope := false }).2

def allowed (moment : Moment) (world : World) : Prop :=
  match moment with
  | did deed => deed.allowed world
  | opened => world.inScope = false
  | ended _ => world.inScope = true

-- The next id stays or rises. It goes back where the last id of all is handed out.
def climbs (moment : Moment) (world : World) : Prop :=
  world.info.nextId ≤ (moment.perform world).info.nextId

instance (moment : Moment) (world : World) : Decidable (moment.climbs world) :=
  inferInstanceAs (Decidable (_ ≤ _))

def handed (moment : Moment) (world : World) : Prop :=
  match moment with
  | did (.entered id _) => id < world.info.nextId
  | _ => True

end Moment

namespace World

def replay (world : World) (moments : List Moment) : World :=
  moments.foldl (fun world moment => moment.perform world) world

-- Every moment keeps the rule where it stands.
def Heeds (rule : World → Moment → Prop) (world : World) : List Moment → Prop
  | [] => True
  | moment :: rest => rule world moment ∧ Heeds rule (moment.perform world) rest

abbrev Permits (world : World) (moments : List Moment) : Prop :=
  Heeds (fun world moment => moment.allowed world) world moments

-- The next id never goes back.
abbrev Ascends (world : World) (moments : List Moment) : Prop :=
  Heeds (fun world moment => moment.climbs world) world moments

-- Until the next id goes back, whatever is entered has an id that was handed out.
def Hands (world : World) : List Moment → Prop
  | [] => True
  | moment :: rest => moment.handed world ∧ (moment.climbs world → Hands (moment.perform world) rest)

-- What a moment is to those who do not mind whether a scope is open.
theorem moment_cases (moment : Moment) (world : World) :
    (∃ deed, moment = .did deed ∧ deed ≠ .flushed) ∨ moment = .opened ∨
      ∃ keep inside, moment.perform world = ((commit keep).run { world with inScope := inside }).2 ∧
        (keep = false → moment = .ended false) := by
  cases moment with
  | opened => exact .inr (.inl rfl)
  | ended keep => exact .inr (.inr ⟨keep, false, rfl, fun failed => by rw [failed]⟩)
  | did deed =>
    by_cases flushed : deed = .flushed
    · subst flushed
      exact .inr (.inr ⟨true, world.inScope, rfl, Bool.noConfusion⟩)
    · exact .inl ⟨deed, rfl, flushed⟩

theorem replay_append (world : World) (before after : List Moment) :
    world.replay (before ++ after) = (world.replay before).replay after :=
  List.foldl_append

theorem heeds_append {rule : World → Moment → Prop} {world : World} {before after : List Moment} :
    Heeds rule world (before ++ after) ↔ Heeds rule world before ∧ Heeds rule (world.replay before) after := by
  induction before generalizing world with
  | nil => simp [Heeds, replay]
  | cons moment rest ih =>
    simp only [List.cons_append, Heeds, ih, and_assoc]
    rfl

theorem heeds_and {one other : World → Moment → Prop} {moments : List Moment} : ∀ {world : World},
    Heeds one world moments → Heeds other world moments →
      Heeds (fun world moment => one world moment ∧ other world moment) world moments := by
  induction moments with
  | nil => exact fun _ _ => trivial
  | cons moment rest ih => exact fun first second => ⟨⟨first.1, second.1⟩, ih first.2 second.2⟩

theorem hands_append {before after : List Moment} : ∀ {world : World}, Hands world before →
    (Ascends world before → Hands (world.replay before) after) → Hands world (before ++ after) := by
  induction before with
  | nil => exact fun _ rest => rest trivial
  | cons moment before ih =>
    intro world first rest
    exact ⟨first.1, fun climbs => ih (first.2 climbs) fun ascends => rest ⟨climbs, ascends⟩⟩

theorem heeds_anywhere {rule : World → Moment → Prop} {moments : List Moment}
    (every : ∀ moment ∈ moments, ∀ world, rule world moment) : ∀ world, Heeds rule world moments := by
  induction moments with
  | nil => exact fun _ => trivial
  | cons moment rest ih =>
    exact fun world => ⟨every moment List.mem_cons_self world,
      ih (fun other member => every other (List.mem_cons_of_mem moment member)) _⟩

-- A rule that does not look at the world.
theorem heeds_of_forall {kind : Moment → Prop} {moments : List Moment} (every : ∀ moment ∈ moments, kind moment) :
    ∀ world, Heeds (fun _ => kind) world moments :=
  heeds_anywhere fun moment member _ => every moment member

theorem hands_of_heeds {moments : List Moment} : ∀ {world : World},
    Heeds (fun world moment => moment.handed world) world moments → Hands world moments := by
  induction moments with
  | nil => exact fun _ => trivial
  | cons moment rest ih => exact fun heeds => ⟨heeds.1, fun _ => ih heeds.2⟩

theorem heeds_deeds {kind : Deed → Prop} {moments : List Moment} (only : ∀ deed, .did deed ∈ moments → kind deed) :
    ∀ world, Heeds (fun _ moment => ∀ deed, moment = .did deed → kind deed) world moments := by
  refine heeds_of_forall ?_
  rintro moment member deed rfl
  exact only deed member

theorem replay_keeps {rule : World → Moment → Prop} {P : World → Prop}
    (step : ∀ world moment, P world → rule world moment → P (moment.perform world)) {moments : List Moment} :
    ∀ {world : World}, P world → Heeds rule world moments → P (world.replay moments) := by
  induction moments with
  | nil => exact fun start _ => start
  | cons moment rest ih => exact fun start heeds => ih (step _ moment start heeds.1) heeds.2

end World
end ThingWorld
