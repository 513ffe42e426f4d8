import ThingWorld.Proofs.Course.Rights
import ThingWorld.Proofs.Ordinary.Watch
namespace ThingWorld

-- The properties that hold command and reaction templates.
def isTemplate (property : String) : Bool :=
  property == Property.command || Property.commandStem.toList.isPrefixOf property.toList
    || Property.reactionStem.toList.isPrefixOf property.toList

theorem isTemplate_command : isTemplate Property.command = true := rfl

theorem isTemplate_commandProperty (word : String) : isTemplate (commandProperty word) = true := by
  have begins : Property.commandStem.toList.isPrefixOf (commandProperty word).toList = true := by
    rw [commandProperty, String.toList_append, List.isPrefixOf_iff_prefix]
    exact List.prefix_append _ _
  rw [isTemplate, begins]
  simp

theorem isTemplate_reactionProperty (event : String) : isTemplate (reactionProperty event) = true := by
  have begins : Property.reactionStem.toList.isPrefixOf (reactionProperty event).toList = true := by
    rw [reactionProperty, String.toList_append, List.isPrefixOf_iff_prefix]
    exact List.prefix_append _ _
  rw [isTemplate, begins]
  simp

theorem commandProperty_ne (word : String) : commandProperty word ≠ Property.command := by
  intro same
  have length := congrArg (fun text => text.toList.length) same
  rw [commandProperty, String.toList_append, List.length_append] at length
  have stem : Property.commandStem.toList.length = 4 := by decide
  have whole : Property.command.toList.length = 3 := by decide
  omega

theorem reactionProperty_ne (event : String) : reactionProperty event ≠ Property.command := by
  intro same
  have length := congrArg (fun text => text.toList.length) same
  rw [reactionProperty, String.toList_append, List.length_append] at length
  have stem : Property.reactionStem.toList.length = 6 := by decide
  have whole : Property.command.toList.length = 3 := by decide
  omega

-- The template of the seeded link prototype.
def goTemplate : String := "go $0"

namespace World

-- Beside the actor nobody has a template but the one of links, and nobody inherits from the actor.
structure Unarmed (world : World) (actor : ThingId) : Prop where
  templates : ∀ (id : ThingId) (thing : Thing) (property : String) (value : Datum), id ≠ actor →
    world.things[id]? = some thing → thing.own? property = some value → isTemplate property = true →
      property = Property.command ∧ value.asText = goTemplate
  heirless : ∀ (id : ThingId) (thing : Thing), world.things[id]? = some thing → thing.prototype ≠ some actor

variable {world : World} {actor : ThingId}

instance (world : World) (actor : ThingId) : Decidable (world.Unarmed actor) :=
  decidable_of_iff ((∀ entry ∈ world.things.toList, entry.1 ≠ actor → ∀ own ∈ entry.2.properties.toList,
      isTemplate own.1 = true → own.1 = Property.command ∧ own.2.asText = goTemplate) ∧
        ∀ entry ∈ world.things.toList, entry.2.prototype ≠ some actor) <| by
    constructor
    · rintro ⟨templates, heirless⟩
      refine ⟨fun id thing property value other found owned => ?_, fun id thing found => ?_⟩
      · have listed := Std.ExtTreeMap.mem_toList_iff_getElem?_eq_some.mpr found
        exact templates (id, thing) listed other (property, value) (Std.ExtTreeMap.mem_toList_iff_getElem?_eq_some.mpr owned)
      · exact heirless (id, thing) (Std.ExtTreeMap.mem_toList_iff_getElem?_eq_some.mpr found)
    · rintro ⟨templates, heirless⟩
      refine ⟨fun entry listed other own owned => ?_, fun entry listed => ?_⟩
      · have found := Std.ExtTreeMap.mem_toList_iff_getElem?_eq_some.mp listed
        exact templates entry.1 entry.2 own.1 own.2 other found (Std.ExtTreeMap.mem_toList_iff_getElem?_eq_some.mp owned)
      · exact heirless entry.1 entry.2 (Std.ExtTreeMap.mem_toList_iff_getElem?_eq_some.mp listed)

theorem unarmed_congr {world' : World} (unarmed : world.Unarmed actor) (things : world'.things = world.things) :
    world'.Unarmed actor := by
  refine ⟨?_, ?_⟩ <;> rw [things]
  · exact unarmed.templates
  · exact unarmed.heirless

-- A template that somebody else has, own or inherited.
theorem text_template (unarmed : world.Unarmed actor) {id : ThingId} {property template : String} (other : id ≠ actor)
    (known : isTemplate property = true) (found : world.text? id property = some template) :
    property = Property.command ∧ template = goTemplate := by
  obtain ⟨value, chosen, rfl⟩ := Option.map_eq_some_iff.mp found
  obtain ⟨owner, thing, apart, there, owned⟩ := chooseFrom_owner (P := fun id => id ≠ actor)
    (fun id thing prototype _ there inherits same => unarmed.heirless id thing there (same ▸ inherits))
    maxAncestors other chosen
  exact unarmed.templates owner thing property value apart there owned known

theorem unheard_of (unarmed : world.Unarmed actor) {id : ThingId} (other : id ≠ actor) (event : Event) :
    Engine.reactionTemplate? world id event = none := by
  cases found : Engine.reactionTemplate? world id event with
  | none => rfl
  | some template =>
    have named := text_template unarmed other (isTemplate_reactionProperty event.name) found
    exact absurd named.1 (reactionProperty_ne event.name)

theorem findTemplate_cases (unarmed : world.Unarmed actor) {word template : String} {owner : ThingId}
    (found : world.findTemplate? actor word = some (owner, template)) : owner = actor ∨ template = goTemplate := by
  obtain ⟨id, _, found⟩ := List.exists_of_findSome?_eq_some found
  by_cases own : id = actor
  · left
    rw [templateOf?] at found
    split at found
    · cases found
      exact own
    · split at found
      · obtain ⟨_, _, same⟩ := Option.map_eq_some_iff.mp found
        cases same
        exact own
      · cases found
  · right
    rw [templateOf?] at found
    split at found
    · rename_i general
      exact absurd (text_template unarmed own (isTemplate_commandProperty word) general).1 (commandProperty_ne word)
    · split at found
      · obtain ⟨general, text, same⟩ := Option.map_eq_some_iff.mp found
        cases same
        exact (text_template unarmed own isTemplate_command text).2
      · cases found

end World

-- What an ordinary player does.
inductive Ordinary (actor : ThingId) (world : World) : Moment → Prop where
  | writes (property : String) (value : Datum) : Ordinary actor world (.did (.revised actor (.write property value)))
  | erases (property : String) : Ordinary actor world (.did (.revised actor (.erase property)))
  | goes (place : ThingId) : Ordinary actor world (.did (.revised actor (.point Relation.location place false)))
  | gets {item here : ThingId} (place : world.location? actor = some here) (lies : item ∈ world.contents here)
      (unheard : world.hasListener item = false) :
      Ordinary actor world (.did (.revised item (.point Relation.location actor false)))
  | drops {item here : ThingId} (place : world.location? actor = some here) (held : item ∈ world.contents actor) :
      Ordinary actor world (.did (.revised item (.point Relation.location here false)))
  | told (id : ThingId) (line : String) : Ordinary actor world (.did (.told id line))
  | versioned : Ordinary actor world (.did .versioned)
  | rolled : Ordinary actor world (.did .rolled)
  | opened : Ordinary actor world .opened
  | ended (kept : Bool) : Ordinary actor world (.ended kept)

-- A thing without its place.
def Thing.unplaced (thing : Thing) : Thing :=
  thing.keepEdges fun edge => edge.property != Relation.location

-- A thing without its place and its own values.
def Thing.bare (thing : Thing) : Thing :=
  { thing.unplaced with properties := ∅ }

theorem Thing.unplaced_point (thing : Thing) (place : ThingId) :
    ((Change.point Relation.location place false).apply thing).unplaced = thing.unplaced := by
  have kept : ((thing.edges.filter fun edge : Edge => edge.property != Relation.location) ++
      [Edge.mk Relation.location place]).filter (fun edge : Edge => edge.property != Relation.location) =
        thing.edges.filter fun edge : Edge => edge.property != Relation.location := by
    rw [List.filter_append, List.filter_filter]
    simp
  exact congrArg (fun edges => { thing with edges := edges }) kept

namespace World

variable {actor : ThingId} {world mid last : World}

-- The actor gets or drops the thing at some moment.
def Handles (actor item : ThingId) (world : World) : List Moment → Prop
  | [] => False
  | moment :: rest =>
    (∃ place, moment = .did (.revised item (.point Relation.location place false)) ∧ Ordinary actor world moment) ∨
      Handles actor item (moment.perform world) rest

-- What ordinary players leave as it was.
structure Spared (actor : ThingId) (world last : World) : Prop where
  info : last.info = world.info
  clockRunning : last.clockRunning = world.clockRunning
  schedule : last.schedule = world.schedule
  listeners : last.listeners = world.listeners
  registry : last.registry = world.registry
  limits : last.limits = world.limits
  others : ∀ id : ThingId, id ≠ actor → last.things[id]?.map Thing.unplaced = world.things[id]?.map Thing.unplaced
  actor : last.things[actor]?.map Thing.bare = world.things[actor]?.map Thing.bare

theorem spared_refl (actor : ThingId) (world : World) : Spared actor world world :=
  ⟨rfl, rfl, rfl, rfl, rfl, rfl, fun _ _ => rfl, rfl⟩

theorem spared_trans (first : Spared actor world mid) (rest : Spared actor mid last) : Spared actor world last where
  info := rest.info.trans first.info
  clockRunning := rest.clockRunning.trans first.clockRunning
  schedule := rest.schedule.trans first.schedule
  listeners := rest.listeners.trans first.listeners
  registry := rest.registry.trans first.registry
  limits := rest.limits.trans first.limits
  others id other := (rest.others id other).trans (first.others id other)
  actor := rest.actor.trans first.actor

theorem Spared.contains (spared : Spared actor world last) (id : ThingId) : last.contains id = world.contains id := by
  have held {f : Thing → Thing} (same : last.things[id]?.map f = world.things[id]?.map f) :
      last.contains id = world.contains id := by
    rw [World.contains, World.contains, Std.ExtTreeMap.contains_eq_isSome_getElem?,
      Std.ExtTreeMap.contains_eq_isSome_getElem?, ← Option.isSome_map, same, Option.isSome_map]
  by_cases own : id = actor
  · exact held (own ▸ spared.actor)
  · exact held (spared.others id own)

theorem spared_revise {id : ThingId} {f : Thing → Thing}
    (others : id ≠ actor → ∀ thing : Thing, (f thing).unplaced = thing.unplaced)
    (own : ∀ thing : Thing, (f thing).bare = thing.bare) (world : World) : Spared actor world (world.revise id f) := by
  have things := revise_things id f world
  obtain ⟨_, _, _, same⟩ := revise_same id f world
  rw [same] at things ⊢
  refine ⟨rfl, rfl, rfl, rfl, rfl, rfl, fun other apart => ?_, ?_⟩
  · refine (congrArg _ (things other)).trans ?_
    rw [Option.map_map]
    congr 1
    funext thing
    dsimp only [Function.comp_apply]
    split
    · rename_i here
      exact others (here ▸ apart) thing
    · rfl
  · refine (congrArg _ (things actor)).trans ?_
    rw [Option.map_map]
    congr 1
    funext thing
    dsimp only [Function.comp_apply]
    split
    · exact own thing
    · rfl

theorem spared_point (id place : ThingId) (world : World) :
    Spared actor world (world.revise id (Change.point Relation.location place false).apply) :=
  spared_revise (fun _ thing => thing.unplaced_point place)
    (fun thing => congrArg (fun thing => { thing with properties := ∅ }) (thing.unplaced_point place)) world

theorem spared_moment {moment : Moment} (ordinary : Ordinary actor world moment) :
    Spared actor world (moment.perform world) := by
  cases ordinary with
  | writes property value =>
    exact spared_revise (f := (Change.write property value).apply) (fun other => absurd rfl other) (fun _ => rfl) world
  | erases property =>
    exact spared_revise (f := (Change.erase property).apply) (fun other => absurd rfl other) (fun _ => rfl) world
  | goes place => exact spared_point actor place world
  | gets place lies unheard => exact spared_point _ actor world
  | drops place held => exact spared_point _ _ world
  | told id line =>
    obtain ⟨heard, same⟩ := tell_same id line world
    show Spared actor world (world.tell id line)
    rw [same]
    exact ⟨rfl, rfl, rfl, rfl, rfl, rfl, fun _ _ => rfl, rfl⟩
  | versioned => exact ⟨rfl, rfl, rfl, rfl, rfl, rfl, fun _ _ => rfl, rfl⟩
  | rolled => exact ⟨rfl, rfl, rfl, rfl, rfl, rfl, fun _ _ => rfl, rfl⟩
  | opened => exact ⟨rfl, rfl, rfl, rfl, rfl, rfl, fun _ _ => rfl, rfl⟩
  | ended kept =>
    obtain ⟨_, _, _, _, _, same⟩ := commit_same kept { world with inScope := false }
    show Spared actor world ((commit kept).run { world with inScope := false }).2
    rw [same]
    exact ⟨rfl, rfl, rfl, rfl, rfl, rfl, fun _ _ => rfl, rfl⟩

theorem spared_replay {moments : List Moment} (ordinary : world.Heeds (Ordinary actor) moments) :
    Spared actor world (world.replay moments) :=
  replay_keeps (P := Spared actor world)
    (fun _ _ spared ordinary => spared_trans spared (spared_moment ordinary)) (spared_refl actor world) ordinary

-- Whoever is neither the actor nor handled is the same altogether.
theorem unhandled_moment {moment : Moment} (ordinary : Ordinary actor world moment) {id : ThingId} (other : id ≠ actor)
    (unhandled : ∀ place, moment ≠ .did (.revised id (.point Relation.location place false))) :
    (moment.perform world).things[id]? = world.things[id]? := by
  have apart {target : ThingId} (differs : id ≠ target) (f : Thing → Thing) :
      (world.revise target f).things[id]? = world.things[id]? := by
    rw [revise_things]
    simp [differs]
  cases ordinary with
  | writes property value => exact apart other _
  | erases property => exact apart other _
  | goes place => exact apart other _
  | @gets item here place lies unheard => exact apart (fun same => unhandled actor (same ▸ rfl)) _
  | @drops item here place held => exact apart (fun same => unhandled here (same ▸ rfl)) _
  | told target line => exact congrArg (fun things => things[id]?) (tell_things target line world)
  | versioned => rfl
  | rolled => rfl
  | opened => rfl
  | ended kept => exact congrArg (fun things => things[id]?) (commit_things kept _)

theorem unhandled_replay {moments : List Moment} {id : ThingId} (other : id ≠ actor) : ∀ {world : World},
    world.Heeds (Ordinary actor) moments → ¬world.Handles actor id moments →
      (world.replay moments).things[id]? = world.things[id]? := by
  induction moments with
  | nil => exact fun _ _ => rfl
  | cons moment rest ih =>
    intro world ordinary unhandled
    obtain ⟨here, later⟩ := not_or.mp unhandled
    refine (ih ordinary.2 later).trans (unhandled_moment ordinary.1 other fun place same => ?_)
    exact here ⟨place, same, ordinary.1⟩

theorem unarmed_spared (unarmed : world.Unarmed actor) (spared : Spared actor world last) : last.Unarmed actor := by
  refine ⟨fun id thing property value other found owned known => ?_, fun id thing found inherits => ?_⟩
  · have same := spared.others id other
    rw [found] at same
    obtain ⟨before, there, kept⟩ := Option.map_eq_some_iff.mp same.symm
    refine unarmed.templates id before property value other there ?_ known
    have values : before.unplaced.properties = thing.unplaced.properties := congrArg Thing.properties kept
    exact (congrArg (fun properties => properties[property]?) values).trans owned
  · by_cases own : id = actor
    · have same := own ▸ spared.actor
      rw [found] at same
      obtain ⟨before, there, kept⟩ := Option.map_eq_some_iff.mp same.symm
      exact unarmed.heirless id before there ((congrArg Thing.prototype kept).trans inherits)
    · have same := spared.others id own
      rw [found] at same
      obtain ⟨before, there, kept⟩ := Option.map_eq_some_iff.mp same.symm
      exact unarmed.heirless id before there ((congrArg Thing.prototype kept).trans inherits)

end World
end ThingWorld
