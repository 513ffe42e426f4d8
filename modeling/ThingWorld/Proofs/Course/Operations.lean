import ThingWorld.Proofs.Course.Charted
import ThingWorld.World.Copy
namespace ThingWorld

def Change.plain : Change → Bool
  | inherit _ => false
  | _ => true

-- A value or an edge of a thing that is there.
def Deed.revises (deed : Deed) : Prop :=
  ∃ id change, deed = .revised id change ∧ change.plain = true

-- A value, an edge or the prototype of a thing that is there.
def Deed.alters (deed : Deed) : Prop :=
  ∃ id change, deed = .revised id change

-- What happens to the world in anybody's name.
def Deed.plain : Deed → Bool
  | revised _ change => change.plain
  | told _ _ => true
  | paced _ => true
  | versioned => true
  | rolled => true
  | _ => false

-- All but what decides who may still react, and what waits.
def Deed.calm : Deed → Bool
  | paced (.subscribe _) => true
  | paced (.unsubscribe _) => true
  | paced _ => false
  | _ => true

-- Everything but what lays the foundation of a world.
def Deed.later : Deed → Prop
  | limboed _ => False
  | founded _ _ _ => False
  | _ => True

def Deed.byHand : Deed → Bool
  | edited _ _ => true
  | _ => false

-- Nothing happens that lays a foundation.
def Moment.later : Moment → Prop
  | did deed => deed.later
  | _ => True

theorem Moment.later_of_deeds {moments : List Moment} (only : ∀ deed, .did deed ∈ moments → deed.later) :
    ∀ moment ∈ moments, moment.later := by
  intro moment member
  cases moment with
  | did deed => exact only deed member
  | _ => trivial

-- Everything but the foundation and what is done by hand.
def Deed.lives : Deed → Prop
  | limboed _ => False
  | founded _ _ _ => False
  | edited _ _ => False
  | _ => True

-- Everything but that and what deletes things.
def Deed.makes : Deed → Prop
  | limboed _ => False
  | founded _ _ _ => False
  | vanished _ => False
  | edited _ _ => False
  | _ => True

theorem Deed.makes_of_alters (deed : Deed) (alters : deed.alters) : deed.makes := by
  obtain ⟨id, change, rfl⟩ := alters
  trivial

theorem Deed.makes_of_revises (deed : Deed) (revises : deed.revises) : deed.makes := by
  obtain ⟨id, change, rfl, _⟩ := revises
  trivial

theorem Deed.lives_of_makes (deed : Deed) (makes : deed.makes) : deed.lives := by
  cases deed <;> trivial

theorem Deed.later_of_lives (deed : Deed) (lives : deed.lives) : deed.later := by
  cases deed <;> trivial

theorem Deed.plain_of_revises (deed : Deed) (revises : deed.revises) : deed.plain = true := by
  obtain ⟨id, change, rfl, plain⟩ := revises
  exact plain

-- Whoever does a deed of that kind keeps the law, as long as reactions take their turns elsewhere.
def Law.Suffers (law : Law) (kind : Deed → Prop) : Prop :=
  law.Grants fun deed => kind deed ∧ deed.calm = true

theorem Law.suffers_of_grants {law : Law} {kind : Deed → Prop} (grants : law.Grants kind) : law.Suffers kind :=
  law.grants_mono grants fun _ both => both.1

theorem Law.suffers_mono {law : Law} {kind less : Deed → Prop} (suffers : law.Suffers kind)
    (fewer : ∀ deed, less deed → kind deed) : law.Suffers less :=
  law.grants_mono suffers fun deed both => ⟨fewer deed both.1, both.2⟩

theorem Law.grants_revises {law : Law} {kind : Deed → Prop} (suffers : law.Suffers kind)
    (more : ∀ deed, deed.revises → kind deed) : law.Grants Deed.revises := by
  refine law.grants_mono suffers fun deed revises => ⟨more deed revises, ?_⟩
  obtain ⟨id, change, rfl, _⟩ := revises
  rfl

theorem Law.grants_alters {law : Law} {kind : Deed → Prop} (suffers : law.Suffers kind)
    (more : ∀ deed, deed.alters → kind deed) : law.Grants Deed.alters := by
  refine law.grants_mono suffers fun deed alters => ⟨more deed alters, ?_⟩
  obtain ⟨id, change, rfl⟩ := alters
  rfl

namespace World

variable {law : Law} {world : World}

theorem contains_of_some {id : ThingId} {thing : Thing} (found : world.things[id]? = some thing) :
    world.contains id = true := by
  rw [contains, Std.ExtTreeMap.contains_eq_isSome_getElem?, found]
  rfl

theorem some_of_contains {id : ThingId} (held : world.contains id = true) : ∃ thing, world.things[id]? = some thing :=
  Option.isSome_iff_exists.mp (Std.ExtTreeMap.contains_eq_isSome_getElem?.symm.trans held)

theorem contains_congr {world' : World} (same : world'.things = world.things) (id : ThingId) :
    world'.contains id = world.contains id := by
  rw [contains, contains, same]

theorem run_edit (id : ThingId) (f : Thing → Thing) (world : World) :
    (edit id f).run world =
      if world.contains id then (.ok (), world.retouch id f) else (.error (missing id), world) := by
  rw [contains, Std.ExtTreeMap.contains_eq_isSome_getElem?]
  cases found : world.things[id]? with
  | none => simp [edit, Act.run, found]
  | some thing => simp [edit, Act.run, retouch, found]

theorem run_revise {α : Type} (id : ThingId) (f : Thing → Thing) (a : α) (world : World) :
    (do edit id f; modify (reindex · id); return a : Act α).run world =
      if world.contains id then (.ok a, world.revise id f) else (.error (missing id), world) := by
  rw [Act.run_bind, run_edit]
  cases world.contains id <;> rfl

-- A refusal looks at prototypes only.
theorem chainHas_congr {world world' : World} (same : world'.things = world.things) (id : ThingId) (left : Nat) :
    ∀ start, world'.chainHas id left start = world.chainHas id left start := by
  induction left with
  | zero => exact fun start => rfl
  | succ left ih =>
    intro start
    cases start with
    | none => rfl
    | some first =>
      rw [chainHas, chainHas, ih, prototypeOf?, prototypeOf?, same]

theorem prototypeRefusal_congr {world world' : World} (same : world'.things = world.things) (id prototype : ThingId) :
    world'.prototypeRefusal id prototype = world.prototypeRefusal id prototype := by
  rw [prototypeRefusal, prototypeRefusal, contains, contains, same, chainHas_congr same]

-- A deed that is done only where it is allowed.
theorem charted_guarded {α : Type} {steps : Act α} {a : α} {failure : Failure} {present : Bool} (deed : Deed)
    (ran : steps.run world = if present then (.ok a, deed.perform world) else (.error failure, world))
    (allowed : present = true → deed.allowed world) (keeps : law.holds world [.did deed])
    (handed : (Moment.did deed).handed world := by trivial) : Charted law (Run.ofAct steps) world := by
  cases present with
  | true => exact charted_does deed (allowed rfl) keeps (congrArg some ran) handed
  | false => exact charted_still (congrArg some ran)

theorem charted_revise {α : Type} {steps : Act α} {a : α} {id : ThingId} {change : Change}
    (ran : steps.run world =
      if world.contains id then (.ok a, world.revise id change.apply) else (.error (missing id), world))
    (keeps : law.holds world [.did (.revised id change)])
    (possible : ∀ prototype, change = .inherit (some prototype) → world.prototypeRefusal id prototype = none) :
    Charted law (Run.ofAct steps) world :=
  charted_guarded (.revised id change) ran (fun present => ⟨present, possible⟩) keeps

-- In a scope or out of it, the change is made once.
theorem charted_amendHere (id : ThingId) (change : Change) (inside : law.holds world [.did (.revised id change)])
    (outside : law.holds (Moment.opened.perform world) [.did (.revised id change)])
    (possible : ∀ prototype, change = .inherit (some prototype) → world.prototypeRefusal id prototype = none) :
    Charted law (Run.ofAct (amend id change.apply)) world := by
  have things : (Moment.opened.perform world).things = world.things := rfl
  refine charted_act_scope (charted_revise (run_revise id change.apply () world) inside possible)
    (charted_revise (run_revise id change.apply () _) outside ?_)
  intro prototype same
  rw [prototypeRefusal_congr things]
  exact possible prototype same

theorem charted_amend (id : ThingId) (change : Change)
    (keeps : ∀ world, law.holds world [.did (.revised id change)])
    (possible : ∀ prototype, change = .inherit (some prototype) → world.prototypeRefusal id prototype = none) :
    Charted law (Run.ofAct (amend id change.apply)) world :=
  charted_amendHere id change (keeps _) (keeps _) possible

theorem charted_amend_plain (grants : law.Grants Deed.revises) (id : ThingId) (change : Change)
    (plain : change.plain = true) (world : World) : Charted law (Run.ofAct (amend id change.apply)) world := by
  refine charted_amend id change (fun world => grants world _ ⟨id, change, rfl, plain⟩) ?_
  rintro prototype rfl
  cases plain

theorem charted_setProperty (grants : law.Grants Deed.revises) (id : ThingId) (property : String) (value : Datum)
    (world : World) : Charted law (Run.ofAct (setProperty id property value)) world :=
  charted_amend_plain grants id (.write property value) rfl world

theorem charted_erase (id : ThingId) (property : String)
    (keeps : ∀ world, law.holds world [.did (.revised id (.erase property))]) (world : World) :
    Charted law (Run.ofAct (unsetProperty id property)) world := by
  have body (world : World) : Charted law (Run.ofAct do
      let old := ((← get).things[id]?).bind fun thing => thing.own? property
      edit id fun thing => thing.erase property
      modify (reindex · id)
      return old) world := by
    refine charted_act_read ?_
    have ran := run_revise id (Change.erase property).apply
      ((world.things[id]?).bind fun thing => thing.own? property) world
    refine charted_revise ran (keeps world) ?_
    intro prototype same
    cases same
  exact charted_act_scope (body world) (body _)

theorem charted_unsetProperty (grants : law.Grants Deed.revises) (id : ThingId) (property : String) (world : World) :
    Charted law (Run.ofAct (unsetProperty id property)) world :=
  charted_erase id property (fun world => grants world _ ⟨id, .erase property, rfl, rfl⟩) world

theorem charted_setAssociation (grants : law.Grants Deed.revises) (id : ThingId) (relation : String)
    (target : ThingId) (multi : Bool) (world : World) :
    Charted law (Run.ofAct (setAssociation id relation target multi)) world :=
  charted_amend_plain grants id (.point relation target multi) rfl world

theorem charted_setLocation (grants : law.Grants Deed.revises) (id place : ThingId) (world : World) :
    Charted law (Run.ofAct (setLocation id place)) world :=
  charted_setAssociation grants id Relation.location place false world

theorem charted_dissociate (grants : law.Grants Deed.revises) (id : ThingId) (relation : String) (target : ThingId)
    (world : World) : Charted law (Run.ofAct (dissociate id relation target)) world :=
  charted_amend_plain grants id (.cut fun edge => !(edge.property == relation && edge.target == target)) rfl world

theorem charted_dissociateAll (grants : law.Grants Deed.revises) (id : ThingId) (relation : String) (world : World) :
    Charted law (Run.ofAct (dissociateAll id relation)) world :=
  charted_amend_plain grants id (.cut fun edge => edge.property != relation) rfl world

theorem charted_dissociateFrom (grants : law.Grants Deed.revises) (id target : ThingId) (world : World) :
    Charted law (Run.ofAct (dissociateFrom id target)) world :=
  charted_amend_plain grants id (.cut fun edge => edge.target != target) rfl world

theorem run_allocate (world : World) : allocate.run world = (.ok world.info.nextId, Deed.allocated.perform world) := rfl

theorem next_is_greater {id : ThingId} (climbs : id ≤ id + 1) : id < id + 1 := by
  refine UInt64.lt_of_le_of_ne climbs fun same => ?_
  have numbers := congrArg UInt64.toNat same
  have bound := id.toNat_lt
  rw [UInt64.toNat_add] at numbers
  simp at numbers
  omega

theorem charted_opening {α : Type} {body : Act α} (anywhere : ∀ world, Charted law (Run.ofAct body) world)
    (world : World) : Charted law (Run.ofAct body.scope) world :=
  charted_act_scope (anywhere world) (anywhere _)

theorem charted_edit {id : ThingId} {f : Thing → Thing} (deed : Deed)
    (does : deed.perform world = world.retouch id f) (allowed : world.contains id = true → deed.allowed world)
    (keeps : law.holds world [.did deed]) (handed : (Moment.did deed).handed world := by trivial) :
    Charted law (Run.ofAct (edit id f)) world := by
  have ran := run_edit id f world
  rw [← does] at ran
  exact charted_guarded deed ran allowed keeps handed

theorem charted_dress (id : ThingId) (properties : List (String × Datum))
    (keeps : ∀ world, law.holds world [.did (.dressed id properties)])
    (apart : ∀ written ∈ properties, written.1 ≠ Property.everywhere) (world : World) :
    Charted law (Run.ofAct (edit id (dress properties))) world :=
  charted_edit (.dressed id properties) rfl (fun present => ⟨present, apart⟩) (keeps world)

theorem charted_setPrototype (alters : law.Grants Deed.alters) (id : ThingId) (prototype : Option ThingId)
    (world : World) : Charted law (Run.ofAct (setPrototype id prototype)) world := by
  refine charted_act_read ?_
  split
  · exact charted_act_throw _
  · rename_i possible
    refine charted_amend id (.inherit prototype) (fun world => alters world _ ⟨id, _, rfl⟩) ?_
    intro other same
    cases same
    simpa using possible

-- From here on a law has to allow that things are made.
variable (makes : law.Suffers Deed.makes)

include makes

-- Its id is handed out and taken at once.
theorem charted_createBare (prototype place : Option ThingId) (world : World) :
    Charted law (Run.ofAct (createBare prototype place)) world := by
  refine charted_opening (fun world => ?_) world
  have entering {body : Act ThingId} (thing : Thing) (own : thing.id = world.info.nextId)
      (schema : thing.schema = Thing.currentSchema)
      (ran : (Run.ofAct body).run world = some (.ok world.info.nextId,
        world.replay ([Deed.allocated, .entered world.info.nextId thing].map .did))) :
      Charted law (Run.ofAct body) world := by
    refine charted_batch [.allocated, .entered world.info.nextId thing] ⟨trivial, ⟨own, .inl schema⟩, trivial⟩
      ⟨trivial, fun climbs => ⟨next_is_greater climbs, fun _ => trivial⟩⟩ (fun deed member world => ?_) ran
    simp only [List.mem_cons, List.not_mem_nil, or_false] at member
    rcases member with rfl | rfl <;> exact makes world _ ⟨trivial, rfl⟩
  cases place with
  | none => exact entering (.fresh world.info.nextId prototype) rfl rfl rfl
  | some place =>
    exact entering ((Thing.fresh world.info.nextId prototype).addEdge ⟨Relation.location, place⟩) rfl rfl rfl

theorem charted_createFrom (prototype : Option ThingId) (name description : String) (world : World) :
    Charted law (Run.ofAct (createFrom prototype name description)) world := by
  refine charted_act_read (charted_opening ?_ world)
  intro world
  refine charted_act_bind (charted_createBare makes prototype _ world) ?_
  intro id mid _
  refine charted_act_bind ?_ fun _ _ _ => charted_act_pure _
  have dressed : describeNew name description =
      dress ((Property.name, .text name) ::
        if description.isEmpty then [] else [(Property.description, .text description)]) := by
    funext thing
    rw [describeNew]
    split <;> rfl
  rw [dressed]
  refine charted_dress id _ (fun world => makes world _ ⟨trivial, rfl⟩) ?_ mid
  intro written member
  have named : written.1 = Property.name ∨ written.1 = Property.description := by
    split at member
    · simp at member
      simp [member]
    · simp at member
      rcases member with rfl | rfl <;> simp
  rcases named with same | same <;> rw [same] <;> decide

theorem charted_create (name description : String) (world : World) :
    Charted law (Run.ofAct (create name description)) world :=
  charted_act_read (charted_createFrom makes _ name description world)

theorem charted_linkRooms (room : ThingId) (thereName : String) (other : ThingId) (backName : String) (world : World) :
    Charted law (Run.ofAct (linkRooms room thereName other backName)) world := by
  have grants : law.Grants Deed.revises := Law.grants_revises makes Deed.makes_of_revises
  refine charted_act_read (charted_opening ?_ world)
  intro world
  refine charted_act_bind (charted_createFrom makes _ thereName "" world) ?_
  intro there mid _
  refine charted_act_bind (charted_createFrom makes _ backName "" mid) ?_
  intro back mid _
  refine charted_act_bind (charted_setAssociation grants there Relation.linkOwner room false mid) ?_
  intro _ mid _
  refine charted_act_bind (charted_setAssociation grants back Relation.linkOwner other false mid) ?_
  intro _ mid _
  refine charted_act_bind (charted_setAssociation grants there Relation.otherLink back false mid) ?_
  intro _ mid _
  refine charted_act_bind (charted_setAssociation grants back Relation.otherLink there false mid) ?_
  exact fun _ _ _ => charted_act_pure _

end World
end ThingWorld
