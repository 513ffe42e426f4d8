import ThingWorld.World.Relations
namespace ThingWorld.World

def prototype? (world : World) (name : String) : Option ThingId :=
  world.info.prototypes[name]?

def isWellKnown (world : World) (id : ThingId) : Bool :=
  world.info.isWellKnown id

-- The next id is counted up; after the last id of all comes zero.
def allocate : Act ThingId := do
  let id := (← get).info.nextId
  modify fun world =>
    { world with info := { world.info with nextId := id + 1 }, infoDirty := true }
  return id

def enter (id : ThingId) (thing : Thing) : Act Unit :=
  modify fun world => ((world.place id thing).touch id).reindex id

def createBare (prototype place : Option ThingId) : Act ThingId :=
  Act.scope do
    let id ← allocate
    let thing := Thing.fresh id prototype
    enter id (match place with
      | some place => thing.addEdge ⟨Relation.location, place⟩
      | none => thing)
    return id

def describeNew (name description : String) (thing : Thing) : Thing :=
  let thing := thing.write Property.name (.text name)
  if description.isEmpty then thing else thing.write Property.description (.text description)

def createFrom (prototype : Option ThingId) (name description : String) : Act ThingId := do
  let limbo := (← get).info.limbo
  Act.scope do
    let id ← createBare prototype (some limbo)
    edit id (describeNew name description)
    return id

def create (name description : String) : Act ThingId := do
  createFrom ((← get).prototype? Standard.thing) name description

def linkRooms (room : ThingId) (thereName : String) (other : ThingId) (backName : String) :
    Act (ThingId × ThingId) := do
  let prototype := (← get).prototype? Standard.link
  Act.scope do
    let there ← createFrom prototype thereName ""
    let back ← createFrom prototype backName ""
    setAssociation there Relation.linkOwner room false
    setAssociation back Relation.linkOwner other false
    setAssociation there Relation.otherLink back false
    setAssociation back Relation.otherLink there false
    return (there, back)

def setProperty (id : ThingId) (property : String) (value : Datum) : Act Unit :=
  amend id fun thing => thing.write property value

def unsetProperty (id : ThingId) (property : String) : Act (Option Datum) :=
  Act.scope do
    let old := ((← get).things[id]?).bind fun thing => thing.own? property
    edit id fun thing => thing.erase property
    modify (reindex · id)
    return old

-- The chain is followed one thing further than a value would be inherited.
def prototypeRefusal (world : World) (id prototype : ThingId) : Option Failure :=
  if !world.contains prototype then some (missing prototype)
  else if world.chainHas id (maxAncestors + 1) (some prototype) then
    some (.invalidCommand (showId id ++ " would inherit from itself"))
  else none

-- Gives a thing another prototype, or none; a chain that would come back to the thing is refused.
def setPrototype (id : ThingId) (prototype : Option ThingId) : Act Unit := do
  match prototype.bind ((← get).prototypeRefusal id) with
  | some failure => throw failure
  | none => amend id fun thing => { thing with prototype := prototype }

def subscribeTicks (id : ThingId) : Act Unit := do
  setProperty id Property.ticking (.flag true)
  modify fun world => { world with schedule := world.schedule.subscribe id }

def unsubscribeTicks (id : ThingId) : Act Unit := do
  let _ ← unsetProperty id Property.ticking
  modify fun world => { world with schedule := world.schedule.unsubscribe id }

def setClockRunning (world : World) (running : Bool) : World :=
  { world with clockRunning := running }

-- The rate is at least one millisecond; an unchanged rate is not written again.
def setClockInterval (world : World) (interval : UInt64) : World :=
  let interval := if interval = 0 then 1 else interval
  if world.info.clockInterval = interval then world
  else { world with info := { world.info with clockInterval := interval }, infoDirty := true }

end ThingWorld.World
