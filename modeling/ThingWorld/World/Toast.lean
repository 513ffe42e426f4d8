import ThingWorld.World.Build
namespace ThingWorld.World

def outsideInstances (world : World) (doomed : IdSet) (id : ThingId) : List ThingId :=
  (world.index.instancesOf id).filter fun user => !doomed.contains user

def toastRefusalOf? (world : World) (doomed : IdSet) (id : ThingId) : Option Failure :=
  if world.isWellKnown id then
    some (.permissionDenied (showId id ++ " is part of the world's foundation"))
  else
    match world.outsideInstances doomed id with
    | [] => none
    | users => some (.prototypeInUse id users)

-- The refusal of the first member that may not go.
def toastRefusal? (world : World) (doomed : IdSet) : Option Failure :=
  doomed.toList.findSome? (world.toastRefusalOf? doomed)

def survivors (doomed : IdSet) (ids : List ThingId) : List ThingId :=
  ids.filter fun id => !doomed.contains id

def release (doomed : IdSet) (limbo id : ThingId) : Act Unit := do
  if !(← get).contains id then return
  (survivors doomed ((← get).associated Relation.location id)).forM fun content =>
    setLocation content limbo
  (survivors doomed ((← get).associated Relation.linkOwner id)).forM fun link => do
    dissociateAll link Relation.linkOwner
    setLocation link limbo
  (survivors doomed ((← get).index.allAssociated id)).forM fun source =>
    dissociateFrom source id

def vanish (world : World) (id : ThingId) : World :=
  if world.contains id then
    let world :=
      { world with
        things := world.things.erase id
        listeners := world.listeners.erase id
        schedule := world.schedule.forget id }
    (world.touch id).reindex id
  else world

def toast (doomed : IdSet) : Act Unit := do
  match (← get).toastRefusal? doomed with
  | some failure => throw failure
  | none =>
    let limbo := (← get).info.limbo
    Act.scope do
      doomed.toList.forM (release doomed limbo)
      modify fun world => doomed.toList.foldl vanish world

end ThingWorld.World
