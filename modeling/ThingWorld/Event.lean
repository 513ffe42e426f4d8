import ThingWorld.Thing
namespace ThingWorld

structure Event where
  source : ThingId
  name : String
  args : List String
deriving DecidableEq, Repr

def Event.tick (id : ThingId) : Event := ⟨id, "tick", []⟩

end ThingWorld
