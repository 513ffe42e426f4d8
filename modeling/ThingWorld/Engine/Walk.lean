import ThingWorld.World.Relations
namespace ThingWorld

structure Route where
  visitLinks : Bool
  ignoreClosed : Bool
deriving DecidableEq, Repr

namespace Walk

def throughLink (world : World) (link : ThingId) : List ThingId :=
  link :: if world.isClosed link then [] else (world.destination? link).toList

def outward (world : World) (route : Route) (limbo id : ThingId) : List ThingId :=
  if route.ignoreClosed || !world.isClosed id then
    ((world.location? id).filter fun place => place != limbo).toList
  else []

-- Where the walk may go from a thing, in order.
def neighbours (world : World) (route : Route) (limbo id : ThingId) : List ThingId :=
  world.contents id
    ++ (if route.visitLinks then (world.links id).flatMap (throughLink world) else [])
    ++ outward world route limbo id

-- How a walk ended, and what it visited in which order.
structure Walked where
  outcome : Except Failure Bool
  order : List ThingId

-- `waiting` holds what is still to be visited, `order` what was visited, the latest first.
def walkFrom (route : Route) (limbo : ThingId) (visit : ThingId → Run Bool) :
    Nat → List ThingId → IdSet → List ThingId → Run Walked
  | 0, _, _, _ => Run.exhausted
  | _ + 1, [], _, order => return ⟨.ok true, order.reverse⟩
  | steps + 1, id :: waiting, visited, order => do
    if !(← get).contains id || visited.contains id then
      walkFrom route limbo visit steps waiting visited order
    else
      let visited := visited.insert id
      let order := id :: order
      match ← (visit id).observe with
      | .error failure => return ⟨.error failure, order.reverse⟩
      | .ok false => return ⟨.ok false, order.reverse⟩
      | .ok true =>
        let next := (neighbours (← get) route limbo id).filter fun id => !visited.contains id
        walkFrom route limbo visit steps (next ++ waiting) visited order

-- Visits everything that is reached from `start` and not yet `visited`, until a visit fails or says no.
def walk (steps : Nat) (route : Route) (start : ThingId) (visited : IdSet)
    (visit : ThingId → Run Bool) : Run Walked := do
  walkFrom route (← get).info.limbo visit steps [start] visited []

end Walk
end ThingWorld
