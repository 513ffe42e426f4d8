import ThingWorld.Engine.Reaction
import ThingWorld.Engine.Walk
namespace ThingWorld

abbrev Hook := Event → Run Unit

structure Emission where
  event : Event
  failed : Bool
  -- What every listener reads; without it the event is silent.
  format : Option String
  route : Route
  reactions : Bool
  -- Reactions answer at once and decide.
  isCheck : Bool
  onSuccess : Option Hook
  onFailure : Option Hook

def Emission.of (event : Event) : Emission where
  event := event
  failed := false
  format := none
  route := ⟨false, false⟩
  reactions := true
  isCheck := false
  onSuccess := none
  onFailure := none

def Emission.saying (emission : Emission) (format : String) : Emission :=
  { emission with format := some format }

def Emission.silently (emission : Emission) : Emission :=
  { emission with reactions := false }

def Emission.asCheck (emission : Emission) : Emission :=
  { emission with isCheck := true }

namespace Engine

def eventContext (world : World) (viewer : ThingId) (event : Event) : FormatContext :=
  { FormatContext.forViewer world viewer event.source with
    actor := some event.source
    event := some event
    args := event.args }

def hear (id : ThingId) (event : Event) (format : Option String) (world : World) : World :=
  match format with
  | none => world
  | some format => world.tell id (world.render format (eventContext world id event))

def passRefusal : Except Failure Unit → Except Failure Unit
  | .error failure => if failure.isEventFailure then .error failure else .ok ()
  | .ok () => .ok ()

-- The source of an event does not react to it.
def visitThing (engine : Engine) (emission : Emission) (id : ThingId) : Run Unit := do
  let event := emission.event
  if (← get).hasListener id then
    modify (hear id event emission.format)
  else if emission.reactions && id != event.source then
    let reaction := if emission.isCheck then engine.reactToCheck id event else engine.react id event
    Run.ofExcept (passRefusal (← reaction.observe))

def goesOn : Except Failure Unit → Except Failure Bool
  | .ok () => .ok true
  | .error failure => if failure.isEventFailure then .ok false else .error failure

-- Sends an event from `start`; says whether nothing refused it.
def emit (engine : Engine) (start : ThingId) (emission : Emission) (exclude : List ThingId) : Run Bool := do
  let walked ← Walk.walk engine.steps emission.route start (Std.ExtTreeSet.ofList exclude) fun id => do
    Run.ofExcept (goesOn (← (engine.visitThing emission id).observe))
  let finished ← Run.ofExcept walked.outcome
  let failed := emission.failed || !finished
  match if failed then emission.onFailure else emission.onSuccess with
  | some hook => hook emission.event
  | none => pure ()
  return !failed

def emitFailure (engine : Engine) (actor : ThingId) (start : Option ThingId) (name : String)
    (forActor : String) (forOthers : Option String) (args : List String) : Run Failure := do
  let event : Event := ⟨actor, name, args⟩
  if !forActor.isEmpty then
    modify (hear actor event (some forActor))
  match start, forOthers with
  | some start, some format =>
    let emission := { ((Emission.of event).saying format).silently with failed := true }
    let _ ← (engine.emit start emission [actor]).observe
  | _, _ => pure ()
  return .eventFailed name

end Engine
end ThingWorld
