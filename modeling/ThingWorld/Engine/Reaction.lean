import ThingWorld.Engine.Chain
namespace ThingWorld.Engine

def reactionTemplate? (world : World) (id : ThingId) (event : Event) : Option String :=
  world.text? id (reactionProperty event.name)

def runReaction (engine : Engine) (id : ThingId) (event : Event) (template : String) : Run Unit := do
  let admin := (← get).flag id Property.admin
  let _ ← engine.runTemplate (Context.forReaction id event admin) id (reactionProperty event.name)
    template (event.name :: event.args)

def beginReaction (id : ThingId) (event : Event) : Act Bool := do
  let (began, schedule) := (← get).schedule.begin id event
  modify fun world => { world with schedule := schedule }
  return began

def react (engine : Engine) (id : ThingId) (event : Event) : Run Unit := do
  match reactionTemplate? (← get) id event with
  | none => return
  | some template =>
    if ← beginReaction id event then engine.runReaction id event template

def startCheck (id : ThingId) (world : World) : World :=
  { world with schedule := world.schedule.startCheck id }

def endCheck (id : ThingId) (world : World) : World :=
  { world with schedule := world.schedule.endCheck id }

-- The check is over also when the reaction fails.
def reactToCheck (engine : Engine) (id : ThingId) (event : Event) : Run Unit := do
  match reactionTemplate? (← get) id event with
  | none => return
  | some template =>
    if (← get).schedule.isChecking id then return
    modify (startCheck id)
    let verdict ← (engine.runReaction id event template).observe
    modify (endCheck id)
    Run.ofExcept verdict

structure TickOutcome where
  tick : Nat
  ran : Nat
  failed : Nat
  pending : Nat
deriving DecidableEq, Repr

structure Due where
  id : ThingId
  event : Event
  isTick : Bool

def startTick : Act (List Due) := do
  let (parked, schedule) := (← get).schedule.advance
  modify fun world => { world with schedule := schedule }
  return parked.map (fun (id, event) => ⟨id, event, false⟩)
    ++ schedule.subscribers.toList.map fun id => ⟨id, .tick id, true⟩

-- A refused event ran as well as any other.
def countTick (outcome : TickOutcome) : Except Failure Unit → TickOutcome
  | .ok () => { outcome with ran := outcome.ran + 1 }
  | .error failure =>
    if failure.isEventFailure then { outcome with ran := outcome.ran + 1 }
    else { outcome with failed := outcome.failed + 1 }

-- The reaction to a due event, when there is one to run.
def dueReaction (due : Due) : Act (Option String) := do
  let world ← get
  if !world.contains due.id then return none
  match reactionTemplate? world due.id due.event with
  | none => return none
  | some template =>
    if due.isTick && world.schedule.hasReacted due.id then return none
    if ← beginReaction due.id due.event then return some template else return none

def runDue (engine : Engine) (outcome : TickOutcome) : List Due → Run TickOutcome
  | [] => return outcome
  | due :: rest => do
    match ← dueReaction due with
    | none => runDue engine outcome rest
    | some template =>
      let result ← (engine.runReaction due.id due.event template).observe
      runDue engine (countTick outcome result) rest

def tick (engine : Engine) : Run TickOutcome :=
  Run.versioned do
    let due ← startTick
    let outcome ← engine.runDue ⟨(← get).schedule.tick, 0, 0, 0⟩ due
    return { outcome with pending := (← get).schedule.pending.size }

end ThingWorld.Engine
