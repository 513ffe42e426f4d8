import ThingWorld.Engine.Verbs
namespace ThingWorld

namespace World

def templateScope (world : World) (actor : ThingId) : List ThingId :=
  world.contents actor ++ world.links actor
    ++ (match world.location? actor with
      | some here => here :: world.links here
      | none => [])
    ++ world.index.offeredEverywhere

-- The template of a thing for a word: the one for that word, or the general one when the word names the thing.
def templateOf? (world : World) (word : String) (id : ThingId) : Option (ThingId × String) :=
  match world.text? id (commandProperty word) with
  | some template => some (id, template)
  | none =>
    if world.answersTo id word then (world.text? id Property.command).map (id, ·) else none

-- The first thing around the actor with a template for a word.
def findTemplate? (world : World) (actor : ThingId) (word : String) : Option (ThingId × String) :=
  (world.templateScope actor).findSome? (world.templateOf? word)

end World

namespace Engine

-- Why a verb is not carried out.
def verbRefusal? (context : Context) (spec : VerbSpec) (line : Line) : Option Failure :=
  if spec.adminOnly && !context.admin then some (.permissionDenied spec.name)
  else if line.args.length < spec.minArgs then some (.notEnoughArguments spec.name spec.minArgs)
  else none

def dispatchVerb (engine : Engine) (context : Context) (spec : VerbSpec) (line : Line) :
    Run (Option Script.Value) := do
  match verbRefusal? context spec line with
  | some failure => throw failure
  | none => engine.perform context spec.verb line

def dispatchWord (engine : Engine) (context : Context) (word : String) (line : Line) :
    Run (Option Script.Value) := do
  let world ← get
  match world.registry[word]? with
  | some spec => engine.dispatchVerb context spec line
  | none =>
    match if context.running = some word then none else world.findTemplate? context.actor word with
    | some (owner, template) => engine.runTemplate context owner word template line.texts
    | none => throw (.unknownCommand word)

def dispatchLine (engine : Engine) (context : Context) (text : String) : Run (Option Script.Value) := do
  let limit := (← get).limits.substitutionDepth
  if limit < context.depth then throw (.nestingTooDeep limit)
  let line := Line.parse (normalizeLine text)
  match line.verb? with
  | none => return context.result
  | some verb => engine.dispatchWord context (Text.lower verb) line

def ofFuel : Nat → Engine
  | 0 => .spent
  | fuel + 1 => ⟨fuel, fun context text => dispatchLine (ofFuel fuel) context text⟩

end Engine

namespace World

-- More than a walk takes up: each thing once, and from each at most its contents, its links with where they lead, and
-- the place that it is in.
def walkFuel : Nat := Text.wordSize * (3 * Text.wordSize + 1) + 2

-- Each thing may yet react and be in a check, whether it is there or still to come; in each of these the lines nest at
-- most as deep as the limit allows, and one line may have one more carried out at its own depth.
def fuel (world : World) : Nat :=
  let depth := world.limits.substitutionDepth
  2 * (4 * Text.wordSize * (depth + 2) + (depth + 1)) + walkFuel + 3

def engine (world : World) : Engine := .ofFuel world.fuel

def dispatch (context : Context) (text : String) : Run (Option Script.Value) := do
  (← get).engine.dispatch context text

-- What was typed by `actor`, in a scope of its own. The actor reads why it failed, unless that was told.
def reporting (actor : ThingId) (typed : Run (Option Script.Value)) : Run Unit := do
  match ← (Run.versioned typed).observe with
  | .ok _ => return
  | .error failure =>
    if !failure.isEventFailure then
      modify fun world => world.tell actor failure.message
    throw failure

def command (actor : ThingId) (text : String) : Run Unit := do
  reporting actor (dispatch (Context.of actor ((← get).isAdmin actor)) text)

def tick : Run Engine.TickOutcome := do
  (← get).engine.tick

end World
end ThingWorld
