import ThingWorld.Command.Line
import ThingWorld.Engine.Emission
import ThingWorld.World.Copy
import ThingWorld.World.Toast
namespace ThingWorld.Engine

namespace Announcement

def say := "$forme You say, \"$arg\". $forothers $This says, \"$arg\"."
def emote := "$forme You emote: $arg $forothers $This $arg"
def get := "$forme You pick up $arg. $forothers $This picks up $arg."
def drop := "$forme You drop $arg. $forothers $This drops $arg."
def leave := "$This goes $arg."
def arrive := "$This arrives."

end Announcement

def resolve (context : Context) (reference : String) : Run ThingId := do
  Run.ofExcept ((← get).resolveOne context.view reference)

def tell (context : Context) (text : String) : Run Unit :=
  modify fun world => world.tell context.actor text

def requireControl (context : Context) (id : ThingId) : Run Unit :=
  if context.controls id then pure ()
  else throw (.permissionDenied (showId id ++ " is not yours to change"))

def currentRoom (context : Context) : Run ThingId := do
  match (← get).location? context.actor with
  | some place => return place
  | none => throw (.invalidCommand "you are nowhere")

def origin (world : World) (id : ThingId) : ThingId :=
  match (world.location? id).filter fun place => place != world.info.limbo with
  | some place => place
  | none => (world.linkOwner? id).getD id

def describeContext (world : World) (context : Context) (target : ThingId) : FormatContext :=
  { FormatContext.forViewer world context.actor target with
    actor := some context.actor
    result := context.result }

-- A thing's format of that name, or its description, as the actor reads it.
def describe (world : World) (context : Context) (target : ThingId) (format : String) : String :=
  let template := match world.text? target format with
    | some template => template
    | none => world.text target Property.description
  Text.withoutBlankLines (world.render template (describeContext world context target))

-- A silent check; refused, it ends the command.
def ask (engine : Engine) (context : Context) (start : ThingId) (name : String) (args : List String) :
    Run Unit := do
  let emission := (Emission.of ⟨context.actor, name, args⟩).asCheck
  if !(← engine.emit start emission [context.actor]) then
    throw (.eventFailed name)

def announce (engine : Engine) (context : Context) (start : ThingId) (name format : String)
    (args : List String) : Run Unit := do
  let emission := ((Emission.of ⟨context.actor, name, args⟩).saying format).silently
  let _ ← engine.emit start emission []

def look (context : Context) (line : Line) : Run Unit := do
  let target ← if line.args.isEmpty then currentRoom context else resolve context line.rest
  tell context (describe (← get) context target Property.lookFormat)

-- What only an admin reads about a thing.
def inspection (world : World) (id : ThingId) (thing : Thing) : String :=
  let prototype := match thing.prototype with
    | some prototype => world.nameOf prototype ++ " (" ++ showId prototype ++ ")"
    | none => "none"
  let properties := thing.properties.toList.map fun (name, value) => "\n  " ++ name ++ ": " ++ value.asText
  let edges := thing.edges.map fun edge => "\n  " ++ edge.property ++ " -> " ++ showId edge.target
  String.join (["\n", showId id, " prototype: ", prototype] ++ properties ++ edges)

def examine (context : Context) (line : Line) : Run Unit := do
  let target ← resolve context line.rest
  let world ← get
  let text := describe world context target Property.examineFormat
  match if context.admin then world.get? target else none with
  | some thing => tell context (text ++ inspection world target thing)
  | none => tell context text

def go (engine : Engine) (context : Context) (line : Line) : Run (Option Script.Value) := do
  let here ← currentRoom context
  let world ← get
  let exit ← Run.ofExcept ((world.matchAmong (world.links here) line.rest).toExcept line.rest)
  let name := world.nameOf exit
  match world.destination? exit with
  | none => throw (.invalidCommand (name ++ " leads nowhere"))
  | some destination =>
    engine.ask context exit "go" [name]
    let leave := (Emission.of ⟨context.actor, "leave", [name]⟩).saying Announcement.leave
    let _ ← engine.emit here leave [context.actor]
    World.setLocation context.actor destination
    let arrive := (Emission.of ⟨context.actor, "arrive", []⟩).saying Announcement.arrive
    let _ ← engine.emit destination arrive [context.actor]
    engine.dispatch context "look"

def take (engine : Engine) (context : Context) (line : Line) : Run Unit := do
  let here ← currentRoom context
  let world ← get
  let candidates := (world.contents here).filter fun id => id != context.actor
  let item ← Run.ofExcept ((world.matchAmong candidates line.rest).toExcept line.rest)
  let name := world.displayName item
  if world.hasListener item then
    throw (.invalidCommand (name ++ " would rather stay on the ground"))
  engine.ask context item "get" [name]
  World.setLocation item context.actor
  engine.announce context here "get" Announcement.get [name]

def drop (engine : Engine) (context : Context) (line : Line) : Run Unit := do
  let here ← currentRoom context
  let world ← get
  let item ← Run.ofExcept ((world.matchAmong (world.contents context.actor) line.rest).toExcept line.rest)
  let name := world.displayName item
  engine.ask context item "drop" [name]
  World.setLocation item here
  engine.announce context here "drop" Announcement.drop [name]

def inventory (context : Context) : Run Unit := do
  let world ← get
  match (world.contents context.actor).map world.displayName with
  | [] => tell context "You are carrying nothing."
  | names => tell context ("You are carrying: " ++ String.intercalate ", " names)

def speak (engine : Engine) (context : Context) (name format : String) (line : Line) : Run Unit := do
  let emission := (Emission.of ⟨context.actor, name, [line.rest]⟩).saying format
  let _ ← engine.emit (origin (← get) context.actor) emission []

def help (context : Context) : Run Unit := do
  let specs := (← get).registry.specs.filter fun spec => context.admin || !spec.adminOnly
  tell context (String.intercalate "\n" (specs.map VerbSpec.help))

-- A standard prototype by its name, else any thing.
def resolvePrototype (context : Context) (reference : String) : Run ThingId := do
  match (← get).prototype? (Text.lower reference) with
  | some prototype => return prototype
  | none => resolve context reference

-- New things appear beside the actor, new rooms stay in limbo.
def create (context : Context) (line : Line) : Run (Option Script.Value) := do
  let prototype ← resolvePrototype context (line.arg 0)
  let id ← World.createFrom (some prototype) (line.restFrom 1) ""
  let world ← get
  if !world.inheritsFrom id (world.prototype? Standard.room) then
    World.setLocation id ((world.location? context.actor).getD context.actor)
  tell context ("Created " ++ (← get).displayName id ++ " (" ++ showId id ++ ").")
  return some (.thing id)

def setProperty (context : Context) (line : Line) : Run Unit := do
  let id ← resolve context (line.arg 0)
  requireControl context id
  let property := line.arg 1
  World.setProperty id property (Datum.parse property (line.restFrom 2))
  tell context ("Set " ++ property ++ " of " ++ showId id ++ ".")

def unsetProperty (context : Context) (line : Line) : Run Unit := do
  let id ← resolve context (line.arg 0)
  requireControl context id
  let property := line.arg 1
  match ← World.unsetProperty id property with
  | none => throw (.notFound (showId id ++ " has no " ++ property))
  | some _ => tell context ("Removed " ++ property ++ " from " ++ showId id ++ ".")

def reproto (context : Context) (line : Line) : Run Unit := do
  let id ← resolve context (line.arg 0)
  let prototype ← resolvePrototype context (line.arg 1)
  World.setPrototype id (some prototype)
  tell context (showId id ++ " now inherits from " ++ showId prototype ++ ".")

def move (context : Context) (line : Line) : Run Unit := do
  let id ← resolve context (line.arg 0)
  requireControl context id
  let place ← resolve context (line.restFrom 1)
  let world ← get
  if (world.connected id).contains place then
    throw (.invalidCommand (world.displayName id ++ " cannot go inside itself"))
  World.setLocation id place
  tell context ("Moved " ++ showId id ++ " to " ++ showId place ++ ".")

def link (context : Context) (line : Line) : Run Unit := do
  let room ← resolve context (line.arg 0)
  let other ← resolve context (line.arg 2)
  let (there, back) ← World.linkRooms room (line.arg 1) other (line.arg 3)
  tell context
    ("Linked " ++ showId room ++ " to " ++ showId other ++ " (" ++ showId there ++ " and " ++ showId back
      ++ ").")

-- Players that a doomed thing holds are moved out, never deleted.
def toast (context : Context) (line : Line) : Run Unit := do
  let id ← resolve context line.rest
  let world ← get
  if world.hasListener id then
    throw (.permissionDenied (showId id ++ " is someone"))
  let doomed := (world.connected id).filter fun member => !world.hasListener member
  World.toast doomed
  tell context ("Toasted " ++ showId id ++ " (" ++ Text.showNat doomed.size ++ " thing(s)).")

def copy (context : Context) (line : Line) : Run (Option Script.Value) := do
  let id ← resolve context line.rest
  let copied ← World.copy id
  tell context ("Copied " ++ showId id ++ " to " ++ showId copied ++ ".")
  return some (.thing copied)

def splitTyped (template : String) : String :=
  Text.mapChars (Text.replace ['\\', 'n'] ['\n']) template

-- Stores a template, or clears it when the text is empty; a text that is a script has to be one.
def storeTemplate (context : Context) (id : ThingId) (property template : String) : Run Unit := do
  if template.isEmpty then
    let _ ← World.unsetProperty id property
    tell context ("Cleared " ++ property ++ " on " ++ showId id ++ ".")
  else
    match scriptSource? template with
    | some source =>
      let _ ← Run.ofExcept (Script.validate (← get).limits source)
    | none => pure ()
    World.setProperty id property (.text (splitTyped template))
    tell context ("Set " ++ property ++ " on " ++ showId id ++ ".")

def define (property : String → String) (context : Context) (line : Line) : Run Unit := do
  let id ← resolve context (line.arg 0)
  storeTemplate context id (property (line.arg 1)) (line.restFrom 2)

def subscribe (context : Context) (line : Line) : Run Unit := do
  let id ← resolve context line.rest
  World.subscribeTicks id
  tell context (showId id ++ " now receives ticks.")

def unsubscribe (context : Context) (line : Line) : Run Unit := do
  let id ← resolve context line.rest
  World.unsubscribeTicks id
  tell context (showId id ++ " no longer receives ticks.")

def emitAround (engine : Engine) (context : Context) (line : Line) : Run Unit := do
  let event : Event := ⟨context.this, "emit", context.eventArgs⟩
  let _ ← engine.emit (origin (← get) context.this) ((Emission.of event).saying line.rest).silently []

def othersMark : List Char := " @others ".toList
def thenMark : List Char := " @then ".toList
def elseMark : List Char := " @else ".toList

def trimmedText (cs : List Char) : String := String.ofList (Text.trim cs)

-- What the actor and what all others read when an event is refused.
def splitRefusal (text : String) : String × Option String :=
  match Text.cut? othersMark text.toList with
  | some (mine, theirs) => (trimmedText mine, some (trimmedText theirs))
  | none => (text, none)

def refuse (engine : Engine) (context : Context) (line : Line) : Run (Option Script.Value) := do
  let (forActor, forOthers) := splitRefusal line.rest
  let who := context.eventSource
  let name := (context.event.map Event.name).getD "fail"
  throw (← engine.emitFailure who (some (origin (← get) who)) name forActor forOthers context.eventArgs)

structure Branches where
  condition : String
  yes : String
  no : Option String

def Branches.parse? (text : String) : Option Branches :=
  (Text.cut? thenMark text.toList).map fun (condition, branches) =>
    match Text.cut? elseMark branches with
    | some (yes, no) => ⟨trimmedText condition, trimmedText yes, some (trimmedText no)⟩
    | none => ⟨trimmedText condition, trimmedText branches, none⟩

def runBranch (engine : Engine) (context : Context) (line : String) : Run (Option Script.Value) := do
  let result ← engine.dispatch context.deeper line
  return result <|> context.result

-- A condition that holds becomes the result of the chain; one that does not leaves the result as it was.
def branch (engine : Engine) (context : Context) (line : Line) : Run (Option Script.Value) := do
  match Branches.parse? line.rest with
  | none => throw (.invalidCommand "@if needs @then")
  | some branches =>
    let (value, _) ← engine.runScript context context.this "@if" branches.condition line.texts
    if value.isTruthy then
      engine.runBranch (context.withResult (some value)) branches.yes
    else
      match branches.no with
      | some no => engine.runBranch context no
      | none => return context.result

def script (engine : Engine) (context : Context) (line : Line) : Run (Option Script.Value) := do
  return (← engine.runScript context context.this "@script" line.rest line.texts).2

def tickNow (engine : Engine) (context : Context) : Run Unit := do
  let outcome ← engine.tick
  tell context
    ("Tick " ++ Text.showNat outcome.tick ++ ": " ++ Text.showNat outcome.ran ++ " reaction(s), "
      ++ Text.showNat outcome.failed ++ " failed, " ++ Text.showNat outcome.pending ++ " pending.")

def setRate (rate : String) : Run Unit := do
  match Text.uint64? rate with
  | none => throw (.invalidCommand ("not a clock rate: " ++ rate))
  | some 0 => throw (.invalidCommand "clock rate must be positive")
  | some interval => modify fun world => world.setClockInterval interval

def clock (context : Context) (line : Line) : Run Unit := do
  match line.arg? 0 with
  | none => pure ()
  | some "start" => modify fun world => world.setClockRunning true
  | some "stop" => modify fun world => world.setClockRunning false
  | some rate => setRate rate
  let world ← get
  tell context
    ("Clock " ++ (if world.clockRunning then "running" else "stopped") ++ " every "
      ++ Text.showNat world.info.clockInterval.toNat ++ " ms at tick " ++ Text.showNat world.schedule.tick
      ++ ".")

def check (context : Context) : Run Unit := do
  let world ← get
  tell context
    (if world.checkIndices then
      "Indices consistent across " ++ Text.showNat world.size ++ " things."
    else "Index mismatch: incremental indices differ from a rebuild.")

def who (context : Context) : Run Unit := do
  let world ← get
  let names := (world.listeners.keys.filter world.contains).map world.displayName
  tell context ("Connected: " ++ String.intercalate ", " (names.mergeSort fun a b => decide (a ≤ b)))

-- Carries out a verb; one that leaves no value of its own leaves the result as it was.
def perform (engine : Engine) (context : Context) (verb : Verb) (line : Line) :
    Run (Option Script.Value) := do
  match verb with
  | .go => engine.go context line
  | .create => create context line
  | .copy => copy context line
  | .fail => engine.refuse context line
  | .branch => engine.branch context line
  | .script => engine.script context line
  | .look => look context line; return context.result
  | .examine => examine context line; return context.result
  | .get => engine.take context line; return context.result
  | .drop => engine.drop context line; return context.result
  | .inventory => inventory context; return context.result
  | .say => engine.speak context "say" Announcement.say line; return context.result
  | .emote => engine.speak context "emote" Announcement.emote line; return context.result
  | .help => help context; return context.result
  | .setProperty => setProperty context line; return context.result
  | .unsetProperty => unsetProperty context line; return context.result
  | .reproto => reproto context line; return context.result
  | .move => move context line; return context.result
  | .link => link context line; return context.result
  | .toast => toast context line; return context.result
  | .defineCommand => define commandProperty context line; return context.result
  | .defineReaction => define reactionProperty context line; return context.result
  | .subscribe => subscribe context line; return context.result
  | .unsubscribe => unsubscribe context line; return context.result
  | .output => modify (output context line.rest); return context.result
  | .emit => engine.emitAround context line; return context.result
  | .tick => engine.tickNow context; return context.result
  | .clock => clock context line; return context.result
  | .check => check context; return context.result
  | .who => who context; return context.result

end ThingWorld.Engine
