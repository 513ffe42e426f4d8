import ThingWorld.Command.Template
import ThingWorld.Engine
import ThingWorld.Format
import ThingWorld.Script.Eval
namespace ThingWorld.Engine

def runChild (engine : Engine) (context : Context) (owner : ThingId) (word line : String) :
    Run (Option Script.Value) := do
  let result ← engine.dispatch (context.child owner word) line
  return result <|> context.result

def runLines (engine : Engine) (context : Context) (owner : ThingId) (word : String) :
    List String → Run (Option Script.Value)
  | [] => return context.result
  | line :: rest => do
    let result ← engine.runChild context owner word line
    runLines engine (context.withResult result) owner word rest

def outputContext (world : World) (context : Context) : FormatContext :=
  let viewer := context.eventSource
  { FormatContext.forViewer world viewer context.this with
    actor := some viewer
    event := context.event
    args := context.eventArgs
    result := context.result }

def output (context : Context) (template : String) (world : World) : World :=
  world.tell context.eventSource (world.render template (outputContext world context))

def scriptContext (world : World) (context : Context) (owner : ThingId) (args : List String) :
    Script.Context where
  this := owner
  me := context.actor
  actor := context.eventSource
  event := context.event.map Event.name
  args := args
  admin := context.admin
  maxActions := world.limits.scriptActions

def runScript (engine : Engine) (context : Context) (owner : ThingId) (word source : String)
    (args : List String) : Run (Script.Value × Option Script.Value) := do
  let outcome ← Script.run (scriptContext (← get) context owner args) source
  let result := if outcome.value = .null then context.result else some outcome.value
  let context := context.withResult result
  modify fun world => outcome.outputs.foldl (fun world text => output context text world) world
  let result ← engine.runLines context owner word outcome.commands
  return (outcome.value, result)

def runTemplate (engine : Engine) (context : Context) (owner : ThingId) (word template : String)
    (args : List String) : Run (Option Script.Value) := do
  match Template.parse template with
  | .lines text => engine.runLines context owner word (← Run.ofExcept (substitute text args owner))
  | .script source => return (← engine.runScript context owner word source args).2

end ThingWorld.Engine
