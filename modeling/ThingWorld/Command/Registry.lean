import Std.Data.ExtTreeMap
namespace ThingWorld

inductive Verb where
  | look | examine | go | get | drop | inventory | say | emote | help
  | create | setProperty | unsetProperty | reproto | move | link | toast | copy
  | defineCommand | defineReaction | subscribe | unsubscribe
  | output | emit | fail | branch | script | tick | clock | check | who
deriving DecidableEq, Repr

structure VerbSpec where
  name : String
  minArgs : Nat
  adminOnly : Bool
  help : String
  verb : Verb
deriving DecidableEq, Repr

abbrev Registry := Std.ExtTreeMap String VerbSpec

namespace Registry

def standardSpecs : List VerbSpec :=
  [⟨"look", 0, false, "look [THING] - describe your surroundings or a thing", .look⟩,
   ⟨"examine", 1, false, "examine THING - look closely at a thing", .examine⟩,
   ⟨"go", 1, false, "go EXIT - leave through an exit", .go⟩,
   ⟨"get", 1, false, "get THING - pick something up", .get⟩,
   ⟨"drop", 1, false, "drop THING - put something down", .drop⟩,
   ⟨"inventory", 0, false, "inventory - list what you carry", .inventory⟩,
   ⟨"say", 1, false, "say TEXT - talk to the room ('TEXT works too)", .say⟩,
   ⟨"emote", 1, false, "emote TEXT - act something out (:TEXT works too)", .emote⟩,
   ⟨"help", 0, false, "help - list commands", .help⟩,
   ⟨"@create", 2, true, "@create PROTO NAME - make a new thing", .create⟩,
   ⟨"@set", 3, false, "@set THING PROP VALUE - set a property", .setProperty⟩,
   ⟨"@unset", 2, false, "@unset THING PROP - remove a property", .unsetProperty⟩,
   ⟨"@reproto", 2, true, "@reproto THING PROTO - change a prototype", .reproto⟩,
   ⟨"@move", 2, false, "@move THING DEST - relocate a thing", .move⟩,
   ⟨"@link", 4, true, "@link ROOM EXIT DEST BACK - join two rooms", .link⟩,
   ⟨"@toast", 1, true, "@toast THING - delete a thing and what it holds", .toast⟩,
   ⟨"@copy", 1, true, "@copy THING - duplicate a thing and what it holds", .copy⟩,
   ⟨"@command", 2, true, "@command THING WORD [TEMPLATE] - define a verb", .defineCommand⟩,
   ⟨"@react", 2, true, "@react THING EVENT [TEMPLATE] - define a reaction", .defineReaction⟩,
   ⟨"@subscribe", 1, true, "@subscribe THING - send tick events to a thing", .subscribe⟩,
   ⟨"@unsubscribe", 1, true, "@unsubscribe THING - stop tick events", .unsubscribe⟩,
   ⟨"@output", 1, false, "@output TEXT - show formatted text to whoever acted", .output⟩,
   ⟨"@emit", 1, false, "@emit TEXT - show formatted text around this thing", .emit⟩,
   ⟨"@fail", 1, false, "@fail TEXT [@others TEXT] - refuse the current event", .fail⟩,
   ⟨"@if", 3, false, "@if EXPR @then LINE [@else LINE] - conditional", .branch⟩,
   ⟨"@script", 1, false, "@script EXPR - run a script (!EXPR works too)", .script⟩,
   ⟨"@tick", 0, true, "@tick - advance the clock by one tick", .tick⟩,
   ⟨"@clock", 0, true, "@clock [start|stop|MS] - show or change the clock", .clock⟩,
   ⟨"@check", 0, true, "@check - verify the association indices", .check⟩,
   ⟨"@who", 0, false, "@who - list connected players", .who⟩]

def ofSpecs (specs : List VerbSpec) : Registry :=
  Std.ExtTreeMap.ofList (specs.map fun spec => (spec.name, spec))

def standard : Registry := ofSpecs standardSpecs

def specs (registry : Registry) : List VerbSpec := registry.values

end Registry
end ThingWorld
