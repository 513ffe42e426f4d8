namespace ThingWorld.Console

inductive Order where
  | setUp
  | play (player : String) (admin : Bool)
  | exportTo (file : Option String)
  | importFrom (file : String)
  | check
deriving DecidableEq, Repr

structure Invocation where
  settingsFile : String
  verbosity : Nat
  order : Order
deriving DecidableEq, Repr

inductive Request where
  | carryOut (invocation : Invocation)
  | version
  | help
  | misuse
deriving DecidableEq, Repr

def defaultSettingsFile : String := "config.toml"

def defaultPlayer : String := "wizard"

inductive Switch where
  | settings | verbose | version | help | player | admin | output
deriving DecidableEq, Repr

namespace Switch

def long : Switch → String
  | settings => "config"
  | verbose => "verbose"
  | version => "version"
  | help => "help"
  | player => "as"
  | admin => "admin"
  | output => "output"

def short? : Switch → Option Char
  | settings => some 'c'
  | verbose => some 'v'
  | version => some 'V'
  | help => some 'h'
  | player => none
  | admin => none
  | output => some 'o'

def takesValue : Switch → Bool
  | settings => true
  | player => true
  | output => true
  | _ => false

end Switch

inductive Command where
  | init | run | exportWorld | importWorld | check | help
deriving DecidableEq, Repr

def Command.ofWord? (word : String) : Option Command :=
  match word with
  | "init" => some init
  | "run" => some run
  | "export" => some exportWorld
  | "import" => some importWorld
  | "check" => some check
  | "help" => some help
  | _ => none

-- The switches that may stand behind a command, or before any.
def switchesOf : Option Command → List Switch
  | none => [.settings, .verbose, .help, .version]
  | some .run => [.settings, .verbose, .help, .player, .admin]
  | some .exportWorld => [.settings, .verbose, .help, .output]
  | some _ => [.settings, .verbose, .help]

inductive Use where
  | flag (switch : Switch)
  | value (switch : Switch) (text : String)
  | word (text : String)
  | awaiting (switch : Switch)
  -- All later arguments are words.
  | wordsOnly
  | unknown
deriving DecidableEq, Repr

def longUse (switches : List Switch) (cs : List Char) : Use :=
  let (name, value) := cs.span (· != '=')
  match switches.find? fun switch => switch.long == String.ofList name with
  | none => .unknown
  | some switch =>
    match switch.takesValue, value with
    | true, [] => .awaiting switch
    | true, _ :: text => .value switch (String.ofList text)
    | false, [] => .flag switch
    | false, _ :: _ => .unknown

def shortUses (switches : List Switch) : List Char → List Use
  | [] => []
  | c :: rest =>
    match switches.find? fun switch => switch.short? == some c with
    | none => [.unknown]
    | some switch =>
      if switch.takesValue then
        match rest with
        | [] => [.awaiting switch]
        | '=' :: text => [.value switch (String.ofList text)]
        | text => [.value switch (String.ofList text)]
      else .flag switch :: shortUses switches rest

def usesOf (switches : List Switch) (arg : String) : List Use :=
  match arg.toList with
  | ['-', '-'] => [.wordsOnly]
  | '-' :: '-' :: cs => [longUse switches cs]
  | ['-'] => [.word arg]
  | '-' :: cs => shortUses switches cs
  | _ => [.word arg]

def looksLikeSwitch (arg : String) : Bool :=
  match arg.toList with
  | '-' :: _ :: _ => true
  | _ => false

structure Draft where
  command : Option Command
  outerSettings : Option String
  settings : Option String
  verbosity : Nat
  player : Option String
  admin : Bool
  output : Option String
  words : List String
  wordsOnly : Bool
  awaiting : Option Switch

namespace Draft

def blank : Draft := ⟨none, none, none, 0, none, false, none, [], false, none⟩

-- A switch is given at most once.
def setValue (draft : Draft) (switch : Switch) (text : String) : Except Request Draft :=
  match switch with
  | .settings => if draft.settings.isSome then .error .misuse else .ok { draft with settings := some text }
  | .player => if draft.player.isSome then .error .misuse else .ok { draft with player := some text }
  | .output => if draft.output.isSome then .error .misuse else .ok { draft with output := some text }
  | _ => .error .misuse

def setFlag (draft : Draft) (switch : Switch) : Except Request Draft :=
  match switch with
  | .verbose => .ok { draft with verbosity := draft.verbosity + 1 }
  | .admin => if draft.admin then .error .misuse else .ok { draft with admin := true }
  | .version => .error .version
  | .help => .error .help
  | _ => .error .misuse

def choose (draft : Draft) (word : String) : Except Request Draft :=
  match Command.ofWord? word with
  | none => .error .misuse
  | some command =>
    .ok { draft with
      command := some command
      outerSettings := draft.settings
      settings := none
      wordsOnly := command == .help }

-- How many words may follow a command.
def room : Command → Nat
  | .importWorld => 1
  | .help => 1
  | _ => 0

def addWord (draft : Draft) (word : String) : Except Request Draft :=
  match draft.command with
  | none => if draft.wordsOnly then .error .misuse else draft.choose word
  | some command =>
    if room command ≤ draft.words.length then .error .misuse
    else if command == .help && (Command.ofWord? word).isNone then .error .misuse
    else .ok { draft with words := draft.words ++ [word] }

def use (draft : Draft) : Use → Except Request Draft
  | .flag switch => draft.setFlag switch
  | .value switch text => draft.setValue switch text
  | .word text => draft.addWord text
  | .awaiting switch => .ok { draft with awaiting := some switch }
  | .wordsOnly => .ok { draft with wordsOnly := true }
  | .unknown => .error .misuse

def readArg (draft : Draft) (arg : String) : Except Request Draft :=
  match draft.awaiting with
  | some switch =>
    if looksLikeSwitch arg then .error .misuse
    else { draft with awaiting := none }.setValue switch arg
  | none =>
    if draft.wordsOnly then draft.addWord arg
    else (usesOf (switchesOf draft.command) arg).foldlM use draft

def settingsFile (draft : Draft) : String :=
  (draft.settings <|> draft.outerSettings).getD defaultSettingsFile

def asking (draft : Draft) (order : Order) : Request :=
  .carryOut ⟨draft.settingsFile, draft.verbosity, order⟩

def request (draft : Draft) : Command → Request
  | .help => .help
  | .init => draft.asking .setUp
  | .run => draft.asking (.play (draft.player.getD defaultPlayer) draft.admin)
  | .exportWorld => draft.asking (.exportTo draft.output)
  | .check => draft.asking .check
  | .importWorld =>
    match draft.words with
    | [file] => draft.asking (.importFrom file)
    | _ => .misuse

def finish (draft : Draft) : Request :=
  if draft.awaiting.isSome then .misuse
  else
    match draft.command with
    | none => .misuse
    | some command => draft.request command

end Draft

def Request.parse (args : List String) : Request :=
  match args.foldlM Draft.readArg Draft.blank with
  | .ok draft => draft.finish
  | .error request => request

end ThingWorld.Console
