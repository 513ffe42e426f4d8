import ThingWorld.Clock
import ThingWorld.Toml.Document
import ThingWorld.World.Open
namespace ThingWorld

inductive LogLevel where
  | off | error | warn | info | debug | trace
deriving DecidableEq, Repr

def LogLevel.ofText? (s : String) : Option LogLevel :=
  match Text.asciiLower s with
  | "off" => some off
  | "error" => some error
  | "warn" => some warn
  | "info" => some info
  | "debug" => some debug
  | "trace" => some trace
  | _ => none

structure Settings where
  worldName : String
  dataDir : String
  seedIfEmpty : Bool
  clockEnabled : Bool
  clockInterval : UInt64
  maxDrain : Nat
  limits : Limits
  logLevel : Option String
  logFile : Option String
deriving DecidableEq, Repr

inductive SettingsError where
  | unreadable
  | malformed
  | emptyName
  | noInterval
  | noDepth
  | noLevel (level : String)
deriving DecidableEq, Repr

def SettingsError.message : SettingsError → String
  | unreadable => "Failed to read config file"
  | malformed => "Failed to parse config file"
  | emptyName => "world.name must not be empty"
  | noInterval => "clock.interval_ms must be positive"
  | noDepth => "commands.max_substitution_depth must be at least 1"
  | noLevel level => "logging.level '" ++ level ++ "' is not a log level"

namespace Settings

def standard : Settings where
  worldName := "textcraft"
  dataDir := "./data/world"
  seedIfEmpty := true
  clockEnabled := true
  clockInterval := 1000
  maxDrain := 16
  limits := .standard
  logLevel := none
  logFile := none

def standardText : String :=
  "[world]\nname = \"textcraft\"\ndata_dir = \"./data/world\"\nseed_if_empty = true\n\n"
    ++ "[clock]\nenabled = true\ninterval_ms = 1000\nmax_pending_drain = 16\n\n"
    ++ "[commands]\nmax_substitution_depth = 8\nmax_script_length = 512\nmax_script_actions = 32\n\n"
    ++ "[logging]\n"

-- An absent field keeps its default; a present one must be of its type.
def field {α : Type} (default : α) (read : Toml → Option α) : Option Toml → Option α
  | none => some default
  | some value => read value

def readWorld (settings : Settings) (value : Toml) : Option Settings := do
  match ← value.record? ["name", "data_dir", "seed_if_empty"] with
  | [name, dataDir, seedIfEmpty] =>
    some { settings with
      worldName := ← field settings.worldName Toml.toText? name
      dataDir := ← field settings.dataDir Toml.toText? dataDir
      seedIfEmpty := ← field settings.seedIfEmpty Toml.toFlag? seedIfEmpty }
  | _ => none

def readClock (settings : Settings) (value : Toml) : Option Settings := do
  match ← value.record? ["enabled", "interval_ms", "max_pending_drain"] with
  | [enabled, interval, maxDrain] =>
    some { settings with
      clockEnabled := ← field settings.clockEnabled Toml.toFlag? enabled
      clockInterval := UInt64.ofNat (← field settings.clockInterval.toNat (Toml.toNat? Text.wordSize) interval)
      maxDrain := ← field settings.maxDrain (Toml.toNat? Text.wordSize) maxDrain }
  | _ => none

def readCommands (settings : Settings) (value : Toml) : Option Settings := do
  match ← value.record? ["max_substitution_depth", "max_script_length", "max_script_actions"] with
  | [depth, length, actions] =>
    let limits := settings.limits
    some { settings with limits :=
      ⟨← field limits.substitutionDepth (Toml.toNat? 256) depth,
       ← field limits.scriptLength (Toml.toNat? Text.wordSize) length,
       ← field limits.scriptActions (Toml.toNat? 65536) actions⟩ }
  | _ => none

def readLogging (settings : Settings) (value : Toml) : Option Settings := do
  match ← value.record? ["level", "file"] with
  | [level, file] =>
    some { settings with
      logLevel := ← field none (fun v => v.toText?.map some) level
      logFile := ← field none (fun v => v.toText?.map some) file }
  | _ => none

def readSection (read : Settings → Toml → Option Settings) (value : Option Toml) (settings : Settings) :
    Option Settings :=
  match value with
  | none => some settings
  | some value => read settings value

def ofToml? (document : Toml) : Option Settings := do
  match ← document.record? ["world", "clock", "commands", "logging"] with
  | [world, clock, commands, logging] =>
    let settings ← readSection readWorld world standard
    let settings ← readSection readClock clock settings
    let settings ← readSection readCommands commands settings
    readSection readLogging logging settings
  | _ => none

-- The first setting that is out of its range.
def complaint? (settings : Settings) : Option SettingsError :=
  if Text.isBlankText settings.worldName then some .emptyName
  else if settings.clockInterval = 0 then some .noInterval
  else if settings.limits.substitutionDepth = 0 then some .noDepth
  else
    match settings.logLevel with
    | none => none
    | some level => if (LogLevel.ofText? level).isNone then some (.noLevel level) else none

def parse (document : String) : Except SettingsError Settings :=
  match (Toml.parse? document).bind ofToml? with
  | none => .error .malformed
  | some settings =>
    match settings.complaint? with
    | some error => .error error
    | none => .ok settings

-- The settings of a file, of which there may be none.
def load (file : Option String) : Except SettingsError Settings :=
  match file with
  | none => .error .unreadable
  | some document => parse document

def worldOptions (settings : Settings) (dice : Nat → Fin 100) : Options :=
  ⟨settings.worldName, settings.limits, settings.clockInterval, dice⟩

def clockSettings (settings : Settings) : ClockSettings :=
  ⟨settings.clockEnabled, settings.maxDrain⟩

end Settings
end ThingWorld
