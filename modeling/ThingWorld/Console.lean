import ThingWorld.Console.Arguments
import ThingWorld.Console.Disk
import ThingWorld.Console.Session
import ThingWorld.Dump
import ThingWorld.Settings
namespace ThingWorld.Console

structure Host (m : Type → Type) where
  has : String → m Bool
  read? : String → m (Option String)
  -- Says whether the file could be written.
  write : String → String → m Bool
  -- Makes the file of a log when it can be made.
  openLog : String → m Unit
  -- An existing store or a new one; nothing where there can be none.
  openStore : String → m (Option Store)
  saveStore : String → Store → m Unit
  sizeOf : Store → m Nat
  print : String → m Unit
  now : m Timestamp
  -- Milliseconds that never go back.
  time : m Nat
  dice : m (Nat → Fin 100)

inductive Next where
  | exit (code : UInt8)
  | play (store : String) (session : Session)
  -- A command did not come to an end.
  | stuck

def done : Next := .exit 0
def failed : Next := .exit 1
def misused : Next := .exit 2

def versionLine : String := "textcraft 0.3.0"

def helpText : String :=
  "Usage: textcraft [-c FILE] [-v] init | run [--as NAME] [--admin] | export [-o FILE] | import FILE | check"

section

variable {m : Type → Type} [Monad m]

def loadSettings (host : Host m) (file : String) : m (Except SettingsError Settings) := do
  if ← host.has file then return Settings.load (← host.read? file)
  else return .ok .standard

-- An empty store is seeded only when that is allowed.
def openWorld (host : Host m) (settings : Settings) (mayMake : Bool) : m (Option World) := do
  match ← host.openStore settings.dataDir with
  | none => return none
  | some store =>
    if store.info.isNone && !(mayMake || settings.seedIfEmpty) then return none
    match World.openOn store (settings.worldOptions (← host.dice)) with
    | .ok world =>
      host.saveStore settings.dataDir world.store
      return some world
    | .error (_, store) =>
      host.saveStore settings.dataDir store
      return none

def setUp (host : Host m) (file : String) : m Next := do
  if !(← host.has file) then
    if !(← host.write file Settings.standardText) then return failed
  match ← loadSettings host file with
  | .error _ => return failed
  | .ok settings =>
    match ← openWorld host settings true with
    | none => return failed
    | some world =>
      host.print
        (String.join ["World '", world.info.name, "' ready in ", settings.dataDir, " (",
          Text.showNat world.size, " things)."])
      return done

def report (host : Host m) (store : String) (session : Session) : m Session := do
  let (lines, session) := session.takeHeard
  for line in lines do
    host.print line
  host.saveStore store session.clock.world.store
  return session

def begin (host : Host m) (settings : Settings) (player : String) (admin : Bool) : m Next := do
  match ← openWorld host settings false with
  | none => return failed
  | some world =>
    match Session.start world settings.clockSettings player admin (← host.time) with
    | none => return .stuck
    | some (.error _, world) =>
      host.saveStore settings.dataDir world.store
      return failed
    | some (.ok session, _) => return .play settings.dataDir (← report host settings.dataDir session)

def exportTo (host : Host m) (settings : Settings) (file : Option String) : m Next := do
  match ← openWorld host settings false with
  | none => return failed
  | some world =>
    let text := world.exportText (← host.now)
    match file with
    | none =>
      host.print text
      return done
    | some file => return if ← host.write file text then done else failed

def importFrom (host : Host m) (settings : Settings) (file : String) : m Next := do
  match ← host.read? file with
  | none => return failed
  | some text =>
    match ← host.openStore settings.dataDir with
    | none => return failed
    | some store =>
      match World.importText store text settings.limits (← host.dice) with
      | .error (_, store) =>
        host.saveStore settings.dataDir store
        return failed
      | .ok world =>
        host.saveStore settings.dataDir world.store
        host.print
          (String.join ["Imported '", world.info.name, "' (", Text.showNat world.size, " things)."])
        return done

def check (host : Host m) (settings : Settings) : m Next := do
  match ← host.openStore settings.dataDir with
  | none => return failed
  | some store =>
    let size ← host.sizeOf store
    match ← openWorld host settings false with
    | none => return failed
    | some world =>
      if world.checkIndices then
        host.print
          (String.join ["Indices consistent across ", Text.showNat world.size, " things (",
            Text.showNat size, " bytes on disk)."])
        return done
      else
        host.print "Index mismatch: incremental indices differ from a rebuild."
        return failed

def carryOut (host : Host m) (invocation : Invocation) : m Next := do
  if invocation.order = .setUp then setUp host invocation.settingsFile
  else
    match ← loadSettings host invocation.settingsFile with
    | .error _ => return failed
    | .ok settings =>
      if let some file := settings.logFile then host.openLog file
      match invocation.order with
      | .setUp => return failed
      | .play player admin => begin host settings player admin
      | .exportTo file => exportTo host settings file
      | .importFrom file => importFrom host settings file
      | .check => check host settings

-- Does what the arguments ask for, up to the first line of a session.
def start (host : Host m) (args : List String) : m Next := do
  match Request.parse args with
  | .misuse => return misused
  | .version =>
    host.print versionLine
    return done
  | .help =>
    host.print helpText
    return done
  | .carryOut invocation => carryOut host invocation

def leave (host : Host m) (store : String) (session : Session) : m Next := do
  host.saveStore store session.leave.store
  return done

def obey (host : Host m) (store : String) (session : Session) (line : String) : m Next := do
  match Session.typed line with
  | .blank => return .play store session
  | .quit => leave host store session
  | .command line =>
    match session.enter line with
    | none => return .stuck
    | some session => return .play store (← report host store session)

def take (host : Host m) (store : String) (session : Session) (line : Option String) : m Next := do
  match session.waitUntil (← host.time) with
  | none => return .stuck
  | some session =>
    let session ← report host store session
    match line with
    | none => leave host store session
    | some line => obey host store session line

def playAll (host : Host m) (next : Next) (lines : List String) : m Next :=
  match next, lines with
  | .play store session, [] => take host store session none
  | .play store session, line :: rest => do
    playAll host (← take host store session (some line)) rest
  | next, _ => return next

end

def Disk.host (now : Timestamp) (dice : Nat → Fin 100) : Host (StateM Disk) where
  has name := return (← get).has name
  read? name := return (← get).read? name
  write name text := do
    let disk ← get
    if disk.canWrite name then
      set (disk.put name text)
      return true
    else return false
  openLog name := modify fun disk =>
    if disk.canWrite name && !disk.has name then disk.put name "" else disk
  openStore name := modifyGet fun disk => disk.openStore name
  saveStore name store := modify fun disk => disk.saveStore name store
  sizeOf _ := return 0
  print line := modify fun disk => { disk with printed := line :: disk.printed }
  now := return now
  time := return 0
  dice := return dice

end ThingWorld.Console
