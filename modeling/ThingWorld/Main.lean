import Std.Time
import ThingWorld.Console
import ThingWorld.Store.Archive
namespace ThingWorld.Console

def storeFile (directory : String) : String :=
  (if directory.isEmpty then "." else directory) ++ "/world.store"

def isThere (name : String) : IO Bool :=
  try
    let _ ← IO.FS.Handle.mk name .read
    return true
  catch _ => return false

def readText? (name : String) : IO (Option String) :=
  try return some (← IO.FS.readFile name)
  catch _ => return none

def writeText (name text : String) : IO Bool :=
  try
    IO.FS.writeFile name text
    return true
  catch _ => return false

def openLogFile (name : String) : IO Unit :=
  try
    let _ ← IO.FS.Handle.mk name .append
  catch _ => return

def openStoreFile (directory : String) : IO (Option Store) :=
  try
    if !directory.isEmpty then IO.FS.createDirAll directory
    if ← isThere (storeFile directory) then
      let bytes ← IO.FS.readBinFile (storeFile directory)
      return Store.ofArchive? bytes.data.toList
    else return some .onTree
  catch _ => return none

def saveStoreFile (directory : String) (store : Store) : IO Unit :=
  IO.FS.writeBinFile (storeFile directory) ⟨store.archive.toArray⟩

def wallClock : IO Timestamp := do
  let now ← Std.Time.Timestamp.now
  return .ofSeconds now.toSecondsSinceUnixEpoch.toInt.toNat

def throwDice : IO (Nat → Fin 100) := do
  let seed ← IO.rand 0 999999999
  return fun n => Fin.ofNat 100 ((hash (seed, n)).toNat / 256)

def machine : Host IO where
  has := isThere
  read? := readText?
  write := writeText
  openLog := openLogFile
  openStore := openStoreFile
  saveStore := saveStoreFile
  sizeOf store := return store.archive.length
  print line := IO.println line
  now := wallClock
  time := IO.monoMsNow
  dice := throwDice

-- Plays until the input ends or the session does.
partial def playOn (input : IO.FS.Stream) (next : Next) : IO UInt32 := do
  match next with
  | .exit code => return code.toUInt32
  | .stuck => return 1
  | .play store session =>
    let line ← input.getLine
    let line := if line.isEmpty then none else some line
    playOn input (← take machine store session line)

end ThingWorld.Console

def main (args : List String) : IO UInt32 := do
  ThingWorld.Console.playOn (← IO.getStdin) (← ThingWorld.Console.start ThingWorld.Console.machine args)
