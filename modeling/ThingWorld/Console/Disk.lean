import Std.Data.ExtTreeSet
import ThingWorld.Store
import ThingWorld.Text.Split
namespace ThingWorld.Console

abbrev Place := List String

namespace Place

def root : Place := ["/"]

def sink : Place := ["/", "dev", "null"]

def standing : List Place := [root, ["/", "dev"], ["/", "tmp"]]

def isAbove (place : Place) : Bool := place.all (· == "..")

def up (place : Place) : Place :=
  if place == root then root
  else if place.isAbove then place ++ [".."]
  else place.dropLast

-- `..` goes back one step, `.` and an empty step stay.
def go (place : Place) (step : String) : Place :=
  if step == "" || step == "." then place
  else if step == ".." then place.up
  else place ++ [step]

def start (name : String) : Place :=
  if name.toList.head? = some '/' then root else []

def steps (name : String) : List String :=
  (Text.pieces '/' name.toList).map String.ofList

def longestStep : Nat := 255
def longestName : Nat := 4095

def isStep (step : String) : Bool := step.utf8ByteSize ≤ longestStep

def isName (name : String) : Bool :=
  name.utf8ByteSize ≤ longestName && !name.toList.contains '\x00'

end Place

structure Disk where
  files : Std.ExtTreeMap Place String
  directories : Std.ExtTreeSet Place
  stores : Std.ExtTreeMap Place Store
  -- Whatever was printed, the latest first.
  printed : List String

namespace Disk

def empty : Disk := ⟨∅, ∅, ∅, []⟩

def isFile (disk : Disk) (place : Place) : Bool :=
  place == Place.sink || disk.files.contains place

def isDirectory (disk : Disk) (place : Place) : Bool :=
  place.isAbove || Place.standing.contains place || disk.directories.contains place

def move? (disk : Disk) (place : Place) (step : String) : Option Place :=
  if disk.isDirectory place && Place.isStep step then some (place.go step) else none

-- Where a name leads; at that place there may be nothing. The empty name leads nowhere.
def locate? (disk : Disk) (name : String) : Option Place :=
  if name.isEmpty || !Place.isName name then none
  else (Place.steps name).foldlM disk.move? (Place.start name)

def has (disk : Disk) (name : String) : Bool :=
  (disk.locate? name).any fun place => disk.isFile place || disk.isDirectory place

def read? (disk : Disk) (name : String) : Option String := do
  let place ← disk.locate? name
  if place == Place.sink then some "" else disk.files[place]?

-- A file can be made where there is none.
def canWrite (disk : Disk) (name : String) : Bool :=
  (disk.locate? name).any fun place => !disk.isDirectory place

def putAt (disk : Disk) (place : Place) (content : String) : Disk :=
  if place == Place.sink then disk else { disk with files := disk.files.insert place content }

def put (disk : Disk) (name content : String) : Disk :=
  match disk.locate? name with
  | some place => disk.putAt place content
  | none => disk

def makeWay (disk : Disk) (place : Place) : List String → Option Place × Disk
  | [] => (some place, disk)
  | step :: rest =>
    let next := place.go step
    if disk.isDirectory next then disk.makeWay next rest
    else if disk.isFile next || !Place.isStep step then (none, disk)
    else makeWay { disk with directories := disk.directories.insert next } next rest

-- The steps up to the last that is more than a dot.
def properSteps (steps : List String) : List String :=
  (steps.reverse.dropWhile fun step => step == "" || step == ".").reverse

def endsInDot (steps : List String) : Bool :=
  (steps.reverse.dropWhile (· == "")).head? == some "."

-- Makes a directory and those it lies in. A dot at the end does not make the directory that it stands for.
def makeDirectory (disk : Disk) (name : String) : Option Place × Disk :=
  let steps := Place.steps name
  if !Place.isName name then (none, disk)
  else if endsInDot steps then
    let disk := (disk.makeWay (Place.start name) (properSteps steps).dropLast).2
    ((disk.locate? name).filter disk.isDirectory, disk)
  else disk.makeWay (Place.start name) steps

def openStore (disk : Disk) (name : String) : Option Store × Disk :=
  match disk.makeDirectory name with
  | (none, disk) => (none, disk)
  | (some place, disk) =>
    let store := disk.stores[place]?.getD .onTree
    (some store, { disk with stores := disk.stores.insert place store })

def saveStore (disk : Disk) (name : String) (store : Store) : Disk :=
  let place := if name.isEmpty then some [] else disk.locate? name
  match place with
  | some place => { disk with stores := disk.stores.insert place store }
  | none => disk

def holding (files : List (String × String)) : Disk :=
  files.foldl (fun disk (name, content) =>
    ((disk.makeWay (Place.start name) (Place.steps name).dropLast).2).put name content) empty

end Disk
end ThingWorld.Console
