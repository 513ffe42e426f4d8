import ThingWorld.Command.Registry
import ThingWorld.Index
import ThingWorld.Schedule
import ThingWorld.Snapshot
import ThingWorld.Store
namespace ThingWorld

structure Listener where
  admin : Bool
  verbose : Bool
deriving DecidableEq, Repr

structure World where
  info : Info
  things : Std.ExtTreeMap ThingId Thing
  index : Index
  -- What the store was last given for each thing.
  persisted : Std.ExtTreeMap ThingId Bytes
  -- Things that the next commit looks at.
  dirty : IdSet
  infoDirty : Bool
  inScope : Bool
  version : Nat
  store : Store
  listeners : Std.ExtTreeMap ThingId Listener
  -- What listeners heard, the latest first.
  heard : List (ThingId × String)
  schedule : Schedule
  registry : Registry
  limits : Limits
  clockRunning : Bool
  -- The percentile that each throw shows, and how many throws there were.
  dice : Nat → Fin 100
  thrown : Nat

abbrev Act := ExceptT Failure (StateM World)

abbrev Run := ExceptT Failure (StateT World Option)

namespace Act

def run {α : Type} (act : Act α) (world : World) : Except Failure α × World :=
  act world

def update (f : World → World) : Act Unit :=
  fun world => (.ok (), f world)

def observe {α : Type} (act : Act α) : Act (Except Failure α) :=
  fun world =>
    let (result, world) := act.run world
    (.ok result, world)

end Act

namespace Run

def run {α : Type} (steps : Run α) (world : World) : Option (Except Failure α × World) :=
  steps world

def ofAct {α : Type} (act : Act α) : Run α :=
  fun world => some (act.run world)

instance : MonadLift Act Run := ⟨Run.ofAct⟩

-- The bound is used up.
def exhausted {α : Type} : Run α :=
  fun _ => none

def observe {α : Type} (steps : Run α) : Run (Except Failure α) :=
  fun world => (steps.run world).map fun (result, world) => (.ok result, world)

end Run

namespace World

def get? (world : World) (id : ThingId) : Option Thing := world.things[id]?

def contains (world : World) (id : ThingId) : Bool := world.things.contains id

def ids (world : World) : List ThingId := world.things.keys

def size (world : World) : Nat := world.things.size

def touch (world : World) (id : ThingId) : World :=
  { world with dirty := world.dirty.insert id }

def reindex (world : World) (id : ThingId) : World :=
  match world.things[id]? with
  | some thing => { world with index := world.index.reindex thing }
  | none => { world with index := world.index.remove id }

-- Puts a thing under an id; the index follows later.
def place (world : World) (id : ThingId) (thing : Thing) : World :=
  { world with things := world.things.insert id thing }

def missing (id : ThingId) : Failure := .notFound (showId id)

-- Touches a thing and changes it; the index follows later.
def edit (id : ThingId) (f : Thing → Thing) : Act Unit :=
  fun world =>
    match world.things[id]? with
    | some thing => (.ok (), (world.touch id).place id (f thing))
    | none => (.error (missing id), world)

def checkIndices (world : World) : Bool :=
  world.index == Index.rebuild world.things.values

def issue (call : StoreCall) : Act Unit :=
  fun world =>
    let (result, store) := world.store.issue call
    (result, { world with store := store })

-- A listener that has nothing visible to hear hears nothing.
def tell (world : World) (id : ThingId) (line : String) : World :=
  if Text.isBlankText line || !world.listeners.contains id then world
  else { world with heard := (id, line) :: world.heard }

-- A new listener has heard nothing yet.
def attach (world : World) (id : ThingId) (listener : Listener) : World :=
  { world with
    listeners := world.listeners.insert id listener
    heard := world.heard.filter fun line => line.1 != id }

def detach (world : World) (id : ThingId) : World :=
  { world with listeners := world.listeners.erase id }

def hasListener (world : World) (id : ThingId) : Bool := world.listeners.contains id

def isVerbose (world : World) (id : ThingId) : Bool :=
  (world.listeners[id]?).any (·.verbose)

end World
end ThingWorld
