import ThingWorld.Calendar
import ThingWorld.Dump.Record
import ThingWorld.Json.Printer
import ThingWorld.Json.Reader
import ThingWorld.World.Open
namespace ThingWorld

structure Dump where
  format : UInt8
  exportedAt : Timestamp
  info : Info
  -- Ascending by id when a world is exported.
  things : List Thing
deriving DecidableEq

namespace Dump

def currentFormat : UInt8 := 1

def fieldNames : List String := ["format_version", "exported_at", "info", "things"]

def toJson (dump : Dump) : Json :=
  .object
    [("format_version", .nat dump.format.toNat),
     ("exported_at", .text dump.exportedAt.text),
     ("info", dump.info.toJson),
     ("things", .array (dump.things.map Thing.toJson))]

def ofJson? (json : Json) : Option Dump := do
  match ← json.record? fieldNames with
  | [format, exportedAt, info, things] =>
    let format ← Json.need Json.toUInt8? format
    let exportedAt ← Json.need Json.toText? exportedAt
    let exportedAt ← Timestamp.ofText? exportedAt
    let info ← Json.need Info.ofJson? info
    let things ← Json.need (Json.toList? Thing.ofJson?) things
    some ⟨format, exportedAt, info, things⟩
  | _ => none

def render (dump : Dump) : String := dump.toJson.pretty

def parse (text : String) : Except Failure Dump :=
  match (Json.parse? text).bind ofJson? with
  | some dump => .ok dump
  | none => .error .malformedDump

def ids (dump : Dump) : List ThingId := dump.things.map Thing.id

def isEmptyStore (store : Store) : Bool := store.info.isNone && store.ids.isEmpty

-- Things that no world can do without, in the order in which they are asked for.
def missing? (dump : Dump) : Option ThingId :=
  [dump.info.limbo, dump.info.lobby, dump.info.hall].find? fun id => !dump.ids.contains id

-- Why a dump is not loaded; nothing has been written then.
def refusal? (dump : Dump) (store : Store) : Option Failure :=
  if dump.format ≠ currentFormat then some (.schemaMismatch "dump" currentFormat dump.format)
  else if !isEmptyStore store then some (.invalidCommand "import target is not empty")
  else
    match dump.missing? with
    | some id => some (.notFound (showId id ++ " in dump"))
    | none => none

-- The record whose next id is not below the one that follows the highest id of the dump.
def raisedInfo (dump : Dump) : Info :=
  match dump.ids.max? with
  | none => dump.info
  | some highest => { dump.info with nextId := max dump.info.nextId (highest + 1) }

-- Issues calls until one is refused.
def issueAll (store : Store) : List StoreCall → Except Failure Unit × Store
  | [] => (.ok (), store)
  | call :: rest =>
    match store.issue call with
    | (.ok (), store) => issueAll store rest
    | (.error failure, store) => (.error failure, store)

-- Puts the things in their order; one of another schema ends it.
def putThings (store : Store) : List Thing → Except Failure Unit × Store
  | [] => (.ok (), store)
  | thing :: rest =>
    match thing.checkSchema with
    | .error failure => (.error failure, store)
    | .ok thing =>
      match store.issue (.put thing.id thing.toBytes) with
      | (.ok (), store) => putThings store rest
      | (.error failure, store) => (.error failure, store)

def write (dump : Dump) (store : Store) : Except Failure Unit × Store :=
  match dump.refusal? store with
  | some failure => (.error failure, store)
  | none =>
    match putThings store dump.things with
    | (.error failure, store) => (.error failure, store)
    | (.ok (), store) => issueAll store [.putInfo dump.raisedInfo.toBytes, .flush]

end Dump

namespace World

def dump (world : World) (now : Timestamp) : Dump :=
  let things := world.things.values.mergeSort fun a b => decide (a.id ≤ b.id)
  ⟨Dump.currentFormat, now, world.info, things⟩

def exportText (world : World) (now : Timestamp) : String := (world.dump now).render

def importDump (store : Store) (dump : Dump) (limits : Limits) (dice : Nat → Fin 100) :
    Except (Failure × Store) World :=
  match dump.write store with
  | (.error failure, store) => .error (failure, store)
  | (.ok (), store) => openOn store ⟨dump.info.name, limits, dump.info.clockInterval, dice⟩

def importText (store : Store) (text : String) (limits : Limits) (dice : Nat → Fin 100) :
    Except (Failure × Store) World :=
  match Dump.parse text with
  | .error failure => .error (failure, store)
  | .ok dump => importDump store dump limits dice

end World
end ThingWorld
