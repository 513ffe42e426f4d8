import ThingWorld.Failure
import ThingWorld.Info
import ThingWorld.Snapshot.Bytes
namespace ThingWorld
namespace Snapshot

def writeDatum : Datum → Bytes
  | .text s => writeTag 0 ++ writeText s
  | .number n => writeTag 1 ++ writeInt64 n
  | .flag b => writeTag 2 ++ writeFlag b
  | .list items => writeTag 3 ++ writeMany writeText items

def readDatum : Reader Datum := fun bytes => do
  let (tag, bytes) ← readTag bytes
  match tag with
  | 0 => (readText bytes).map fun (s, bytes) => (.text s, bytes)
  | 1 => (readInt64 bytes).map fun (n, bytes) => (.number n, bytes)
  | 2 => (readFlag bytes).map fun (b, bytes) => (.flag b, bytes)
  | 3 => (readMany readText bytes).map fun (items, bytes) => (.list items, bytes)
  | _ => none

def writeEdge (edge : Edge) : Bytes :=
  writeText edge.property ++ writeUInt64 edge.target

def readEdge : Reader Edge := fun bytes => do
  let (property, bytes) ← readText bytes
  let (target, bytes) ← readUInt64 bytes
  some (⟨property, target⟩, bytes)

def writeProperties (properties : Properties) : Bytes :=
  writeMany (writePair writeText writeDatum) properties.toList

def readProperties : Reader Properties := fun bytes => do
  let (entries, bytes) ← readMany (readPair readText readDatum) bytes
  some (Std.ExtTreeMap.ofList entries, bytes)

def writeThing (thing : Thing) : Bytes :=
  writeUInt64 thing.id ++ writeOption writeUInt64 thing.prototype ++ writeProperties thing.properties
    ++ writeMany writeEdge thing.edges ++ writeUInt8 thing.schema

def readThing : Reader Thing := fun bytes => do
  let (id, bytes) ← readUInt64 bytes
  let (prototype, bytes) ← readOption readUInt64 bytes
  let (properties, bytes) ← readProperties bytes
  let (edges, bytes) ← readMany readEdge bytes
  let (schema, bytes) ← readUInt8 bytes
  some (⟨id, prototype, properties, edges, schema⟩, bytes)

def writeInfo (info : Info) : Bytes :=
  writeText info.name ++ writeUInt64 info.nextId ++ writeUInt64 info.limbo ++ writeUInt64 info.lobby
    ++ writeUInt64 info.hall ++ writeMany (writePair writeText writeUInt64) info.prototypes.toList
    ++ writeUInt64 info.clockInterval ++ writeUInt8 info.schema

def readInfo : Reader Info := fun bytes => do
  let (name, bytes) ← readText bytes
  let (nextId, bytes) ← readUInt64 bytes
  let (limbo, bytes) ← readUInt64 bytes
  let (lobby, bytes) ← readUInt64 bytes
  let (hall, bytes) ← readUInt64 bytes
  let (prototypes, bytes) ← readMany (readPair readText readUInt64) bytes
  let (clockInterval, bytes) ← readUInt64 bytes
  let (schema, bytes) ← readUInt8 bytes
  some (⟨name, nextId, limbo, lobby, hall, Std.ExtTreeMap.ofList prototypes, clockInterval, schema⟩, bytes)

end Snapshot

def Thing.checkSchema (thing : Thing) : Except Failure Thing :=
  if thing.schema = Thing.currentSchema then .ok thing
  else .error (.schemaMismatch "thing" Thing.currentSchema thing.schema)

def Thing.toBytes (thing : Thing) : Bytes :=
  Snapshot.writeThing thing

def Thing.ofBytes (bytes : Bytes) : Except Failure Thing :=
  match Snapshot.readThing bytes with
  | none => .error .malformedSnapshot
  | some (thing, _) => thing.checkSchema

def Info.checkSchema (info : Info) : Except Failure Info :=
  if info.schema = Info.currentSchema then .ok info
  else .error (.schemaMismatch "world" Info.currentSchema info.schema)

def Info.toBytes (info : Info) : Bytes :=
  Snapshot.writeInfo info

def Info.ofBytes (bytes : Bytes) : Except Failure Info :=
  match Snapshot.readInfo bytes with
  | none => .error .malformedSnapshot
  | some (info, _) => info.checkSchema

end ThingWorld
