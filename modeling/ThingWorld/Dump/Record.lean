import ThingWorld.Info
import ThingWorld.Json
namespace ThingWorld

namespace Datum

def toJson : Datum → Json
  | text s => .object [("text", .text s)]
  | number n => .object [("number", .int64 n)]
  | flag b => .object [("bool", .bool b)]
  | list items => .object [("list", .texts items)]

def ofField? (kind : String) (json : Json) : Option Datum :=
  match kind with
  | "text" => json.toText?.map text
  | "number" => json.toInt64?.map number
  | "bool" => json.toBool?.map flag
  | "list" => (json.toList? Json.toText?).map list
  | _ => none

def ofJson? : Json → Option Datum
  | .object [(kind, json)] => ofField? kind json
  | _ => none

end Datum

namespace Json

def ofMap {α : Type} (f : α → Json) (map : Std.ExtTreeMap String α) : Json :=
  object (map.toList.map fun (name, a) => (name, f a))

-- The last of two entries for one name counts.
def toMap? {α : Type} (f : Json → Option α) : Json → Option (Std.ExtTreeMap String α)
  | object fields => do
    let entries ← fields.mapM fun (name, json) => (f json).map fun a => (name, a)
    some (Std.ExtTreeMap.ofList entries)
  | _ => none

-- Null and an absent field are no value.
def toOption? {α : Type} (f : Json → Option α) : Option Json → Option (Option α)
  | none => some none
  | some null => some none
  | some json => (f json).map some

def orDefault {α : Type} (default : α) (f : Json → Option α) : Option Json → Option α
  | none => some default
  | some json => f json

def need {α : Type} (f : Json → Option α) : Option Json → Option α
  | none => none
  | some json => f json

end Json

namespace Edge

def toJson (edge : Edge) : Json :=
  .object [("prop", .text edge.property), ("target", .uint64 edge.target)]

def ofJson? (json : Json) : Option Edge := do
  match ← json.record? ["prop", "target"] with
  | [property, target] =>
    some ⟨← Json.need Json.toText? property, ← Json.need Json.toUInt64? target⟩
  | _ => none

end Edge

namespace Thing

def fieldNames : List String := ["id", "prototype", "props", "associations", "schema_version"]

def toJson (thing : Thing) : Json :=
  .object
    [("id", .uint64 thing.id),
     ("prototype", .ofOption .uint64 thing.prototype),
     ("props", .ofMap Datum.toJson thing.properties),
     ("associations", .array (thing.edges.map Edge.toJson)),
     ("schema_version", .nat thing.schema.toNat)]

def ofJson? (json : Json) : Option Thing := do
  match ← json.record? fieldNames with
  | [id, prototype, properties, edges, schema] =>
    let id ← Json.need Json.toUInt64? id
    let prototype ← Json.toOption? Json.toUInt64? prototype
    let properties ← Json.orDefault ∅ (Json.toMap? Datum.ofJson?) properties
    let edges ← Json.orDefault [] (Json.toList? Edge.ofJson?) edges
    let schema ← Json.need Json.toUInt8? schema
    some ⟨id, prototype, properties, edges, schema⟩
  | _ => none

end Thing

namespace Info

def fieldNames : List String :=
  ["name", "next_id", "limbo", "lobby", "hall_of_prototypes", "prototypes", "clock_interval_ms",
   "schema_version"]

def toJson (info : Info) : Json :=
  .object
    [("name", .text info.name),
     ("next_id", .uint64 info.nextId),
     ("limbo", .uint64 info.limbo),
     ("lobby", .uint64 info.lobby),
     ("hall_of_prototypes", .uint64 info.hall),
     ("prototypes", .ofMap Json.uint64 info.prototypes),
     ("clock_interval_ms", .uint64 info.clockInterval),
     ("schema_version", .nat info.schema.toNat)]

def ofJson? (json : Json) : Option Info := do
  match ← json.record? fieldNames with
  | [name, nextId, limbo, lobby, hall, prototypes, clockInterval, schema] =>
    let name ← Json.need Json.toText? name
    let nextId ← Json.need Json.toUInt64? nextId
    let limbo ← Json.need Json.toUInt64? limbo
    let lobby ← Json.need Json.toUInt64? lobby
    let hall ← Json.need Json.toUInt64? hall
    let prototypes ← Json.need (Json.toMap? Json.toUInt64?) prototypes
    let clockInterval ← Json.need Json.toUInt64? clockInterval
    let schema ← Json.need Json.toUInt8? schema
    some ⟨name, nextId, limbo, lobby, hall, prototypes, clockInterval, schema⟩
  | _ => none

end Info
end ThingWorld
