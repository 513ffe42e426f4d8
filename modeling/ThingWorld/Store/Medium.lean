import Std.Data.ExtTreeMap
import ThingWorld.Snapshot.Bytes
import ThingWorld.Thing
namespace ThingWorld

inductive StoreCall where
  | put (id : ThingId) (blob : Bytes)
  | delete (id : ThingId)
  | deleteAll
  | putInfo (blob : Bytes)
  | flush
deriving DecidableEq, Repr

namespace StoreCall

def isPut : StoreCall → Bool
  | put _ _ => true
  | _ => false

def isThingWrite : StoreCall → Bool
  | put _ _ => true
  | delete _ => true
  | _ => false

def isWrite : StoreCall → Bool
  | flush => false
  | _ => true

end StoreCall

structure IdTable where
  things : Std.ExtTreeMap ThingId Bytes
  info : Option Bytes
deriving DecidableEq

namespace IdTable

def empty : IdTable := ⟨∅, none⟩

def apply (table : IdTable) : StoreCall → IdTable
  | .put id blob => { table with things := table.things.insert id blob }
  | .delete id => { table with things := table.things.erase id }
  | .deleteAll => empty
  | .putInfo blob => { table with info := some blob }
  | .flush => table

def get? (table : IdTable) (id : ThingId) : Option Bytes := table.things[id]?

def ids (table : IdTable) : List ThingId := table.things.keys

end IdTable

structure KeyTree where
  things : Std.ExtTreeMap Bytes Bytes
  world : Std.ExtTreeMap Bytes Bytes
deriving DecidableEq

namespace KeyTree

def empty : KeyTree := ⟨∅, ∅⟩

-- Eight bytes, the highest first.
def thingKey (id : ThingId) : Bytes :=
  (Snapshot.writeUInt64 id).reverse

-- A key of another length belongs to no thing.
def keyId? (key : Bytes) : Option ThingId :=
  if key.length = 8 then (Snapshot.readUInt64 key.reverse).map Prod.fst else none

def infoKey : Bytes := "info".toByteArray.data.toList

def apply (tree : KeyTree) : StoreCall → KeyTree
  | .put id blob => { tree with things := tree.things.insert (thingKey id) blob }
  | .delete id => { tree with things := tree.things.erase (thingKey id) }
  | .deleteAll => empty
  | .putInfo blob => { tree with world := tree.world.insert infoKey blob }
  | .flush => tree

def get? (tree : KeyTree) (id : ThingId) : Option Bytes := tree.things[thingKey id]?

-- In the order of the keys.
def ids (tree : KeyTree) : List ThingId := tree.things.keys.filterMap keyId?

def info (tree : KeyTree) : Option Bytes := tree.world[infoKey]?

end KeyTree

inductive Medium where
  | table (contents : IdTable)
  | tree (contents : KeyTree)
deriving DecidableEq

namespace Medium

def apply : Medium → StoreCall → Medium
  | table t, call => table (t.apply call)
  | tree t, call => tree (t.apply call)

def get? : Medium → ThingId → Option Bytes
  | table t, id => t.get? id
  | tree t, id => t.get? id

def ids : Medium → List ThingId
  | table t => t.ids
  | tree t => t.ids

def info : Medium → Option Bytes
  | table t => t.info
  | tree t => t.info

end Medium
end ThingWorld
