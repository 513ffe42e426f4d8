import ThingWorld.World.Inherit
import ThingWorld.World.Scope
namespace ThingWorld.World

def association? (world : World) (id : ThingId) (relation : String) : Option ThingId :=
  (world.things[id]?).bind fun thing => thing.firstTarget? relation

def associations (world : World) (id : ThingId) (relation : String) : List ThingId :=
  ((world.things[id]?).map fun thing => thing.targets relation).getD []

def associated (world : World) (relation : String) (target : ThingId) : List ThingId :=
  world.index.associated relation target

def location? (world : World) (id : ThingId) : Option ThingId :=
  world.association? id Relation.location

def linkOwner? (world : World) (link : ThingId) : Option ThingId :=
  world.association? link Relation.linkOwner

def otherLink? (world : World) (link : ThingId) : Option ThingId :=
  world.association? link Relation.otherLink

def destination? (world : World) (link : ThingId) : Option ThingId :=
  (world.otherLink? link).bind world.linkOwner?

def priority (world : World) (id : ThingId) : Int64 :=
  (world.number? id Property.priority).getD 0

-- The higher priority goes first, then the lower id.
def goesBefore (world : World) (a b : ThingId) : Bool :=
  let first := world.priority a
  let second := world.priority b
  first > second || (first == second && a ≤ b)

def insertByPriority (world : World) (id : ThingId) : List ThingId → List ThingId
  | [] => [id]
  | other :: rest =>
    if world.goesBefore id other then id :: other :: rest
    else other :: insertByPriority world id rest

def byPriority (world : World) (ids : List ThingId) : List ThingId :=
  ids.foldr (insertByPriority world) []

def contents (world : World) (id : ThingId) : List ThingId :=
  world.byPriority (world.associated Relation.location id)

def links (world : World) (id : ThingId) : List ThingId :=
  world.byPriority (world.associated Relation.linkOwner id)

-- Changes a thing inside a scope and indexes it at once.
def amend (id : ThingId) (f : Thing → Thing) : Act Unit :=
  Act.scope do
    edit id f
    modify (reindex · id)

-- Adds an edge; without `multi` it replaces the edges of the same name.
def setAssociation (id : ThingId) (relation : String) (target : ThingId) (multi : Bool) : Act Unit :=
  amend id fun thing =>
    let thing := if multi then thing else thing.keepEdges fun edge => edge.property != relation
    thing.addEdge ⟨relation, target⟩

def dissociate (id : ThingId) (relation : String) (target : ThingId) : Act Unit :=
  amend id fun thing =>
    thing.keepEdges fun edge => !(edge.property == relation && edge.target == target)

def dissociateAll (id : ThingId) (relation : String) : Act Unit :=
  amend id fun thing => thing.keepEdges fun edge => edge.property != relation

-- Removes every edge to `target`, whatever its name.
def dissociateFrom (id : ThingId) (target : ThingId) : Act Unit :=
  amend id fun thing => thing.keepEdges fun edge => edge.target != target

def setLocation (id place : ThingId) : Act Unit :=
  setAssociation id Relation.location place false

end ThingWorld.World
