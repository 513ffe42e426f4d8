import ThingWorld.Thing
namespace ThingWorld

structure Indexed where
  prototype : Option ThingId
  edges : Std.ExtTreeSet Edge
  everywhere : Bool
deriving DecidableEq

def Indexed.nothing : Indexed := ⟨none, ∅, false⟩

def Indexed.of (thing : Thing) : Indexed :=
  ⟨thing.prototype, thing.edgeSet, thing.ownFlag Property.everywhere⟩

structure Index where
  holders : Std.ExtTreeMap String (Std.ExtTreeMap ThingId IdSet)
  -- For each target its sources, with the number of distinct edges from one to the other.
  sources : Std.ExtTreeMap ThingId (Std.ExtTreeMap ThingId Nat)
  instances : Std.ExtTreeMap ThingId IdSet
  everywhere : IdSet
  indexed : Std.ExtTreeMap ThingId Indexed
deriving DecidableEq

namespace Index

def empty : Index := ⟨∅, ∅, ∅, ∅, ∅⟩

section Buckets

variable {κ : Type} [Ord κ] [Std.TransOrd κ]

def join (key : κ) (id : ThingId) (table : Std.ExtTreeMap κ IdSet) : Std.ExtTreeMap κ IdSet :=
  table.alter key fun bucket => some ((bucket.getD ∅).insert id)

-- A bucket that runs empty is dropped.
def leave (key : κ) (id : ThingId) (table : Std.ExtTreeMap κ IdSet) : Std.ExtTreeMap κ IdSet :=
  table.alter key fun bucket =>
    let rest := (bucket.getD ∅).erase id
    if rest.isEmpty then none else some rest

def bucket (key : κ) (table : Std.ExtTreeMap κ IdSet) : List ThingId :=
  (table[key]?.getD ∅).toList

end Buckets

def joinEdge (edge : Edge) (id : ThingId) (holders : Std.ExtTreeMap String (Std.ExtTreeMap ThingId IdSet)) :
    Std.ExtTreeMap String (Std.ExtTreeMap ThingId IdSet) :=
  holders.alter edge.property fun targets => some (join edge.target id (targets.getD ∅))

-- A property without targets is dropped too.
def leaveEdge (edge : Edge) (id : ThingId) (holders : Std.ExtTreeMap String (Std.ExtTreeMap ThingId IdSet)) :
    Std.ExtTreeMap String (Std.ExtTreeMap ThingId IdSet) :=
  holders.alter edge.property fun targets =>
    let rest := leave edge.target id (targets.getD ∅)
    if rest.isEmpty then none else some rest

def countUp (counts : Option (Std.ExtTreeMap ThingId Nat)) (source : ThingId) :
    Option (Std.ExtTreeMap ThingId Nat) :=
  some ((counts.getD ∅).alter source fun n => some (n.getD 0 + 1))

-- A count that reaches zero is dropped, and so is a target without sources.
def countDown (counts : Option (Std.ExtTreeMap ThingId Nat)) (source : ThingId) :
    Option (Std.ExtTreeMap ThingId Nat) :=
  let rest := (counts.getD ∅).alter source fun n =>
    match n with
    | some (k + 2) => some (k + 1)
    | _ => none
  if rest.isEmpty then none else some rest

def addEdge (source : ThingId) (index : Index) (edge : Edge) : Index :=
  { index with
    holders := joinEdge edge source index.holders
    sources := index.sources.alter edge.target (countUp · source) }

def removeEdge (source : ThingId) (index : Index) (edge : Edge) : Index :=
  { index with
    holders := leaveEdge edge source index.holders
    sources := index.sources.alter edge.target (countDown · source) }

def leavePrototype (id : ThingId) (old : Option ThingId) (index : Index) : Index :=
  match old with
  | none => index
  | some prototype => { index with instances := leave prototype id index.instances }

def joinPrototype (id : ThingId) (new : Option ThingId) (index : Index) : Index :=
  match new with
  | none => index
  | some prototype => { index with instances := join prototype id index.instances }

def movePrototype (id : ThingId) (old new : Option ThingId) (index : Index) : Index :=
  if old = new then index else joinPrototype id new (leavePrototype id old index)

def setEverywhere (id : ThingId) (offered : Bool) (index : Index) : Index :=
  { index with
    everywhere := if offered then index.everywhere.insert id else index.everywhere.erase id }

def remember (id : ThingId) (state : Indexed) (index : Index) : Index :=
  { index with
    indexed := if state = .nothing then index.indexed.erase id else index.indexed.insert id state }

def stateOf (index : Index) (id : ThingId) : Indexed :=
  index.indexed[id]?.getD .nothing

def apply (index : Index) (id : ThingId) (next : Indexed) : Index :=
  let previous := index.stateOf id
  if previous = next then index
  else
    let index := (previous.edges \ next.edges).toList.foldl (removeEdge id) index
    let index := (next.edges \ previous.edges).toList.foldl (addEdge id) index
    let index := movePrototype id previous.prototype next.prototype index
    remember id next (setEverywhere id next.everywhere index)

def reindex (index : Index) (thing : Thing) : Index :=
  index.apply thing.id (.of thing)

def remove (index : Index) (id : ThingId) : Index :=
  index.apply id .nothing

def changes (index : Index) (id : ThingId) (next : Indexed) : Bool :=
  index.stateOf id != next

def rebuild (things : List Thing) : Index :=
  things.foldl reindex empty

def associated (index : Index) (property : String) (target : ThingId) : List ThingId :=
  bucket target (index.holders[property]?.getD ∅)

def allAssociated (index : Index) (target : ThingId) : List ThingId :=
  (index.sources[target]?.getD ∅).keys

def instancesOf (index : Index) (prototype : ThingId) : List ThingId :=
  bucket prototype index.instances

def offeredEverywhere (index : Index) : List ThingId :=
  index.everywhere.toList

end Index
end ThingWorld
