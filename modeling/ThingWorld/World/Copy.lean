import ThingWorld.World.Build
namespace ThingWorld.World

def held (world : World) (id : ThingId) : List ThingId :=
  world.associated Relation.location id ++ world.associated Relation.linkOwner id

-- What the latest members hold and was not found before.
def newlyHeld (world : World) (found : IdSet) (latest : List ThingId) : IdSet :=
  Std.ExtTreeSet.ofList (latest.flatMap world.held) \ found

-- Each round adds what the members found last hold; it ends when nothing new is held.
def spread (world : World) : Nat → IdSet → List ThingId → IdSet
  | 0, found, _ => found
  | rounds + 1, found, latest =>
    let new := world.newlyHeld found latest
    if new.isEmpty then found else spread world rounds (found ∪ new) new.toList

-- `id` and everything located in it or owned as a link by it, through any number of steps; nothing when there
-- is no such thing.
def connected (world : World) (id : ThingId) : IdSet :=
  if world.contains id then world.spread (world.index.indexed.size + 1) ((∅ : IdSet).insert id) [id]
  else ∅

abbrev Renumbering := Std.ExtTreeMap ThingId ThingId

def Renumbering.apply (numbers : Renumbering) (id : ThingId) : ThingId := numbers[id]?.getD id

def Renumbering.edge (numbers : Renumbering) (edge : Edge) : Edge :=
  { edge with target := numbers.apply edge.target }

def Renumbering.thing (numbers : Renumbering) (id : ThingId) (thing : Thing) : Thing :=
  { thing with
    id := id
    prototype := thing.prototype.map numbers.apply
    edges := thing.edges.map numbers.edge }

-- Fresh ids for the members that exist, in their order.
def renumberAll (numbers : Renumbering) : List ThingId → Act Renumbering
  | [] => return numbers
  | id :: rest => do
    if (← get).contains id then
      let new ← allocate
      renumberAll (numbers.insert id new) rest
    else renumberAll numbers rest

def copyOne (numbers : Renumbering) (old new : ThingId) : Act Unit := do
  match (← get).things[old]? with
  | some thing => enter new (numbers.thing new thing)
  | none => return

def copySet (id : ThingId) (members : IdSet) : Act ThingId := do
  if !members.contains id || !(← get).contains id then
    throw (missing id)
  Act.scope do
    let numbers ← renumberAll ∅ members.toList
    modify fun world => { world with infoDirty := true }
    numbers.toList.forM fun (old, new) => copyOne numbers old new
    match numbers[id]? with
    | some root => return root
    | none => throw (.internal "copy lost its root")

def copy (id : ThingId) : Act ThingId := do
  copySet id ((← get).connected id)

end ThingWorld.World
