import ThingWorld.World
namespace ThingWorld

structure CommitStats where
  written : Nat
  deleted : Nat
  unchanged : Nat
  -- Touched things that a failed scope did not write.
  skipped : Nat
deriving DecidableEq, Repr

def CommitStats.zero : CommitStats := ⟨0, 0, 0, 0⟩

inductive Persisted where
  | written
  | deleted
  | unchanged
deriving DecidableEq, Repr

def CommitStats.count (stats : CommitStats) : Persisted → CommitStats
  | .written => { stats with written := stats.written + 1 }
  | .deleted => { stats with deleted := stats.deleted + 1 }
  | .unchanged => { stats with unchanged := stats.unchanged + 1 }

namespace World

-- The snapshot is forgotten before the store is asked to delete it.
def persistMissing (id : ThingId) : Act Persisted := do
  if (← get).persisted.contains id then
    modify fun world => { world with persisted := world.persisted.erase id }
    issue (.delete id)
    return .deleted
  else
    return .unchanged

def persistPresent (id : ThingId) (thing : Thing) : Act Persisted := do
  let blob := thing.toBytes
  if (← get).persisted[id]? = some blob then
    return .unchanged
  else
    issue (.put id blob)
    modify fun world => { world with persisted := world.persisted.insert id blob }
    return .written

def persist (id : ThingId) : Act Persisted := do
  match (← get).things[id]? with
  | none => persistMissing id
  | some thing => persistPresent id thing

-- Stops at the first refusal; that thing and the rest are touched again.
def persistAll (stats : CommitStats) : List ThingId → Act CommitStats
  | [] => return stats
  | id :: rest => do
    match ← (persist id).observe with
    | .ok outcome => persistAll (stats.count outcome) rest
    | .error failure =>
      modify fun world => (id :: rest).foldl touch world
      throw failure

def persistInfo : Act Unit := do
  let world ← get
  if world.infoDirty then
    issue (.putInfo world.info.toBytes)
    modify fun world => { world with infoDirty := false }

-- The touched things, ascending; from here on none is.
def takeDirty : Act (List ThingId) :=
  fun world => (.ok world.dirty.toList, { world with dirty := ∅ })

def writeBack (dirty : List ThingId) : Act CommitStats := do
  let stats ← persistAll .zero dirty
  persistInfo
  if stats.written + stats.deleted > 0 then
    issue .flush
  return stats

def commit (keep : Bool) : Act CommitStats := do
  let dirty ← takeDirty
  modify fun world => dirty.foldl reindex world
  if keep then writeBack dirty
  else return { CommitStats.zero with skipped := dirty.length }

-- The end of an outermost scope. A failure of its body wins over one of the commit.
def settle {α : Type} (result : Except Failure α) (world : World) : Except Failure α × World :=
  let world := { world with inScope := false }
  match result with
  | .error failure => (.error failure, ((commit false).run world).2)
  | .ok a =>
    match (commit true).run world with
    | (.ok _, world) => (.ok a, world)
    | (.error failure, world) => (.error failure, world)

def flush : Act CommitStats := do
  if (← get).inScope then return .zero else commit true

end World

def Act.scope {α : Type} (body : Act α) : Act α :=
  fun world =>
    if world.inScope then body.run world
    else
      let (result, world) := body.run { world with inScope := true }
      world.settle result

def Run.scope {α : Type} (body : Run α) : Run α :=
  fun world =>
    if world.inScope then body.run world
    else (body.run { world with inScope := true }).map fun (result, world) => world.settle result

def World.nextVersion (world : World) : World :=
  { world with version := world.version + 1 }

def Act.versioned {α : Type} (body : Act α) : Act α := do
  modify World.nextVersion
  body.scope

def Run.versioned {α : Type} (body : Run α) : Run α := do
  modify World.nextVersion
  body.scope

end ThingWorld
