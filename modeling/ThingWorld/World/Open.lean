import ThingWorld.World.Build
namespace ThingWorld

structure Options where
  name : String
  limits : Limits
  clockInterval : UInt64
  dice : Nat → Fin 100

namespace World

def blank (store : Store) (options : Options) : World where
  info := .fresh options.name options.clockInterval
  things := ∅
  index := .empty
  persisted := ∅
  dirty := ∅
  infoDirty := false
  inScope := false
  version := 0
  store := store
  listeners := ∅
  heard := []
  schedule := .start
  registry := .standard
  limits := options.limits
  clockRunning := true
  dice := options.dice
  thrown := 0

def plant (prototype place : Option ThingId) (properties : List (String × Datum)) : Act ThingId := do
  let id ← createBare prototype place
  edit id fun thing => properties.foldl (fun thing (property, value) => thing.write property value) thing
  return id

def setLimbo (limbo : ThingId) (world : World) : World :=
  { world with info := { world.info with limbo := limbo } }

def setFoundation (hall lobby : ThingId) (prototypes : List (String × ThingId)) (world : World) : World :=
  { world with
    info := { world.info with
      hall := hall
      lobby := lobby
      prototypes := world.info.prototypes.insertMany prototypes }
    infoDirty := true }

def plantAll : Act Unit := do
  let limbo ← plant none none
    [(Property.name, .text "limbo"),
     (Property.description, .text "You are floating in $this."),
     (Property.closed, .flag true)]
  modify (setLimbo limbo)
  let thing ← plant none (some limbo)
    [(Property.name, .text Standard.thing),
     (Property.article, .text "a"),
     (Property.description, .text "This is $this."),
     (Property.contentsFormat, .text "$This $is here."),
     (Property.linkFormat, .text "$This leads to $link."),
     (Property.examineFormat, .text "$This: $description\n$contents"),
     (Property.lookFormat, .text "$description\n$contents\n$links")]
  let room ← plant (some thing) (some limbo)
    [(Property.name, .text Standard.room),
     (Property.article, .text "the"),
     (Property.description, .text "You are in $this."),
     (Property.closed, .flag true)]
  let link ← plant (some thing) (some limbo)
    [(Property.name, .text Standard.link),
     (Property.article, .text ""),
     (Property.description, .text "$This leads to $link."),
     (Property.command, .text "go $0")]
  let person ← plant (some thing) (some limbo)
    [(Property.name, .text Standard.person),
     (Property.article, .text ""),
     (Property.description, .text "$This $is a person.")]
  let hall ← plant (some room) (some limbo)
    [(Property.name, .text "hall of prototypes"),
     (Property.description, .text "You are in $this. Every standard prototype lives here.")]
  let lobby ← plant (some room) (some limbo)
    [(Property.name, .text "lobby"),
     (Property.description, .text "You are in $this. Make yourself at home.")]
  [thing, room, link, person].forM fun prototype => setLocation prototype hall
  modify (setFoundation hall lobby
    [(Standard.thing, thing), (Standard.room, room), (Standard.link, link), (Standard.person, person)])

def seed : Act Unit := plantAll.scope

def loadThings (store : Store) : List ThingId → Except Failure (List (ThingId × Thing × Bytes))
  | [] => .ok []
  | id :: rest =>
    match store.get? id with
    | none => loadThings store rest
    | some bytes => do
      let thing ← Thing.ofBytes bytes
      let more ← loadThings store rest
      .ok ((id, thing, bytes) :: more)

def resume (world : World) (info : Info) (loaded : List (ThingId × Thing × Bytes)) : World :=
  let things := Std.ExtTreeMap.ofList (loaded.map fun (id, thing, _) => (id, thing))
  let ticking := things.values.filter fun thing => thing.ownFlag Property.ticking
  { world with
    info := info
    things := things
    persisted := Std.ExtTreeMap.ofList (loaded.map fun (id, _, bytes) => (id, bytes))
    index := Index.rebuild things.values
    schedule := ticking.foldl (fun schedule thing => schedule.subscribe thing.id) world.schedule }

def load (store : Store) (options : Options) (bytes : Bytes) : Except Failure World := do
  let info ← Info.ofBytes bytes
  let loaded ← loadThings store store.ids
  .ok ((blank store options).resume info loaded)

def openOn (store : Store) (options : Options) : Except (Failure × Store) World :=
  match store.info with
  | some bytes => (load store options bytes).mapError fun failure => (failure, store)
  | none =>
    match seed.run (blank store options) with
    | (.ok (), world) => .ok world
    | (.error failure, world) => .error (failure, world.store)

end World
end ThingWorld
