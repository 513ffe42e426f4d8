import ThingWorld.World
namespace ThingWorld.World

def maxAncestors : Nat := 64

def prototypeOf? (world : World) (id : ThingId) : Option ThingId :=
  (world.things[id]?).bind (·.prototype)

def chooseFrom (world : World) (properties : List String) : Nat → ThingId → Option Datum
  | 0, _ => none
  | left + 1, id =>
    match world.things[id]? with
    | none => none
    | some thing =>
      match properties.findSome? thing.own? with
      | some value => some value
      | none => thing.prototype.bind fun prototype => chooseFrom world properties left prototype

-- The value of the earliest of `properties` that the nearest ancestor with any of them owns; a thing is its
-- own nearest ancestor.
def choose? (world : World) (id : ThingId) (properties : List String) : Option Datum :=
  chooseFrom world properties maxAncestors id

def text? (world : World) (id : ThingId) (property : String) : Option String :=
  (world.choose? id [property]).map Datum.asText

def text (world : World) (id : ThingId) (property : String) : String :=
  (world.text? id property).getD ""

def number? (world : World) (id : ThingId) (property : String) : Option Int64 :=
  (world.choose? id [property]).bind Datum.number?

def flag (world : World) (id : ThingId) (property : String) : Bool :=
  (world.choose? id [property]).any Datum.holds

def isClosed (world : World) (id : ThingId) : Bool := world.flag id Property.closed

def isAdmin (world : World) (id : ThingId) : Bool :=
  (world.listeners[id]?).any (·.admin) || world.flag id Property.admin

def nonempty? (s : Option String) : Option String := s.filter fun s => !s.isEmpty

def nameOf (world : World) (id : ThingId) : String :=
  (nonempty? (world.text? id Property.name)).getD (showId id)

def displayName (world : World) (id : ThingId) : String :=
  let name := (nonempty? (world.text? id Property.fullName)).getD (world.nameOf id)
  match nonempty? (world.text? id Property.article) with
  | some article => article ++ " " ++ name
  | none => name

def aliases (world : World) (id : ThingId) : List String :=
  ((world.choose? id [Property.aliases]).map Datum.items).getD []

-- Whether `ancestor` is among the first `left` things of the chain that begins with `start`.
def chainHas (world : World) (ancestor : ThingId) : Nat → Option ThingId → Bool
  | 0, _ => false
  | _ + 1, none => false
  | left + 1, some id => id == ancestor || chainHas world ancestor left (world.prototypeOf? id)

def inheritsFrom (world : World) (id : ThingId) (ancestor : Option ThingId) : Bool :=
  match ancestor with
  | none => false
  | some ancestor => world.chainHas ancestor maxAncestors (some id)

end ThingWorld.World
