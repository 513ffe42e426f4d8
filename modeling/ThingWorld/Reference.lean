import ThingWorld.World.Build
namespace ThingWorld

structure Viewpoint where
  actor : ThingId
  this : ThingId
  eventSource : Option ThingId
deriving DecidableEq, Repr

def Viewpoint.of (actor : ThingId) : Viewpoint := ⟨actor, actor, none⟩

structure Candidate where
  id : ThingId
  name : String
deriving DecidableEq, Repr

def Candidate.label (candidate : Candidate) : String :=
  candidate.name ++ " (" ++ showId candidate.id ++ ")"

inductive Resolution where
  | found (id : ThingId)
  | ambiguous (candidates : List Candidate)
  | notFound
deriving DecidableEq, Repr

def Resolution.toExcept (resolution : Resolution) (reference : String) : Except Failure ThingId :=
  match resolution with
  | found id => .ok id
  | notFound => .error (.notFound reference)
  | ambiguous candidates => .error (.ambiguous reference (candidates.map Candidate.label))

def normalizeName (name : String) : String :=
  String.ofList (List.intercalate [' '] (Text.words (Text.lower name).toList))

inductive Fit where
  | exact
  | part
deriving DecidableEq, Repr

-- Both texts are normalized.
def Fit.holds : Fit → String → String → Bool
  | exact, name, query => name == query
  | part, name, query => Text.contains query.toList name.toList

namespace World

def namesOf (world : World) (id : ThingId) : List String :=
  [normalizeName (world.nameOf id)]
    ++ ((nonempty? (world.text? id Property.fullName)).map normalizeName).toList
    ++ (world.aliases id).map normalizeName

def answersTo (world : World) (id : ThingId) (word : String) : Bool :=
  (world.namesOf id).contains (normalizeName word)

def hits (world : World) (candidates : List ThingId) (query : String) (fit : Fit) : List ThingId :=
  let query := normalizeName query
  candidates.filter fun id => (world.namesOf id).any fun name => fit.holds name query

def candidatesOf (world : World) (ids : List ThingId) : List Candidate :=
  ids.map fun id => ⟨id, world.displayName id⟩

def decide? (world : World) : List ThingId → Option Resolution
  | [] => none
  | [id] => some (.found id)
  | ids => some (.ambiguous (world.candidatesOf ids))

def matchScopes (world : World) (scopes : List (List ThingId)) (query : String) : Resolution :=
  let attempt (fit : Fit) := scopes.findSome? fun scope => world.decide? (world.hits scope query fit)
  match attempt .exact with
  | some resolution => resolution
  | none => (attempt .part).getD .notFound

def matchAmong (world : World) (candidates : List ThingId) (query : String) : Resolution :=
  world.matchScopes [candidates] query

def searchScopes (world : World) (actor : ThingId) : List (List ThingId) :=
  [[actor], world.contents actor]
    ++ match world.location? actor with
      | none => []
      | some here => [(world.contents here).filter fun id => id != actor, world.links here, [here]]

def protoStem : String := "proto:"

def namedPrototype? (world : World) (keyword : String) : Option (Option ThingId) :=
  (Text.after? protoStem.toList keyword.toList).map fun name =>
    world.prototype? (String.ofList (Text.trim name))

def keyword? (world : World) (view : Viewpoint) (keyword : String) : Option ThingId :=
  if keyword == "me" then some view.actor
  else if keyword == "this" then some view.this
  else if keyword == "here" then world.location? view.actor
  else if keyword == "actor" then some (view.eventSource.getD view.actor)
  else if keyword == "limbo" then some world.info.limbo
  else if keyword == "lobby" then some world.info.lobby
  else if keyword == "hall" then some world.info.hall
  else
    match world.namedPrototype? keyword with
    | some prototype => prototype
    | none => Text.uint64? keyword

def resolveKeyword (world : World) (view : Viewpoint) (keyword : String) : Resolution :=
  match (world.keyword? view (Text.asciiLower keyword)).filter world.contains with
  | some id => .found id
  | none => .notFound

def foundOr : Option ThingId → Resolution
  | some id => .found id
  | none => .notFound

def resolveName (world : World) (view : Viewpoint) (reference : String) : Resolution :=
  let name := normalizeName reference
  if name == "me" || name == "myself" then .found view.actor
  else if name == "here" then foundOr (world.location? view.actor)
  else world.matchScopes (world.searchScopes view.actor) reference

def resolve (world : World) (view : Viewpoint) (reference : String) : Resolution :=
  match Text.trim reference.toList with
  | [] => .notFound
  | '%' :: keyword => world.resolveKeyword view (String.ofList keyword)
  | name => world.resolveName view (String.ofList name)

def resolveOne (world : World) (view : Viewpoint) (reference : String) : Except Failure ThingId :=
  (world.resolve view reference).toExcept reference

end World
end ThingWorld
