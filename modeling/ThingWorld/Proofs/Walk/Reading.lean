import ThingWorld.Proofs.Walk.Preorder
namespace ThingWorld.World

variable {world mid : World} (things : mid.things = world.things)

include things

theorem choose_same (id : ThingId) (properties : List String) : mid.choose? id properties = world.choose? id properties :=
  chooseFrom_same things properties maxAncestors id

theorem nameOf_same : mid.nameOf = world.nameOf := by
  funext id
  rw [nameOf, nameOf, text?, text?, choose_same things]

theorem displayName_same : mid.displayName = world.displayName := by
  funext id
  rw [displayName, displayName, nameOf_same things, text?, text?, text?, text?, choose_same things, choose_same things]

theorem matchScopes_same (scopes : List (List ThingId)) (query : String) :
    mid.matchScopes scopes query = world.matchScopes scopes query := by
  have names : mid.namesOf = world.namesOf := by
    funext id
    rw [namesOf, namesOf, nameOf_same things, text?, text?, aliases, aliases, choose_same things, choose_same things]
  have hits : mid.hits = world.hits := by
    funext candidates query fit
    rw [World.hits, World.hits, names]
  have decides : mid.decide? = world.decide? := by
    funext ids
    rcases ids with _ | ⟨id, _ | ⟨other, rest⟩⟩
    · rfl
    · rfl
    · show some (Resolution.ambiguous (mid.candidatesOf _)) = some (.ambiguous (world.candidatesOf _))
      rw [candidatesOf, candidatesOf, displayName_same things]
  rw [matchScopes, matchScopes, hits, decides]

theorem matchAmong_same (candidates : List ThingId) (query : String) :
    mid.matchAmong candidates query = world.matchAmong candidates query :=
  matchScopes_same things [candidates] query

theorem location_same : mid.location? = world.location? := by
  funext id
  exact association_same things id Relation.location

theorem isAdmin_same (listeners : mid.listeners = world.listeners) (id : ThingId) : mid.isAdmin id = world.isAdmin id := by
  rw [isAdmin, isAdmin, listeners, flag, flag, choose_same things]

theorem contains_same : mid.contains = world.contains := by
  funext id
  rw [contains, contains, things]

variable (index : mid.index = world.index) (info : mid.info = world.info)

include index in
theorem searchScopes_same (actor : ThingId) : mid.searchScopes actor = world.searchScopes actor := by
  rw [searchScopes, searchScopes, location_same things, contents_same things index]
  cases world.location? actor with
  | none => rfl
  | some here =>
    dsimp only
    rw [contents_same things index, links_same things index]

include index in
theorem connected_same (id : ThingId) : mid.connected id = world.connected id := by
  have held : mid.held = world.held := by
    funext holder
    rw [held, held, associated, associated, associated, associated, index]
  have spreads (rounds : Nat) : ∀ found latest, mid.spread rounds found latest = world.spread rounds found latest := by
    induction rounds with
    | zero => exact fun _ _ => rfl
    | succ rounds ih =>
      intro found latest
      rw [spread, spread, newlyHeld, newlyHeld, held]
      simp only [ih]
  rw [connected, connected, contains_same things, index, spreads]

include index info

theorem resolveOne_same (view : Viewpoint) (reference : String) :
    mid.resolveOne view reference = world.resolveOne view reference := by
  have keywords (keyword : String) : mid.keyword? view keyword = world.keyword? view keyword := by
    rw [keyword?, keyword?, location_same things, namedPrototype?, namedPrototype?, info]
    simp only [prototype?, info]
  have named (name : String) : mid.resolveName view name = world.resolveName view name := by
    rw [resolveName, resolveName, location_same things, searchScopes_same things index, matchScopes_same things]
  have worded (keyword : String) : mid.resolveKeyword view keyword = world.resolveKeyword view keyword := by
    rw [resolveKeyword, resolveKeyword, keywords, contains_same things]
  rw [resolveOne, resolveOne, resolve, resolve]
  split
  · rfl
  · rw [worded]
  · rw [named]

end ThingWorld.World

namespace ThingWorld.Walk

variable {world mid : World} {route : Route} {limbo : ThingId}

theorem leads_same (things : mid.things = world.things) (index : mid.index = world.index) {id next : ThingId}
    (leads : Leads mid route limbo id next) : Leads world route limbo id next := by
  cases leads with
  | inward held => exact .inward (World.contents_same things index id ▸ held)
  | link visitLinks owned => exact .link visitLinks (World.links_same things index id ▸ owned)
  | through visitLinks owned opened leads =>
    exact .through visitLinks (World.links_same things index id ▸ owned) (World.isClosed_same things _ ▸ opened)
      (World.destination_same things _ ▸ leads)
  | outward place differs opened =>
    exact .outward (World.location_same things ▸ place) differs (World.isClosed_same things _ ▸ opened)

theorem reaches_same (things : mid.things = world.things) (index : mid.index = world.index) {visited : IdSet}
    {start id : ThingId} (reaches : Reaches mid route limbo visited start id) :
    Reaches world route limbo visited start id := by
  induction reaches with
  | start there fresh => exact .start (World.contains_same things ▸ there) fresh
  | step _ leads there fresh ih =>
    exact .step ih (leads_same things index leads) (World.contains_same things ▸ there) fresh

end ThingWorld.Walk
