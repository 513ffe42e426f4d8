import ThingWorld.Proofs.Ancestry.Pointers
import ThingWorld.Proofs.Cloning.Closure
import ThingWorld.Proofs.Course.Handlers
import ThingWorld.Proofs.Upkeep.Ranking
namespace ThingWorld

namespace World

variable {world last : World} {id place : ThingId}

def LiesIn (world : World) (id place : ThingId) : Prop :=
  ∃ thing, world.things[id]? = some thing ∧ place ∈ thing.targets Relation.location

-- A thing is in one place at most.
def Placed (world : World) : Prop :=
  ∀ (id : ThingId) (thing : Thing), world.things[id]? = some thing → (thing.targets Relation.location).length ≤ 1

instance (world : World) : Decidable world.Placed :=
  decidable_of_iff (∀ entry ∈ world.things.toList, (entry.2.targets Relation.location).length ≤ 1) <| by
    constructor
    · exact fun placed id thing found => placed (id, thing) (Std.ExtTreeMap.mem_toList_iff_getElem?_eq_some.mpr found)
    · exact fun placed entry listed => placed entry.1 entry.2 (Std.ExtTreeMap.mem_toList_iff_getElem?_eq_some.mp listed)

-- The thing was moved, and that is all that was done to things.
def Moved (world last : World) (id place : ThingId) : Prop :=
  last.things = (world.revise id (Change.point Relation.location place false).apply).things

theorem targets_moved_to (place : ThingId) (thing : Thing) :
    ((Change.point Relation.location place false).apply thing).targets Relation.location = [place] := by
  simp [Change.apply, Thing.targets, Thing.keepEdges, Thing.addEdge]

theorem mem_targets {thing : Thing} : place ∈ thing.targets Relation.location ↔ ⟨Relation.location, place⟩ ∈ thing.edges := by
  rw [Thing.targets, List.mem_map]
  constructor
  · rintro ⟨⟨property, target⟩, member, rfl⟩
    obtain ⟨listed, named⟩ := List.mem_filter.mp member
    rwa [← beq_iff_eq.mp named]
  · exact fun member => ⟨_, List.mem_filter.mpr ⟨member, beq_self_eq_true _⟩, rfl⟩

theorem liesIn_of_location (located : world.location? id = some place) : world.LiesIn id place := by
  obtain ⟨thing, found, first⟩ := Option.bind_eq_some_iff.mp located
  exact ⟨thing, found, List.mem_of_head? first⟩

theorem uncircled_of_lower (rank : ThingId → Nat) (lower : ∀ entry ∈ world.things.toList,
    (entry.2.targets Relation.location).all (fun place => decide (rank place < rank entry.1)) = true) :
    Uncircled world.LiesIn := by
  refine uncircled_of_ranked rank fun id place lies => ?_
  obtain ⟨thing, found, member⟩ := lies
  have before := lower (id, thing) (Std.ExtTreeMap.mem_toList_iff_getElem?_eq_some.mpr found)
  exact of_decide_eq_true (List.all_eq_true.mp before place member)

theorem liesIn_unique (placed : world.Placed) {other : ThingId} (lies : world.LiesIn id place)
    (lies' : world.LiesIn id other) : place = other := by
  obtain ⟨thing, found, member⟩ := lies
  obtain ⟨thing', found', member'⟩ := lies'
  obtain rfl := Option.some.inj (found.symm.trans found')
  have short := placed id thing found
  cases places : thing.targets Relation.location with
  | nil =>
    rw [places] at member
    cases member
  | cons first rest =>
    rw [places] at member member' short
    obtain rfl : rest = [] := List.length_eq_zero_iff.mp (by simpa using short)
    rw [List.mem_singleton.mp member, List.mem_singleton.mp member']

theorem placed_moved (placed : world.Placed) (moved : Moved world last id place) : last.Placed := by
  intro other thing found
  rw [moved, revise_things] at found
  obtain ⟨before, there, rfl⟩ := Option.map_eq_some_iff.mp found
  split
  · rw [targets_moved_to]
    exact Nat.le_refl 1
  · exact placed other before there

theorem redirected_moved (held : world.contains id = true) (moved : Moved world last id place) :
    Redirected world.LiesIn last.LiesIn id place := by
  constructor
  · intro next
    obtain ⟨thing, found⟩ := some_of_contains held
    rw [LiesIn, moved, revise_things, found]
    simp [targets_moved_to]
  · intro one next other
    rw [LiesIn, moved, revise_things, LiesIn]
    simp [other]

-- Nothing lies in itself after a move unless the place lay in the thing.
theorem uncircled_moved (uncircled : Uncircled world.LiesIn) (held : world.contains id = true)
    (moved : Moved world last id place) :
    Uncircled last.LiesIn ↔ ¬Relation.ReflTransGen world.LiesIn place id :=
  uncircled_redirected uncircled (redirected_moved held moved)

theorem connected_of_lies (tracked : world.Tracked []) (held : world.contains id = true) {inner : ThingId}
    (lies : Relation.ReflTransGen world.LiesIn inner id) : inner ∈ world.connected id := by
  refine (connected_iff tracked).mpr ⟨held, ?_⟩
  induction lies using Relation.ReflTransGen.head_induction_on with
  | refl => exact .refl
  | head lies _ ih =>
    obtain ⟨thing, found, member⟩ := lies
    exact ih.tail ⟨thing, found, .inl (mem_targets.mp member)⟩

theorem liesIn_of_contents (tracked : world.Tracked []) (member : id ∈ world.contents place) : world.LiesIn id place := by
  obtain ⟨thing, found, edge⟩ := (((tracked_current tracked).associated Relation.location place).members id).mp
    (world.mem_contents.mp member)
  exact ⟨thing, found, mem_targets.mpr edge⟩

end World

namespace Engine

-- What a line moves, and where to.
inductive Moves (world : World) (context : Context) (line : Line) : Verb → ThingId → ThingId → Prop where
  | go {here exit destination : ThingId} (placed : world.location? context.actor = some here)
      (meant : world.matchAmong (world.links here) line.rest = .found exit)
      (leads : world.destination? exit = some destination) : Moves world context line .go context.actor destination
  | get {here item : ThingId} (placed : world.location? context.actor = some here)
      (meant : world.matchAmong ((world.contents here).filter fun id => id != context.actor) line.rest = .found item)
      (unheard : world.hasListener item = false) : Moves world context line .get item context.actor
  | drop {here item : ThingId} (placed : world.location? context.actor = some here)
      (meant : world.matchAmong (world.contents context.actor) line.rest = .found item) :
      Moves world context line .drop item here
  | move {id place : ThingId} (meant : world.resolveOne context.view (line.arg 0) = .ok id)
      (controlled : context.controls id = true) (meant' : world.resolveOne context.view (line.restFrom 1) = .ok place)
      (apart : (world.connected id).contains place = false) : Moves world context line .move id place

variable {world : World} {context : Context} {line : Line} {verb : Verb} {id place : ThingId}

theorem mem_of_found {candidates : List ThingId} {query : String}
    (meant : world.matchAmong candidates query = .found id) : id ∈ candidates := by
  have matched : (world.matchAmong candidates query).toExcept query = .ok id := by rw [meant]; rfl
  exact World.mem_of_matched matched

theorem goes_of_nests (tracked : world.Tracked []) (placed : world.Placed) (uncircled : Uncircled world.LiesIn)
    (moves : Moves world context line verb id place) (held : world.contains id = true)
    (nests : Relation.ReflTransGen world.LiesIn place id) : verb = .go := by
  cases moves with
  | go => rfl
  | @get here _ located meant _ =>
    obtain ⟨there, other⟩ := List.mem_filter.mp (mem_of_found meant)
    have lies := World.liesIn_of_contents tracked there
    rcases Relation.ReflTransGen.cases_head nests with same | ⟨next, first, rest⟩
    · exact absurd same.symm (bne_iff_ne.mp other)
    · rw [← World.liesIn_unique placed (World.liesIn_of_location located) first] at rest
      exact absurd (.head' lies rest) (uncircled id)
  | drop located meant =>
    have lies := World.liesIn_of_contents tracked (mem_of_found meant)
    have out := World.liesIn_of_location located
    exact absurd (.head lies (.head' out nests)) (uncircled id)
  | move _ _ _ apart =>
    have inside := World.connected_of_lies tracked held nests
    rw [Std.ExtTreeSet.mem_iff_contains, apart] at inside
    cases inside

end Engine

end ThingWorld
