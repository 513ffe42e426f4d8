import ThingWorld.Engine.Dispatch
import ThingWorld.Proofs.Course.Script
namespace ThingWorld

-- Verbs that do more than change values and edges, speak and pace.
def Verb.privileged : Verb → Bool
  | create => true
  | reproto => true
  | link => true
  | toast => true
  | copy => true
  | clock => true
  | _ => false

-- A registry in which every such verb needs admin rights.
def Registry.Guarded (registry : Registry) : Prop :=
  ∀ (name : String) (spec : VerbSpec), registry[name]? = some spec → spec.verb.privileged = true →
    spec.adminOnly = true

def Moment.plain : Moment → Bool
  | did deed => deed.plain
  | _ => true

namespace World

theorem chooseFrom_owner {world : World} {P : ThingId → Prop} {property : String} {value : Datum}
    (upwards : ∀ id thing prototype, P id → world.things[id]? = some thing → thing.prototype = some prototype →
      P prototype) (left : Nat) : ∀ {id : ThingId}, P id → world.chooseFrom [property] left id = some value →
      ∃ (owner : ThingId) (thing : Thing), P owner ∧ world.things[owner]? = some thing ∧
        thing.own? property = some value := by
  induction left with
  | zero => exact fun _ chosen => nomatch chosen
  | succ left ih =>
    intro id start chosen
    rw [chooseFrom] at chosen
    cases found : world.things[id]? with
    | none =>
      rw [found] at chosen
      cases chosen
    | some thing =>
      rw [found] at chosen
      cases owned : thing.own? property with
      | some own =>
        simp only [List.findSome?_cons, owned] at chosen
        cases chosen
        exact ⟨id, thing, start, found, owned⟩
      | none =>
        simp only [List.findSome?_cons, owned, List.findSome?_nil] at chosen
        obtain ⟨prototype, inherits, chosen⟩ := Option.bind_eq_some_iff.mp chosen
        exact ih (upwards id thing prototype start found inherits) chosen

-- Somebody has the admin flag, own or inherited.
def Ruled (world : World) : Prop :=
  ∃ id, world.flag id Property.admin = true

-- Up to the first moment at which somebody rules, all that happens is plain.
def Lawful (world : World) : List Moment → Prop
  | [] => True
  | moment :: rest => world.Ruled ∨ (moment.plain = true ∧ (moment.perform world).Lawful rest)

theorem lawful_of_ruled {world : World} (ruled : world.Ruled) (moments : List Moment) : world.Lawful moments := by
  cases moments with
  | nil => trivial
  | cons moment rest => exact .inl ruled

theorem lawful_append {before after : List Moment} : ∀ {world : World}, world.Lawful before →
    (world.replay before).Lawful after → world.Lawful (before ++ after) := by
  induction before with
  | nil => exact fun _ rest => rest
  | cons moment before ih =>
    intro world first rest
    cases first with
    | inl ruled => exact .inl ruled
    | inr step => exact .inr ⟨step.1, ih step.2 rest⟩

end World

namespace Law

-- The law of a chain with or without admin rights.
def rights (admin : Bool) : Law where
  holds world moments := (∀ deed, .did deed ∈ moments → deed.lives) ∧
    (admin = false → world.registry.Guarded → world.Lawful moments)
  none _ := ⟨fun _ member => absurd member List.not_mem_nil, fun _ _ => trivial⟩
  append {world before after} first rest := by
    refine ⟨fun deed member => (List.mem_append.mp member).elim (first.1 deed) (rest.1 deed), ?_⟩
    intro without guarded
    have guarded' : (world.replay before).registry.Guarded := by rwa [World.replay_registry]
    exact World.lawful_append (first.2 without guarded) (rest.2 without guarded')
  opened _ := ⟨fun _ member => by simp at member, fun _ _ => .inr ⟨rfl, trivial⟩⟩
  ended _ _ := ⟨fun _ member => by simp at member, fun _ _ => .inr ⟨rfl, trivial⟩⟩

theorem grants_plain (admin : Bool) : (rights admin).Grants fun deed => deed.plain = true := by
  intro world deed plain
  refine ⟨?_, fun _ _ => .inr ⟨plain, trivial⟩⟩
  intro other member
  simp only [List.mem_singleton, Moment.did.injEq] at member
  subst member
  cases other <;> trivial

theorem grants_lives : (rights true).Grants Deed.lives := by
  intro world deed lives
  refine ⟨?_, fun without => Bool.noConfusion without⟩
  intro other member
  simp only [List.mem_singleton, Moment.did.injEq] at member
  exact member ▸ lives

end Law

variable {α : Type} {world : World} {steps : Run α} {admin : Bool}

theorem charted_rights (without : Charted (.rights false) steps world) : Charted (.rights admin) steps world :=
  charted_mono without fun _ holds => ⟨holds.1, fun _ => holds.2 rfl⟩

-- The registry says who may; where it does not, the law is silent too.
theorem charted_entitled (entitled : admin = true ∨ ¬world.registry.Guarded)
    (charted : Charted (.rights true) steps world) : Charted (.rights admin) steps world := by
  refine charted_mono charted fun moments holds => ⟨holds.1, fun without guarded => ?_⟩
  rcases entitled with rights | unguarded
  · rw [rights] at without
    cases without
  · exact absurd guarded unguarded

-- Where somebody rules, the rights of a chain no longer matter.
theorem charted_ruled (ruled : world.Ruled) (charted : Charted (.rights true) steps world) :
    Charted (.rights admin) steps world :=
  charted_mono charted fun moments holds => ⟨holds.1, fun _ _ => World.lawful_of_ruled ruled moments⟩

end ThingWorld
