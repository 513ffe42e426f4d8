import ThingWorld.Proofs.Course.Rights
import ThingWorld.Proofs.Walk.Reading
namespace ThingWorld

-- Nobody has a reaction of their own to events of that name.
def World.Unanswered (world : World) (name : String) : Prop :=
  ∀ (id : ThingId) (thing : Thing), world.things[id]? = some thing → thing.own? (reactionProperty name) = none

-- Nothing has a property whose name begins as those of reactions do.
def World.unreactive (world : World) : Bool :=
  world.things.toList.all fun entry => entry.2.properties.toList.all fun own =>
    !Property.reactionStem.toList.isPrefixOf own.1.toList

namespace Engine

variable {engine : Engine} {emission : Emission} {event : Event} {world mid : World} {id : ThingId}

theorem unanswered_same (things : mid.things = world.things) {name : String} (unanswered : world.Unanswered name) :
    mid.Unanswered name := by
  intro id thing found
  exact unanswered id thing (things ▸ found)

theorem unanswered_of_unreactive (unreactive : world.unreactive = true) (name : String) : world.Unanswered name := by
  intro id thing found
  cases owned : thing.own? (reactionProperty name) with
  | none => rfl
  | some value =>
    have plain := List.all_eq_true.mp unreactive (id, thing) (Std.ExtTreeMap.mem_toList_iff_getElem?_eq_some.mpr found)
    have apart := List.all_eq_true.mp plain (reactionProperty name, value)
      (Std.ExtTreeMap.mem_toList_iff_getElem?_eq_some.mpr owned)
    have begins : Property.reactionStem.toList.isPrefixOf (reactionProperty name).toList = true := by
      rw [reactionProperty, String.toList_append, List.isPrefixOf_iff_prefix]
      exact List.prefix_append _ _
    rw [begins] at apart
    cases apart

theorem reactionTemplate_unanswered (unanswered : world.Unanswered event.name) (id : ThingId) :
    reactionTemplate? world id event = none := by
  rw [reactionTemplate?, World.text?, Option.map_eq_none_iff, Option.eq_none_iff_forall_not_mem]
  intro value chosen
  obtain ⟨owner, thing, -, found, owned⟩ := World.chooseFrom_owner (P := fun _ => True) (fun _ _ _ _ _ _ => trivial)
    World.maxAncestors trivial chosen
  rw [unanswered owner thing found] at owned
  cases owned

-- A thing on the way of an event that nobody answers.
def overhear (emission : Emission) (world : World) (id : ThingId) : World :=
  if world.hasListener id then hear id emission.event emission.format world else world

theorem overhear_same (emission : Emission) (world : World) (id : ThingId) :
    ∃ heard, overhear emission world id = { world with heard := heard } := by
  rw [overhear]
  split
  · cases emission.format with
    | none => exact ⟨_, rfl⟩
    | some format => exact World.tell_same _ _ _
  · exact ⟨_, rfl⟩

theorem overheard_same (emission : Emission) (order : List ThingId) (world : World) :
    ∃ heard, order.foldl (overhear emission) world = { world with heard := heard } := by
  induction order generalizing world with
  | nil => exact ⟨_, rfl⟩
  | cons id rest ih =>
    obtain ⟨heard, same⟩ := overhear_same emission world id
    obtain ⟨heard', same'⟩ := ih (overhear emission world id)
    exact ⟨heard', by rw [List.foldl_cons, same', same]⟩

theorem run_visit (unanswered : world.Unanswered emission.event.name) :
    (engine.visitThing emission id).run world = some (.ok (), overhear emission world id) := by
  have nothing : reactionTemplate? world id emission.event = none := reactionTemplate_unanswered unanswered id
  rw [visitThing, Run.run_bind, Run.run_get, overhear]
  dsimp only
  cases world.hasListener id with
  | true => rfl
  | false =>
    rw [if_neg Bool.false_ne_true, if_neg Bool.false_ne_true]
    split
    · cases emission.isCheck with
      | true => rw [if_pos rfl, Run.run_bind, Run.run_observe, run_unasked nothing]; rfl
      | false => rw [if_neg Bool.false_ne_true, Run.run_bind, Run.run_observe, run_unheard nothing]; rfl
    · rfl

-- What is done at each thing on the way.
def visiting (engine : Engine) (emission : Emission) (id : ThingId) : Run Bool := do
  Run.ofExcept (goesOn (← (engine.visitThing emission id).observe))

theorem run_visiting (unanswered : world.Unanswered emission.event.name) :
    (engine.visiting emission id).run world = some (.ok true, overhear emission world id) := by
  rw [visiting, Run.run_bind, Run.run_observe, run_visit unanswered]
  rfl

theorem run_visitInTurn (unanswered : world.Unanswered emission.event.name) (order : List ThingId) :
    (Walk.visitInTurn (engine.visiting emission) order).run world =
      some (.ok ⟨.ok true, order⟩, order.foldl (overhear emission) world) := by
  induction order generalizing world with
  | nil => rfl
  | cons id rest ih =>
    obtain ⟨heard, same⟩ := overhear_same emission world id
    have later : (overhear emission world id).Unanswered emission.event.name := by
      rw [same]
      exact unanswered
    rw [Walk.visitInTurn, Run.run_bind, Run.run_observe, run_visiting unanswered]
    dsimp only [Option.map_some]
    rw [Run.run_bind, ih later]
    rfl

theorem run_emit (emission : Emission) (enough : World.walkFuel ≤ engine.steps)
    (unanswered : world.Unanswered emission.event.name) (sent : emission.failed = false)
    (unfollowed : emission.onSuccess = none) (start : ThingId) (exclude : List ThingId) :
    ∃ order last, Walk.Tour world emission.route world.info.limbo (.ofList exclude) [start] order last ∧
      (engine.emit start emission exclude).run world = some (.ok true, order.foldl (overhear emission) world) := by
  have leaves (id : ThingId) (before : World) (result : Except Failure Bool) (after : World)
      (things : before.things = world.things) (_ : before.index = world.index)
      (ran : (engine.visiting emission id).run before = some (result, after)) :
      after.things = before.things ∧ after.index = before.index := by
    rw [run_visiting (unanswered_same things unanswered)] at ran
    cases ran
    obtain ⟨heard, same⟩ := overhear_same emission before id
    rw [same]
    exact ⟨rfl, rfl⟩
  have ahead : Walk.ahead [start] (.ofList exclude) < engine.steps :=
    Nat.lt_of_lt_of_le (Walk.ahead_start start _) enough
  obtain ⟨order, last, tour, walks⟩ := @Walk.walkFrom_in_turn_of_same world emission.route world.info.limbo _ leaves
    engine.steps [start] (.ofList exclude) [] world ahead rfl rfl
  refine ⟨order, last, tour, ?_⟩
  have walked : (Walk.walk engine.steps emission.route start (.ofList exclude) (engine.visiting emission)).run world =
      some (.ok ⟨.ok true, order⟩, order.foldl (overhear emission) world) := by
    rw [Walk.walk, Run.run_bind, Run.run_get]
    dsimp only
    rw [walks, Run.run_bind, run_visitInTurn unanswered]
    rfl
  show (Walk.walk engine.steps emission.route start (.ofList exclude) (engine.visiting emission) >>= _).run world = _
  rw [Run.run_bind, walked]
  dsimp only
  have finished (last : World) : (Run.ofExcept (.ok true) : Run Bool).run last = some (.ok true, last) := rfl
  rw [Run.run_bind, finished]
  dsimp only
  rw [sent, Bool.not_true, Bool.or_false, if_neg Bool.false_ne_true, unfollowed]
  rfl

end Engine
end ThingWorld
