import ThingWorld.Proofs.Course.Chain
import ThingWorld.Proofs.Ends.Room
import ThingWorld.Proofs.Upkeep.Ranking
namespace ThingWorld

-- The limits and the registry are those of `start`, and there is at most so much room.
structure World.Confined (start : World) (room : Nat) (world : World) : Prop where
  limits : world.limits = start.limits
  registry : world.registry = start.registry
  room : world.room ≤ room

def Ends {α : Type} (start : World) (room : Nat) (steps : Run α) (world : World) : Prop :=
  start.Confined room world → ∃ result last, steps.run world = some (result, last) ∧ start.Confined room last

section

variable {α β : Type} {start world last : World} {room : Nat}

theorem World.confined_self (start : World) : start.Confined mostRoom start :=
  ⟨rfl, rfl, start.room_le⟩

theorem World.confined_quiet (confined : start.Confined room world) (quiet : world.Quiet last) :
    start.Confined room last :=
  ⟨quiet.limits.trans confined.limits, quiet.registry.trans confined.registry,
    (room_quiet quiet).trans confined.room⟩

theorem ends_quiet {steps : Run α} {result : Except Failure α} (ran : steps.run world = some (result, last))
    (quiet : world.Quiet last) : Ends start room steps world :=
  fun confined => ⟨result, last, ran, World.confined_quiet confined quiet⟩

theorem ends_bind {x : Run α} {f : α → Run β} (first : Ends start room x world)
    (rest : ∀ a mid, x.run world = some (.ok a, mid) → Ends start room (f a) mid) :
    Ends start room (x >>= f) world := by
  intro confined
  obtain ⟨result, mid, ran, confined⟩ := first confined
  rw [Run.run_bind, ran]
  cases result with
  | error failure => exact ⟨_, mid, rfl, confined⟩
  | ok a => exact rest a mid ran confined

theorem ends_read {f : World → Run β} (rest : Ends start room (f world) world) :
    Ends start room (get >>= f) world := by
  intro confined
  rw [Run.run_bind, Run.run_get]
  exact rest confined

theorem ends_observe {steps : Run α} (ends : Ends start room steps world) : Ends start room steps.observe world := by
  intro confined
  obtain ⟨result, last, ran, confined⟩ := ends confined
  exact ⟨.ok result, last, by rw [Run.run_observe, ran]; rfl, confined⟩

theorem ends_scope {body : Run α} (inside : Ends start room body world)
    (outside : Ends start room body (Moment.opened.perform world)) : Ends start room body.scope world := by
  intro confined
  cases scope : world.inScope with
  | true =>
    rw [Run.run_joined scope]
    exact inside confined
  | false =>
    rw [Run.run_outermost scope]
    have opened := World.confined_quiet confined (World.quiet_of_steady (World.steady_scope true world))
    obtain ⟨result, mid, ran, confined⟩ := outside opened
    refine ⟨(mid.settle result).1, (mid.settle result).2, congrArg (Option.map _) ran, ?_⟩
    exact World.confined_quiet confined (World.quiet_of_steady (World.steady_settle result mid))

theorem ends_making (operation : Operation α) (makes : operation.makes = true)
    (left : world.Affords (operation.takes world)) : Ends start room operation.run world := by
  obtain ⟨act, same, _⟩ := World.raised_operation operation makes
  have ran : operation.run.run world = some (act.run world) := by
    rw [same]
    rfl
  exact ends_quiet ran (World.quiet_making operation makes left ran)

end

-- What makes things ends where it finds ids for them.
def Discipline.ending (start : World) (room : Nat) : Discipline where
  keeps _ steps world := Ends start room steps world
  quiet ran _ _ thinned := ends_quiet ran (World.quiet_of_thinned thinned)
  binds := ends_bind
  observes := ends_observe
  scopes := ends_scope
  bears count world := world.Affords count
  makes := ends_making
  entitled _ ends := ends

theorem length_ids (ids : IdSet) : ids.toList.length ≤ Text.wordSize :=
  (Index.nodup_toList ids).length_le_card.trans_eq card_ids

theorem left_visit {id : ThingId} {visited : IdSet} (unvisited : id ∉ visited) :
    Text.wordSize - visited.size = Text.wordSize - (visited.insert id).size + 1 := by
  have size : (visited.insert id).size = visited.size + 1 := by
    rw [Std.ExtTreeSet.size_insert, if_neg fun member => unvisited (Std.ExtTreeSet.contains_iff_mem.mp member)]
  have bound : (visited.insert id).size ≤ Text.wordSize := by
    rw [← Std.ExtTreeSet.length_toList]
    exact length_ids _
  omega

namespace Walk

variable (world : World) (id : ThingId)

theorem length_byPriority (ids : List ThingId) : (world.byPriority ids).length = ids.length := by
  rw [World.byPriority_sort, List.length_insertionSort]

theorem length_associated (relation : String) :
    (world.byPriority (world.associated relation id)).length ≤ Text.wordSize := by
  rw [length_byPriority]
  exact length_ids _

theorem length_throughLink (link : ThingId) : (throughLink world link).length ≤ 2 := by
  rw [throughLink, List.length_cons]
  split
  · exact Nat.le_succ 1
  · cases world.destination? link <;> simp

theorem length_outward (route : Route) (limbo : ThingId) : (outward world route limbo id).length ≤ 1 := by
  rw [outward]
  split
  · cases (world.location? id).filter fun place => place != limbo <;> simp
  · exact Nat.zero_le 1

theorem length_neighbours (route : Route) (limbo : ThingId) :
    (neighbours world route limbo id).length ≤ 3 * Text.wordSize + 1 := by
  have holds : (world.contents id).length ≤ Text.wordSize := length_associated world id Relation.location
  have owns : (world.links id).length ≤ Text.wordSize := length_associated world id Relation.linkOwner
  have leads : ((world.links id).flatMap (throughLink world)).length ≤ (world.links id).length * 2 := by
    rw [List.length_flatMap]
    refine (List.sum_le_card_nsmul _ 2 ?_).trans_eq (by simp)
    intro length member
    obtain ⟨link, _, rfl⟩ := List.mem_map.mp member
    exact length_throughLink world link
  have out := length_outward world id route limbo
  rw [neighbours, List.length_append, List.length_append]
  split
  · omega
  · rw [List.length_nil]
    omega

-- What a walk may still take up: what waits, and all that can be reached from what is not visited yet.
def ahead (waiting : List ThingId) (visited : IdSet) : Nat :=
  waiting.length + (3 * Text.wordSize + 1) * (Text.wordSize - visited.size)

variable {world id}

theorem ahead_visit {waiting next : List ThingId} {visited : IdSet} (unvisited : visited.contains id = false)
    (few : next.length ≤ 3 * Text.wordSize + 1) :
    ahead (next ++ waiting) (visited.insert id) < ahead (id :: waiting) visited := by
  have new : id ∉ visited := by
    rw [← Std.ExtTreeSet.contains_iff_mem, unvisited]
    exact Bool.noConfusion
  rw [ahead, ahead, left_visit new, Nat.mul_add_one, List.length_append, List.length_cons]
  omega

theorem ahead_skip {waiting : List ThingId} {visited : IdSet} : ahead waiting visited < ahead (id :: waiting) visited := by
  rw [ahead, ahead, List.length_cons]
  omega

-- A visit adds no more than what a thing leads to, less what was visited.
theorem ahead_onward {route : Route} {limbo : ThingId} {waiting : List ThingId} {visited : IdSet}
    (unvisited : visited.contains id = false) :
    ahead ((neighbours world route limbo id).filter (fun next => !(visited.insert id).contains next) ++ waiting)
      (visited.insert id) < ahead (id :: waiting) visited :=
  ahead_visit unvisited ((List.length_filter_le _ _).trans (length_neighbours world id route limbo))

theorem ahead_start (start : ThingId) (visited : IdSet) : ahead [start] visited < World.walkFuel := by
  have most : (3 * Text.wordSize + 1) * (Text.wordSize - visited.size) ≤ (3 * Text.wordSize + 1) * Text.wordSize :=
    Nat.mul_le_mul_left _ (Nat.sub_le _ _)
  rw [ahead, List.length_singleton, World.walkFuel, Nat.mul_comm Text.wordSize]
  omega

end Walk

namespace Conduct

variable (conduct : Conduct) {visit : ThingId → Run Bool}

-- The induction is on the fuel, which stays more than what is ahead.
theorem keeps_walkFrom (each : ∀ id world, conduct.keeps (visit id) world) (route : Route) (limbo : ThingId)
    (steps : Nat) :
    ∀ (waiting : List ThingId) (visited : IdSet) (order : List ThingId) (world : World),
      Walk.ahead waiting visited < steps →
        conduct.keeps (Walk.walkFrom route limbo visit steps waiting visited order) world := by
  induction steps with
  | zero => exact fun _ _ _ _ enough => absurd enough (Nat.not_lt_zero _)
  | succ steps ih =>
    intro waiting visited order world enough
    cases waiting with
    | nil => exact conduct.keeps_pure _ world
    | cons id waiting =>
      refine conduct.keeps_read ?_
      split
      · exact ih waiting visited order world (Nat.lt_of_lt_of_le Walk.ahead_skip (Nat.le_of_lt_succ enough))
      · rename_i fresh
        have unvisited : visited.contains id = false := by
          rw [Bool.not_eq_true, Bool.or_eq_false_iff] at fresh
          exact fresh.2
        refine conduct.binds (conduct.observes (each id world)) ?_
        intro result mid _
        split
        · exact conduct.keeps_pure _ mid
        · exact conduct.keeps_pure _ mid
        · refine conduct.keeps_read (ih _ _ _ mid ?_)
          exact Nat.lt_of_lt_of_le (Walk.ahead_onward unvisited) (Nat.le_of_lt_succ enough)

theorem roams_of_enough {engine : Engine} (enough : World.walkFuel ≤ engine.steps) : engine.Roams conduct := by
  intro visit each route place visited world
  refine conduct.keeps_read (conduct.keeps_walkFrom each route _ engine.steps _ _ _ world ?_)
  exact Nat.lt_of_lt_of_le (Walk.ahead_start place visited) enough

end Conduct
end ThingWorld
