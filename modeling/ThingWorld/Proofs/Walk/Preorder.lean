import ThingWorld.Proofs.Turns.Playing
import ThingWorld.Proofs.Upkeep.Opened
import ThingWorld.Proofs.Walk.Tour
namespace ThingWorld

namespace World

variable {world mid : World} (things : mid.things = world.things)

include things

theorem chooseFrom_same (properties : List String) (left : Nat) : ∀ id : ThingId,
    mid.chooseFrom properties left id = world.chooseFrom properties left id := by
  induction left with
  | zero => exact fun _ => rfl
  | succ left ih =>
    intro id
    rw [chooseFrom, chooseFrom, things]
    cases world.things[id]? with
    | none => rfl
    | some thing =>
      dsimp only
      rw [funext ih]

theorem priority_same (id : ThingId) : mid.priority id = world.priority id := by
  rw [priority, priority, number?, number?, choose?, choose?, chooseFrom_same things]

theorem byPriority_same (ids : List ThingId) : mid.byPriority ids = world.byPriority ids := by
  have before : mid.goesBefore = world.goesBefore := by
    funext a b
    rw [goesBefore, goesBefore, priority_same things a, priority_same things b]
  rw [byPriority_sort, byPriority_sort, before]

theorem isClosed_same (id : ThingId) : mid.isClosed id = world.isClosed id := by
  rw [isClosed, isClosed, flag, flag, choose?, choose?, chooseFrom_same things]

theorem association_same (id : ThingId) (relation : String) :
    mid.association? id relation = world.association? id relation := by
  rw [association?, association?, things]

theorem destination_same (link : ThingId) : mid.destination? link = world.destination? link := by
  rw [destination?, destination?, otherLink?, otherLink?, association_same things]
  refine congrArg _ (funext fun other => ?_)
  rw [linkOwner?, linkOwner?, association_same things]

variable (index : mid.index = world.index)

include index

theorem contents_same (id : ThingId) : mid.contents id = world.contents id := by
  rw [contents, contents, associated, associated, index, byPriority_same things]

theorem links_same (id : ThingId) : mid.links id = world.links id := by
  rw [links, links, associated, associated, index, byPriority_same things]

end World

namespace Walk

-- Visits what is in a list, one after the other, until a visit fails or says no.
def visitInTurn (visit : ThingId → Run Bool) : List ThingId → Run Walked
  | [] => return ⟨.ok true, []⟩
  | id :: rest => do
    match ← (visit id).observe with
    | .error failure => return ⟨.error failure, [id]⟩
    | .ok false => return ⟨.ok false, [id]⟩
    | .ok true =>
      let walked ← visitInTurn visit rest
      return { walked with order := id :: walked.order }

-- The visits that were made before count, too; the latest is the first of them.
def Walked.behind (done : List ThingId) (walked : Walked) : Walked :=
  { walked with order := done.reverse ++ walked.order }

section

variable {world mid : World} {route : Route} {limbo : ThingId} {visit : ThingId → Run Bool}

theorem neighbours_same (things : mid.things = world.things) (index : mid.index = world.index) (id : ThingId) :
    neighbours mid route limbo id = neighbours world route limbo id := by
  have through : throughLink mid = throughLink world := by
    funext link
    rw [throughLink, throughLink, World.isClosed_same things, World.destination_same things]
  have out : outward mid route limbo id = outward world route limbo id := by
    rw [outward, outward, World.isClosed_same things, World.location?, World.location?, World.association_same things]
  rw [neighbours, neighbours, World.contents_same things index, World.links_same things index, through, out]

theorem visitInTurn_cons (id : ThingId) (rest done : List ThingId) :
    (visitInTurn visit (id :: rest) >>= fun walked => pure (walked.behind done)) =
      (visit id).observe >>= fun said =>
        match said with
        | .error failure => pure ⟨.error failure, (id :: done).reverse⟩
        | .ok false => pure ⟨.ok false, (id :: done).reverse⟩
        | .ok true => visitInTurn visit rest >>= fun walked => pure (walked.behind (id :: done)) := by
  rw [visitInTurn, bind_assoc]
  refine congrArg _ (funext fun said => ?_)
  rcases said with failure | _ | _
  · simp [Walked.behind]
  · simp [Walked.behind]
  · simp [Walked.behind]

-- The induction is on the fuel, which stays more than what is ahead. Where a visit ends the walk, what would have come
-- after it is still there in the account. Visits are made in worlds with the things and the index of the first one only.
theorem walkFrom_in_turn_of_same
    (leaves : ∀ id before result after, before.things = world.things → before.index = world.index →
      (visit id).run before = some (result, after) → after.things = before.things ∧ after.index = before.index)
    (steps : Nat) : ∀ (waiting : List ThingId) (visited : IdSet) (done : List ThingId) (mid : World),
      ahead waiting visited < steps → mid.things = world.things → mid.index = world.index →
        ∃ order last, Tour world route limbo visited waiting order last ∧
          (walkFrom route limbo visit steps waiting visited done).run mid =
            (visitInTurn visit order >>= fun walked => pure (walked.behind done)).run mid := by
  induction steps with
  | zero => exact fun _ _ _ _ enough => absurd enough (Nat.not_lt_zero _)
  | succ steps ih =>
    intro waiting visited done mid enough things index
    cases waiting with
    | nil =>
      refine ⟨[], visited, .done, ?_⟩
      simp [walkFrom, visitInTurn, Walked.behind]
    | cons id waiting =>
      have present : mid.contains id = world.contains id := by
        rw [World.contains, World.contains, things]
      rw [walkFrom, Run.run_bind, Run.run_get]
      dsimp only
      by_cases known : (!mid.contains id || visited.contains id) = true
      · rw [if_pos known]
        have less : ahead waiting visited < steps := Nat.lt_of_lt_of_le ahead_skip (Nat.le_of_lt_succ enough)
        obtain ⟨order, last, tour, ran⟩ := ih waiting visited done mid less things index
        refine ⟨order, last, .skips ?_ tour, ran⟩
        rwa [Bool.or_eq_true, Bool.not_eq_true', present] at known
      · rw [if_neg known]
        have unvisited : visited.contains id = false := by
          rw [Bool.not_eq_true, Bool.or_eq_false_iff] at known
          exact known.2
        have there : world.contains id = true := by
          rw [Bool.not_eq_true, Bool.or_eq_false_iff, Bool.not_eq_false'] at known
          exact present ▸ known.1
        have less : ahead ((neighbours world route limbo id).filter (fun next => !(visited.insert id).contains next) ++
            waiting) (visited.insert id) < steps :=
          Nat.lt_of_lt_of_le (ahead_onward unvisited) (Nat.le_of_lt_succ enough)
        obtain ⟨order, last, tour, _⟩ := ih _ _ (id :: done) mid less things index
        refine ⟨id :: order, last, tour_visit there unvisited tour, ?_⟩
        rw [visitInTurn_cons, Run.run_bind, Run.run_bind, Run.run_observe]
        cases ran : (visit id).run mid with
        | none => rfl
        | some ended =>
          obtain ⟨result, after⟩ := ended
          obtain ⟨things', index'⟩ := leaves id mid result after things index ran
          dsimp only [Option.map_some]
          rcases result with failure | _ | _
          · rfl
          · rfl
          · rw [Run.run_bind, Run.run_get]
            dsimp only
            rw [neighbours_same (things'.trans things) (index'.trans index)]
            obtain ⟨order', last', tour', onward⟩ :=
              ih _ _ (id :: done) after less (things'.trans things) (index'.trans index)
            rw [onward, (tour'.unique tour).1]

theorem walkFrom_in_turn
    (leaves : ∀ id before result after, (visit id).run before = some (result, after) →
      after.things = before.things ∧ after.index = before.index) (steps : Nat) :
    ∀ (waiting : List ThingId) (visited : IdSet) (done : List ThingId) (mid : World),
      ahead waiting visited < steps → mid.things = world.things → mid.index = world.index →
        ∃ order last, Tour world route limbo visited waiting order last ∧
          (walkFrom route limbo visit steps waiting visited done).run mid =
            (visitInTurn visit order >>= fun walked => pure (walked.behind done)).run mid :=
  walkFrom_in_turn_of_same (fun id before result after _ _ => leaves id before result after) steps

theorem visitInTurn_goes_along {walked : Walked} : ∀ {order : List ThingId} {before after : World},
    (visitInTurn visit order).run before = some (.ok walked, after) →
      walked.order <+: order ∧ (walked.outcome = .ok true → walked.order = order) := by
  intro order
  induction order generalizing walked with
  | nil =>
    intro before after ran
    cases ran
    exact ⟨List.prefix_rfl, fun _ => rfl⟩
  | cons id rest ih =>
    intro before after ran
    rw [visitInTurn, Run.run_bind, Run.run_observe] at ran
    cases said : (visit id).run before with
    | none => rw [said] at ran; cases ran
    | some ended =>
      obtain ⟨result, mid⟩ := ended
      rw [said] at ran
      dsimp only [Option.map_some] at ran
      rcases result with failure | _ | _
      · cases ran
        exact ⟨⟨rest, rfl⟩, nofun⟩
      · cases ran
        exact ⟨⟨rest, rfl⟩, nofun⟩
      · rw [Run.run_bind] at ran
        split at ran
        · rename_i inner last onward
          cases ran
          obtain ⟨along, whole⟩ := ih onward
          exact ⟨List.cons_prefix_cons.mpr ⟨rfl, along⟩, fun goesOn => congrArg (id :: ·) (whole goesOn)⟩
        · cases ran
        · cases ran

theorem visitInTurn_ends (each : ∀ id before, ∃ result after, (visit id).run before = some (result, after)) :
    ∀ (order : List ThingId) (before : World), ∃ walked after,
      (visitInTurn visit order).run before = some (.ok walked, after) := by
  intro order
  induction order with
  | nil => exact fun before => ⟨_, before, rfl⟩
  | cons id rest ih =>
    intro before
    obtain ⟨result, mid, said⟩ := each id before
    rw [visitInTurn, Run.run_bind, Run.run_observe, said]
    dsimp only [Option.map_some]
    rcases result with failure | _ | _
    · exact ⟨_, mid, rfl⟩
    · exact ⟨_, mid, rfl⟩
    · obtain ⟨walked, after, onward⟩ := ih mid
      exact ⟨{ walked with order := id :: walked.order }, after, by rw [Run.run_bind, onward]; rfl⟩

end
end Walk

namespace World

theorem engine_walks (world : World) : walkFuel ≤ world.engine.steps := by
  obtain ⟨steps, fuelled⟩ : ∃ steps, world.fuel = walkFuel + steps + 1 :=
    ⟨2 * (4 * Text.wordSize * (world.limits.substitutionDepth + 2) + (world.limits.substitutionDepth + 1)) + 2, by
      rw [fuel]
      omega⟩
  rw [engine, fuelled]
  exact Nat.le_add_right walkFuel steps

theorem run_roam (world : World) (route : Route) (start : ThingId) (visited : IdSet) (visit : ThingId → Run Bool) :
    (World.roam route start visited visit).run world =
      (Walk.walkFrom route world.info.limbo visit world.engine.steps [start] visited []).run world := by
  rw [roam, Run.run_bind, Run.run_get]
  dsimp only
  rw [Walk.walk, Run.run_bind, Run.run_get]

-- The walk visits in the order of the recursive account, up to the first visit that fails or says no, and the account
-- visits each thing that is there and can be reached, once, and nothing that was visited before.
theorem walks_go_in_preorder (world : World) (route : Route) (start : ThingId) (visited : IdSet)
    {visit : ThingId → Run Bool}
    (leaves : ∀ id before result after, (visit id).run before = some (result, after) →
      after.things = before.things ∧ after.index = before.index) :
    ∃ order last, Walk.Tour world route world.info.limbo visited [start] order last ∧
      (∀ order' last', Walk.Tour world route world.info.limbo visited [start] order' last' → order' = order) ∧
      (World.roam route start visited visit).run world = (Walk.visitInTurn visit order).run world ∧
      order.Nodup ∧ (∀ id ∈ order, visited.contains id = false) ∧
      (∀ id, id ∈ order ↔ Walk.Reaches world route world.info.limbo visited start id) ∧
      (∀ walked after, (World.roam route start visited visit).run world = some (.ok walked, after) →
        walked.order <+: order ∧ (walked.outcome = .ok true → walked.order = order)) ∧
      ((∀ id before, ∃ result after, (visit id).run before = some (result, after)) →
        ∃ walked after, (World.roam route start visited visit).run world = some (.ok walked, after)) := by
  have enough : Walk.ahead [start] visited < world.engine.steps :=
    Nat.lt_of_lt_of_le (Walk.ahead_start start visited) world.engine_walks
  obtain ⟨order, last, tour, ran⟩ :=
    @Walk.walkFrom_in_turn _ route world.info.limbo _ leaves _ [start] visited [] world enough rfl rfl
  have same : (World.roam route start visited visit).run world = (Walk.visitInTurn visit order).run world := by
    have plain : (fun walked => pure (Walk.Walked.behind [] walked) : Walk.Walked → Run Walk.Walked) = pure := rfl
    rw [run_roam, ran, plain, bind_pure]
  refine ⟨order, last, tour, fun order' last' other => (other.unique tour).1, same, tour.apart.once, tour.apart.fresh,
    tour.mem_iff, fun walked after walks => ?_, fun each => ?_⟩
  · exact Walk.visitInTurn_goes_along (same ▸ walks)
  · rw [same]
    exact Walk.visitInTurn_ends each order world

-- Two things that are in each other, and a third in the first of them.
def nested : Run Unit :=
  (Operation.create "box" "").run >>= fun box => (Operation.create "chest" "").run >>= fun chest =>
    (Operation.create "coin" "").run >>= fun coin =>
      inTurn [.setLocation box chest, .setLocation chest box, .setLocation coin box]

theorem circles_are_walked_once : ∃ start last, openOn .inMemory ⟨"new", .standard, 1000, fun _ => 0⟩ = .ok start ∧
    nested.run start = some (.ok (), last) ∧
    (∃ marked, Walk.Tour last ⟨true, true⟩ last.info.limbo ∅ [7] [7, 8, 9] marked) ∧
    ∀ id, id ∈ [7, 8, 9] ↔ Walk.Reaches last ⟨true, true⟩ last.info.limbo ∅ 7 id := by
  have checked : opensTo .inMemory ⟨"new", .standard, 1000, fun _ => 0⟩ (fun start =>
      Run.gives (nested.run start) fun _ last =>
        Run.gives ((World.roam ⟨true, true⟩ 7 ∅ fun _ => pure true).run last) fun walked _ =>
          walked.outcome.toOption == some true && walked.order == [7, 8, 9]) = true := by
    decide +kernel
  obtain ⟨start, opened, checked⟩ := opensTo_iff.mp checked
  obtain ⟨_, last, ran, checked⟩ := Run.gives_iff.mp checked
  obtain ⟨walked, after, walks, checked⟩ := Run.gives_iff.mp checked
  rw [Bool.and_eq_true, beq_iff_eq, beq_iff_eq] at checked
  obtain ⟨goesOn, visits⟩ := checked
  have leaves (id : ThingId) (before : World) (result : Except Failure Bool) (after : World)
      (said : ((fun _ => pure true : ThingId → Run Bool) id).run before = some (result, after)) :
      after.things = before.things ∧ after.index = before.index := by
    cases said
    exact ⟨rfl, rfl⟩
  obtain ⟨order, marked, tour, _, _, _, _, members, along, _⟩ :=
    walks_go_in_preorder last ⟨true, true⟩ 7 ∅ leaves
  have whole : order = [7, 8, 9] := by
    refine ((along walked after walks).2 ?_).symm.trans visits
    cases outcome : walked.outcome with
    | error failure => simp [outcome, Except.toOption] at goesOn
    | ok said => simp_all [Except.toOption]
  subst whole
  exact ⟨start, last, opened, ran, ⟨marked, tour⟩, members⟩

end World
end ThingWorld
