import ThingWorld.Proofs.Course.Deed
namespace ThingWorld

inductive Unfolds : {α : Type} → Run α → World → List Moment → Except Failure α → World → Prop where
  -- All that is done are these deeds, and what they enter has ids that were handed out before or by them.
  | batch {α : Type} {steps : Run α} {world : World} {result : Except Failure α} (deeds : List Deed)
      (permitted : world.Permits (deeds.map .did)) (handed : world.Hands (deeds.map .did))
      (ran : steps.run world = some (result, world.replay (deeds.map .did))) :
      Unfolds steps world (deeds.map .did) result (world.replay (deeds.map .did))
  | next {α β : Type} {x : Run α} {f : α → Run β} {world mid world' : World} {before after : List Moment} {a : α}
      {result : Except Failure β} (first : Unfolds x world before (.ok a) mid)
      (rest : Unfolds (f a) mid after result world') : Unfolds (x >>= f) world (before ++ after) result world'
  | stop {α β : Type} {x : Run α} {f : α → Run β} {world world' : World} {moments : List Moment} {failure : Failure}
      (first : Unfolds x world moments (.error failure) world') :
      Unfolds (x >>= f) world moments (.error failure) world'
  | observed {α : Type} {steps : Run α} {world world' : World} {moments : List Moment} {result : Except Failure α}
      (seen : Unfolds steps world moments result world') : Unfolds steps.observe world moments (.ok result) world'
  | joined {α : Type} {body : Run α} {world world' : World} {moments : List Moment} {result : Except Failure α}
      (inside : world.inScope = true) (inner : Unfolds body world moments result world') :
      Unfolds body.scope world moments result world'
  | outermost {α : Type} {body : Run α} {world mid : World} {moments : List Moment} {result : Except Failure α}
      (outside : world.inScope = false) (inner : Unfolds body (Moment.opened.perform world) moments result mid) :
      Unfolds body.scope world (.opened :: (moments ++ [.ended result.isOk])) (mid.settle result).1
        (mid.settle result).2

theorem Unfolds.still {α : Type} {steps : Run α} {world : World} {result : Except Failure α}
    (ran : steps.run world = some (result, world)) : Unfolds steps world [] result world :=
  .batch [] trivial trivial ran

theorem Unfolds.does {α : Type} {steps : Run α} {world : World} {result : Except Failure α} (deed : Deed)
    (allowed : deed.allowed world) (handed : (Moment.did deed).handed world)
    (ran : steps.run world = some (result, deed.perform world)) :
    Unfolds steps world [.did deed] result (deed.perform world) :=
  .batch [deed] ⟨allowed, trivial⟩ ⟨handed, fun _ => trivial⟩ ran

namespace World

theorem settle_world {α : Type} (world : World) (result : Except Failure α) :
    (world.settle result).2 = (Moment.ended result.isOk).perform world := by
  cases result with
  | error failure => rfl
  | ok a =>
    simp only [settle, Moment.perform, Except.isOk, Except.toBool]
    split
    · rename_i committed
      rw [committed]
    · rename_i refused
      rw [refused]

theorem run_scope_gave {α : Type} {body : Run α} {world last : World} {a : α} (ran : body.scope.run world = some (.ok a, last)) :
    ∃ mid, body.run (Moment.opened.perform world) = some (.ok a, mid) ∧
      (last = mid ∨ last = (Moment.ended true).perform mid) := by
  cases scope : world.inScope with
  | true =>
    have met : Moment.opened.perform world = world := by rw [Moment.perform, ← scope]
    rw [Run.run_joined scope] at ran
    exact ⟨last, by rwa [met], .inl rfl⟩
  | false =>
    rw [Run.run_outermost scope] at ran
    obtain ⟨⟨result, mid⟩, ran, settled⟩ := Option.map_eq_some_iff.mp ran
    have settled : mid.settle result = (.ok a, last) := settled
    have after := settle_world mid result
    rw [settled] at after
    cases result with
    | error failure => cases settled
    | ok b =>
      have same : b = a := by
        have gave := congrArg Prod.fst settled
        simp only [settle] at gave
        split at gave
        · exact Except.ok.inj gave
        · cases gave
      exact ⟨mid, same ▸ ran, .inr after⟩

theorem unfolds_ran {α : Type} {steps : Run α} {world world' : World} {moments : List Moment}
    {result : Except Failure α} (unfolds : Unfolds steps world moments result world') :
    steps.run world = some (result, world') := by
  induction unfolds with
  | batch deeds permitted handed ran => exact ran
  | next first rest ihFirst ihRest =>
    rw [Run.run_bind, ihFirst]
    exact ihRest
  | stop first ih => rw [Run.run_bind, ih]
  | observed seen ih =>
    rw [Run.run_observe, ih]
    rfl
  | joined inside inner ih => rw [Run.run_joined inside, ih]
  | outermost outside inner ih =>
    rw [Run.run_outermost outside]
    exact congrArg (Option.map _) ih

-- No deed opens or ends a scope, and none changes what the verbs mean.
theorem deed_frame (deed : Deed) (world : World) :
    (deed.perform world).inScope = world.inScope ∧ (deed.perform world).registry = world.registry := by
  by_cases flushed : deed = .flushed
  · subst flushed
    exact ⟨commit_inScope true world, commit_registry true world⟩
  · rcases deed_turns flushed world with turned | ⟨_, _, _, same⟩
    · obtain ⟨_, _, _, _, _, _, _, _, _, same⟩ := turned
      rw [same]
      exact ⟨rfl, rfl⟩
    · rw [same]
      exact ⟨rfl, rfl⟩

theorem replay_inScope (deeds : List Deed) : ∀ world : World, (world.replay (deeds.map .did)).inScope = world.inScope := by
  induction deeds with
  | nil => exact fun world => rfl
  | cons deed rest ih => exact fun world => (ih (deed.perform world)).trans (deed_frame deed world).1

theorem moment_registry (moment : Moment) (world : World) : (moment.perform world).registry = world.registry := by
  cases moment with
  | did deed => exact (deed_frame deed world).2
  | opened => rfl
  | ended kept => exact commit_registry kept _

theorem replay_registry (moments : List Moment) : ∀ world : World, (world.replay moments).registry = world.registry := by
  induction moments with
  | nil => exact fun world => rfl
  | cons moment rest ih => exact fun world => (ih (moment.perform world)).trans (moment_registry moment world)

theorem unfolds_replay {α : Type} {steps : Run α} {world world' : World} {moments : List Moment}
    {result : Except Failure α} (unfolds : Unfolds steps world moments result world') :
    world' = world.replay moments ∧ world.Permits moments ∧ world'.inScope = world.inScope := by
  induction unfolds with
  | batch deeds permitted handed ran => exact ⟨rfl, permitted, replay_inScope deeds _⟩
  | next first rest ihFirst ihRest =>
    obtain ⟨rfl, permitted, scope⟩ := ihFirst
    obtain ⟨rfl, permitted', scope'⟩ := ihRest
    refine ⟨?_, ?_, scope'.trans scope⟩
    · rw [replay_append]
    · exact heeds_append.mpr ⟨permitted, permitted'⟩
  | stop first ih => exact ih
  | observed seen ih => exact ih
  | joined inside inner ih => exact ih
  | outermost outside inner ih =>
    obtain ⟨same, permitted, scope⟩ := ih
    rename_i body world mid moments result
    have ended : (mid.settle result).2 = (Moment.ended result.isOk).perform mid := settle_world mid result
    refine ⟨?_, ?_, ?_⟩
    · rw [ended, same]
      exact (replay_append (Moment.opened.perform world) moments [.ended result.isOk]).symm
    · refine ⟨outside, heeds_append.mpr ⟨permitted, ?_⟩⟩
      rw [← same]
      exact ⟨scope, trivial⟩
    · rw [ended, outside]
      exact commit_inScope result.isOk _

-- What a run enters has ids that were handed out, until the next id goes back.
theorem unfolds_hands {α : Type} {steps : Run α} {world world' : World} {moments : List Moment}
    {result : Except Failure α} (unfolds : Unfolds steps world moments result world') : world.Hands moments := by
  induction unfolds with
  | batch deeds permitted handed ran => exact handed
  | next first rest ihFirst ihRest =>
    refine hands_append ihFirst fun _ => ?_
    rwa [← (unfolds_replay first).1]
  | stop first ih => exact ih
  | observed seen ih => exact ih
  | joined inside inner ih => exact ih
  | outermost outside inner ih => exact ⟨trivial, fun _ => hands_append ih fun _ => ⟨trivial, fun _ => trivial⟩⟩

-- Inside a scope no other one is opened or ended.
theorem unfolds_inside {α : Type} {steps : Run α} {world world' : World} {moments : List Moment}
    {result : Except Failure α} (unfolds : Unfolds steps world moments result world') (inside : world.inScope = true) :
    ∀ moment ∈ moments, ∃ deed, moment = .did deed := by
  induction unfolds with
  | batch deeds permitted handed ran =>
    intro moment member
    obtain ⟨deed, _, same⟩ := List.mem_map.mp member
    exact ⟨deed, same.symm⟩
  | next first rest ihFirst ihRest =>
    intro moment member
    rcases List.mem_append.mp member with member | member
    · exact ihFirst inside moment member
    · exact ihRest ((unfolds_replay first).2.2.trans inside) moment member
  | stop first ih => exact ih inside
  | observed seen ih => exact ih inside
  | joined _ inner ih => exact ih inside
  | outermost outside inner ih =>
    rw [outside] at inside
    cases inside

end World
end ThingWorld
