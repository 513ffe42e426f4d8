import ThingWorld.Engine.Dispatch
import ThingWorld.Proofs.Course.Quiet
namespace ThingWorld

inductive Cue where
  -- An event arrives; its thing reacts to it, or it waits.
  | reacts (id : ThingId) (event : Event)
  | waits (id : ThingId) (event : Event)
  -- A check is answered, and the answer is there.
  | answers (id : ThingId) (event : Event)
  | decided (id : ThingId)
  | advanced (parked : List (ThingId × Event))
  -- An event that a tick hands out; its thing reacts to it, or it waits again, or it is dropped.
  | resumes (id : ThingId) (event : Event)
  | returns (id : ThingId) (event : Event)
  | dropped (id : ThingId) (event : Event)
  -- Things are deleted, and their turns with them.
  | deletes (after : World)
  -- More things are made than there are ids left for, so the next id goes back.
  | rounds (after : World)

-- A cue and the world that it meets.
structure Scene where
  world : World
  cue : Cue

namespace Cue

def perform (cue : Cue) (world : World) : World :=
  match cue with
  | reacts id _ => world.pace (.claim id)
  | waits id event => world.pace (.park id event)
  | answers id _ => world.pace (.startCheck id)
  | decided id => world.pace (.endCheck id)
  | advanced _ => world.pace .advance
  | resumes id _ => world.pace (.claim id)
  | returns id event => world.pace (.park id event)
  | dropped _ _ => world
  | deletes after => after
  | rounds after => after

-- A reaction to an ordinary event begins.
def starts (cue : Cue) (id : ThingId) : Prop :=
  ∃ event, cue = reacts id event ∨ cue = resumes id event

-- The turn of the thing is taken, by an ordinary reaction or by the answer to a check.
def takes (cue : Cue) (id : ThingId) : Prop :=
  cue.starts id ∨ ∃ event, cue = answers id event

-- An ordinary event comes to a thing that reacts to such events.
def brings (cue : Cue) (id : ThingId) (event : Event) : Prop :=
  cue = reacts id event ∨ cue = waits id event ∨ cue = resumes id event ∨ cue = returns id event ∨
    cue = dropped id event

-- An event is put away for the thing.
def parks (cue : Cue) (id : ThingId) (event : Event) : Prop :=
  cue = waits id event ∨ cue = returns id event

def advances : Cue → Bool
  | advanced _ => true
  | _ => false

def goesRound : Cue → Bool
  | rounds _ => true
  | _ => false

-- A turn is taken, whoever takes it.
def taking : Cue → Bool
  | reacts _ _ => true
  | answers _ _ => true
  | resumes _ _ => true
  | _ => false

def parking : Cue → Bool
  | waits _ _ => true
  | returns _ _ => true
  | _ => false

end Cue

def Scene.next (scene : Scene) : World := scene.cue.perform scene.world

-- The thing is deleted in the scene.
abbrev Scene.loses (scene : Scene) (id : ThingId) : Prop := scene.world.Loses scene.next id

-- A thing with a reaction to the event is there.
def World.Listens (world : World) (id : ThingId) (event : Event) : Prop :=
  ∃ template, Engine.reactionTemplate? world id event = some template

-- What a tick handed out: the things and what waited for them.
abbrev Handouts := List (List (ThingId × Event))

def Handouts.Have (handed : Handouts) (id : ThingId) (event : Event) : Prop :=
  ∃ parked ∈ handed, (id, event) ∈ parked

-- What is due waited for its thing, or is the tick event.
def Handouts.Owe (handed : Handouts) (due : Engine.Due) : Prop :=
  if due.isTick then due.event = .tick due.id else handed.Have due.id due.event

-- `handed` is what the ticks hand out within which the run takes place.
inductive Plays : {α : Type} → Handouts → Run α → World → List Scene → Except Failure α → World → Prop where
  | quiet {α : Type} {handed : Handouts} {steps : Run α} {world last : World} {result : Except Failure α}
      (ran : steps.run world = some (result, last)) (quiet : world.Quiet last)
      (turns : ∀ id, last.schedule.turn id = world.schedule.turn id) : Plays handed steps world [] result last
  | next {α β : Type} {handed : Handouts} {x : Run α} {f : α → Run β} {world mid last : World}
      {before after : List Scene} {a : α} {result : Except Failure β} (first : Plays handed x world before (.ok a) mid)
      (rest : Plays handed (f a) mid after result last) : Plays handed (x >>= f) world (before ++ after) result last
  | stop {α β : Type} {handed : Handouts} {x : Run α} {f : α → Run β} {world last : World} {scenes : List Scene}
      {failure : Failure} (first : Plays handed x world scenes (.error failure) last) :
      Plays handed (x >>= f) world scenes (.error failure) last
  | observed {α : Type} {handed : Handouts} {steps : Run α} {world last : World} {scenes : List Scene}
      {result : Except Failure α} (seen : Plays handed steps world scenes result last) :
      Plays handed steps.observe world scenes (.ok result) last
  | joined {α : Type} {handed : Handouts} {body : Run α} {world last : World} {scenes : List Scene}
      {result : Except Failure α} (inside : world.inScope = true) (inner : Plays handed body world scenes result last) :
      Plays handed body.scope world scenes result last
  | outermost {α : Type} {handed : Handouts} {body : Run α} {world mid : World} {scenes : List Scene}
      {result : Except Failure α} (outside : world.inScope = false)
      (inner : Plays handed body (Moment.opened.perform world) scenes result mid) :
      Plays handed body.scope world scenes (mid.settle result).1 (mid.settle result).2
  | reacts {handed : Handouts} {engine : Engine} {id : ThingId} {event : Event} {template : String}
      {world last : World} {scenes : List Scene} {result : Except Failure Unit}
      (found : Engine.reactionTemplate? world id event = some template) (fresh : world.schedule.hasReacted id = false)
      (inner : Plays handed (engine.runReaction id event template) (world.pace (.claim id)) scenes result last) :
      Plays handed (engine.react id event) world (⟨world, .reacts id event⟩ :: scenes) result last
  | waits {handed : Handouts} {engine : Engine} {id : ThingId} {event : Event} {world : World}
      (listens : world.Listens id event) (spent : world.schedule.hasReacted id = true) :
      Plays handed (engine.react id event) world [⟨world, .waits id event⟩] (.ok ()) (world.pace (.park id event))
  | answers {handed : Handouts} {engine : Engine} {id : ThingId} {event : Event} {template : String}
      {world mid : World} {scenes : List Scene} {result : Except Failure Unit}
      (found : Engine.reactionTemplate? world id event = some template) (free : world.schedule.isChecking id = false)
      (inner : Plays handed (engine.runReaction id event template) (world.pace (.startCheck id)) scenes result mid) :
      Plays handed (engine.reactToCheck id event) world
        (⟨world, .answers id event⟩ :: (scenes ++ [⟨mid, .decided id⟩])) result (mid.pace (.endCheck id))
  | advances {α : Type} {handed : Handouts} {f : List Engine.Due → Run α} {due : List Engine.Due} {world mid last : World}
      {scenes : List Scene} {result : Except Failure α} (began : Engine.startTick.run world = (.ok due, mid))
      (rest : Plays (world.schedule.pending.toList :: handed) (f due) mid scenes result last) :
      Plays handed (Run.ofAct Engine.startTick >>= f) world
        (⟨world, .advanced world.schedule.pending.toList⟩ :: scenes) result last
  | resumes {handed : Handouts} {due : Engine.Due} {template : String} {world : World}
      (found : Engine.reactionTemplate? world due.id due.event = some template)
      (fresh : world.schedule.hasReacted due.id = false) (owed : handed.Owe due) :
      Plays handed (Run.ofAct (Engine.dueReaction due)) world [⟨world, .resumes due.id due.event⟩] (.ok (some template))
        (world.pace (.claim due.id))
  | returns {handed : Handouts} {due : Engine.Due} {world : World} (listens : world.Listens due.id due.event)
      (spent : world.schedule.hasReacted due.id = true) (parked : due.isTick = false) (owed : handed.Owe due) :
      Plays handed (Run.ofAct (Engine.dueReaction due)) world [⟨world, .returns due.id due.event⟩] (.ok none)
        (world.pace (.park due.id due.event))
  | dropped {handed : Handouts} {due : Engine.Due} {world : World} (listens : world.Listens due.id due.event)
      (spent : world.schedule.hasReacted due.id = true) (timed : due.isTick = true) (owed : handed.Owe due) :
      Plays handed (Run.ofAct (Engine.dueReaction due)) world [⟨world, .dropped due.id due.event⟩] (.ok none) world
  | deletes {α : Type} {handed : Handouts} {steps : Run α} {world last : World} {result : Except Failure α}
      (ran : steps.run world = some (result, last)) (thinned : world.Thinned last) (loses : ∃ id, world.Loses last id) :
      Plays handed steps world [⟨world, .deletes last⟩] result last
  | rounds {α : Type} {handed : Handouts} {operation : Operation α} {world last : World} {result : Except Failure α}
      (makes : operation.makes = true) (spent : ¬world.Affords (operation.takes world))
      (ran : operation.run.run world = some (result, last)) :
      Plays handed operation.run world [⟨world, .rounds last⟩] result last

namespace World

theorem contains_of_text {world : World} {id : ThingId} {property text : String}
    (found : world.text? id property = some text) :
    world.contains id = true := by
  cases there : world.things[id]? with
  | some thing =>
    rw [contains, Std.ExtTreeMap.contains_eq_isSome_getElem?, there]
    rfl
  | none =>
    have nothing : world.choose? id [property] = none := by
      rw [choose?, maxAncestors, chooseFrom, there]
    rw [text?, nothing] at found
    cases found

end World

namespace Engine

variable {engine : Engine} {id : ThingId} {event : Event} {template : String} {world : World}

theorem run_beginReaction (id : ThingId) (event : Event) (world : World) :
    (beginReaction id event).run world =
      if world.schedule.hasReacted id then (.ok false, world.pace (.park id event))
      else (.ok true, world.pace (.claim id)) := by
  have ran : (beginReaction id event).run world =
      (.ok (world.schedule.begin id event).1, { world with schedule := (world.schedule.begin id event).2 }) := rfl
  rw [ran, Schedule.begin]
  split <;> rfl

theorem run_unheard (nothing : reactionTemplate? world id event = none) :
    (engine.react id event).run world = some (.ok (), world) := by
  rw [react, Run.run_bind, Run.run_get]
  dsimp only
  rw [nothing]
  rfl

theorem run_react (found : reactionTemplate? world id event = some template) :
    (engine.react id event).run world =
      if world.schedule.hasReacted id then some (.ok (), world.pace (.park id event))
      else (engine.runReaction id event template).run (world.pace (.claim id)) := by
  have began : (liftM (beginReaction id event) : Run Bool).run world = some ((beginReaction id event).run world) := rfl
  rw [react, Run.run_bind, Run.run_get]
  dsimp only
  rw [found]
  dsimp only
  rw [Run.run_bind, began, run_beginReaction]
  cases world.schedule.hasReacted id <;> rfl

theorem run_unasked (nothing : reactionTemplate? world id event = none) :
    (engine.reactToCheck id event).run world = some (.ok (), world) := by
  rw [reactToCheck, Run.run_bind, Run.run_get]
  dsimp only
  rw [nothing]
  rfl

theorem run_reactToCheck (found : reactionTemplate? world id event = some template) :
    (engine.reactToCheck id event).run world =
      if world.schedule.isChecking id then some (.ok (), world)
      else ((engine.runReaction id event template).run (world.pace (.startCheck id))).map fun (result, world) =>
        (result, world.pace (.endCheck id)) := by
  rw [reactToCheck, Run.run_bind, Run.run_get]
  dsimp only
  rw [found]
  dsimp only
  rw [Run.run_bind, Run.run_get]
  dsimp only
  split
  · rfl
  · rw [Run.run_bind, Run.run_modify]
    dsimp only
    rw [Run.run_bind, Run.run_observe]
    have started : startCheck id world = world.pace (.startCheck id) := rfl
    rw [started]
    cases (engine.runReaction id event template).run (world.pace (.startCheck id)) <;> rfl

theorem run_startTick (world : World) :
    startTick.run world =
      (.ok (world.schedule.pending.toList.map (fun (id, event) => Due.mk id event false)
        ++ world.schedule.subscribers.toList.map fun id => ⟨id, .tick id, true⟩), world.pace .advance) := rfl

theorem run_dueReaction (due : Due) (world : World) :
    (dueReaction due).run world =
      if world.contains due.id then
        match reactionTemplate? world due.id due.event with
        | none => (.ok none, world)
        | some template =>
          if world.schedule.hasReacted due.id then
            (.ok none, if due.isTick then world else world.pace (.park due.id due.event))
          else (.ok (some template), world.pace (.claim due.id))
      else (.ok none, world) := by
  rw [dueReaction, Act.run_bind, Act.run_get]
  dsimp only
  cases held : world.contains due.id with
  | false => rfl
  | true =>
    simp only [Bool.not_true, Bool.false_eq_true, ↓reduceIte]
    cases reactionTemplate? world due.id due.event with
    | none => rfl
    | some template =>
      dsimp only
      cases reacted : world.schedule.hasReacted due.id with
      | true =>
        cases due.isTick with
        | true => rfl
        | false =>
          simp only [Bool.false_and, Bool.false_eq_true, ↓reduceIte]
          rw [Act.run_bind, run_beginReaction, reacted]
          rfl
      | false =>
        simp only [Bool.and_false, Bool.false_eq_true, ↓reduceIte]
        rw [Act.run_bind, run_beginReaction, reacted]
        rfl

theorem run_dueNone {due : Due} (nothing : reactionTemplate? world due.id due.event = none) :
    (dueReaction due).run world = (.ok none, world) := by
  rw [run_dueReaction, nothing]
  split <;> rfl

theorem run_dueSome {due : Due} (found : reactionTemplate? world due.id due.event = some template) :
    (dueReaction due).run world =
      if world.schedule.hasReacted due.id then
        (.ok none, if due.isTick then world else world.pace (.park due.id due.event))
      else (.ok (some template), world.pace (.claim due.id)) := by
  rw [run_dueReaction, if_pos (World.contains_of_text found), found]

-- How triggers reach things: whoever has no listener reacts, but for the source of the event. An ordinary event starts
-- one reaction or waits, a check is answered unless one is being decided, and so it goes with each that a tick delivers.
structure Triggers (engine : Engine) : Prop where
  visits : ∀ (emission : Emission) (id : ThingId) (world : World), world.hasListener id = false →
    (emission.reactions && id != emission.event.source) = true →
      (engine.visitThing emission id).run world =
        ((if emission.isCheck then engine.reactToCheck id emission.event else engine.react id emission.event).run
          world).map fun (result, last) => (passRefusal result, last)
  ordinary : ∀ (id : ThingId) (event : Event) (world : World), (engine.react id event).run world =
    match reactionTemplate? world id event with
    | none => some (.ok (), world)
    | some template =>
      if world.schedule.hasReacted id then some (.ok (), world.pace (.park id event))
      else (engine.runReaction id event template).run (world.pace (.claim id))
  checks : ∀ (id : ThingId) (event : Event) (world : World), (engine.reactToCheck id event).run world =
    match reactionTemplate? world id event with
    | none => some (.ok (), world)
    | some template =>
      if world.schedule.isChecking id then some (.ok (), world)
      else ((engine.runReaction id event template).run (world.pace (.startCheck id))).map fun (result, last) =>
        (result, last.pace (.endCheck id))
  delivers : ∀ (outcome : TickOutcome) (due : Due) (rest : List Due) (world : World),
    (engine.runDue outcome (due :: rest)).run world =
      match reactionTemplate? world due.id due.event with
      | none => (engine.runDue outcome rest).run world
      | some template =>
        if world.schedule.hasReacted due.id then
          (engine.runDue outcome rest).run (if due.isTick then world else world.pace (.park due.id due.event))
        else ((engine.runReaction due.id due.event template).run (world.pace (.claim due.id))).bind fun (result, last) =>
          (engine.runDue (countTick outcome result) rest).run last

theorem triggers (engine : Engine) : engine.Triggers where
  visits emission id world silent reacts := by
    rw [visitThing, Run.run_bind, Run.run_get]
    dsimp only
    rw [if_neg (by simp [silent]), if_pos reacts, Run.run_bind, Run.run_observe]
    cases (if emission.isCheck = true then engine.reactToCheck id emission.event
      else engine.react id emission.event).run world <;> rfl
  ordinary id event world := by
    cases found : reactionTemplate? world id event with
    | none => exact run_unheard found
    | some template => exact run_react found
  checks id event world := by
    cases found : reactionTemplate? world id event with
    | none => exact run_unasked found
    | some template => exact run_reactToCheck found
  delivers outcome due rest world := by
    have took : (liftM (dueReaction due) : Run (Option String)).run world = some ((dueReaction due).run world) := rfl
    rw [runDue, Run.run_bind, took]
    cases found : reactionTemplate? world due.id due.event with
    | none => rw [run_dueNone found]
    | some template =>
      rw [run_dueSome found]
      cases world.schedule.hasReacted due.id with
      | true => rfl
      | false =>
        dsimp only
        rw [if_neg Bool.false_ne_true, if_neg Bool.false_ne_true]
        dsimp only
        rw [Run.run_bind, Run.run_observe]
        cases (engine.runReaction due.id due.event template).run (world.pace (.claim due.id)) <;> rfl

end Engine

namespace World

theorem contains_of_listens {world : World} {id : ThingId} {event : Event} (listens : world.Listens id event) :
    world.contains id = true := by
  obtain ⟨template, found⟩ := listens
  exact contains_of_text found

theorem plays_ran {α : Type} {handed : Handouts} {steps : Run α} {world last : World} {scenes : List Scene}
    {result : Except Failure α} (plays : Plays handed steps world scenes result last) :
    steps.run world = some (result, last) := by
  induction plays with
  | quiet ran quiet turns => exact ran
  | deletes ran thinned loses => exact ran
  | rounds makes spent ran => exact ran
  | next first rest ihFirst ihRest =>
    rw [Run.run_bind, ihFirst]
    exact ihRest
  | stop first ih => rw [Run.run_bind, ih]
  | observed seen ih =>
    rw [Run.run_observe, ih]
    rfl
  | joined inside inner ih => rw [Run.run_joined inside, ih]
  | outermost outside inner ih =>
    rw [Run.run_outermost outside]
    exact congrArg (Option.map _) ih
  | reacts found fresh inner ih =>
    rw [Engine.run_react found, fresh]
    exact ih
  | waits listens spent =>
    obtain ⟨template, found⟩ := listens
    rw [Engine.run_react found, if_pos spent]
  | answers found free inner ih =>
    rw [Engine.run_reactToCheck found, free, ih]
    rfl
  | advances began rest ih =>
    rw [Run.run_bind, Run.run_ofAct, began]
    exact ih
  | resumes found fresh owed =>
    rw [Run.run_ofAct, Engine.run_dueSome found, fresh]
    rfl
  | returns listens spent parked owed =>
    obtain ⟨template, found⟩ := listens
    rw [Run.run_ofAct, Engine.run_dueSome found, if_pos spent, parked]
    rfl
  | dropped listens spent timed owed =>
    obtain ⟨template, found⟩ := listens
    rw [Run.run_ofAct, Engine.run_dueSome found, if_pos spent, timed]
    rfl

end World
end ThingWorld
