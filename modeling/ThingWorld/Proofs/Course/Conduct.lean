import ThingWorld.Engine.Dispatch
import ThingWorld.Proofs.Course.Steps
namespace ThingWorld

structure Conduct where
  keeps {α : Type} (steps : Run α) (world : World) : Prop
  still : ∀ {α : Type} {steps : Run α} {world : World} {result : Except Failure α},
    steps.run world = some (result, world) → keeps steps world
  binds : ∀ {α β : Type} {x : Run α} {f : α → Run β} {world : World}, keeps x world →
    (∀ a mid, x.run world = some (.ok a, mid) → keeps (f a) mid) → keeps (x >>= f) world
  observes : ∀ {α : Type} {steps : Run α} {world : World}, keeps steps world → keeps steps.observe world
  tells : ∀ (id : ThingId) (line : World → String) (world : World),
    keeps (modify fun world => world.tell id (line world) : Run Unit) world

-- The engine keeps to whatever its walks visit.
def Engine.Roams (engine : Engine) (conduct : Conduct) : Prop :=
  ∀ {visit : ThingId → Run Bool}, (∀ id world, conduct.keeps (visit id) world) →
    ∀ route start visited world, conduct.keeps (Walk.walk engine.steps route start visited visit) world

-- What the engine does for an event of the actor, or for one to which nobody reacts, and after which nothing follows.
def Engine.Sends (engine : Engine) (conduct : Conduct) (actor : ThingId) : Prop :=
  ∀ emission : Emission, emission.onSuccess = none → emission.onFailure = none →
    emission.event.source = actor ∨ emission.reactions = false →
      ∀ start exclude world, conduct.keeps (engine.emit start emission exclude) world

-- The same for an event to which nobody reacts.
def Engine.Informs (engine : Engine) (conduct : Conduct) : Prop :=
  ∀ emission : Emission, emission.onSuccess = none → emission.onFailure = none → emission.reactions = false →
    ∀ start exclude world, conduct.keeps (engine.emit start emission exclude) world

theorem Engine.informs_of_sends {engine : Engine} {conduct : Conduct} {actor : ThingId}
    (sends : engine.Sends conduct actor) : engine.Informs conduct :=
  fun emission success failure silent => sends emission success failure (.inr silent)

namespace Conduct

variable {α β : Type} (conduct : Conduct) {engine : Engine} {world : World}

theorem keeps_ofExcept (result : Except Failure α) (world : World) : conduct.keeps (Run.ofExcept result) world :=
  conduct.still rfl

theorem keeps_pure (a : α) (world : World) : conduct.keeps (pure a : Run α) world :=
  conduct.keeps_ofExcept (.ok a) world

theorem keeps_throw (failure : Failure) (world : World) : conduct.keeps (throw failure : Run α) world :=
  conduct.keeps_ofExcept (.error failure) world

theorem keeps_read {f : World → Run β} (rest : conduct.keeps (f world) world) : conduct.keeps (get >>= f) world := by
  refine conduct.binds (conduct.still rfl) ?_
  intro a mid ran
  cases ran
  exact rest

theorem keeps_given {result : Except Failure α} {f : α → Run β}
    (rest : ∀ a, result = .ok a → conduct.keeps (f a) world) : conduct.keeps (Run.ofExcept result >>= f) world := by
  refine conduct.binds (conduct.keeps_ofExcept result world) ?_
  intro a mid ran
  cases ran
  exact rest a rfl

theorem keeps_throw_bind (failure : Failure) (f : α → Run β) : conduct.keeps (throw failure >>= f) world :=
  conduct.keeps_given fun _ thrown => nomatch thrown

theorem keeps_foldl {step : World → α → World} {as : List α}
    (each : ∀ a world, conduct.keeps (modify fun world => step world a : Run Unit) world) :
    ∀ world, conduct.keeps (modify fun world => as.foldl step world : Run Unit) world := by
  induction as with
  | nil => exact fun world => conduct.keeps_pure () world
  | cons a rest ih =>
    intro world
    have parts : (modify fun world => (a :: rest).foldl step world : Run Unit) =
        (modify fun world => step world a) >>= fun _ => modify fun world => rest.foldl step world := rfl
    rw [parts]
    exact conduct.binds (each a world) fun _ mid _ => ih mid

theorem keeps_output (context : Context) (text : String) (world : World) :
    conduct.keeps (modify fun world => Engine.output context text world : Run Unit) world :=
  conduct.tells context.eventSource (fun world => world.render text (Engine.outputContext world context)) world

section Chains

variable {context : Context} {owner : ThingId} {word : String}

theorem keeps_runLines {lines : List String} : ∀ context : Context,
    (∀ result, ∀ line ∈ lines, ∀ world,
      conduct.keeps (engine.dispatch ((context.withResult result).child owner word) line) world) →
    ∀ world, conduct.keeps (engine.runLines context owner word lines) world := by
  induction lines with
  | nil => exact fun _ _ world => conduct.keeps_pure _ world
  | cons line rest ih =>
    intro context children world
    have child : conduct.keeps (engine.runChild context owner word line) world :=
      conduct.binds (children context.result line List.mem_cons_self world) fun _ mid _ => conduct.keeps_pure _ mid
    refine conduct.binds child fun result mid _ => ih (context.withResult result) ?_ mid
    exact fun result line member => children result line (List.mem_cons_of_mem _ member)

variable (children : ∀ result line world,
  conduct.keeps (engine.dispatch ((context.withResult result).child owner word) line) world)

include children

theorem keeps_runScript {source : String} {args : List String}
    (script : conduct.keeps (Run.ofAct (Script.run (Engine.scriptContext world context owner args) source)) world) :
    conduct.keeps (engine.runScript context owner word source args) world := by
  refine conduct.keeps_read (conduct.binds script ?_)
  intro outcome mid _
  refine conduct.binds (conduct.keeps_foldl (conduct.keeps_output _) mid) ?_
  intro _ mid _
  have lines (result : Option Script.Value) :
      conduct.keeps (engine.runLines (context.withResult result) owner word outcome.commands) mid :=
    conduct.keeps_runLines (context.withResult result) (fun result line _ => children result line) mid
  exact conduct.binds (lines _) fun _ mid _ => conduct.keeps_pure _ mid

theorem keeps_runTemplate {template : String} {args : List String}
    (scripts : ∀ source,
      conduct.keeps (Run.ofAct (Script.run (Engine.scriptContext world context owner args) source)) world) :
    conduct.keeps (engine.runTemplate context owner word template args) world := by
  rw [Engine.runTemplate]
  split
  · refine conduct.binds (conduct.keeps_ofExcept _ world) ?_
    exact fun lines mid _ => conduct.keeps_runLines context (fun result line _ => children result line) mid
  · exact conduct.binds (conduct.keeps_runScript children (scripts _)) fun _ mid _ => conduct.keeps_pure _ mid

end Chains

section Emissions

theorem keeps_hear (id : ThingId) (event : Event) (format : Option String) (world : World) :
    conduct.keeps (modify (Engine.hear id event format) : Run Unit) world := by
  cases format with
  | none => exact conduct.keeps_pure () world
  | some format => exact conduct.tells id (fun world => world.render format (Engine.eventContext world id event)) world

-- Reactions are asked of those who do not hear.
theorem keeps_visitThing {emission : Emission} {id : ThingId}
    (reacts : emission.reactions = true → id ≠ emission.event.source →
      conduct.keeps (engine.react id emission.event) world ∧ conduct.keeps (engine.reactToCheck id emission.event) world) :
    conduct.keeps (engine.visitThing emission id) world := by
  refine conduct.keeps_read ?_
  split
  · exact conduct.keeps_hear id emission.event emission.format world
  · split
    · rename_i asked
      rw [Bool.and_eq_true, bne_iff_ne] at asked
      obtain ⟨plain, check⟩ := reacts asked.1 asked.2
      refine conduct.binds (conduct.observes ?_) fun _ mid _ => conduct.keeps_ofExcept _ mid
      split
      · exact check
      · exact plain
    · exact conduct.keeps_pure () world

variable (roams : engine.Roams conduct)

include roams

-- What follows an emission that went through, or one that did not, is the sender's.
theorem keeps_emit {emission : Emission} (visits : ∀ id world, conduct.keeps (engine.visitThing emission id) world)
    (start : ThingId) (exclude : List ThingId)
    (hooks : ∀ hook, emission.onSuccess = some hook ∨ emission.onFailure = some hook →
      ∀ world, conduct.keeps (hook emission.event) world) (world : World) :
    conduct.keeps (engine.emit start emission exclude) world := by
  have each (id : ThingId) (world : World) : conduct.keeps (do
      Run.ofExcept (Engine.goesOn (← (engine.visitThing emission id).observe))) world :=
    conduct.binds (conduct.observes (visits id world)) fun _ mid _ => conduct.keeps_ofExcept _ mid
  refine conduct.binds (roams each emission.route start _ world) ?_
  intro walked mid _
  refine conduct.binds (conduct.keeps_ofExcept walked.outcome mid) ?_
  intro finished mid _
  dsimp only
  split
  · rename_i hook chosen
    have known : emission.onSuccess = some hook ∨ emission.onFailure = some hook := by
      split at chosen
      · exact .inr chosen
      · exact .inl chosen
    exact conduct.binds (hooks hook known mid) fun _ mid _ => conduct.keeps_pure _ mid
  · exact conduct.binds (conduct.keeps_pure () mid) fun _ mid _ => conduct.keeps_pure _ mid

theorem sends_of_visits {actor : ThingId}
    (visits : ∀ emission : Emission, emission.event.source = actor ∨ emission.reactions = false →
      ∀ id world, conduct.keeps (engine.visitThing emission id) world) : engine.Sends conduct actor := by
  intro emission success failure asked start exclude world
  refine conduct.keeps_emit roams (visits emission asked) start exclude ?_ world
  intro hook known
  rw [success, failure] at known
  rcases known with known | known <;> cases known

end Emissions

section Refusals

variable (informs : engine.Informs conduct)

include informs

-- Once the source has heard why, the others may.
theorem keeps_failureSpread (source : ThingId) (start : Option ThingId) (name : String) (forOthers : Option String)
    (args : List String) (world : World) :
    conduct.keeps (do
      match start, forOthers with
      | some start, some format =>
        let emission := { ((Emission.of ⟨source, name, args⟩).saying format).silently with failed := true }
        let _ ← (engine.emit start emission [source]).observe
      | _, _ => pure ()
      return Failure.eventFailed name) world := by
  split
  · exact conduct.binds (conduct.observes (informs _ rfl rfl rfl _ _ world)) fun _ mid _ => conduct.keeps_pure _ mid
  · exact conduct.binds (conduct.keeps_pure _ world) fun _ mid _ => conduct.keeps_pure _ mid

theorem keeps_emitFailure (source : ThingId) (start : Option ThingId) (name forActor : String)
    (forOthers : Option String) (args : List String) (world : World) :
    conduct.keeps (engine.emitFailure source start name forActor forOthers args) world := by
  rw [Engine.emitFailure]
  dsimp only
  split
  · refine conduct.binds (conduct.keeps_hear source _ _ world) ?_
    exact fun _ mid _ => conduct.keeps_failureSpread informs source start name forOthers args mid
  · exact conduct.keeps_failureSpread informs source start name forOthers args world

end Refusals

-- Whoever typed a line that fails hears why, unless that was told.
theorem keeps_reporting {typed : Run (Option Script.Value)} (versioned : conduct.keeps (Run.versioned typed) world)
    (actor : ThingId) : conduct.keeps (World.reporting actor typed) world := by
  refine conduct.binds (conduct.observes versioned) ?_
  intro result mid _
  cases result with
  | ok value => exact conduct.keeps_pure () mid
  | error failure =>
    dsimp only
    split
    · refine conduct.binds (conduct.tells actor (fun _ => failure.message) mid) ?_
      exact fun _ mid _ => conduct.keeps_throw failure mid
    · exact conduct.keeps_throw failure mid

end Conduct
end ThingWorld
