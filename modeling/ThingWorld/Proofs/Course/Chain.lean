import ThingWorld.Proofs.Course.Discipline
namespace ThingWorld.Engine

-- The lines that the engine carries out at that depth keep the discipline.
def Carries (engine : Engine) (discipline : Discipline) (admin : Bool) (depth : Nat) : Prop :=
  ∀ context text world, context.admin = admin → context.depth = depth →
    discipline.keeps admin (engine.dispatch context text) world

-- What the engine does for an event that goes through the world keeps the discipline.
structure Upholds (engine : Engine) (discipline : Discipline) (admin : Bool) : Prop where
  walks : ∀ {visit : ThingId → Run Bool}, (∀ id world, discipline.keeps admin (visit id) world) →
    ∀ route start visited world, discipline.keeps admin (Walk.walk engine.steps route start visited visit) world
  reacts : ∀ id event world, discipline.keeps admin (engine.react id event) world
  checks : ∀ id event world, discipline.keeps admin (engine.reactToCheck id event) world

variable {discipline : Discipline} {admin : Bool} {engine : Engine}

theorem keeps_runTemplate (context : Context) (carries : engine.Carries discipline context.admin (context.depth + 1))
    (owner : ThingId) (word template : String) (args : List String) (world : World) :
    discipline.keeps context.admin (engine.runTemplate context owner word template args) world :=
  (discipline.conduct context.admin).keeps_runTemplate (fun _ line world => carries _ line world rfl rfl)
    fun source => Script.keeps_run _ source world

theorem keeps_runReaction {world : World} {id : ThingId}
    (carries : engine.Carries discipline (world.flag id Property.admin) 1) (event : Event) (template : String) :
    discipline.keeps (world.flag id Property.admin) (engine.runReaction id event template) world :=
  keeps_read (discipline.binds
    (keeps_runTemplate (Context.forReaction id event _) carries id _ template _ world)
    fun _ mid _ => keeps_pure () mid)

section Walks

variable (exhausts : ∀ {α : Type} (world : World), discipline.keeps admin (Run.exhausted : Run α) world)

include exhausts

theorem keeps_walkFrom {visit : ThingId → Run Bool} (each : ∀ id world, discipline.keeps admin (visit id) world)
    (route : Route) (limbo : ThingId) (steps : Nat) :
    ∀ (waiting : List ThingId) (visited : IdSet) (order : List ThingId) (world : World),
      discipline.keeps admin (Walk.walkFrom route limbo visit steps waiting visited order) world := by
  induction steps with
  | zero => exact fun _ _ _ world => exhausts world
  | succ steps ih =>
    intro waiting visited order world
    cases waiting with
    | nil => exact keeps_pure _ world
    | cons id waiting =>
      refine keeps_read ?_
      split
      · exact ih waiting visited order world
      · refine discipline.binds (discipline.observes (each id world)) ?_
        intro result mid _
        split
        · exact keeps_pure _ mid
        · exact keeps_pure _ mid
        · exact keeps_read (ih _ _ _ mid)

-- A discipline that does not ask for an end keeps to every walk.
theorem keeps_walk {visit : ThingId → Run Bool} (each : ∀ id world, discipline.keeps admin (visit id) world)
    (steps : Nat) (route : Route) (start : ThingId) (visited : IdSet) (world : World) :
    discipline.keeps admin (Walk.walk steps route start visited visit) world :=
  keeps_read (keeps_walkFrom exhausts each route _ steps _ _ _ world)

end Walks

section Emissions

variable (upholds : engine.Upholds discipline admin)

include upholds

theorem keeps_visitThing (emission : Emission) (id : ThingId) (world : World) :
    discipline.keeps admin (engine.visitThing emission id) world :=
  (discipline.conduct admin).keeps_visitThing fun _ _ =>
    ⟨upholds.reacts id emission.event world, upholds.checks id emission.event world⟩

theorem keeps_emit (start : ThingId) (emission : Emission) (exclude : List ThingId)
    (hooks : ∀ hook, emission.onSuccess = some hook ∨ emission.onFailure = some hook →
      ∀ world, discipline.keeps admin (hook emission.event) world) (world : World) :
    discipline.keeps admin (engine.emit start emission exclude) world :=
  (discipline.conduct admin).keeps_emit upholds.walks (keeps_visitThing upholds emission) start exclude hooks world

theorem sends_of_upholds (actor : ThingId) : engine.Sends (discipline.conduct admin) actor :=
  (discipline.conduct admin).sends_of_visits upholds.walks fun emission _ => keeps_visitThing upholds emission

theorem keeps_emitFailure (actor : ThingId) (start : Option ThingId) (name forActor : String)
    (forOthers : Option String) (args : List String) (world : World) :
    discipline.keeps admin (engine.emitFailure actor start name forActor forOthers args) world :=
  (discipline.conduct admin).keeps_emitFailure (informs_of_sends (sends_of_upholds upholds actor)) actor start name
    forActor forOthers args world

end Emissions

section Ticks

variable (reacts : ∀ id event template world, discipline.keeps admin (engine.runReaction id event template) world)

include reacts

theorem keeps_runDue {due : List Due}
    (begins : ∀ one ∈ due, ∀ world, discipline.keeps admin (Run.ofAct (dueReaction one)) world) :
    ∀ (outcome : TickOutcome) (world : World), discipline.keeps admin (engine.runDue outcome due) world := by
  induction due with
  | nil => exact fun outcome world => keeps_pure outcome world
  | cons first rest ih =>
    intro outcome world
    have later := ih fun one member => begins one (List.mem_cons_of_mem first member)
    refine discipline.binds (begins first List.mem_cons_self world) ?_
    intro reaction mid _
    cases reaction with
    | none => exact later outcome mid
    | some template =>
      refine discipline.binds (discipline.observes (reacts first.id first.event template mid)) ?_
      exact fun result mid _ => later (countTick outcome result) mid

-- What a tick does once it has begun.
theorem keeps_tickThrough {due : List Due}
    (begins : ∀ one ∈ due, ∀ world, discipline.keeps admin (Run.ofAct (dueReaction one)) world) (world : World) :
    discipline.keeps admin (do
      let outcome ← engine.runDue ⟨(← get).schedule.tick, 0, 0, 0⟩ due
      return { outcome with pending := (← get).schedule.pending.size }) world := by
  refine keeps_read (discipline.binds (keeps_runDue reacts begins _ world) ?_)
  exact fun outcome mid _ => keeps_read (keeps_pure _ mid)

theorem keeps_tick (advances : ∀ world, discipline.keeps admin (Run.ofAct startTick) world)
    (begins : ∀ due world, discipline.keeps admin (Run.ofAct (dueReaction due)) world) (world : World) :
    discipline.keeps admin engine.tick world := by
  refine keeps_versioned (fun world => discipline.binds (advances world) ?_) world
  exact fun due mid _ => keeps_tickThrough reacts (fun one _ => begins one) mid

end Ticks

end ThingWorld.Engine
