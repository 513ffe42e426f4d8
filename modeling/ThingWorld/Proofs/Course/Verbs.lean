import ThingWorld.Proofs.Course.Chain
namespace ThingWorld

namespace Engine

variable {discipline : Discipline} {admin : Bool}

section Plain

theorem keeps_tellActor (context : Context) (text : String) (world : World) :
    discipline.keeps admin (tell context text) world :=
  (discipline.conduct admin).keeps_tellActor context text world

theorem keeps_resolve (context : Context) (reference : String) (world : World) :
    discipline.keeps admin (resolve context reference) world :=
  (discipline.conduct admin).keeps_resolve context reference world

theorem keeps_resolvePrototype (context : Context) (reference : String) (world : World) :
    discipline.keeps admin (resolvePrototype context reference) world := by
  refine keeps_read ?_
  split
  · exact keeps_pure _ world
  · exact keeps_resolve context reference world

theorem keeps_storeTemplate (context : Context) (id : ThingId) (property template : String) (world : World) :
    discipline.keeps admin (storeTemplate context id property template) world := by
  rw [storeTemplate]
  split
  · refine discipline.binds (World.keeps_unsetProperty id property world) ?_
    exact fun _ mid _ => keeps_tellActor context _ mid
  · have rest (world : World) : discipline.keeps admin (do
        World.setProperty id property (.text (splitTyped template))
        tell context ("Set " ++ property ++ " on " ++ showId id ++ ".")) world :=
      discipline.binds (World.keeps_setProperty id property _ world) fun _ mid _ => keeps_tellActor context _ mid
    split
    · refine keeps_read (discipline.binds (keeps_ofExcept _ world) ?_)
      exact fun _ mid _ => rest mid
    · exact rest world

theorem keeps_define (property : String → String) (context : Context) (line : Line) (world : World) :
    discipline.keeps admin (define property context line) world := by
  refine discipline.binds (keeps_resolve context (line.arg 0) world) ?_
  exact fun id mid _ => keeps_storeTemplate context id _ _ mid

theorem keeps_subscribe (context : Context) (line : Line) (world : World) :
    discipline.keeps admin (subscribe context line) world := by
  refine discipline.binds (keeps_resolve context line.rest world) ?_
  intro id mid _
  refine discipline.binds (World.keeps_subscribeTicks id mid) ?_
  exact fun _ mid _ => keeps_tellActor context _ mid

theorem keeps_unsubscribe (context : Context) (line : Line) (world : World) :
    discipline.keeps admin (unsubscribe context line) world := by
  refine discipline.binds (keeps_resolve context line.rest world) ?_
  intro id mid _
  refine discipline.binds (World.keeps_unsubscribeTicks id mid) ?_
  exact fun _ mid _ => keeps_tellActor context _ mid

theorem keeps_check (context : Context) (world : World) : discipline.keeps admin (check context) world :=
  keeps_read (keeps_tellActor context _ world)

theorem keeps_andResult {steps : Run Unit} {world : World} (context : Context)
    (keeps : discipline.keeps admin steps world) :
    discipline.keeps admin (do steps; return context.result) world :=
  (discipline.conduct admin).keeps_andResult keeps

end Plain

section Privileged

theorem resolve_stays {context : Context} {reference : String} {world mid : World} {result : Except Failure ThingId}
    (ran : (resolve context reference).run world = some (result, mid)) : mid = world := by
  have stays : (resolve context reference).run world = some (world.resolveOne context.view reference, world) := rfl
  exact congrArg Prod.snd (Option.some.inj (ran.symm.trans stays))

theorem resolvePrototype_stays {context : Context} {reference : String} {world mid : World}
    {result : Except Failure ThingId} (ran : (resolvePrototype context reference).run world = some (result, mid)) :
    mid = world := by
  rw [resolvePrototype, Run.run_bind, Run.run_get] at ran
  dsimp only at ran
  split at ran
  · cases ran
    rfl
  · exact resolve_stays ran

theorem keeps_make (context : Context) (line : Line) {world : World} (spares : discipline.Spares 1 world) :
    discipline.keeps true (create context line) world := by
  refine discipline.binds (keeps_resolvePrototype context (line.arg 0) world) ?_
  intro prototype mid ran
  obtain rfl := resolvePrototype_stays ran
  refine discipline.binds (World.keeps_createFrom (some prototype) (line.restFrom 1) "" spares) ?_
  intro id mid _
  refine keeps_read ?_
  have rest (world : World) : discipline.keeps true (do
      tell context ("Created " ++ (← get).displayName id ++ " (" ++ showId id ++ ").")
      return some (.thing id) : Run (Option Script.Value)) world :=
    keeps_read (discipline.binds (keeps_tellActor context _ world) fun _ mid _ => keeps_pure _ mid)
  dsimp only
  split
  · exact discipline.binds (World.keeps_setLocation id _ mid) fun _ mid _ => rest mid
  · exact rest mid

theorem keeps_reproto (context : Context) (line : Line) (world : World) :
    discipline.keeps true (reproto context line) world := by
  refine discipline.binds (keeps_resolve context (line.arg 0) world) ?_
  intro id mid _
  refine discipline.binds (keeps_resolvePrototype context (line.arg 1) mid) ?_
  intro prototype mid _
  refine discipline.binds (World.keeps_setPrototype id (some prototype) mid) ?_
  exact fun _ mid _ => keeps_tellActor context _ mid

theorem keeps_link (context : Context) (line : Line) {world : World} (spares : discipline.Spares 2 world) :
    discipline.keeps true (link context line) world := by
  refine discipline.binds (keeps_resolve context (line.arg 0) world) ?_
  intro room mid ran
  obtain rfl := resolve_stays ran
  refine discipline.binds (keeps_resolve context (line.arg 2) mid) ?_
  intro other mid' ran
  obtain rfl := resolve_stays ran
  refine discipline.binds (World.keeps_linkRooms room _ other _ spares) ?_
  exact fun _ mid _ => keeps_tellActor context _ mid

theorem keeps_toast (context : Context) (line : Line) (world : World) :
    discipline.keeps true (toast context line) world := by
  refine discipline.binds (keeps_resolve context line.rest world) ?_
  intro id mid _
  refine keeps_read ?_
  dsimp only
  split
  · exact keeps_throw_bind _ _
  · refine discipline.binds (World.keeps_toast _ mid) ?_
    exact fun _ mid _ => keeps_tellActor context _ mid

theorem keeps_copy (context : Context) (line : Line) {world : World}
    (spares : discipline.Spares world.things.size world) : discipline.keeps true (copy context line) world := by
  refine discipline.binds (keeps_resolve context line.rest world) ?_
  intro id mid ran
  obtain rfl := resolve_stays ran
  refine discipline.binds (World.keeps_copy id spares) ?_
  intro copied mid _
  exact discipline.binds (keeps_tellActor context _ mid) fun _ mid _ => keeps_pure _ mid

theorem keeps_setRate (rate : String) (world : World) : discipline.keeps true (setRate rate) world := by
  rw [setRate]
  split
  · exact keeps_throw _ world
  · exact keeps_throw _ world
  · rename_i interval _ _
    exact keeps_privilegedDeed (.rated interval) trivial rfl trivial rfl

theorem keeps_setRunning (running : Bool) (world : World) :
    discipline.keeps true (modify fun world => world.setClockRunning running : Run Unit) world :=
  keeps_privilegedDeed (.ran running) trivial rfl trivial rfl

theorem keeps_clock (context : Context) (line : Line) (world : World) :
    discipline.keeps true (clock context line) world := by
  have rest (world : World) : discipline.keeps true (do
      let world ← get
      tell context
        ("Clock " ++ (if world.clockRunning then "running" else "stopped") ++ " every "
          ++ Text.showNat world.info.clockInterval.toNat ++ " ms at tick " ++ Text.showNat world.schedule.tick
          ++ ".")) world :=
    keeps_read (keeps_tellActor context _ world)
  rw [clock]
  split
  · exact rest world
  · exact discipline.binds (keeps_setRunning true world) fun _ mid _ => rest mid
  · exact discipline.binds (keeps_setRunning false world) fun _ mid _ => rest mid
  · exact discipline.binds (keeps_setRate _ world) fun _ mid _ => rest mid

end Privileged

variable {engine : Engine}

section Items

variable (upholds : engine.Upholds discipline admin)

include upholds

theorem keeps_take (context : Context) (line : Line) (world : World) :
    discipline.keeps admin (engine.take context line) world := by
  have sends : engine.Sends (discipline.conduct admin) context.actor := sends_of_upholds upholds context.actor
  refine (discipline.conduct admin).keeps_take line fun here item name _ _ _ _ => ?_
  refine discipline.binds ((discipline.conduct admin).keeps_ask sends item "get" _ world) fun _ mid _ => ?_
  refine discipline.binds (World.keeps_setLocation item context.actor mid) fun _ mid _ => ?_
  exact (discipline.conduct admin).keeps_announce sends here _ _ _ mid

theorem keeps_drop (context : Context) (line : Line) (world : World) :
    discipline.keeps admin (engine.drop context line) world := by
  have sends : engine.Sends (discipline.conduct admin) context.actor := sends_of_upholds upholds context.actor
  refine (discipline.conduct admin).keeps_drop line fun here item name _ _ => ?_
  refine discipline.binds ((discipline.conduct admin).keeps_ask sends item "drop" _ world) fun _ mid _ => ?_
  refine discipline.binds (World.keeps_setLocation item here mid) fun _ mid _ => ?_
  exact (discipline.conduct admin).keeps_announce sends here _ _ _ mid

end Items

section Lines

variable (context : Context) (carries : engine.Carries discipline context.admin (context.depth + 1))
  (upholds : engine.Upholds discipline context.admin)

include carries upholds

theorem keeps_perform (verb : Verb) (line : Line) (world : World)
    (entitled : verb.privileged = true → context.admin = true ∨ ¬world.registry.Guarded)
    (spares : discipline.Spares (verb.takes world) world)
    (looks : verb = .go → ∀ world, discipline.keeps context.admin (engine.dispatch context "look") world)
    (ticks : verb = .tick → ∀ world, discipline.keeps context.admin engine.tick world) :
    discipline.keeps context.admin (engine.perform context verb line) world := by
  have owes {steps : Run Unit} (keeps : discipline.keeps context.admin steps world) :
      discipline.keeps context.admin (do steps; return context.result) world := keeps_andResult context keeps
  let conduct := discipline.conduct context.admin
  have sends : engine.Sends conduct context.actor := sends_of_upholds upholds context.actor
  have children (owner : ThingId) (word : String) (result : Option Script.Value) (line : String) (world : World) :
      conduct.keeps (engine.dispatch ((context.withResult result).child owner word) line) world :=
    carries _ line world rfl rfl
  have deeper (result : Option Script.Value) (line : String) (world : World) :
      conduct.keeps (engine.dispatch (context.withResult result).deeper line) world := carries _ line world rfl rfl
  have scripts (owner : ThingId) (args : List String) (source : String) :
      conduct.keeps (Run.ofAct (Script.run (scriptContext world context owner args) source)) world :=
    Script.keeps_run _ source world
  cases verb with
  | go => exact conduct.keeps_go sends line (World.keeps_setLocation _) (looks rfl)
  | create => exact discipline.entitled (entitled rfl) (keeps_make context line spares)
  | copy => exact discipline.entitled (entitled rfl) (keeps_copy context line spares)
  | fail => exact conduct.keeps_refuse sends line
  | branch => exact conduct.keeps_branch line (children context.this) (scripts context.this line.texts) deeper
  | script => exact conduct.keeps_script line (children context.this) (scripts context.this line.texts)
  | look => exact owes (conduct.keeps_look line)
  | examine => exact owes (conduct.keeps_examine line)
  | get => exact owes (keeps_take upholds context line world)
  | drop => exact owes (keeps_drop upholds context line world)
  | inventory => exact owes conduct.keeps_inventory
  | say => exact owes (conduct.keeps_speak sends "say" _ line)
  | emote => exact owes (conduct.keeps_speak sends "emote" _ line)
  | help => exact owes conduct.keeps_help
  | setProperty => exact owes (conduct.keeps_setValue line fun id property value mid _ =>
      World.keeps_setProperty id property value mid)
  | unsetProperty => exact owes (conduct.keeps_unsetValue line fun id property mid _ =>
      World.keeps_unsetProperty id property mid)
  | reproto => exact discipline.entitled (entitled rfl) (keeps_andResult context (keeps_reproto context line world))
  | move => exact owes (conduct.keeps_move line fun id place mid _ => World.keeps_setLocation id place mid)
  | link => exact discipline.entitled (entitled rfl) (keeps_andResult context (keeps_link context line spares))
  | toast => exact discipline.entitled (entitled rfl) (keeps_andResult context (keeps_toast context line world))
  | defineCommand => exact owes (keeps_define _ context line world)
  | defineReaction => exact owes (keeps_define _ context line world)
  | subscribe => exact owes (keeps_subscribe context line world)
  | unsubscribe => exact owes (keeps_unsubscribe context line world)
  | output => exact owes (conduct.keeps_output context line.rest world)
  | emit => exact owes (conduct.keeps_emitAround sends line)
  | tick =>
    exact owes (discipline.binds (ticks rfl world) fun _ mid _ => keeps_tellActor context _ mid)
  | clock => exact discipline.entitled (entitled rfl) (keeps_andResult context (keeps_clock context line world))
  | check => exact owes (keeps_check context world)
  | who => exact owes conduct.keeps_who

end Lines

end Engine

-- The verb that carries out a line, if one does.
def World.verbOf? (world : World) (context : Context) (text : String) : Option Verb :=
  let line := Line.parse (normalizeLine text)
  if world.limits.substitutionDepth < context.depth then none
  else
    (line.verb?.bind fun word => world.registry[Text.lower word]?).bind fun spec =>
      if (Engine.verbRefusal? context spec line).isNone then some spec.verb else none

namespace Engine

variable {discipline : Discipline} {engine : Engine} (context : Context)
  (carries : engine.Carries discipline context.admin (context.depth + 1))
  (upholds : engine.Upholds discipline context.admin)

include carries upholds

theorem keeps_dispatchVerb (spec : VerbSpec) (line : Line) (world : World)
    (guarded : world.registry.Guarded → spec.verb.privileged = true → spec.adminOnly = true)
    (spares : verbRefusal? context spec line = none → discipline.Spares (spec.verb.takes world) world)
    (looks : verbRefusal? context spec line = none → spec.verb = .go →
      ∀ world, discipline.keeps context.admin (engine.dispatch context "look") world)
    (ticks : verbRefusal? context spec line = none → spec.verb = .tick →
      ∀ world, discipline.keeps context.admin engine.tick world) :
    discipline.keeps context.admin (engine.dispatchVerb context spec line) world := by
  rw [dispatchVerb]
  split
  · exact keeps_throw _ world
  · rename_i unrefused
    refine keeps_perform context carries upholds spec.verb line world ?_ (spares unrefused) (looks unrefused)
      (ticks unrefused)
    intro privileged
    by_cases registry : world.registry.Guarded
    · left
      rw [verbRefusal?, guarded registry privileged] at unrefused
      cases rights : context.admin with
      | true => rfl
      | false =>
        rw [rights] at unrefused
        cases unrefused
    · exact .inr registry

-- The lines below need not look around or tick when this one does not.
theorem keeps_dispatchLine (text : String) (world : World)
    (spares : ∀ verb, world.verbOf? context text = some verb → discipline.Spares (verb.takes world) world)
    (looks : world.verbOf? context text = some .go →
      ∀ world, discipline.keeps context.admin (engine.dispatch context "look") world)
    (ticks : world.verbOf? context text = some .tick →
      ∀ world, discipline.keeps context.admin engine.tick world) :
    discipline.keeps context.admin (engine.dispatchLine context text) world := by
  refine keeps_read ?_
  dsimp only
  split
  · exact keeps_throw_bind _ _
  · rename_i shallow
    split
    · exact keeps_pure _ world
    · rename_i word verb
      refine keeps_read ?_
      split
      · rename_i spec found
        have reached (unrefused : verbRefusal? context spec (Line.parse (normalizeLine text)) = none) :
            world.verbOf? context text = some spec.verb := by
          rw [World.verbOf?, if_neg shallow, verb, Option.bind_some, found, Option.bind_some, unrefused]
          rfl
        exact keeps_dispatchVerb context carries upholds spec _ world (fun guarded => guarded _ spec found)
          (fun unrefused => spares _ (reached unrefused))
          (fun unrefused go => looks ((reached unrefused).trans (congrArg some go)))
          fun unrefused tick => ticks ((reached unrefused).trans (congrArg some tick))
      · split
        · exact keeps_runTemplate context carries _ _ _ _ world
        · exact keeps_throw _ world

end Engine
end ThingWorld
