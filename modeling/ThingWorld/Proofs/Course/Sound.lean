import ThingWorld.Proofs.Course.Verbs
namespace ThingWorld

namespace Engine

-- Every line that the engine carries out keeps the law of its chain.
def Sound (engine : Engine) : Prop :=
  ∀ context text world, Charted (.rights context.admin) (engine.dispatch context text) world

variable {admin : Bool} {engine : Engine} (sound : engine.Sound)

include sound

theorem carries_of_sound (depth : Nat) : engine.Carries .rights admin depth := by
  rintro context text world rfl _
  exact sound context text world

theorem charted_runReaction (id : ThingId) (event : Event) (template : String) (world : World) :
    Charted (.rights admin) (engine.runReaction id event template) world := by
  have flagged : Charted (.rights (world.flag id Property.admin)) (engine.runReaction id event template) world :=
    keeps_runReaction (carries_of_sound sound 1) event template
  cases flag : world.flag id Property.admin with
  | true =>
    rw [flag] at flagged
    exact charted_ruled ⟨id, flag⟩ flagged
  | false =>
    rw [flag] at flagged
    exact charted_rights flagged

omit sound in
theorem charted_beginReaction (id : ThingId) (event : Event) (world : World) :
    Charted (.rights admin) (Run.ofAct (beginReaction id event)) world := by
  have ran : (beginReaction id event).run world =
      (.ok (world.schedule.begin id event).1, { world with schedule := (world.schedule.begin id event).2 }) := rfl
  have plain := Law.grants_plain admin world
  rw [Schedule.begin] at ran
  split at ran
  · exact charted_does (.paced (.park id event)) trivial (plain _ rfl) (congrArg some ran)
  · exact charted_does (.paced (.claim id)) trivial (plain _ rfl) (congrArg some ran)

theorem charted_react (id : ThingId) (event : Event) (world : World) :
    Charted (.rights admin) (engine.react id event) world := by
  refine charted_read ?_
  split
  · exact charted_pure ()
  · refine charted_bind (charted_beginReaction id event world) ?_
    intro began mid _
    split
    · exact charted_runReaction sound id event _ mid
    · exact charted_pure ()

-- Whether a check is begun depends on the checks that are being decided; its end comes whatever the verdict is.
theorem charted_reactToCheck (id : ThingId) (event : Event) (world : World) :
    Charted (.rights admin) (engine.reactToCheck id event) world := by
  have plain := Law.grants_plain admin
  refine charted_read ?_
  split
  · exact charted_pure ()
  · rename_i template _
    refine charted_read ?_
    split
    · exact charted_pure ()
    · refine charted_bind (charted_does (.paced (.startCheck id)) trivial (plain world _ rfl) rfl) ?_
      intro _ mid _
      refine charted_bind (charted_observe (charted_runReaction sound id event template mid)) ?_
      intro verdict mid _
      refine charted_bind (charted_does (.paced (.endCheck id)) trivial (plain mid _ rfl) rfl) ?_
      exact fun _ _ _ => charted_ofExcept verdict

theorem upholds_of_sound : engine.Upholds .rights admin where
  walks each route start visited world := keeps_walk (fun _ => charted_exhausted) each _ route start visited world
  reacts := charted_react sound
  checks := charted_reactToCheck sound

omit sound in
theorem charted_dueReaction (due : Due) (world : World) :
    Charted (.rights admin) (Run.ofAct (dueReaction due)) world := by
  refine charted_act_read ?_
  split
  · exact charted_act_pure _
  · split
    · exact charted_act_pure _
    · split
      · exact charted_act_pure _
      · refine charted_act_bind (charted_beginReaction due.id due.event world) ?_
        intro began mid _
        split <;> exact charted_act_pure _

theorem charted_tick (world : World) : Charted (.rights admin) engine.tick world := by
  have advances (world : World) : Charted (.rights admin) (Run.ofAct startTick) world :=
    charted_does (.paced .advance) trivial (Law.grants_plain admin world _ rfl) rfl
  have ticks : Discipline.rights.keeps admin engine.tick world :=
    keeps_tick (charted_runReaction sound) advances charted_dueReaction world
  exact ticks

omit sound in
-- The induction is on the fuel: an engine hands nested lines to an engine with less.
theorem sound_ofFuel (fuel : Nat) : (ofFuel fuel).Sound := by
  induction fuel with
  | zero => exact fun context text world => charted_exhausted
  | succ fuel ih =>
    intro context text world
    exact keeps_dispatchLine context (carries_of_sound ih _) (upholds_of_sound ih) text world (fun _ _ _ _ => trivial)
      (fun _ world => ih context "look" world) fun _ world => charted_tick ih world

end Engine

namespace World

theorem sound_engine (world : World) : world.engine.Sound :=
  Engine.sound_ofFuel world.fuel

theorem charted_dispatch (context : Context) (text : String) (world : World) :
    Charted (.rights context.admin) (dispatch context text) world :=
  charted_read (sound_engine world context text world)

theorem keeps_reporting {discipline : Discipline} {admin : Bool} {typed : Run (Option Script.Value)}
    (keeps : ∀ world, discipline.keeps admin typed world) (actor : ThingId) (world : World) :
    discipline.keeps admin (reporting actor typed) world :=
  (discipline.conduct admin).keeps_reporting (keeps_versioned keeps world) actor

theorem keeps_command (discipline : Discipline) (actor : ThingId) (text : String) (world : World)
    (dispatched : ∀ admin world, discipline.keeps admin (dispatch (Context.of actor admin) text) world) :
    discipline.keeps (world.isAdmin actor) (command actor text) world :=
  keeps_read (keeps_reporting (dispatched _) actor world)

theorem charted_command (actor : ThingId) (text : String) (world : World) :
    Charted (.rights (world.isAdmin actor)) (command actor text) world :=
  keeps_command .rights actor text world fun admin => charted_dispatch (Context.of actor admin) text

theorem charted_tick {admin : Bool} (world : World) : Charted (.rights admin) World.tick world :=
  charted_read (Engine.charted_tick (sound_engine world) world)

end World
end ThingWorld
