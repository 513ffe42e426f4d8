import ThingWorld.Proofs.Course.Public
import ThingWorld.Proofs.Turns.Scenes
namespace ThingWorld

def Played {α : Type} (handed : Handouts) (steps : Run α) (world : World) : Prop :=
  ∀ result last, steps.run world = some (result, last) → ∃ scenes, Plays handed steps world scenes result last

section

variable {α β : Type} {handed : Handouts} {world : World}

theorem played_of_plays {steps : Run α} {result : Except Failure α} {scenes : List Scene} {last : World}
    (plays : Plays handed steps world scenes result last) : Played handed steps world := by
  intro result' last' ran
  rw [World.plays_ran plays] at ran
  cases ran
  exact ⟨scenes, plays⟩

theorem played_thinned {steps : Run α} {result : Except Failure α} {last : World}
    (ran : steps.run world = some (result, last)) (thinned : world.Thinned last) : Played handed steps world := by
  by_cases loses : ∃ id, world.Loses last id
  · exact played_of_plays (.deletes ran thinned loses)
  · refine played_of_plays (.quiet ran (World.quiet_of_thinned thinned) fun id => thinned.turns id ?_)
    exact not_exists.mp loses id

theorem played_steady {steps : Run α} {result : Except Failure α} {last : World}
    (ran : steps.run world = some (result, last)) (steady : world.Steady last) : Played handed steps world :=
  played_thinned ran (World.thinned_of_steady steady)

theorem played_still {steps : Run α} {result : Except Failure α} (ran : steps.run world = some (result, world)) :
    Played handed steps world :=
  played_steady ran (World.steady_refl world)

theorem played_bind {x : Run α} {f : α → Run β} (first : Played handed x world)
    (rest : ∀ a mid, x.run world = some (.ok a, mid) → Played handed (f a) mid) : Played handed (x >>= f) world := by
  intro result last ran
  rw [Run.run_bind] at ran
  split at ran
  · rename_i a mid ran'
    obtain ⟨before, plays⟩ := first _ _ ran'
    obtain ⟨after, plays'⟩ := rest a mid ran' _ _ ran
    exact ⟨before ++ after, .next plays plays'⟩
  · rename_i failure mid ran'
    cases ran
    obtain ⟨scenes, plays⟩ := first _ _ ran'
    exact ⟨scenes, .stop plays⟩
  · cases ran

theorem played_observe {steps : Run α} (seen : Played handed steps world) : Played handed steps.observe world := by
  intro result last ran
  rw [Run.run_observe] at ran
  obtain ⟨⟨result', last'⟩, ran', same⟩ := Option.map_eq_some_iff.mp ran
  cases same
  obtain ⟨scenes, plays⟩ := seen _ _ ran'
  exact ⟨scenes, .observed plays⟩

theorem played_scope {body : Run α} (inside : Played handed body world)
    (outside : Played handed body (Moment.opened.perform world)) : Played handed body.scope world := by
  intro result last ran
  cases scope : world.inScope with
  | true =>
    rw [Run.run_joined scope] at ran
    obtain ⟨scenes, plays⟩ := inside _ _ ran
    exact ⟨scenes, .joined scope plays⟩
  | false =>
    rw [Run.run_outermost scope] at ran
    obtain ⟨⟨result', mid⟩, ran', same⟩ := Option.map_eq_some_iff.mp ran
    obtain ⟨scenes, plays⟩ := outside _ _ ran'
    have settled : mid.settle result' = (result, last) := same
    have ended := Plays.outermost scope plays
    rw [settled] at ended
    exact ⟨scenes, ended⟩

theorem played_making (operation : Operation α) (makes : operation.makes = true) : Played handed operation.run world := by
  intro result last ran
  by_cases left : world.Affords (operation.takes world)
  · have turns := World.turn_of_grown (World.grown_making operation makes ran)
    exact ⟨[], .quiet ran (World.quiet_making operation makes left ran) turns⟩
  · exact ⟨_, .rounds makes left ran⟩

end

def Discipline.playing (handed : Handouts) : Discipline where
  keeps _ steps world := Played handed steps world
  quiet ran _ _ thinned := played_thinned ran thinned
  binds := played_bind
  observes := played_observe
  scopes := played_scope
  bears _ _ := True
  makes operation makes _ := played_making operation makes
  entitled _ played := played

namespace Engine

-- Every line that the engine carries out is played.
def Plays (engine : Engine) : Prop :=
  ∀ handed context text world, Played handed (engine.dispatch context text) world

variable {admin : Bool} {engine : Engine} (playing : engine.Plays) {handed : Handouts}

include playing

theorem carries_of_plays (depth : Nat) : engine.Carries (.playing handed) admin depth :=
  fun context text world _ _ => playing handed context text world

theorem played_runReaction (id : ThingId) (event : Event) (template : String) (world : World) :
    Played handed (engine.runReaction id event template) world :=
  keeps_runReaction (carries_of_plays playing 1) event template

theorem played_react (id : ThingId) (event : Event) (world : World) : Played handed (engine.react id event) world := by
  cases found : reactionTemplate? world id event with
  | none => exact played_still (run_unheard found)
  | some template =>
    cases reacted : world.schedule.hasReacted id with
    | true => exact played_of_plays (.waits ⟨template, found⟩ reacted)
    | false =>
      intro result last ran
      rw [run_react found, reacted] at ran
      obtain ⟨scenes, plays⟩ := played_runReaction playing id event template _ result last ran
      exact ⟨_, .reacts found reacted plays⟩

theorem played_reactToCheck (id : ThingId) (event : Event) (world : World) :
    Played handed (engine.reactToCheck id event) world := by
  cases found : reactionTemplate? world id event with
  | none => exact played_still (run_unasked found)
  | some template =>
    have ran : (engine.reactToCheck id event).run world = _ := run_reactToCheck found
    cases checking : world.schedule.isChecking id with
    | true =>
      rw [checking] at ran
      exact played_still ran
    | false =>
      intro result last ran'
      rw [ran, checking] at ran'
      obtain ⟨⟨result', mid⟩, inner, same⟩ := Option.map_eq_some_iff.mp ran'
      cases same
      obtain ⟨scenes, plays⟩ := played_runReaction playing id event template _ _ mid inner
      exact ⟨_, .answers found checking plays⟩

theorem upholds_of_plays : engine.Upholds (.playing handed) admin where
  walks each route start visited world := keeps_walk (fun _ _ _ ran => nomatch ran) each _ route start visited world
  reacts := played_react playing
  checks := played_reactToCheck playing

omit playing in
theorem played_dueReaction {due : Due} (owed : handed.Owe due) (world : World) :
    Played handed (Run.ofAct (dueReaction due)) world := by
  cases found : reactionTemplate? world due.id due.event with
  | none => exact played_still (congrArg some (run_dueNone found))
  | some template =>
    cases reacted : world.schedule.hasReacted due.id with
    | false => exact played_of_plays (.resumes found reacted owed)
    | true =>
      cases timed : due.isTick with
      | true => exact played_of_plays (.dropped ⟨template, found⟩ reacted timed owed)
      | false => exact played_of_plays (.returns ⟨template, found⟩ reacted timed owed)

-- What is due was handed out by this tick, or is its tick event.
omit playing in
theorem startTick_owes (handed : Handouts) (world : World) :
    ∃ due, startTick.run world = (.ok due, world.pace .advance) ∧
      ∀ one ∈ due, Handouts.Owe (world.schedule.pending.toList :: handed) one := by
  refine ⟨_, run_startTick world, fun one member => ?_⟩
  rcases List.mem_append.mp member with member | member
  · obtain ⟨⟨id, event⟩, listed, rfl⟩ := List.mem_map.mp member
    exact ⟨_, List.mem_cons_self, listed⟩
  · obtain ⟨id, _, rfl⟩ := List.mem_map.mp member
    exact (if_pos rfl).mpr rfl

theorem played_tick (world : World) : Played handed engine.tick world := by
  have body (world : World) : (Discipline.playing handed).keeps false (do
      let due ← startTick
      let outcome ← engine.runDue ⟨(← get).schedule.tick, 0, 0, 0⟩ due
      return { outcome with pending := (← get).schedule.pending.size }) world := by
    intro result last ran
    obtain ⟨due, began, owed⟩ := startTick_owes handed world
    have after : (Discipline.playing (world.schedule.pending.toList :: handed)).keeps false (do
        let outcome ← engine.runDue ⟨(← get).schedule.tick, 0, 0, 0⟩ due
        return { outcome with pending := (← get).schedule.pending.size }) (world.pace .advance) :=
      keeps_tickThrough (played_runReaction playing) (fun one member => played_dueReaction (owed one member)) _
    have began' : (liftM startTick : Run (List Due)).run world = some (.ok due, world.pace .advance) := congrArg some began
    rw [Run.run_bind, began'] at ran
    obtain ⟨scenes, plays⟩ := after result last ran
    exact ⟨_, .advances began plays⟩
  exact (keeps_versioned body world : (Discipline.playing handed).keeps false engine.tick world)

omit playing in
theorem plays_ofFuel (fuel : Nat) : (ofFuel fuel).Plays := by
  induction fuel with
  | zero => exact fun handed context text world result last ran => nomatch ran
  | succ fuel ih =>
    intro handed context text world
    exact keeps_dispatchLine context (carries_of_plays ih _) (upholds_of_plays ih) text world (fun _ _ _ _ => trivial)
      (fun _ world => ih handed context "look" world) fun _ world => played_tick ih world

end Engine

namespace World

variable {handed : Handouts}

theorem plays_engine (world : World) : world.engine.Plays :=
  Engine.plays_ofFuel world.fuel

theorem played_dispatch (context : Context) (line : String) (world : World) :
    Played handed (dispatch context line) world := by
  have read : (Discipline.playing handed).keeps false (dispatch context line) world :=
    keeps_read (plays_engine world handed context line world)
  exact read

theorem played_deed {steps : Run Unit} {deed : Deed} {world : World} (steady : deed.steady = true)
    (ran : steps.run world = some (.ok (), deed.perform world)) : Played handed steps world :=
  played_steady ran (steady_deed steady world)

theorem played_thinning {α : Type} {act : Act α} {world : World} (charted : Charted .thinning (Run.ofAct act) world) :
    Played handed (Run.ofAct act) world :=
  played_thinned rfl (thinned_of_thinning charted rfl)

theorem played_flush (world : World) : Played handed (Run.ofAct flush) world := by
  cases scope : world.inScope with
  | true =>
    have ran : flush.run world = (.ok .zero, world) := by
      rw [flush, Act.run_bind, Act.run_get]
      dsimp only
      rw [if_pos scope]
      rfl
    exact played_still (congrArg some ran)
  | false => exact played_steady (congrArg some (run_flush scope)) (steady_commit true world)

theorem played_edit (id : ThingId) (f : Thing → Thing) (world : World) : Played handed (Run.ofAct (edit id f)) world := by
  have ran := run_edit id f world
  split at ran
  · exact played_steady (congrArg some ran) (steady_retouch id f world)
  · exact played_still (congrArg some ran)

theorem upholds_playing (world : World) : world.engine.Upholds (.playing handed) false :=
  Engine.upholds_of_plays (plays_engine world)

theorem played_operation {α : Type} (operation : Operation α) (world : World) : Played handed operation.run world := by
  have revises := thinning_revises
  have plain := thinning_plain
  cases operation with
  | create name description => exact played_making (.create name description) rfl
  | createFrom prototype name description => exact played_making (.createFrom prototype name description) rfl
  | linkRooms room thereName other backName => exact played_making (.linkRooms room thereName other backName) rfl
  | setProperty id property value => exact played_thinning (charted_setProperty revises id property value world)
  | unsetProperty id property => exact played_thinning (charted_unsetProperty revises id property world)
  | setPrototype id prototype => exact played_thinned rfl (thinned_setPrototype id prototype world)
  | setAssociation id relation target multi =>
    exact played_thinning (charted_setAssociation revises id relation target multi world)
  | dissociate id relation target => exact played_thinning (charted_dissociate revises id relation target world)
  | dissociateAll id relation => exact played_thinning (charted_dissociateAll revises id relation world)
  | dissociateFrom id target => exact played_thinning (charted_dissociateFrom revises id target world)
  | setLocation id place => exact played_thinning (charted_setLocation revises id place world)
  | copy id => exact played_making (.copy id) rfl
  | copySet id members => exact played_making (.copySet id members) rfl
  | toast doomed => exact played_thinned rfl (thinned_toast doomed world)
  | subscribeTicks id => exact played_thinning (charted_subscribeTicks plain id world)
  | unsubscribeTicks id => exact played_thinning (charted_unsubscribeTicks plain id world)
  | attach id listener => exact played_deed (rfl : (Deed.attached id listener).steady = true) rfl
  | detach id => exact played_deed (rfl : (Deed.detached id).steady = true) rfl
  | setClockRunning running => exact played_deed (rfl : (Deed.ran running).steady = true) rfl
  | setClockInterval interval => exact played_deed (rfl : (Deed.rated interval).steady = true) rfl
  | flush => exact played_flush world
  | dispatch context line => exact played_dispatch context line world
  | command actor line =>
    exact (keeps_command (.playing handed) actor line world fun admin => played_dispatch (Context.of actor admin) line)
  | tick =>
    have read : (Discipline.playing handed).keeps false World.tick world :=
      keeps_read (Engine.played_tick (plays_engine world) world)
    exact read
  | touch id => exact played_deed (rfl : (Deed.touched id).steady = true) rfl
  | tell id line => exact played_deed (rfl : (Deed.told id line).steady = true) rfl
  | react id event =>
    have read : (Discipline.playing handed).keeps false (Operation.react id event).run world :=
      keeps_read ((upholds_playing world).reacts id event world)
    exact read
  | reactToCheck id event =>
    have read : (Discipline.playing handed).keeps false (Operation.reactToCheck id event).run world :=
      keeps_read ((upholds_playing world).checks id event world)
    exact read
  | emitFailure actor start name forActor forOthers args =>
    have read : (Discipline.playing handed).keeps false
        (Operation.emitFailure actor start name forActor forOthers args).run world :=
      keeps_read (Engine.keeps_emitFailure (upholds_playing world) actor start name forActor forOthers args world)
    exact read
  | edit id f keeps => exact played_edit id f world

theorem played_built {hand : Bool} {α : Type} {steps : Run α} (built : Built hand steps) (world : World) :
    Played handed steps world := by
  have keeps : (Discipline.playing handed).keeps false steps world :=
    keeps_built (fun operation _ => played_operation operation) upholds_playing built world
  exact keeps

-- Operations one after the other, until one fails.
def inTurn : List (Operation Unit) → Run Unit
  | [] => Run.ofExcept (.ok ())
  | operation :: rest => operation.run >>= fun _ => inTurn rest

theorem built_inTurn (operations : List (Operation Unit)) (unhanded : ∀ operation ∈ operations, operation.byHand = false) :
    Built false (inTurn operations) := by
  induction operations with
  | nil => exact .gives _
  | cons operation rest ih =>
    have kept (byHand : operation.byHand = true) : false = true :=
      (unhanded operation List.mem_cons_self).symm.trans byHand
    exact .follows (.calls operation kept) fun _ => ih fun other member => unhanded other (List.mem_cons_of_mem _ member)

end World
end ThingWorld
