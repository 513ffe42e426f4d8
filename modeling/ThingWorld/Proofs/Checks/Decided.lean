import ThingWorld.Proofs.Turns.Playing
import ThingWorld.Proofs.Upkeep.Reached
namespace ThingWorld

-- Who is deciding a check was deciding it before.
def World.Decides (world last : World) : Prop :=
  ∀ id, last.schedule.isChecking id = true → world.schedule.isChecking id = true

def Decided {α : Type} (steps : Run α) (world : World) : Prop :=
  ∀ result last, steps.run world = some (result, last) → world.Decides last

namespace World

variable {world mid last : World}

theorem decides_refl (world : World) : world.Decides world := fun _ checking => checking

theorem decides_trans (first : world.Decides mid) (rest : mid.Decides last) : world.Decides last :=
  fun id checking => first id (rest id checking)

theorem decides_of_same (same : last.schedule.checking = world.schedule.checking) : world.Decides last := by
  intro id checking
  rwa [Schedule.isChecking, same] at checking

theorem decides_of_steady (steady : Steady world last) : world.Decides last := by
  obtain ⟨_, same⟩ := steady.schedule
  exact decides_of_same (by rw [same])

theorem decides_reindex (world : World) (id : ThingId) : world.Decides (world.reindex id) :=
  decides_of_steady (steady_reindex world id)

-- Whoever goes is forgotten, and nobody else.
theorem decides_vanish (world : World) (id : ThingId) : world.Decides (world.vanish id) := by
  rw [vanish]
  split
  · refine decides_trans (fun other checking => ?_) (decides_reindex _ id)
    have checking : (world.schedule.checking.erase id).contains other = true := checking
    rw [Std.ExtTreeSet.contains_erase, Bool.and_eq_true] at checking
    exact checking.2
  · exact decides_refl world

theorem decides_vanishAll (ids : List ThingId) : ∀ world : World, world.Decides (ids.foldl vanish world) := by
  induction ids with
  | nil => exact decides_refl
  | cons id rest ih => exact fun world => decides_trans (decides_vanish world id) (ih (world.vanish id))

theorem decides_deed {deed : Deed} (calm : deed.calm = true) (world : World) : world.Decides (deed.perform world) := by
  cases deed with
  | allocated => exact decides_of_same rfl
  | entered id thing => exact decides_trans (decides_of_same rfl) (decides_reindex _ id)
  | vanished ids => exact decides_vanishAll ids world
  | _ =>
    refine decides_of_steady (steady_deed ?_ world)
    exact calm

theorem decides_settle {α : Type} (result : Except Failure α) (world : World) :
    world.Decides (world.settle result).2 :=
  decides_of_steady (steady_settle result world)

theorem decides_replay {moments : List Moment} (calm : ∀ deed, .did deed ∈ moments → deed.calm = true)
    (world : World) : world.Decides (world.replay moments) := by
  refine replay_keeps (P := world.Decides) ?_ (decides_refl world) (heeds_deeds calm world)
  intro mid moment decides calm
  refine decides_trans decides ?_
  cases moment with
  | did deed => exact decides_deed (calm deed rfl) mid
  | opened => exact decides_of_same rfl
  | ended kept => exact decides_of_steady (steady_trans (steady_scope false mid) (steady_commit kept _))

end World

section Runs

variable {α β : Type} {world : World}

theorem decided_calm {steps : Run α} (charted : Charted .calm steps world) : Decided steps world := by
  intro result last ran
  obtain ⟨moments, unfolds, calm⟩ := charted result last ran
  rw [(World.unfolds_replay unfolds).1]
  exact World.decides_replay calm world

theorem decided_ran {steps : Run α} {result : Except Failure α} {last : World}
    (ran : steps.run world = some (result, last)) (decides : world.Decides last) : Decided steps world := by
  intro result' last' ran'
  rw [ran] at ran'
  cases ran'
  exact decides

theorem decided_bind {x : Run α} {f : α → Run β} (first : Decided x world)
    (rest : ∀ a mid, x.run world = some (.ok a, mid) → Decided (f a) mid) : Decided (x >>= f) world := by
  intro result last ran
  rw [Run.run_bind] at ran
  split at ran
  · rename_i a mid ran'
    exact World.decides_trans (first _ mid ran') (rest a mid ran' _ _ ran)
  · rename_i failure mid ran'
    cases ran
    exact first _ _ ran'
  · cases ran

theorem decided_observe {steps : Run α} (seen : Decided steps world) : Decided steps.observe world := by
  intro result last ran
  rw [Run.run_observe] at ran
  obtain ⟨⟨result', last'⟩, ran', same⟩ := Option.map_eq_some_iff.mp ran
  cases same
  exact seen _ _ ran'

theorem decided_scope {body : Run α} (inside : Decided body world)
    (outside : Decided body (Moment.opened.perform world)) : Decided body.scope world := by
  intro result last ran
  cases scope : world.inScope with
  | true =>
    rw [Run.run_joined scope] at ran
    exact inside _ _ ran
  | false =>
    rw [Run.run_outermost scope] at ran
    obtain ⟨⟨result', mid⟩, ran', same⟩ := Option.map_eq_some_iff.mp ran
    have settled : mid.settle result' = (result, last) := same
    have ended := World.decides_settle result' mid
    rw [settled] at ended
    exact World.decides_trans (outside _ _ ran') ended

end Runs

def Discipline.deciding : Discipline where
  keeps _ steps world := Decided steps world
  quiet _ _ calm _ := decided_calm calm
  binds := decided_bind
  observes := decided_observe
  scopes := decided_scope
  bears _ _ := True
  makes operation makes _ := decided_calm (World.charted_making (Law.suffers_calm _) operation makes _)
  entitled _ decided := decided

namespace Engine

variable {engine : Engine}

-- Every line that the engine carries out ends with all checks decided that it began.
def Decisive (engine : Engine) : Prop :=
  ∀ context text world, Decided (engine.dispatch context text) world

variable (decisive : engine.Decisive)

include decisive

theorem carries_of_decisive (admin : Bool) (depth : Nat) : engine.Carries .deciding admin depth :=
  fun context text world _ _ => decisive context text world

theorem decided_runReaction (id : ThingId) (event : Event) (template : String) (world : World) :
    Decided (engine.runReaction id event template) world :=
  keeps_runReaction (carries_of_decisive decisive _ 1) event template

omit decisive in
theorem decides_begin (id : ThingId) (event : Event) (world : World) :
    world.Decides (world.pace (.park id event)) ∧ world.Decides (world.pace (.claim id)) :=
  ⟨World.decides_of_same rfl, World.decides_of_same rfl⟩

theorem decided_react (id : ThingId) (event : Event) (world : World) : Decided (engine.react id event) world := by
  obtain ⟨parked, claimed⟩ := decides_begin id event world
  cases found : reactionTemplate? world id event with
  | none => exact decided_ran (run_unheard found) (World.decides_refl world)
  | some template =>
    intro result last ran
    rw [run_react found] at ran
    split at ran
    · cases ran
      exact parked
    · exact World.decides_trans claimed (decided_runReaction decisive id event template _ result last ran)

-- The one that answers is deciding until its reaction has ended, in whatever way.
theorem decided_reactToCheck (id : ThingId) (event : Event) (world : World) :
    Decided (engine.reactToCheck id event) world := by
  cases found : reactionTemplate? world id event with
  | none => exact decided_ran (run_unasked found) (World.decides_refl world)
  | some template =>
    intro result last ran
    rw [run_reactToCheck found] at ran
    split at ran
    · cases ran
      exact World.decides_refl world
    · obtain ⟨⟨result', mid⟩, inner, same⟩ := Option.map_eq_some_iff.mp ran
      cases same
      intro other checking
      have checking : (mid.schedule.checking.erase id).contains other = true := checking
      rw [Std.ExtTreeSet.contains_erase, Bool.and_eq_true] at checking
      have before := decided_runReaction decisive id event template _ _ mid inner other checking.2
      have before : (world.schedule.checking.insert id).contains other = true := before
      rw [Std.ExtTreeSet.contains_insert, Bool.or_eq_true] at before
      refine before.resolve_left fun same => ?_
      rw [beq_iff_eq.mp same] at checking
      cases checking.1

theorem upholds_of_decisive (admin : Bool) : engine.Upholds .deciding admin where
  walks each route start visited world := keeps_walk (fun _ _ _ ran => nomatch ran) each _ route start visited world
  reacts := decided_react decisive
  checks := decided_reactToCheck decisive

omit decisive in
theorem decided_dueReaction (due : Due) (world : World) : Decided (Run.ofAct (dueReaction due)) world := by
  obtain ⟨parked, claimed⟩ := decides_begin due.id due.event world
  have still := World.decides_refl world
  intro result last ran
  have ran := (run_dueReaction due world).symm.trans (Option.some.inj ran)
  split at ran
  · split at ran
    · cases ran
      exact still
    · split at ran
      · cases ran
        split
        · exact still
        · exact parked
      · cases ran
        exact claimed
  · cases ran
    exact still

theorem decided_tick (world : World) : Decided engine.tick world := by
  have advances (world : World) : Decided (Run.ofAct startTick) world :=
    decided_ran (congrArg some (run_startTick world)) (World.decides_of_same rfl)
  have ticks : Discipline.deciding.keeps false engine.tick world :=
    keeps_tick (decided_runReaction decisive) advances decided_dueReaction world
  exact ticks

omit decisive in
theorem decisive_ofFuel (fuel : Nat) : (ofFuel fuel).Decisive := by
  induction fuel with
  | zero => exact fun context text world result last ran => nomatch ran
  | succ fuel ih =>
    intro context text world
    exact keeps_dispatchLine context (carries_of_decisive ih _ _) (upholds_of_decisive ih _) text world
      (fun _ _ _ _ => trivial) (fun _ world => ih context "look" world) fun _ world => decided_tick ih world

end Engine

namespace World

theorem decisive_engine (world : World) : world.engine.Decisive :=
  Engine.decisive_ofFuel world.fuel

theorem decided_dispatch (context : Context) (text : String) (world : World) :
    Decided (dispatch context text) world := by
  have read : Discipline.deciding.keeps false (dispatch context text) world :=
    keeps_read (decisive_engine world context text world)
  exact read

theorem decided_does {steps : Run Unit} {deed : Deed} {world : World} (calm : deed.calm = true)
    (ran : steps.run world = some (.ok (), deed.perform world)) : Decided steps world :=
  decided_ran ran (decides_deed calm world)

theorem upholds_deciding (world : World) : world.engine.Upholds .deciding false :=
  Engine.upholds_of_decisive (decisive_engine world) false

theorem decided_operation {α : Type} (operation : Operation α) (world : World) : Decided operation.run world := by
  have makes : Law.calm.Suffers Deed.makes := Law.suffers_calm _
  have plain : Law.calm.Suffers fun deed => deed.plain = true := Law.suffers_calm _
  have revises : Law.calm.Grants Deed.revises := Law.grants_revises makes Deed.makes_of_revises
  have alters : Law.calm.Grants Deed.alters := Law.grants_alters makes Deed.makes_of_alters
  have vanishes : Law.calm.Grants fun deed => ∃ ids, deed = .vanished ids :=
    Law.grants_mono (Law.grants_only _) fun deed ⟨ids, same⟩ => same ▸ rfl
  cases operation with
  | create name description => exact decided_calm (charted_create makes name description world)
  | createFrom prototype name description =>
    exact decided_calm (charted_createFrom makes prototype name description world)
  | linkRooms room thereName other backName =>
    exact decided_calm (charted_linkRooms makes room thereName other backName world)
  | setProperty id property value => exact decided_calm (charted_setProperty revises id property value world)
  | unsetProperty id property => exact decided_calm (charted_unsetProperty revises id property world)
  | setPrototype id prototype => exact decided_calm (charted_setPrototype alters id prototype world)
  | setAssociation id relation target multi =>
    exact decided_calm (charted_setAssociation revises id relation target multi world)
  | dissociate id relation target => exact decided_calm (charted_dissociate revises id relation target world)
  | dissociateAll id relation => exact decided_calm (charted_dissociateAll revises id relation world)
  | dissociateFrom id target => exact decided_calm (charted_dissociateFrom revises id target world)
  | setLocation id place => exact decided_calm (charted_setLocation revises id place world)
  | copy id => exact decided_calm (charted_copy makes id world)
  | copySet id members => exact decided_calm (charted_copySet makes id members world)
  | toast doomed => exact decided_calm (charted_toast revises vanishes doomed world)
  | subscribeTicks id => exact decided_calm (charted_subscribeTicks plain id world)
  | unsubscribeTicks id => exact decided_calm (charted_unsubscribeTicks plain id world)
  | attach id listener => exact decided_does (rfl : (Deed.attached id listener).calm = true) rfl
  | detach id => exact decided_does (rfl : (Deed.detached id).calm = true) rfl
  | setClockRunning running => exact decided_does (rfl : (Deed.ran running).calm = true) rfl
  | setClockInterval interval => exact decided_does (rfl : (Deed.rated interval).calm = true) rfl
  | flush => exact decided_calm (charted_flush makes world)
  | dispatch context line => exact decided_dispatch context line world
  | command actor line =>
    exact (keeps_command .deciding actor line world fun admin => decided_dispatch (Context.of actor admin) line)
  | tick =>
    have read : Discipline.deciding.keeps false World.tick world :=
      keeps_read (Engine.decided_tick (decisive_engine world) world)
    exact read
  | touch id => exact decided_does (rfl : (Deed.touched id).calm = true) rfl
  | tell id line => exact decided_does (rfl : (Deed.told id line).calm = true) rfl
  | react id event =>
    have read : Discipline.deciding.keeps false (Operation.react id event).run world :=
      keeps_read ((upholds_deciding world).reacts id event world)
    exact read
  | reactToCheck id event =>
    have read : Discipline.deciding.keeps false (Operation.reactToCheck id event).run world :=
      keeps_read ((upholds_deciding world).checks id event world)
    exact read
  | emitFailure actor start name forActor forOthers args =>
    have read : Discipline.deciding.keeps false
        (Operation.emitFailure actor start name forActor forOthers args).run world :=
      keeps_read (Engine.keeps_emitFailure (upholds_deciding world) actor start name forActor forOthers args world)
    exact read
  | edit id f keeps =>
    exact decided_calm
      (charted_edit (.edited id f) rfl (fun present => ⟨present, keeps⟩) (Law.grants_only _ _ _ rfl))

theorem decided_built {hand : Bool} {α : Type} {steps : Run α} (built : Built hand steps) (world : World) :
    Decided steps world := by
  have keeps : Discipline.deciding.keeps false steps world :=
    keeps_built (fun operation _ => decided_operation operation) upholds_deciding built world
  exact keeps

-- A world between the operations on it, whatever its store went through in the meantime.
inductive Alive : World → Prop where
  | opened {store : Store} {options : Options} {world : World} (opened : openOn store options = .ok world) : Alive world
  | imported {store : Store} {text : String} {limits : Limits} {dice : Nat → Fin 100} {world : World}
      (imported : importText store text limits dice = .ok world) : Alive world
  | called {world last : World} {hand : Bool} {α : Type} {steps : Run α} {result : Except Failure α}
      (before : Alive world) (built : Built hand steps) (ran : steps.run world = some (result, last)) : Alive last
  | stirred {world : World} (before : Alive world) (store : Store) : Alive { world with store := store }

-- No scope is open, the verbs are the standard ones, and nobody is deciding a check.
structure Idle (world : World) : Prop where
  inScope : world.inScope = false
  registry : world.registry = .standard
  checking : ∀ id, world.schedule.isChecking id = false

theorem nobody_of_decides {world last : World} (decides : world.Decides last)
    (nobody : ∀ id, world.schedule.isChecking id = false) (id : ThingId) : last.schedule.isChecking id = false := by
  cases checking : last.schedule.isChecking id with
  | false => rfl
  | true => exact (decides id checking).symm.trans (nobody id)

theorem nobody_blank (store : Store) (options : Options) (id : ThingId) :
    (blank store options).schedule.isChecking id = false :=
  Std.ExtTreeSet.contains_empty

-- To be told of ticks is to decide nothing.
theorem decides_resume (world : World) (info : Info) (loaded : List (ThingId × Thing × Bytes)) :
    world.Decides (world.resume info loaded) := by
  have subscribing (ticking : List Thing) : ∀ schedule : Schedule,
      (ticking.foldl (fun schedule thing => schedule.subscribe thing.id) schedule).checking = schedule.checking := by
    induction ticking with
    | nil => exact fun schedule => rfl
    | cons thing rest ih => exact fun schedule => ih (schedule.subscribe thing.id)
  exact decides_of_same (subscribing _ _)

theorem idle_opened {store : Store} {options : Options} {world : World} (opened : openOn store options = .ok world) :
    Idle world := by
  cases recorded : store.info with
  | none =>
    obtain ⟨mid, planted⟩ := planted_of_seed recorded opened
    obtain ⟨mid, stats, ran, written⟩ := scope_kept rfl (seed_ran recorded opened)
    have grown : (Moment.opened.perform (blank store options)).Decides mid :=
      decided_calm (charted_plantAll (Law.suffers_calm _) _) _ _ (congrArg some ran)
    have ended : mid.Decides ((commit true).run { mid with inScope := false }).2 :=
      decides_of_same (congrArg Schedule.checking (commit_schedule true { mid with inScope := false }))
    rw [written] at ended
    have nobody := nobody_of_decides (decides_trans grown ended) (nobody_blank store options)
    exact ⟨outside_seeded planted, registry_seeded planted, nobody⟩
  | some bytes =>
    have loaded := reloaded recorded opened
    obtain ⟨info, things, _, _, rfl⟩ := loads_of_opened recorded opened
    have nobody := nobody_of_decides (decides_resume _ info things) (nobody_blank store options)
    exact ⟨loaded.inScope, loaded.registry, nobody⟩

theorem idle_called {world last : World} {hand : Bool} {α : Type} {steps : Run α} {result : Except Failure α}
    (idle : Idle world) (built : Built hand steps) (ran : steps.run world = some (result, last)) : Idle last := by
  obtain ⟨moments, unfolds, _⟩ := charted_built built world result last ran
  obtain ⟨same, _, scope⟩ := unfolds_replay unfolds
  refine ⟨scope.trans idle.inScope, ?_, nobody_of_decides (decided_built built world result last ran) idle.checking⟩
  rw [same, replay_registry]
  exact idle.registry

theorem alive_idle {world : World} (alive : Alive world) : Idle world := by
  induction alive with
  | opened opened => exact idle_opened opened
  | imported imported =>
    rw [importText] at imported
    split at imported
    · cases imported
    · rw [importDump] at imported
      split at imported
      · cases imported
      · exact idle_opened imported
  | called before built ran ih => exact idle_called ih built ran
  | stirred before store ih => exact ⟨ih.inScope, ih.registry, ih.checking⟩

end World
end ThingWorld
