import ThingWorld.Proofs.Course.Sound
namespace ThingWorld.World

variable {world : World}

theorem run_setProperty {id : ThingId} (inside : world.inScope = true) (held : world.contains id = true)
    (property : String) (value : Datum) :
    (setProperty id property value).run world = (.ok (), world.revise id (Change.write property value).apply) := by
  have ran := run_revise id (Change.write property value).apply () world
  rw [if_pos held] at ran
  exact (Act.run_joined inside _).trans ran

theorem resolve_me (world : World) (view : Viewpoint) : world.resolve view "me" = .found view.actor := by
  have trimmed : Text.trim "me".toList = "me".toList := by decide +kernel
  have named : normalizeName (String.ofList "me".toList) = "me" := by decide +kernel
  rw [resolve, trimmed]
  show world.resolveName view (String.ofList "me".toList) = _
  rw [resolveName, named]
  rfl

-- Which property is written, and which value, is not looked at.
theorem run_set {context : Context} {line : Line} {id : ThingId} (inside : world.inScope = true)
    (resolved : world.resolveOne context.view (line.arg 0) = .ok id) (controlled : context.controls id = true)
    (held : world.contains id = true) :
    ∃ last, (Engine.setProperty context line).run world = some (.ok (), last) ∧ last.things =
      (world.revise id (Change.write (line.arg 1) (Datum.parse (line.arg 1) (line.restFrom 2))).apply).things := by
  have found : (Engine.resolve context (line.arg 0)).run world = some (.ok id, world) := by
    show some (world.resolveOne context.view (line.arg 0), world) = _
    rw [resolved]
  have written : (liftM (setProperty id (line.arg 1) (Datum.parse (line.arg 1) (line.restFrom 2))) : Run Unit).run world =
      some (.ok (), world.revise id (Change.write (line.arg 1) (Datum.parse (line.arg 1) (line.restFrom 2))).apply) :=
    congrArg some (run_setProperty inside held _ _)
  refine ⟨_, ?_, tell_things context.actor ("Set " ++ line.arg 1 ++ " of " ++ showId id ++ ".") _⟩
  rw [Engine.setProperty, Run.run_bind, found]
  dsimp only
  rw [Engine.requireControl, if_pos controlled, Run.run_bind, Run.run_pure]
  dsimp only
  rw [Run.run_bind, written]
  rfl

theorem run_engine (world : World) (context : Context) (text : String) :
    (dispatch context text).run world = ((Engine.ofFuel (world.fuel - 1)).dispatchLine context text).run world := by
  obtain ⟨less, fueled⟩ := Nat.exists_eq_add_one.mpr (show 0 < world.fuel from Nat.succ_pos _)
  rw [dispatch, Run.run_bind, Run.run_get]
  dsimp only
  rw [engine, fueled, Nat.add_sub_cancel]
  rfl

section Verbs

variable {engine : Engine} {context : Context} {text word : String} {line : Line} {spec : VerbSpec}
  (shallow : context.depth ≤ world.limits.substitutionDepth) (parsed : Line.parse (normalizeLine text) = line)
  (verb : line.verb? = some word) (known : world.registry[Text.lower word]? = some spec)

include shallow parsed verb known

theorem run_knownLine :
    (engine.dispatchLine context text).run world = (engine.dispatchVerb context spec line).run world := by
  rw [Engine.dispatchLine, Run.run_bind, Run.run_get]
  dsimp only
  rw [if_neg (Nat.not_lt.mpr shallow), parsed, verb]
  dsimp only
  rw [Engine.dispatchWord, Run.run_bind, Run.run_get]
  dsimp only
  rw [known]

theorem run_dispatchLine (unrefused : Engine.verbRefusal? context spec line = none) :
    (engine.dispatchLine context text).run world = (engine.perform context spec.verb line).run world := by
  rw [run_knownLine shallow parsed verb known, Engine.dispatchVerb, unrefused]

theorem run_known :
    ∃ fuel, (dispatch context text).run world = ((Engine.ofFuel fuel).dispatchVerb context spec line).run world := by
  refine ⟨world.fuel - 1, ?_⟩
  rw [run_engine, run_knownLine shallow parsed verb known]

theorem run_dispatch (unrefused : Engine.verbRefusal? context spec line = none) :
    ∃ fuel, (dispatch context text).run world = ((Engine.ofFuel fuel).perform context spec.verb line).run world := by
  obtain ⟨fuel, same⟩ := run_known shallow parsed verb known
  refine ⟨fuel, ?_⟩
  rw [same, Engine.dispatchVerb, unrefused]

end Verbs

-- A version ends with its body. At its end the store may refuse a call, and no other result is lost.
theorem versioned_ended {α : Type} {body : Run α} {mid : World} {result : Except Failure α}
    (ran : body.run (Moment.opened.perform world.nextVersion) = some (result, mid)) :
    ∃ result' last, (Run.versioned body).run world = some (result', last) ∧
      (∃ index persisted dirty infoDirty store inScope, last =
        { mid with
          index := index, persisted := persisted, dirty := dirty, infoDirty := infoDirty, store := store
          inScope := inScope }) ∧
      (result' = result ∨ result.isOk = true ∧ result' = .error Store.refusal) := by
  rw [Run.versioned, Run.run_bind, Run.run_modify]
  dsimp only
  cases scope : world.nextVersion.inScope with
  | true =>
    have met : Moment.opened.perform world.nextVersion = world.nextVersion := by
      show { world.nextVersion with inScope := true } = _
      rw [← scope]
    rw [met] at ran
    exact ⟨result, mid, (Run.run_joined scope body).trans ran, ⟨_, _, _, _, _, _, rfl⟩, .inl rfl⟩
  | false =>
    obtain ⟨_, _, _, _, _, same⟩ := commit_same result.isOk { mid with inScope := false }
    have after : (mid.settle result).2 = ((commit result.isOk).run { mid with inScope := false }).2 := settle_world mid result
    have ends : body.scope.run world.nextVersion = some (mid.settle result) := by
      rw [Run.run_outermost scope]
      exact congrArg (Option.map _) ran
    refine ⟨_, _, ends, ⟨_, _, _, _, _, _, after.trans same⟩, ?_⟩
    cases result with
    | error failure => exact .inl rfl
    | ok a =>
      exact (settle_gives mid a).imp_right fun refused => ⟨rfl, refused⟩

-- What becomes of the end of a typed chain: the actor hears at most why it failed.
def reported {α : Type} (actor : ThingId) : Except Failure α × World → Except Failure Unit × World
  | (.ok _, world) => (.ok (), world)
  | (.error failure, world) =>
    (.error failure, if failure.isEventFailure then world else world.tell actor failure.message)

theorem run_reported {actor : ThingId} {text : String} {ended : Except Failure (Option Script.Value) × World}
    (ran : (Run.versioned (dispatch (Context.of actor (world.isAdmin actor)) text)).run world = some ended) :
    (command actor text).run world = some (reported actor ended) := by
  rw [command, Run.run_bind, Run.run_get]
  dsimp only
  rw [reporting, Run.run_bind, Run.run_observe, ran]
  obtain ⟨result, mid⟩ := ended
  cases result with
  | ok value => rfl
  | error failure =>
    show (if !failure.isEventFailure then _ else _ : Run Unit).run mid = some (.error failure, if _ then _ else _)
    cases failure.isEventFailure <;> rfl

theorem run_command {actor : ThingId} {text : String} {result : Except Failure (Option Script.Value)} {mid : World}
    (ran : (Run.versioned (dispatch (Context.of actor (world.isAdmin actor)) text)).run world = some (result, mid)) :
    ∃ result' last, (command actor text).run world = some (result', last) ∧ last.things = mid.things := by
  refine ⟨_, _, run_reported ran, ?_⟩
  cases result with
  | ok value => rfl
  | error failure =>
    show (if failure.isEventFailure then mid else mid.tell actor failure.message).things = mid.things
    split
    · rfl
    · exact tell_things actor failure.message mid

end ThingWorld.World
