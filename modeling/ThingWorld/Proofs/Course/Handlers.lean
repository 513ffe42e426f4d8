import ThingWorld.Proofs.Course.Conduct
namespace ThingWorld

namespace World

variable {world : World}

theorem decide_found {ids : List ThingId} {id : ThingId} (decided : world.decide? ids = some (.found id)) : ids = [id] := by
  rw [decide?.eq_def] at decided
  split at decided
  · cases decided
  · cases decided
    rfl
  · cases decided

theorem mem_of_matched {candidates : List ThingId} {query reference : String} {id : ThingId}
    (matched : (world.matchAmong candidates query).toExcept reference = .ok id) : id ∈ candidates := by
  have member (fit : Fit) (decided : world.decide? (world.hits candidates query fit) = some (.found id)) :
      id ∈ candidates := by
    have hit : id ∈ world.hits candidates query fit := by
      rw [decide_found decided]
      exact List.mem_singleton_self id
    exact (List.mem_filter.mp hit).1
  have found : world.matchAmong candidates query = .found id := by
    cases known : world.matchAmong candidates query with
    | found other =>
      rw [known] at matched
      cases matched
      rfl
    | ambiguous candidates =>
      rw [known] at matched
      cases matched
    | notFound =>
      rw [known] at matched
      cases matched
  rw [matchAmong, matchScopes] at found
  dsimp only at found
  rw [List.findSome?_singleton, List.findSome?_singleton] at found
  split at found
  · rename_i resolution decided
    exact member .exact (decided.trans (congrArg some found))
  · cases decided : world.decide? (world.hits candidates query .part) with
    | none =>
      rw [decided] at found
      cases found
    | some resolution =>
      rw [decided] at found
      exact member .part (decided.trans (congrArg some found))

end World

namespace Conduct

variable (conduct : Conduct) {engine : Engine} {context : Context} {world : World}

theorem keeps_tellActor (context : Context) (text : String) (world : World) :
    conduct.keeps (Engine.tell context text) world :=
  conduct.tells context.actor (fun _ => text) world

theorem keeps_resolve (context : Context) (reference : String) (world : World) :
    conduct.keeps (Engine.resolve context reference) world :=
  conduct.keeps_read (conduct.keeps_ofExcept _ world)

theorem keeps_andResult {steps : Run Unit} (keeps : conduct.keeps steps world) :
    conduct.keeps (do steps; return context.result) world :=
  conduct.binds keeps fun _ mid _ => conduct.keeps_pure _ mid

-- Nothing follows on a thing that the chain does not control.
theorem keeps_controlled {β : Type} {id : ThingId} {f : Unit → Run β}
    (rest : context.controls id = true → conduct.keeps (f ()) world) :
    conduct.keeps (Engine.requireControl context id >>= f) world := by
  rw [Engine.requireControl]
  split
  · rename_i controlled
    rw [pure_bind]
    exact rest controlled
  · exact conduct.keeps_throw_bind _ _

theorem keeps_here {β : Type} {f : ThingId → Run β}
    (rest : ∀ here, world.location? context.actor = some here → conduct.keeps (f here) world) :
    conduct.keeps (Engine.currentRoom context >>= f) world := by
  rw [Engine.currentRoom, bind_assoc]
  refine conduct.keeps_read ?_
  split
  · rename_i here place
    rw [pure_bind]
    exact rest here place
  · exact conduct.keeps_throw_bind _ _

theorem keeps_look (line : Line) : conduct.keeps (Engine.look context line) world := by
  rw [Engine.look]
  split
  · exact conduct.keeps_here fun here _ => conduct.keeps_read (conduct.keeps_tellActor context _ world)
  · refine conduct.binds (conduct.keeps_resolve context line.rest world) ?_
    exact fun target mid _ => conduct.keeps_read (conduct.keeps_tellActor context _ mid)

theorem keeps_examine (line : Line) : conduct.keeps (Engine.examine context line) world := by
  refine conduct.binds (conduct.keeps_resolve context line.rest world) ?_
  intro target mid _
  refine conduct.keeps_read ?_
  dsimp only
  split <;> exact conduct.keeps_tellActor context _ mid

theorem keeps_inventory : conduct.keeps (Engine.inventory context) world := by
  refine conduct.keeps_read ?_
  split <;> exact conduct.keeps_tellActor context _ world

theorem keeps_help : conduct.keeps (Engine.help context) world :=
  conduct.keeps_read (conduct.keeps_tellActor context _ world)

theorem keeps_who : conduct.keeps (Engine.who context) world :=
  conduct.keeps_read (conduct.keeps_tellActor context _ world)

section Changes

theorem keeps_setValue (line : Line)
    (writes : ∀ id property value world, context.controls id = true →
      conduct.keeps (Run.ofAct (World.setProperty id property value)) world) :
    conduct.keeps (Engine.setProperty context line) world := by
  refine conduct.binds (conduct.keeps_resolve context (line.arg 0) world) ?_
  intro id mid _
  refine conduct.keeps_controlled fun controlled => ?_
  exact conduct.binds (writes id _ _ mid controlled) fun _ mid _ => conduct.keeps_tellActor context _ mid

theorem keeps_unsetValue (line : Line)
    (erases : ∀ id property world, context.controls id = true →
      conduct.keeps (Run.ofAct (World.unsetProperty id property)) world) :
    conduct.keeps (Engine.unsetProperty context line) world := by
  refine conduct.binds (conduct.keeps_resolve context (line.arg 0) world) ?_
  intro id mid _
  refine conduct.keeps_controlled fun controlled => ?_
  refine conduct.binds (erases id _ mid controlled) ?_
  intro old mid _
  cases old with
  | none => exact conduct.keeps_throw _ mid
  | some value => exact conduct.keeps_tellActor context _ mid

theorem keeps_move (line : Line)
    (moves : ∀ id place world, context.controls id = true →
      conduct.keeps (Run.ofAct (World.setLocation id place)) world) :
    conduct.keeps (Engine.move context line) world := by
  refine conduct.binds (conduct.keeps_resolve context (line.arg 0) world) ?_
  intro id mid _
  refine conduct.keeps_controlled fun controlled => ?_
  refine conduct.binds (conduct.keeps_resolve context (line.restFrom 1) mid) ?_
  intro place mid _
  refine conduct.keeps_read ?_
  have rest (world : World) : conduct.keeps (do
      World.setLocation id place
      Engine.tell context ("Moved " ++ showId id ++ " to " ++ showId place ++ ".")) world :=
    conduct.binds (moves id place world controlled) fun _ mid _ => conduct.keeps_tellActor context _ mid
  dsimp only
  split
  · exact conduct.keeps_throw_bind _ _
  · exact rest mid

end Changes

section Events

variable (sends : engine.Sends conduct context.actor)

include sends

theorem keeps_ask (start : ThingId) (name : String) (args : List String) (world : World) :
    conduct.keeps (engine.ask context start name args) world := by
  refine conduct.binds (sends _ rfl rfl (.inl rfl) start _ world) ?_
  intro passed mid _
  split
  · exact conduct.keeps_throw _ mid
  · exact conduct.keeps_pure () mid

theorem keeps_announce (start : ThingId) (name format : String) (args : List String) (world : World) :
    conduct.keeps (engine.announce context start name format args) world :=
  conduct.binds (sends _ rfl rfl (.inl rfl) start _ world) fun _ mid _ => conduct.keeps_pure () mid

theorem keeps_go (line : Line)
    (moves : ∀ place world, conduct.keeps (Run.ofAct (World.setLocation context.actor place)) world)
    (looks : ∀ world, conduct.keeps (engine.dispatch context "look") world) :
    conduct.keeps (engine.go context line) world := by
  refine conduct.keeps_here fun here _ => conduct.keeps_read (conduct.keeps_given fun exit _ => ?_)
  dsimp only
  split
  · exact conduct.keeps_throw _ world
  · rename_i destination _
    refine conduct.binds (conduct.keeps_ask sends exit "go" _ world) ?_
    intro _ mid _
    refine conduct.binds (sends _ rfl rfl (.inl rfl) here _ mid) ?_
    intro _ mid _
    refine conduct.binds (moves destination mid) ?_
    intro _ mid _
    refine conduct.binds (sends _ rfl rfl (.inl rfl) destination _ mid) ?_
    exact fun _ mid _ => looks mid

theorem keeps_speak (name format : String) (line : Line) :
    conduct.keeps (engine.speak context name format line) world :=
  conduct.keeps_read (conduct.binds (sends _ rfl rfl (.inl rfl) _ _ world) fun _ mid _ => conduct.keeps_pure () mid)

theorem keeps_emitAround (line : Line) : conduct.keeps (engine.emitAround context line) world :=
  conduct.keeps_read (conduct.binds (sends _ rfl rfl (.inr rfl) _ _ world) fun _ mid _ => conduct.keeps_pure () mid)

theorem keeps_refuse (line : Line) : conduct.keeps (engine.refuse context line) world :=
  conduct.keeps_read (conduct.binds (conduct.keeps_emitFailure (Engine.informs_of_sends sends) _ _ _ _ _ _ world)
    fun failure mid _ => conduct.keeps_throw failure mid)

end Events

section Chains

variable (line : Line) (children : ∀ word result line world,
  conduct.keeps (engine.dispatch ((context.withResult result).child context.this word) line) world)
  (scripts : ∀ source, conduct.keeps
    (Run.ofAct (Script.run (Engine.scriptContext world context context.this line.texts) source)) world)

include children scripts

theorem keeps_script : conduct.keeps (engine.script context line) world :=
  conduct.binds (conduct.keeps_runScript (children "@script") (scripts line.rest)) fun _ mid _ => conduct.keeps_pure _ mid

theorem keeps_branch
    (branches : ∀ result line world, conduct.keeps (engine.dispatch (context.withResult result).deeper line) world) :
    conduct.keeps (engine.branch context line) world := by
  have runs (result : Option Script.Value) (line : String) (world : World) :
      conduct.keeps (engine.runBranch (context.withResult result) line) world :=
    conduct.binds (branches result line world) fun _ mid _ => conduct.keeps_pure _ mid
  rw [Engine.branch]
  split
  · exact conduct.keeps_throw _ world
  · rename_i chosen _
    refine conduct.binds (conduct.keeps_runScript (children "@if") (scripts chosen.condition)) ?_
    rintro ⟨value, _⟩ mid _
    dsimp only
    split
    · exact runs (some value) chosen.yes mid
    · split
      · exact runs context.result _ mid
      · exact conduct.keeps_pure _ mid

end Chains

section Items

-- What lies here and does not hear may be taken.
theorem keeps_take (line : Line)
    (takes : ∀ here item name, world.location? context.actor = some here → item ∈ world.contents here →
      item ≠ context.actor → world.hasListener item = false →
      conduct.keeps (do
        engine.ask context item "get" [name]
        World.setLocation item context.actor
        engine.announce context here "get" Engine.Announcement.get [name]) world) :
    conduct.keeps (engine.take context line) world := by
  refine conduct.keeps_here fun here place => conduct.keeps_read (conduct.keeps_given fun item matched => ?_)
  have lies := List.mem_filter.mp (World.mem_of_matched matched)
  dsimp only
  split
  · exact conduct.keeps_throw_bind _ _
  · rename_i unheard
    exact takes here item _ place lies.1 (by simpa using lies.2) (Bool.not_eq_true _ ▸ unheard)

-- What the actor holds may be dropped where it is.
theorem keeps_drop (line : Line)
    (drops : ∀ here item name, world.location? context.actor = some here → item ∈ world.contents context.actor →
      conduct.keeps (do
        engine.ask context item "drop" [name]
        World.setLocation item here
        engine.announce context here "drop" Engine.Announcement.drop [name]) world) :
    conduct.keeps (engine.drop context line) world := by
  refine conduct.keeps_here fun here place => conduct.keeps_read (conduct.keeps_given fun item matched => ?_)
  exact drops here item _ place (World.mem_of_matched matched)

end Items

end Conduct
end ThingWorld
