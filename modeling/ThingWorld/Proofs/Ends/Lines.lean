import ThingWorld.Proofs.Course.Sound
import ThingWorld.Proofs.Ends.Walks
import ThingWorld.Proofs.Turns.Playing
import ThingWorld.Proofs.Upkeep.Opened
namespace ThingWorld

-- Whether a line comes to `@tick`, or to a verb that makes more things than there are ids left for. What it comes to is
-- told by limits and registry, which stay what they are in `start`.
def World.bars (start world : World) (context : Context) (text : String) : Bool :=
  match start.verbOf? context text with
  | some verb => verb == .tick || !decide (world.Affords (verb.takes world))
  | none => false

theorem World.affords_of_unbarred {start world : World} {context : Context} {text : String}
    (free : start.bars world context text = false) {verb : Verb} (comes : start.verbOf? context text = some verb) :
    verb ≠ .tick ∧ ∀ less ≤ verb.takes world, world.Affords less := by
  rw [bars, comes] at free
  simp only [Bool.or_eq_false_iff, Bool.not_eq_false', decide_eq_true_eq, beq_eq_false_iff_ne] at free
  exact ⟨free.1, fun less fewer => affords_less free.2 fewer⟩

namespace Engine

-- The engine that does `other` where a line is barred.
def instead (start : World) (other : Context → Run (Option Script.Value)) : Nat → Engine
  | 0 => .spent
  | fuel + 1 =>
    ⟨fuel, fun context text => do
      if start.bars (← get) context text then other context
      else dispatchLine (instead start other fuel) context text⟩

-- The fuel that a line of that depth can use up where there is so much room.
def needed (limit room depth : Nat) : Nat :=
  2 * (room * (limit + 2) + (limit + 1 - depth)) + World.walkFuel + 3

theorem needed_deeper (room : Nat) {limit depth : Nat} (shallow : depth ≤ limit) :
    needed limit room (depth + 1) + 2 ≤ needed limit room depth := by
  rw [needed, needed]
  omega

theorem needed_reaction {less room : Nat} (fewer : less < room) (limit depth : Nat) :
    needed limit less 1 + 2 ≤ needed limit room depth := by
  have lines : (less + 1) * (limit + 2) ≤ room * (limit + 2) := Nat.mul_le_mul_right _ fewer
  rw [Nat.add_one_mul] at lines
  rw [needed, needed]
  omega

section Reactions

variable {start : World} {room : Nat} {admin : Bool} {engine : Engine}
  (reactions : ∀ admin less, less < room → engine.Carries (.ending start less) admin 1)

include reactions

theorem ends_reaction {world : World} (confined : start.Confined room world) (pace : Pace)
    (taken : (world.pace pace).room < world.room) (id : ThingId) (event : Event) (template : String) :
    ∃ result last, (engine.runReaction id event template).run (world.pace pace) = some (result, last) ∧
      start.Confined (room - 1) last := by
  have fewer : (world.pace pace).room < room := Nat.lt_of_lt_of_le taken confined.room
  have left : start.Confined (room - 1) (world.pace pace) :=
    ⟨confined.limits, confined.registry, Nat.le_sub_one_of_lt fewer⟩
  have carries := reactions ((world.pace pace).flag id Property.admin) (room - 1) (Nat.sub_one_lt_of_lt fewer)
  exact keeps_runReaction carries event template left

theorem ends_react (id : ThingId) (event : Event) (world : World) :
    Ends start room (engine.react id event) world := by
  cases found : reactionTemplate? world id event with
  | none => exact ends_quiet (run_unheard found) (World.quiet_refl world)
  | some template =>
    intro confined
    rw [run_react found]
    cases reacted : world.schedule.hasReacted id with
    | true =>
      refine ⟨_, _, rfl, confined.limits, confined.registry, ?_⟩
      rw [World.room_park]
      exact confined.room
    | false =>
      have taken := World.room_claim (World.contains_of_listens ⟨template, found⟩) reacted
      obtain ⟨result, last, ran, left⟩ := ends_reaction reactions confined _ taken id event template
      exact ⟨result, last, ran, left.limits, left.registry, left.room.trans (Nat.sub_le room 1)⟩

theorem ends_reactToCheck (id : ThingId) (event : Event) (world : World) :
    Ends start room (engine.reactToCheck id event) world := by
  cases found : reactionTemplate? world id event with
  | none => exact ends_quiet (run_unasked found) (World.quiet_refl world)
  | some template =>
    intro confined
    rw [run_reactToCheck found]
    cases checking : world.schedule.isChecking id with
    | true => exact ⟨_, _, rfl, confined⟩
    | false =>
      have taken := World.room_startCheck (World.contains_of_listens ⟨template, found⟩) checking
      obtain ⟨result, last, ran, left⟩ := ends_reaction reactions confined _ taken id event template
      refine ⟨result, last.pace (.endCheck id), congrArg (Option.map _) ran, left.limits, left.registry, ?_⟩
      have given := World.room_endCheck id last
      have most := left.room
      have spent := Nat.lt_of_lt_of_le taken confined.room
      omega

theorem upholds_ending (enough : World.walkFuel ≤ engine.steps) : engine.Upholds (.ending start room) admin where
  walks each := ((Discipline.ending start room).conduct admin).roams_of_enough enough each
  reacts := ends_react reactions
  checks := ends_reactToCheck reactions

variable (enough : World.walkFuel ≤ engine.steps) (context : Context)
  (carries : engine.Carries (.ending start room) context.admin (context.depth + 1))

include enough carries

theorem ends_line {text : String} {world : World} (free : start.bars world context text = false)
    (looks : start.verbOf? context text = some .go → ∀ world, Ends start room (engine.dispatch context "look") world) :
    Ends start room (engine.dispatchLine context text) world := by
  intro confined
  have same : world.verbOf? context text = start.verbOf? context text := by
    rw [World.verbOf?, World.verbOf?, confined.limits, confined.registry]
  refine keeps_dispatchLine context carries (upholds_ending reactions enough) text world ?_ ?_ ?_ confined
  · exact fun verb comes => (World.affords_of_unbarred free (same.symm.trans comes)).2
  · exact fun go => looks (same.symm.trans go)
  · exact fun tick => absurd rfl (World.affords_of_unbarred free (same.symm.trans tick)).1

end Reactions

theorem ends_tooDeep {start : World} {room : Nat} {context : Context} (engine : Engine)
    (deep : start.limits.substitutionDepth < context.depth) (text : String) (world : World) :
    Ends start room (engine.dispatchLine context text) world := by
  intro confined
  have exceeds : world.limits.substitutionDepth < context.depth := confined.limits ▸ deep
  have refused : (Discipline.ending start room).keeps context.admin (engine.dispatchLine context text) world := by
    refine keeps_read ?_
    dsimp only
    rw [if_pos exceeds]
    exact keeps_throw_bind _ _
  exact refused confined

-- The lines that look around do not go anywhere.
theorem looks_stay {start : World} (looks : ∀ spec, start.registry["look"]? = some spec → spec.verb ≠ .go)
    (context : Context) : start.verbOf? context "look" ≠ some .go := by
  intro goes
  have word : (Line.parse (normalizeLine "look")).verb? = some "look" := by decide +kernel
  have lower : Text.lower "look" = "look" := by decide +kernel
  rw [World.verbOf?, word, Option.bind_some, lower] at goes
  split at goes
  · cases goes
  · obtain ⟨spec, known, verb⟩ := Option.bind_eq_some_iff.mp goes
    split at verb
    · exact looks spec known (Option.some.inj verb)
    · cases verb

section Fuel

variable {start : World} {other : Context → Run (Option Script.Value)}
  (ends : ∀ room context world, Ends start room (other context) world)
  (looks : ∀ spec, start.registry["look"]? = some spec → spec.verb ≠ .go)

include ends looks

-- The induction is on the fuel; a line that goes somewhere uses two units for the line that looks around there.
theorem ends_instead (fuel : Nat) : ∀ (room depth : Nat) (admin : Bool),
    needed start.limits.substitutionDepth room depth ≤ fuel →
      (instead start other fuel).Carries (.ending start room) admin depth := by
  induction fuel using Nat.strong_induction_on with
  | _ fuel ih =>
    intro room depth admin enough context text world _ atDepth
    subst atDepth
    obtain ⟨less, rfl⟩ : ∃ less, fuel = less + 3 := Nat.exists_eq_add_of_le' ((Nat.le_add_left 3 _).trans enough)
    have walks : World.walkFuel ≤ less := by
      rw [needed] at enough
      omega
    have reactions (fuel : Nat) (below : fuel < less + 3) (close : less < fuel) (admin : Bool) (left : Nat)
        (fewer : left < room) : (instead start other fuel).Carries (.ending start left) admin 1 := by
      refine ih fuel below left 1 admin ?_
      have cost := needed_reaction fewer start.limits.substitutionDepth context.depth
      omega
    refine ends_read ?_
    split
    · exact ends room context world
    · rename_i unbarred
      rcases Nat.lt_or_ge start.limits.substitutionDepth context.depth with deep | shallow
      · exact ends_tooDeep _ deep text world
      · have deeper (fuel : Nat) (below : fuel < less + 3) (close : less < fuel) :
            (instead start other fuel).Carries (.ending start room) context.admin (context.depth + 1) := by
          refine ih fuel below room (context.depth + 1) context.admin ?_
          have cost := needed_deeper room shallow
          omega
        refine ends_line (reactions (less + 2) (by omega) (by omega)) (Nat.le_succ_of_le walks) context
          (deeper (less + 2) (by omega) (by omega)) (Bool.eq_false_of_not_eq_true unbarred) fun _ world => ?_
        refine ends_read ?_
        split
        · exact ends room context world
        · rename_i unbarred
          refine ends_line (reactions (less + 1) (by omega) (by omega)) walks context
            (deeper (less + 1) (by omega) (by omega)) (Bool.eq_false_of_not_eq_true unbarred) ?_
          exact fun goes => absurd goes (looks_stay looks context)

end Fuel

section Ticks

variable {start : World} {engine : Engine}
  (carries : ∀ admin, engine.Carries (.ending start World.mostRoom) admin 1)

theorem ends_dueReaction (due : Due) (world : World) :
    Ends start World.mostRoom (Run.ofAct (dueReaction due)) world := by
  intro confined
  have kept : ((dueReaction due).run world).2.limits = world.limits ∧
      ((dueReaction due).run world).2.registry = world.registry := by
    rw [run_dueReaction]
    split
    · split
      · exact ⟨rfl, rfl⟩
      · split
        · cases due.isTick <;> exact ⟨rfl, rfl⟩
        · exact ⟨rfl, rfl⟩
    · exact ⟨rfl, rfl⟩
  exact ⟨_, _, rfl, kept.1.trans confined.limits, kept.2.trans confined.registry, World.room_le _⟩

include carries

-- All turns are given back before the first reaction, and there is never more room than that.
theorem ends_tick (world : World) : Ends start World.mostRoom engine.tick world := by
  have reacts (id : ThingId) (event : Event) (template : String) (world : World) :
      Ends start World.mostRoom (engine.runReaction id event template) world :=
    keeps_runReaction (carries (world.flag id Property.admin)) event template
  have advances (world : World) : Ends start World.mostRoom (Run.ofAct startTick) world :=
    fun confined => ⟨_, _, rfl, confined.limits, confined.registry, World.room_le _⟩
  have ticks : (Discipline.ending start World.mostRoom).keeps false engine.tick world :=
    keeps_tick reacts advances ends_dueReaction world
  exact ticks

end Ticks

theorem unbarred_of_known {verb : Verb} (known : verb ∉ [.create, .copy, .link, .tick]) (world : World) :
    (verb == .tick || !decide (world.Affords (verb.takes world))) = false := by
  have none : world.Affords 0 := world.info.nextId.toNat_lt
  cases verb with
  | create => simp at known
  | copy => simp at known
  | link => simp at known
  | tick => simp at known
  | _ => exact Bool.or_eq_false_iff.mpr ⟨rfl, (congrArg Bool.not (decide_eq_true none)).trans rfl⟩

-- Where the registry knows no such verbs, no line is barred.
theorem instead_unbarred {start : World} (known : ∀ spec ∈ start.registry.specs, spec.verb ∉ [.create, .copy, .link, .tick])
    (other : Context → Run (Option Script.Value)) (fuel : Nat) : instead start other fuel = ofFuel fuel := by
  have never (world : World) (context : Context) (text : String) : start.bars world context text = false := by
    rw [World.bars]
    split
    · rename_i verb comes
      rw [World.verbOf?] at comes
      split at comes
      · cases comes
      · obtain ⟨spec, found, verb⟩ := Option.bind_eq_some_iff.mp comes
        obtain ⟨word, _, found⟩ := Option.bind_eq_some_iff.mp found
        split at verb
        · cases verb
          exact unbarred_of_known (known spec ((Index.mem_values _ spec).mpr ⟨_, found⟩)) world
        · cases verb
    · rfl
  induction fuel with
  | zero => rfl
  | succ fuel ih =>
    have lines : (fun context text => do
        if start.bars (← get) context text then other context
        else dispatchLine (instead start other fuel) context text) =
          fun context text => dispatchLine (ofFuel fuel) context text := by
      funext context text world
      show (if start.bars world context text then other context
        else dispatchLine (instead start other fuel) context text).run world = _
      rw [never world context text, ih]
      rfl
    exact congrArg (Engine.mk fuel) lines

end Engine

namespace World

-- A typed line, and a tick, where `other` is done wherever it would come to `@tick`.
def commandInstead (other : Context → Run (Option Script.Value)) (actor : ThingId) (text : String) : Run Unit := do
  let start ← get
  reporting actor do
    (Engine.instead start other (← get).fuel).dispatch (Context.of actor (start.isAdmin actor)) text

def tickInstead (other : Context → Run (Option Script.Value)) : Run Engine.TickOutcome := do
  let start ← get
  (Engine.instead start other start.fuel).tick

variable {start : World} {other : Context → Run (Option Script.Value)}
  (ends : ∀ room context world, Ends start room (other context) world)
  (looks : ∀ spec, start.registry["look"]? = some spec → spec.verb ≠ .go)

theorem fuel_suffices {world : World} (limits : world.limits = start.limits) {depth : Nat} :
    Engine.needed start.limits.substitutionDepth mostRoom depth ≤ world.fuel := by
  rw [Engine.needed, fuel, limits, mostRoom]
  omega

include ends looks

theorem ends_commandInstead (actor : ThingId) (text : String) :
    ∃ result last, (commandInstead other actor text).run start = some (result, last) := by
  have line (world : World) : (Discipline.ending start mostRoom).keeps (start.isAdmin actor) (do
      (Engine.instead start other (← get).fuel).dispatch (Context.of actor (start.isAdmin actor)) text) world := by
    refine keeps_read fun confined => ?_
    have carries : (Engine.instead start other world.fuel).Carries (.ending start mostRoom) (start.isAdmin actor) 0 :=
      Engine.ends_instead ends looks world.fuel mostRoom 0 _ (fuel_suffices confined.limits)
    exact carries (Context.of actor (start.isAdmin actor)) text world rfl rfl confined
  have whole : (Discipline.ending start mostRoom).keeps (start.isAdmin actor) (commandInstead other actor text) start :=
    keeps_read (keeps_reporting line actor start)
  obtain ⟨result, last, ran, _⟩ := whole start.confined_self
  exact ⟨result, last, ran⟩

theorem ends_tickInstead : ∃ result last, (tickInstead other).run start = some (result, last) := by
  have carries (admin : Bool) : (Engine.instead start other start.fuel).Carries (.ending start mostRoom) admin 1 :=
    Engine.ends_instead ends looks start.fuel mostRoom 1 admin (fuel_suffices rfl)
  have whole : (Discipline.ending start mostRoom).keeps false (tickInstead other) start :=
    keeps_read (Engine.ends_tick carries start)
  obtain ⟨result, last, ran, _⟩ := whole start.confined_self
  exact ⟨result, last, ran⟩

omit ends looks

theorem commandInstead_unbarred (known : ∀ spec ∈ start.registry.specs, spec.verb ∉ [.create, .copy, .link, .tick])
    (other : Context → Run (Option Script.Value)) (actor : ThingId) (text : String) :
    (commandInstead other actor text).run start = (command actor text).run start := by
  have same (context : Context) :
      (fun world : World => (Engine.instead start other world.fuel).dispatch context text) =
        fun world => world.engine.dispatch context text := by
    funext world
    rw [Engine.instead_unbarred known, engine]
  rw [commandInstead, Run.run_bind, Run.run_get, command, Run.run_bind, Run.run_get]
  dsimp only
  rw [same, dispatch]

theorem tickInstead_unbarred (known : ∀ spec ∈ start.registry.specs, spec.verb ∉ [.create, .copy, .link, .tick])
    (other : Context → Run (Option Script.Value)) : (tickInstead other).run start = tick.run start := by
  rw [tickInstead, Run.run_bind, Run.run_get, tick, Run.run_bind, Run.run_get]
  dsimp only
  rw [Engine.instead_unbarred known, engine]

-- Two parrots that say whatever they hear, and a registry that neither makes things nor ticks.
def parrots : Run Unit :=
  (Operation.create "polly" "").run >>= fun polly => (Operation.create "jack" "").run >>= fun jack =>
    inTurn [.setLocation polly 6, .setLocation jack 6, .setProperty polly "react_say" (.text "say $1"),
      .setProperty jack "react_say" (.text "say $1"), .react jack ⟨0, "say", ["hello"]⟩]

def stillRegistry : Registry :=
  .ofSpecs (Registry.standardSpecs.filter fun spec => !([.create, .copy, .link, .tick] : List Verb).contains spec.verb)

end World
end ThingWorld
