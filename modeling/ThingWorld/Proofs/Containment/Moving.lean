import ThingWorld.Proofs.Containment.Nesting
import ThingWorld.Proofs.Course.Line
import ThingWorld.Proofs.Checks.Locked
import ThingWorld.Proofs.Speech.Unanswered
import ThingWorld.Proofs.Upkeep.Reached
namespace ThingWorld

-- The run ends, well or not, in a world of that kind.
def Leaves {α : Type} (steps : Run α) (world : World) (kind : World → Prop) : Prop :=
  ∃ result last, steps.run world = some (result, last) ∧ kind last

section Leaving

variable {α β : Type} {world mid : World} {kind : World → Prop}

theorem leaves_after {x : Run α} {f : α → Run β} {a : α} (ran : x.run world = some (.ok a, mid))
    (rest : Leaves (f a) mid kind) : Leaves (x >>= f) world kind := by
  obtain ⟨result, last, ran', fits⟩ := rest
  refine ⟨result, last, ?_, fits⟩
  rw [Run.run_bind, ran]
  exact ran'

theorem leaves_stopped {x : Run α} {f : α → Run β} {failure : Failure} (ran : x.run world = some (.error failure, mid))
    (fits : kind mid) : Leaves (x >>= f) world kind := by
  refine ⟨.error failure, mid, ?_, fits⟩
  rw [Run.run_bind, ran]

theorem leaves_then {x : Run α} {b : β} (first : Leaves x world kind) :
    Leaves (x >>= fun _ => pure b) world kind := by
  obtain ⟨result, last, ran, fits⟩ := first
  cases result with
  | ok a => exact leaves_after ran ⟨_, _, rfl, fits⟩
  | error failure => exact leaves_stopped ran fits

theorem leaves_read {f : World → Run β} (rest : Leaves (f world) world kind) : Leaves (get >>= f) world kind :=
  leaves_after rfl rest

theorem leaves_mono {x : Run α} {other : World → Prop} (leaves : Leaves x world kind)
    (implies : ∀ last, kind last → other last) : Leaves x world other := by
  obtain ⟨result, last, ran, fits⟩ := leaves
  exact ⟨result, last, ran, implies last fits⟩

end Leaving

namespace World

variable {world mid : World} {id place : ThingId}

-- Nothing happened to things.
def Untouched (world last : World) : Prop :=
  last.things = world.things

theorem revise_things_same (things : mid.things = world.things) (id : ThingId) (f : Thing → Thing) :
    (mid.revise id f).things = (world.revise id f).things :=
  Std.ExtTreeMap.ext_getElem? fun other => by rw [revise_things, revise_things, things]

theorem moved_same {last after : World} (things : mid.things = world.things) (kept : after.things = last.things)
    (moved : Moved mid last id place) : Moved world after id place :=
  kept.trans (moved.trans (revise_things_same things id _))

theorem revise_missing (missing : world.contains id = false) (f : Thing → Thing) :
    (world.revise id f).things = world.things := by
  have absent : world.things[id]? = none := Std.ExtTreeMap.getElem?_eq_none fun held =>
    Bool.noConfusion (missing.symm.trans (Std.ExtTreeMap.mem_iff_contains.mp held))
  refine Std.ExtTreeMap.ext_getElem? fun other => ?_
  rw [revise_things]
  by_cases same : other = id
  · rw [same, absent]
    rfl
  · simp [same]

theorem run_setLocation (inside : world.inScope = true) (id place : ThingId) :
    (liftM (setLocation id place) : Run Unit).run world =
      some (if world.contains id then (.ok (), world.revise id (Change.point Relation.location place false).apply)
        else (.error (missing id), world)) :=
  congrArg some ((Act.run_joined inside _).trans
    (run_revise id (Change.point Relation.location place false).apply () world))

-- What is moved is taken to its place, if it is there. What follows does nothing more to things.
theorem leaves_setLocation {β : Type} {rest : Run β} (inside : mid.inScope = true) (same : Untouched world mid)
    (onward : ∀ last, last.registry = mid.registry → last.limits = mid.limits →
      (∀ name, mid.Unanswered name → last.Unanswered name) → Leaves rest last last.Untouched) :
    Leaves (do liftM (setLocation id place); rest) mid fun last => Moved world last id place := by
  have ran := run_setLocation inside id place
  cases held : mid.contains id with
  | true =>
    rw [held, if_pos rfl] at ran
    obtain ⟨_, _, _, revised⟩ := revise_same id (Change.point Relation.location place false).apply mid
    have moved : Moved world (mid.revise id (Change.point Relation.location place false).apply) id place :=
      revise_things_same same id (Change.point Relation.location place false).apply
    refine leaves_after ran (leaves_mono (onward _ (by rw [revised]) (by rw [revised]) ?_) fun last kept => kept.trans moved)
    intro name unanswered other thing found
    rw [revise_things] at found
    obtain ⟨before, there, rfl⟩ := Option.map_eq_some_iff.mp found
    split
    · exact unanswered other before there
    · exact unanswered other before there
  | false =>
    rw [held, if_neg Bool.false_ne_true] at ran
    refine leaves_stopped ran (same.trans (revise_missing ?_ _).symm)
    rw [← contains_same same, held]

end World

namespace Engine

open World (Untouched)

variable {engine : Engine} {context : Context} {world mid : World} {line : Line} {verb : Verb} {id place : ThingId}

theorem leaves_tell (context : Context) (text : String) (world : World) :
    Leaves (Engine.tell context text) world world.Untouched :=
  ⟨_, _, rfl, World.tell_things context.actor text world⟩

section Sending

variable (enough : World.walkFuel ≤ engine.steps)

include enough

theorem run_sends (emission : Emission) (unanswered : world.Unanswered emission.event.name) (sent : emission.failed = false)
    (unfollowed : emission.onSuccess = none) (start : ThingId) (exclude : List ThingId) :
    ∃ heard, (engine.emit start emission exclude).run world = some (.ok true, { world with heard := heard }) := by
  obtain ⟨order, _, _, ran⟩ := run_emit emission enough unanswered sent unfollowed start exclude
  obtain ⟨heard, same⟩ := overheard_same emission order world
  exact ⟨heard, same ▸ ran⟩

section Asking

variable {name : String} (unanswered : world.Unanswered name)

include unanswered

theorem run_ask (context : Context) (start : ThingId) (args : List String) :
    ∃ heard, (engine.ask context start name args).run world = some (.ok (), { world with heard := heard }) := by
  obtain ⟨heard, ran⟩ := run_sends enough (Emission.of ⟨context.actor, name, args⟩).asCheck unanswered rfl rfl start
    [context.actor]
  refine ⟨heard, ?_⟩
  rw [ask, Run.run_bind, ran]
  rfl

theorem leaves_announce (start : ThingId) (format : String) (args : List String) :
    Leaves (engine.announce context start name format args) world world.Untouched := by
  obtain ⟨heard, ran⟩ := run_sends enough ((Emission.of ⟨context.actor, name, args⟩).saying format).silently unanswered rfl
    rfl start []
  exact leaves_after ran ⟨_, _, rfl, rfl⟩

end Asking

-- What is asked first, then taken to its place and spoken of, does nothing else to things.
theorem leaves_carry {name : String} (inside : world.inScope = true) (unanswered : world.Unanswered name)
    (item place here : ThingId) (format : String) (args told : List String) :
    Leaves (do
        engine.ask context item name args
        liftM (World.setLocation item place)
        engine.announce context here name format told)
      world fun last => World.Moved world last item place := by
  obtain ⟨heard, asked⟩ := run_ask enough unanswered context item args
  refine leaves_after asked (World.leaves_setLocation inside (show Untouched world _ from rfl) fun last _ _ still => ?_)
  exact leaves_announce enough (still name unanswered) here format told

end Sending

section Finding

variable {β : Type} {kind : World → Prop}

theorem leaves_currentRoom {f : ThingId → Run β} (nowhere : world.location? context.actor = none → kind world)
    (placed : ∀ here, world.location? context.actor = some here → Leaves (f here) world kind) :
    Leaves (currentRoom context >>= f) world kind := by
  cases located : world.location? context.actor with
  | some here => exact leaves_after (run_currentRoom located) (placed here located)
  | none =>
    have nothing : (currentRoom context).run world = some (.error (.invalidCommand "you are nowhere"), world) := by
      rw [currentRoom, Run.run_bind, Run.run_get]
      dsimp only
      rw [located]
      rfl
    exact leaves_stopped nothing (nowhere located)

theorem leaves_ofExcept {α : Type} {found : Except Failure α} {f : α → Run β} (fails : (∀ a, found ≠ .ok a) → kind world)
    (gives : ∀ a, found = .ok a → Leaves (f a) world kind) : Leaves (Run.ofExcept found >>= f) world kind := by
  cases found with
  | ok a => exact leaves_after rfl (gives a rfl)
  | error failure => exact leaves_stopped rfl (fails nofun)

theorem toExcept_ok {resolution : Resolution} {reference : String} :
    resolution.toExcept reference = .ok id ↔ resolution = .found id := by
  cases resolution <;> simp [Resolution.toExcept]

theorem leaves_resolve {reference : String} {f : ThingId → Run β}
    (unknown : (∀ id, world.resolveOne context.view reference ≠ .ok id) → kind world)
    (known : ∀ id, world.resolveOne context.view reference = .ok id → Leaves (f id) world kind) :
    Leaves (resolve context reference >>= f) world kind := by
  rw [resolve, bind_assoc]
  exact leaves_read (leaves_ofExcept unknown known)

end Finding

section Carrying

-- What the line moves was moved, or it moves nothing.
def Carried (world : World) (context : Context) (line : Line) (verb : Verb) (last : World) : Prop :=
  (∃ id place, Moves world context line verb id place ∧ World.Moved world last id place) ∨
    (∀ id place, ¬Moves world context line verb id place) ∧ Untouched world last

theorem carried_nothing (nothing : ∀ id place, ¬Moves world context line verb id place) :
    Carried world context line verb world :=
  .inr ⟨nothing, rfl⟩

theorem carried_of_moved {last : World} (moves : Moves world context line verb id place)
    (moved : World.Moved world last id place) : Carried world context line verb last :=
  .inl ⟨id, place, moves, moved⟩

variable (inside : world.inScope = true)

include inside

theorem carries_move : Leaves (engine.perform context .move line) world (Carried world context line .move) := by
  refine leaves_then (leaves_resolve (fun unknown => carried_nothing ?_) fun id meant => ?_)
  · rintro id place ⟨⟩
    exact unknown id ‹_›
  by_cases controlled : context.controls id = true
  · rw [requireControl, if_pos controlled]
    refine leaves_after rfl (leaves_resolve (fun unknown => carried_nothing ?_) fun place meant' => leaves_read ?_)
    · rintro id place ⟨⟩
      exact unknown place ‹_›
    · cases nests : (world.connected id).contains place with
      | true =>
        rw [if_pos rfl]
        refine leaves_stopped rfl (carried_nothing ?_)
        rintro other place' (_ | _ | _ | ⟨meant₁, _, meant₂, apart⟩)
        obtain rfl := Except.ok.inj (meant.symm.trans meant₁)
        obtain rfl := Except.ok.inj (meant'.symm.trans meant₂)
        exact Bool.noConfusion (nests.symm.trans apart)
      | false =>
        rw [if_neg Bool.false_ne_true]
        refine leaves_mono (World.leaves_setLocation inside rfl fun last _ _ _ => leaves_tell context _ last)
          fun last => carried_of_moved (.move meant controlled meant' nests)
  · rw [requireControl, if_neg controlled]
    refine leaves_stopped rfl (carried_nothing ?_)
    rintro other place (_ | _ | _ | ⟨meant₁, controlled', _, _⟩)
    obtain rfl := Except.ok.inj (meant.symm.trans meant₁)
    exact controlled controlled'

variable (enough : World.walkFuel ≤ engine.steps) (unanswered : ∀ name, world.Unanswered name)

include enough unanswered

theorem carries_drop : Leaves (engine.perform context .drop line) world (Carried world context line .drop) := by
  refine leaves_then (leaves_currentRoom (fun nowhere => carried_nothing ?_) fun here located => leaves_read ?_)
  · rintro id place (_ | _ | ⟨located, _⟩ | _)
    exact Option.some_ne_none _ (located.symm.trans nowhere)
  refine leaves_ofExcept (fun unknown => carried_nothing ?_) fun item meant => ?_
  · rintro id place (_ | _ | ⟨_, meant⟩ | _)
    exact unknown id (toExcept_ok.mpr meant)
  exact leaves_mono (leaves_carry enough inside (unanswered "drop") item here here _ _ _)
    fun last => carried_of_moved (.drop located (toExcept_ok.mp meant))

theorem carries_get : Leaves (engine.perform context .get line) world (Carried world context line .get) := by
  refine leaves_then (leaves_currentRoom (fun nowhere => carried_nothing ?_) fun here located => leaves_read ?_)
  · rintro id place (_ | ⟨located, _⟩ | _ | _)
    exact Option.some_ne_none _ (located.symm.trans nowhere)
  refine leaves_ofExcept (fun unknown => carried_nothing ?_) fun item meant => ?_
  · rintro id place (_ | ⟨located', meant, _⟩ | _ | _)
    obtain rfl := Option.some.inj (located.symm.trans located')
    exact unknown id (toExcept_ok.mpr meant)
  cases listens : world.hasListener item with
  | true =>
    rw [if_pos rfl]
    refine leaves_stopped rfl (carried_nothing ?_)
    rintro id place (_ | ⟨located', meant', unheard⟩ | _ | _)
    obtain rfl := Option.some.inj (located.symm.trans located')
    obtain rfl := Resolution.found.inj ((toExcept_ok.mp meant).symm.trans meant')
    exact Bool.noConfusion (listens.symm.trans unheard)
  | false =>
    rw [if_neg Bool.false_ne_true]
    exact leaves_mono (leaves_carry enough inside (unanswered "get") item context.actor here _ _ _)
      fun last => carried_of_moved (.get located (toExcept_ok.mp meant) listens)

theorem carries_go (looks : ∀ mid : World, mid.registry = world.registry → mid.limits = world.limits →
      Leaves (engine.dispatch context "look") mid mid.Untouched) :
    Leaves (engine.perform context .go line) world (Carried world context line .go) := by
  refine leaves_currentRoom (fun nowhere => carried_nothing ?_) fun here located => leaves_read ?_
  · rintro id place (⟨located, _, _⟩ | _ | _ | _)
    exact Option.some_ne_none _ (located.symm.trans nowhere)
  refine leaves_ofExcept (fun unknown => carried_nothing ?_) fun exit meant => ?_
  · rintro id place (⟨located', meant, _⟩ | _ | _ | _)
    obtain rfl := Option.some.inj (located.symm.trans located')
    exact unknown _ (toExcept_ok.mpr meant)
  cases leads : world.destination? exit with
  | none =>
    refine ⟨_, _, rfl, carried_nothing ?_⟩
    rintro id place (⟨located', meant', leads'⟩ | _ | _ | _)
    obtain rfl := Option.some.inj (located.symm.trans located')
    obtain rfl := Resolution.found.inj ((toExcept_ok.mp meant).symm.trans meant')
    exact Option.some_ne_none _ (leads'.symm.trans leads)
  | some destination =>
    obtain ⟨heard, asked⟩ := run_ask enough (unanswered "go") context exit [world.nameOf exit]
    refine leaves_after asked ?_
    have asked' : ({ world with heard := heard } : World).Unanswered "leave" := unanswered "leave"
    obtain ⟨heard', left⟩ := run_sends enough
      ((Emission.of ⟨context.actor, "leave", [world.nameOf exit]⟩).saying Announcement.leave) asked' rfl rfl here
      [context.actor]
    refine leaves_after left ?_
    refine leaves_mono (World.leaves_setLocation inside (show Untouched world _ from rfl) fun last registry limits still => ?_)
      fun last => carried_of_moved (.go located (toExcept_ok.mp meant) leads)
    obtain ⟨heard'', arrived⟩ := run_sends enough
      ((Emission.of ⟨context.actor, "arrive", []⟩).saying Announcement.arrive) (still "arrive" (unanswered "arrive"))
      rfl rfl destination [context.actor]
    exact leaves_after arrived (looks _ registry limits)

end Carrying

theorem moves_unique {id' place' : ThingId} (moves : Moves world context line verb id place)
    (moves' : Moves world context line verb id' place') : id = id' ∧ place = place' := by
  cases moves with
  | go located meant leads =>
    obtain ⟨located', meant', leads'⟩ | _ | _ | _ := moves'
    obtain rfl := Option.some.inj (located.symm.trans located')
    obtain rfl := Resolution.found.inj (meant.symm.trans meant')
    exact ⟨rfl, Option.some.inj (leads.symm.trans leads')⟩
  | get located meant _ =>
    obtain _ | ⟨located', meant', _⟩ | _ | _ := moves'
    obtain rfl := Option.some.inj (located.symm.trans located')
    exact ⟨Resolution.found.inj (meant.symm.trans meant'), rfl⟩
  | drop located meant =>
    obtain _ | _ | ⟨located', meant'⟩ | _ := moves'
    exact ⟨Resolution.found.inj (meant.symm.trans meant'), Option.some.inj (located.symm.trans located')⟩
  | move meant _ there _ =>
    obtain _ | _ | _ | ⟨meant', _, there', _⟩ := moves'
    exact ⟨Except.ok.inj (meant.symm.trans meant'), Except.ok.inj (there.symm.trans there')⟩

theorem moves_same (things : mid.things = world.things) (index : mid.index = world.index) (info : mid.info = world.info)
    (listeners : mid.listeners = world.listeners) (moves : Moves mid context line verb id place) :
    Moves world context line verb id place := by
  cases moves with
  | go located meant leads =>
    rw [World.location_same things] at located
    rw [World.links_same things index, World.matchAmong_same things] at meant
    exact .go located meant (World.destination_same things _ ▸ leads)
  | get located meant unheard =>
    rw [World.location_same things] at located
    rw [World.contents_same things index, World.matchAmong_same things] at meant
    rw [World.hasListener, listeners] at unheard
    exact .get located meant unheard
  | drop located meant =>
    rw [World.location_same things] at located
    rw [World.contents_same things index, World.matchAmong_same things] at meant
    exact .drop located meant
  | move meant controlled there apart =>
    rw [World.resolveOne_same things index info] at meant there
    rw [World.connected_same things index] at apart
    exact .move meant controlled there apart

theorem leaves_look (standard : world.registry = .standard) (shallow : context.depth ≤ world.limits.substitutionDepth) :
    Leaves (engine.dispatchLine context "look") world world.Untouched := by
  have parsed : (Line.parse (normalizeLine "look")).verb? = some "look" ∧
      (Line.parse (normalizeLine "look")).args.isEmpty = true ∧ Text.lower "look" = "look" ∧
      (Registry.standard["look"]?.any fun spec => spec.verb == .look && !spec.adminOnly && spec.minArgs == 0) = true := by
    decide +kernel
  obtain ⟨verb, alone, lower, listed⟩ := parsed
  obtain ⟨spec, known, looks⟩ := (Option.any_eq_true _ _).mp listed
  simp only [Bool.and_eq_true, Bool.not_eq_true', beq_iff_eq] at looks
  obtain ⟨⟨looks, free⟩, few⟩ := looks
  have unrefused : verbRefusal? context spec (Line.parse (normalizeLine "look")) = none := by
    rw [verbRefusal?, free, few]
    rfl
  obtain ⟨result, last, ran, same⟩ : Leaves (engine.perform context .look (Line.parse (normalizeLine "look"))) world
      world.Untouched := by
    refine leaves_then ?_
    rw [look, if_pos alone]
    exact leaves_currentRoom (fun _ => rfl) fun here _ => leaves_read (leaves_tell context _ world)
  refine ⟨result, last, ?_, same⟩
  rw [World.run_dispatchLine shallow rfl verb (lower ▸ standard ▸ known) unrefused, looks]
  exact ran

end Engine

namespace World

variable {world last : World} {actor id place : ThingId} {text word : String} {line : Line}

-- What a line that begins with that word moves where.
def Hauls (world : World) (actor : ThingId) (word : String) (line : Line) (id place : ThingId) : Prop :=
  ∃ spec, world.registry[word]? = some spec ∧ spec.minArgs ≤ line.args.length ∧
    Engine.Moves world (Context.of actor (world.isAdmin actor)) line spec.verb id place

theorem hauls_same {mid : World} (things : mid.things = world.things) (index : mid.index = world.index)
    (info : mid.info = world.info) (listeners : mid.listeners = world.listeners) (registry : mid.registry = world.registry) :
    mid.Hauls actor word line id place ↔ world.Hauls actor word line id place := by
  rw [Hauls, Hauls, registry, isAdmin_same things listeners]
  refine exists_congr fun spec => and_congr_right fun _ => and_congr_right fun _ => ?_
  exact ⟨Engine.moves_same things index info listeners, Engine.moves_same things.symm index.symm info.symm listeners.symm⟩

def movers : List String := ["go", "get", "drop", "@move"]

theorem standard_moves (moves : word ∈ movers) : ∃ spec, Registry.standard[word]? = some spec ∧
    spec.adminOnly = false ∧ spec.verb ∈ [.go, .get, .drop, .move] ∧ (spec.verb = .go ↔ word = "go") ∧
    (word = "go" → spec.minArgs = 1) := by
  have every : (movers.all fun word => Registry.standard[word]?.any fun spec =>
      decide (spec.adminOnly = false ∧ spec.verb ∈ [.go, .get, .drop, .move] ∧ (spec.verb = .go ↔ word = "go") ∧
        (word = "go" → spec.minArgs = 1))) = true := by
    decide +kernel
  obtain ⟨spec, known, fits⟩ := (Option.any_eq_true _ _).mp (List.all_eq_true.mp every word moves)
  exact ⟨spec, known, of_decide_eq_true fits⟩

section Carrying

variable (standard : world.registry = .standard) (unanswered : ∀ name, world.Unanswered name) (moves : word ∈ movers)
  (parsed : Line.parse (normalizeLine text) = line) (spoken : line.verb?.map Text.lower = some word)

include standard unanswered moves parsed spoken

theorem leaves_dispatch (actor : ThingId) (inside : world.inScope = true) :
    Leaves (dispatch (Context.of actor (world.isAdmin actor)) text) world fun last =>
      (∃ id place, world.Hauls actor word line id place ∧ Moved world last id place) ∨
        (∀ id place, ¬world.Hauls actor word line id place) ∧ Untouched world last := by
  obtain ⟨spec, known, free, kind, -⟩ := standard_moves moves
  rw [← standard] at known
  obtain ⟨first, verb, rfl⟩ := Option.map_eq_some_iff.mp spoken
  obtain ⟨steps, enough, dispatched⟩ := run_dispatch_spare world (Context.of actor (world.isAdmin actor)) text
  rw [Leaves, dispatched, run_knownLine (Nat.zero_le _) parsed verb known, Engine.dispatchVerb, Engine.verbRefusal?, free,
    Bool.false_and, if_neg Bool.false_ne_true]
  by_cases few : line.args.length < spec.minArgs
  · rw [if_pos few]
    refine ⟨_, _, rfl, .inr ⟨?_, rfl⟩⟩
    rintro id place ⟨other, known', many, _⟩
    obtain rfl := Option.some.inj (known.symm.trans known')
    exact absurd few (Nat.not_lt.mpr many)
  · rw [if_neg few]
    have deep : walkFuel ≤ (Engine.ofFuel (steps + 2)).steps := Nat.le_succ_of_le enough
    have carries : Leaves ((Engine.ofFuel (steps + 2)).perform (Context.of actor (world.isAdmin actor)) spec.verb line) world
        (Engine.Carried world (Context.of actor (world.isAdmin actor)) line spec.verb) := by
      simp only [List.mem_cons, List.not_mem_nil, or_false] at kind
      rcases kind with kind | kind | kind | kind <;> rw [kind]
      · exact Engine.carries_go inside deep unanswered fun mid registry _ =>
          Engine.leaves_look (registry.trans standard) (Nat.zero_le _)
      · exact Engine.carries_get inside deep unanswered
      · exact Engine.carries_drop inside deep unanswered
      · exact Engine.carries_move inside
    refine leaves_mono carries fun last carried => ?_
    rcases carried with ⟨id, place, moves, moved⟩ | ⟨nothing, same⟩
    · exact .inl ⟨id, place, ⟨spec, known, Nat.not_lt.mp few, moves⟩, moved⟩
    · refine .inr ⟨?_, same⟩
      rintro id place ⟨other, known', _, moves⟩
      obtain rfl := Option.some.inj (known.symm.trans known')
      exact nothing id place moves

theorem leaves_command (actor : ThingId) : Leaves (command actor text) world fun last =>
    (∃ id place, world.Hauls actor word line id place ∧ Moved world last id place) ∨
      (∀ id place, ¬world.Hauls actor word line id place) ∧ Untouched world last := by
  let inside := Moment.opened.perform world.nextVersion
  have admin : inside.isAdmin actor = world.isAdmin actor := isAdmin_same rfl rfl actor
  have standard' : inside.registry = .standard := standard
  obtain ⟨result, mid, ran, fits⟩ := leaves_dispatch standard' unanswered moves parsed spoken actor rfl
  rw [admin] at ran
  obtain ⟨result', after, ended, ⟨_, _, _, _, _, _, same⟩, -⟩ := versioned_ended ran
  obtain ⟨result'', last, ran', things⟩ := run_command ended
  have kept : last.things = mid.things := by rw [things, same]
  refine ⟨result'', last, ran', ?_⟩
  have hauls (id place : ThingId) : inside.Hauls actor word line id place ↔ world.Hauls actor word line id place :=
    hauls_same rfl rfl rfl rfl rfl
  simp only [hauls] at fits
  rcases fits with ⟨id, place, hauled, moved⟩ | ⟨nothing, untouched⟩
  · exact .inl ⟨id, place, hauled, moved_same (show inside.things = world.things from rfl) kept moved⟩
  · exact .inr ⟨nothing, kept.trans untouched⟩

end Carrying

theorem hauls_unique {id' place' : ThingId} (hauls : world.Hauls actor word line id place)
    (hauls' : world.Hauls actor word line id' place') : id = id' ∧ place = place' := by
  obtain ⟨spec, known, _, moves⟩ := hauls
  obtain ⟨spec', known', _, moves'⟩ := hauls'
  obtain rfl := Option.some.inj (known.symm.trans known')
  exact Engine.moves_unique moves moves'

theorem untouched_lies (untouched : Untouched world last) : last.LiesIn = world.LiesIn := by
  funext id place
  rw [LiesIn, untouched, LiesIn]

-- After a line of one of the four verbs that move things, where nobody reacts to events, every thing still is in one place
-- at most, and something lies in itself just when the line moved a thing into a place that lay in it. When the index is as
-- it should be, it is only by going that this can come about: through an exit to a place in the actor.
theorem only_exits_nest (standard : world.registry = .standard) (placed : world.Placed)
    (uncircled : Uncircled world.LiesIn) (unanswered : ∀ name, world.Unanswered name) (moves : word ∈ movers)
    (parsed : Line.parse (normalizeLine text) = line) (spoken : line.verb?.map Text.lower = some word) (actor : ThingId) :
    ∃ result last, (command actor text).run world = some (result, last) ∧ last.Placed ∧
      (¬Uncircled last.LiesIn ↔ ∃ id place, world.Hauls actor word line id place ∧ world.contains id = true ∧
        Relation.ReflTransGen world.LiesIn place id) ∧
      (world.Tracked [] → (¬Uncircled last.LiesIn ↔ word = "go" ∧ line.args ≠ [] ∧ ∃ here exit destination,
        world.location? actor = some here ∧ world.matchAmong (world.links here) line.rest = .found exit ∧
          world.destination? exit = some destination ∧ Relation.ReflTransGen world.LiesIn destination actor)) := by
  obtain ⟨result, last, ran, fits⟩ := leaves_command standard unanswered moves parsed spoken actor
  have nests : ¬Uncircled last.LiesIn ↔ ∃ id place, world.Hauls actor word line id place ∧ world.contains id = true ∧
      Relation.ReflTransGen world.LiesIn place id := by
    rcases fits with ⟨id, place, hauled, moved⟩ | ⟨nothing, untouched⟩
    · cases held : world.contains id with
      | true =>
        rw [uncircled_moved uncircled held moved, not_not]
        refine ⟨fun nests => ⟨id, place, hauled, held, nests⟩, ?_⟩
        rintro ⟨id', place', hauled', _, nests⟩
        obtain ⟨rfl, rfl⟩ := hauls_unique hauled hauled'
        exact nests
      | false =>
        rw [untouched_lies (moved.trans (revise_missing held _))]
        refine ⟨fun circled => absurd uncircled circled, ?_⟩
        rintro ⟨id', place', hauled', held', _⟩
        obtain ⟨rfl, -⟩ := hauls_unique hauled hauled'
        exact Bool.noConfusion (held.symm.trans held')
    · rw [untouched_lies untouched]
      refine ⟨fun circled => absurd uncircled circled, ?_⟩
      rintro ⟨id, place, hauled, _⟩
      exact absurd hauled (nothing id place)
  refine ⟨result, last, ran, ?_, nests, fun tracked => nests.trans ?_⟩
  · rcases fits with ⟨id, place, _, moved⟩ | ⟨_, untouched⟩
    · exact placed_moved placed moved
    · exact fun id thing found => placed id thing (untouched ▸ found)
  obtain ⟨spec, known, _, _, goes, few⟩ := standard_moves moves
  rw [← standard] at known
  constructor
  · rintro ⟨id, place, ⟨spec', known', many, moves⟩, held, nests⟩
    obtain rfl := Option.some.inj (known.symm.trans known')
    have going := Engine.goes_of_nests tracked placed uncircled moves held nests
    rw [few (goes.mp going)] at many
    rw [going] at moves
    obtain ⟨located, meant, leads⟩ := moves
    exact ⟨goes.mp going, List.length_pos_iff.mp many, _, _, _, located, meant, leads, nests⟩
  · rintro ⟨going, more, here, exit, destination, located, meant, leads, nests⟩
    obtain ⟨thing, found, -⟩ := liesIn_of_location located
    refine ⟨actor, destination, ⟨spec, known, ?_, ?_⟩, ?_, nests⟩
    · rw [few going]
      exact List.length_pos_iff.mpr more
    · rw [goes.mpr going]
      exact .go located meant leads
    · exact contains_of_some found

-- A player in the lobby holds a bag, and an exit of the lobby leads into the bag.
def bagged : Run Unit :=
  (Operation.create "player" "").run >>= fun player => (Operation.create "bag" "").run >>= fun bag =>
    inTurn [.setLocation player 6, .setLocation bag player] >>= fun _ =>
      (Operation.linkRooms 6 "in" bag "out").run >>= fun _ => Run.ofExcept (.ok ())

theorem built_bagged : Built false bagged :=
  .follows (.calls _ nofun) fun _ => .follows (.calls _ nofun) fun _ =>
    .follows (built_inTurn _ (by simp [Operation.byHand])) fun _ => .follows (.calls _ nofun) fun _ => .gives _

-- The prototypes are kept in a thing that is in limbo, and all else is in something older.
def depth (id : ThingId) : Nat :=
  if id ∈ [(1 : ThingId), 2, 3, 4] then 6 else id.toNat

-- The player goes into the bag that it holds.
theorem bags_take_in_their_bearers : ∃ start world last result,
    openOn .inMemory ⟨"new", .standard, 1000, fun _ => 0⟩ = .ok start ∧ bagged.run start = some (.ok (), world) ∧
    Uncircled world.LiesIn ∧ (command 7 "go in").run world = some (result, last) ∧ last.Placed ∧
    ¬Uncircled last.LiesIn ∧ last.location? 7 = some 8 ∧ last.location? 8 = some 7 := by
  have checked : opensTo .inMemory ⟨"new", .standard, 1000, fun _ => 0⟩ (fun start =>
      Run.gives (bagged.run start) fun _ world =>
        decide (world.registry = .standard ∧ world.Placed ∧
          (∀ entry ∈ world.things.toList, (entry.2.targets Relation.location).all
            (fun place => decide (depth place < depth entry.1)) = true) ∧
          world.unreactive = true ∧ world.location? 7 = some 6 ∧ world.location? 8 = some 7 ∧
          world.matchAmong (world.links 6) "in" = .found 9 ∧ world.destination? 9 = some 8) &&
        Run.gives ((command 7 "go in").run world) fun _ last =>
          decide (last.location? 7 = some 8 ∧ last.location? 8 = some 7)) = true := by
    decide +kernel
  obtain ⟨start, opened, checked⟩ := opensTo_iff.mp checked
  obtain ⟨_, world, ran, checked⟩ := Run.gives_iff.mp checked
  rw [Bool.and_eq_true, decide_eq_true_eq] at checked
  obtain ⟨⟨standard, placed, lower, plain, here, bag, meant, leads⟩, checked⟩ := checked
  obtain ⟨_, last, went, ends⟩ := Run.gives_iff.mp checked
  have words : (Line.parse (normalizeLine "go in")).verb?.map Text.lower = some "go" ∧
      (Line.parse (normalizeLine "go in")).args ≠ [] ∧ (Line.parse (normalizeLine "go in")).rest = "in" := by
    decide +kernel
  obtain ⟨spoken, more, rest⟩ := words
  have uncircled := uncircled_of_lower depth lower
  have going : "go" ∈ movers := List.mem_cons_self
  obtain ⟨result, after, ran', placed', _, nests⟩ := only_exits_nest standard placed uncircled
    (Engine.unanswered_of_unreactive plain) going rfl spoken 7
  rw [went] at ran'
  cases ran'
  obtain ⟨_, tracked, _⟩ := settled_after opened built_bagged ran
  have circled := (nests tracked).mpr ⟨rfl, more, 6, 9, 8, here, rest ▸ meant, leads,
    .single (liesIn_of_location bag)⟩
  obtain ⟨inside, carried⟩ := of_decide_eq_true ends
  exact ⟨start, world, last, _, opened, ran, uncircled, went, placed', circled, inside, carried⟩

end World

end ThingWorld
