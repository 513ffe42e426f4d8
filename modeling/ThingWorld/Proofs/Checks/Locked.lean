import ThingWorld.Proofs.Checks.Decided
import ThingWorld.Proofs.Course.Line
import ThingWorld.Proofs.Ordinary.Watch
import ThingWorld.Proofs.Text.Trimming
import ThingWorld.Proofs.Walk.Reading
namespace ThingWorld

section Words

theorem wordsFrom_shown {cs : List Char} : ∀ {offset : Nat} {state : WordState},
    state ≠ .gap ∨ cs.all Text.isBlank = false → wordsFrom offset state cs ≠ [] := by
  induction cs with
  | nil =>
    intro offset state begun
    cases state with
    | gap => exact begun.elim (absurd rfl) fun shown => nomatch shown
    | bare start seen => exact List.cons_ne_nil _ _
    | quoted quote start seen => exact List.cons_ne_nil _ _
  | cons c rest ih =>
    intro offset state begun
    cases state with
    | gap =>
      rw [wordsFrom]
      split
      · rename_i blank
        have shown := begun.resolve_left (absurd rfl)
        rw [List.all_cons, blank, Bool.true_and] at shown
        exact ih (.inr shown)
      · split
        · exact ih (.inl nofun)
        · exact ih (.inl nofun)
    | bare start seen =>
      rw [wordsFrom]
      split
      · exact List.cons_ne_nil _ _
      · exact ih (.inl nofun)
    | quoted quote start seen =>
      rw [wordsFrom]
      split
      · exact List.cons_ne_nil _ _
      · exact ih (.inl nofun)

def failLine (reason : String) : String := "@fail " ++ reason

theorem failLine_spoken {reason : String} (shown : Text.isBlankText reason = false) :
    ((Line.parse (normalizeLine (failLine reason))).verb?).map Text.lower = some "@fail" ∧
      (Line.parse (normalizeLine (failLine reason))).args ≠ [] := by
  have letters : (failLine reason).toList = '@' :: 'f' :: 'a' :: 'i' :: 'l' :: ' ' :: reason.toList :=
    String.toList_append
  have start (rest : List Char) : Text.trimStart ('@' :: rest) = '@' :: rest := rfl
  obtain ⟨blank, kept⟩ := trimEnd_shown ' ' shown
  have trimmed : Text.trim (failLine reason).toList =
      '@' :: 'f' :: 'a' :: 'i' :: 'l' :: ' ' :: Text.trimEnd reason.toList := by
    rw [letters, Text.trim, start, trimEnd_visible rfl, trimEnd_visible rfl, trimEnd_visible rfl, trimEnd_visible rfl,
      trimEnd_visible rfl, blank]
  have words : (Line.parse (normalizeLine (failLine reason))).words =
      ⟨0, "@fail"⟩ :: wordsFrom 6 .gap (Text.trimEnd reason.toList) := by
    rw [normalizeLine, trimmed]
    show wordsOf (String.ofList ('@' :: 'f' :: 'a' :: 'i' :: 'l' :: ' ' :: Text.trimEnd reason.toList)) = _
    rw [wordsOf, String.toList_ofList]
    rfl
  rw [Line.verb?, Line.args, Line.texts, words]
  have lower : Text.lower "@fail" = "@fail" := by decide +kernel
  refine ⟨congrArg some lower, ?_⟩
  intro nothing
  exact wordsFrom_shown (.inr kept) (List.map_eq_nil_iff.mp nothing)

end Words

section Verbs

-- Everybody may use the verb, with a word behind it.
def Registry.Offers (registry : Registry) (word : String) (verb : Verb) : Prop :=
  ∃ spec, registry[word]? = some spec ∧ spec.adminOnly = false ∧ spec.minArgs = 1 ∧ spec.verb = verb

theorem offers_of_listed {registry : Registry} {word : String} {verb : Verb}
    (listed : (registry[word]?.any fun spec => !spec.adminOnly && spec.minArgs == 1 && spec.verb == verb) = true) :
    registry.Offers word verb := by
  obtain ⟨spec, found, fits⟩ := (Option.any_eq_true _ _).mp listed
  simp only [Bool.and_eq_true, Bool.not_eq_true', beq_iff_eq] at fits
  exact ⟨spec, found, fits.1.1, fits.1.2, fits.2⟩

theorem standard_offers {word : String} {verb : Verb}
    (listed : (word, verb) ∈ [("@fail", Verb.fail), ("go", .go), ("get", .get), ("drop", .drop)]) :
    Registry.standard.Offers word verb := by
  have every : ([("@fail", Verb.fail), ("go", .go), ("get", .get), ("drop", .drop)].all fun (word, verb) =>
      Registry.standard[word]?.any fun spec => !spec.adminOnly && spec.minArgs == 1 && spec.verb == verb) = true := by
    decide +kernel
  exact offers_of_listed (List.all_eq_true.mp every (word, verb) listed)

variable {engine : Engine} {context : Context} {world : World} {text word : String} {line : Line} {verb : Verb}

theorem run_offered (offers : world.registry.Offers word verb)
    (shallow : context.depth ≤ world.limits.substitutionDepth) (parsed : Line.parse (normalizeLine text) = line)
    (spoken : line.verb?.map Text.lower = some word) (more : line.args ≠ []) :
    (engine.dispatchLine context text).run world = (engine.perform context verb line).run world := by
  obtain ⟨spec, known, plain, few, rfl⟩ := offers
  obtain ⟨first, verb, rfl⟩ := Option.map_eq_some_iff.mp spoken
  refine World.run_dispatchLine shallow parsed verb known ?_
  rw [Engine.verbRefusal?, plain, few, Bool.false_and, if_neg Bool.false_ne_true]
  exact if_neg (Nat.not_lt.mpr (List.length_pos_iff.mpr more))

end Verbs

-- The run refuses an event. But for what somebody was told, the world that it leaves is `last`.
def Refuses {α : Type} (steps : Run α) (name : String) (world last : World) : Prop :=
  ∃ heard, steps.run world = some (.error (.eventFailed name), { last with heard := heard })

section Refusals

variable {α β : Type} {name : String} {world mid last : World}

theorem refuses_bind {x : Run α} {f : α → Run β} (first : Refuses x name world last) :
    Refuses (x >>= f) name world last := by
  obtain ⟨heard, ran⟩ := first
  refine ⟨heard, ?_⟩
  rw [Run.run_bind, ran]

theorem refuses_after {x : Run α} {f : α → Run β} {a : α} (ran : x.run world = some (.ok a, mid))
    (rest : Refuses (f a) name mid last) : Refuses (x >>= f) name world last := by
  obtain ⟨heard, ran'⟩ := rest
  refine ⟨heard, ?_⟩
  rw [Run.run_bind, ran]
  exact ran'

theorem refuses_read {f : World → Run β} (rest : Refuses (f world) name world last) :
    Refuses (get >>= f) name world last :=
  refuses_after rfl rest

end Refusals

namespace Engine

variable {engine : Engine} {context : Context} {world last : World} {id : ThingId} {event : Event}

-- Who is told that something failed only hears it.
theorem informs_whispers (enough : World.walkFuel ≤ engine.steps) (world : World) :
    engine.Informs (Watch.whispers world).conduct := by
  intro emission success failure silent start exclude mid
  let conduct := (Watch.whispers world).conduct
  have visits (id : ThingId) (mid : World) : conduct.keeps (engine.visitThing emission id) mid :=
    conduct.keeps_visitThing fun reactions => Bool.noConfusion (silent.symm.trans reactions)
  refine conduct.keeps_emit (conduct.roams_of_enough enough) visits start exclude ?_ mid
  intro hook known
  rw [success, failure] at known
  rcases known with known | known <;> cases known

-- What is only tried does not fail.
theorem observed_gives {α β : Type} {steps : Run α} {given : β} {mid : World} {result : Except Failure β}
    (ran : (do let _ ← steps.observe; return given : Run β).run mid = some (result, last)) : result = .ok given := by
  rw [Run.run_bind, Run.run_observe] at ran
  cases tried : steps.run mid with
  | none =>
    rw [tried] at ran
    cases ran
  | some ended =>
    rw [tried] at ran
    cases ran
    rfl

theorem emitFailure_gives {source : ThingId} {start : Option ThingId} {name forActor : String}
    {forOthers : Option String} {args : List String} {result : Except Failure Failure}
    (ran : (engine.emitFailure source start name forActor forOthers args).run world = some (result, last)) :
    result = .ok (.eventFailed name) := by
  rw [emitFailure] at ran
  cases start with
  | none => split at ran <;> cases ran <;> rfl
  | some start =>
    cases forOthers with
    | none => split at ran <;> cases ran <;> rfl
    | some format =>
      -- Whether the source has heard why before makes no difference.
      dsimp only at ran
      split at ran
      · rw [Run.run_bind, Run.run_modify] at ran
        exact observed_gives ran
      · exact observed_gives ran

theorem refuses_fail (enough : World.walkFuel ≤ engine.steps) (answers : context.event = some event) (line : Line) :
    Refuses (engine.refuse context line) event.name world world := by
  refine refuses_read ?_
  rw [answers]
  let conduct := (Watch.whispers world).conduct
  obtain ⟨result, last, ran, heard, rfl⟩ := abides_ran
    (conduct.keeps_emitFailure (informs_whispers enough world) context.eventSource
      (some (origin world context.eventSource)) event.name (splitRefusal line.rest).1 (splitRefusal line.rest).2
      context.eventArgs world) ⟨world.heard, rfl⟩
  obtain rfl := emitFailure_gives ran
  exact refuses_after ran ⟨heard, rfl⟩

theorem refuses_dispatchLine (enough : World.walkFuel ≤ engine.steps) (answers : context.event = some event)
    (standard : world.registry = .standard) (shallow : context.depth ≤ world.limits.substitutionDepth) {reason : String}
    (shown : Text.isBlankText reason = false) :
    Refuses (engine.dispatchLine context (failLine reason)) event.name world world := by
  obtain ⟨spoken, more⟩ := failLine_spoken shown
  obtain ⟨heard, ran⟩ := refuses_fail enough answers (Line.parse (normalizeLine (failLine reason)))
  refine ⟨heard, ?_⟩
  have offers : world.registry.Offers "@fail" .fail := by
    rw [standard]
    exact standard_offers (by simp)
  rw [run_offered offers shallow rfl spoken more]
  exact ran

-- A chain ends with its first line when that refuses.
theorem refuses_runReaction {template body first : String} {rest : List String}
    (parsed : Template.parse template = .lines body)
    (filled : substitute body (event.name :: event.args) id = .ok (first :: rest))
    (refuses : Refuses (engine.dispatch ((Context.forReaction id event (world.flag id Property.admin)).child id
      (reactionProperty event.name)) first) event.name world world) :
    Refuses (engine.runReaction id event template) event.name world world := by
  refine refuses_read (refuses_bind ?_)
  rw [runTemplate, parsed]
  dsimp only
  rw [filled]
  refine refuses_after rfl ?_
  exact refuses_bind (refuses_bind refuses)

end Engine

-- The world after a thing has answered a check.
def World.answered (id : ThingId) (world : World) : World :=
  (world.pace (.startCheck id)).pace (.endCheck id)

namespace Engine

variable {engine : Engine} {context : Context} {world last : World} {id : ThingId} {event : Event} {name : String}

theorem refuses_reactToCheck {template : String} (found : reactionTemplate? world id event = some template)
    (free : world.schedule.isChecking id = false)
    (refuses : Refuses (engine.runReaction id event template) name (world.pace (.startCheck id))
      (world.pace (.startCheck id))) : Refuses (engine.reactToCheck id event) name world (world.answered id) := by
  obtain ⟨heard, ran⟩ := refuses
  refine ⟨heard, ?_⟩
  rw [run_reactToCheck found, free, if_neg Bool.false_ne_true, ran]
  rfl

theorem refuses_visitThing {emission : Emission} (unheard : world.hasListener id = false)
    (asks : emission.reactions = true ∧ emission.isCheck = true) (other : id ≠ emission.event.source)
    (refuses : Refuses (engine.reactToCheck id emission.event) name world last) :
    Refuses (engine.visitThing emission id) name world last := by
  obtain ⟨heard, ran⟩ := refuses
  refine refuses_read ⟨heard, ?_⟩
  rw [unheard, if_neg Bool.false_ne_true, asks.1, asks.2, bne_iff_ne.mpr other]
  rw [Bool.and_true, if_pos rfl, if_pos rfl, Run.run_bind, Run.run_observe, ran]
  rfl

-- The thing at which a walk begins is the first that is visited.
theorem emit_refused {emission : Emission} {exclude : List ThingId} (enough : World.walkFuel ≤ engine.steps)
    (held : world.contains id = true) (fresh : id ∉ exclude) (unfollowed : emission.onFailure = none)
    (refuses : Refuses (engine.visitThing emission id) name world last) :
    ∃ heard, (engine.emit id emission exclude).run world = some (.ok false, { last with heard := heard }) := by
  obtain ⟨heard, ran⟩ := refuses
  refine ⟨heard, ?_⟩
  obtain ⟨steps, same⟩ : ∃ steps, engine.steps = steps + 1 :=
    Nat.exists_eq_add_one.mpr (Nat.lt_of_lt_of_le (Nat.succ_pos _) enough)
  have unvisited : (Std.ExtTreeSet.ofList exclude : IdSet).contains id = false := by
    rw [Std.ExtTreeSet.contains_ofList, List.contains_eq_mem, decide_eq_false fresh]
  have walked : (Walk.walk engine.steps emission.route id (Std.ExtTreeSet.ofList exclude) fun id => do
      Run.ofExcept (goesOn (← (engine.visitThing emission id).observe))).run world =
        some (.ok ⟨.ok false, [id]⟩, { last with heard := heard }) := by
    rw [Walk.walk, Run.run_bind, Run.run_get, same]
    dsimp only
    rw [Walk.walkFrom, Run.run_bind, Run.run_get]
    dsimp only
    rw [held, unvisited, Bool.not_true, Bool.or_false, if_neg Bool.false_ne_true]
    rw [Run.run_bind, Run.run_observe, Run.run_bind, Run.run_observe, ran]
    rfl
  rw [emit, Run.run_bind, walked]
  dsimp only
  have stopped (mid : World) : (Run.ofExcept (.ok false) : Run Bool).run mid = some (.ok false, mid) := rfl
  rw [Run.run_bind, stopped]
  dsimp only
  rw [Bool.not_false, Bool.or_true, if_pos rfl, unfollowed]
  rfl

theorem refuses_ask {args : List String} (enough : World.walkFuel ≤ engine.steps) (held : world.contains id = true)
    (other : id ≠ context.actor) (unheard : world.hasListener id = false)
    (refuses : Refuses (engine.reactToCheck id ⟨context.actor, name, args⟩) name world last) :
    Refuses (engine.ask context id name args) name world last := by
  have visited : Refuses (engine.visitThing (Emission.of ⟨context.actor, name, args⟩).asCheck id) name world last :=
    refuses_visitThing unheard ⟨rfl, rfl⟩ other refuses
  obtain ⟨heard, ran⟩ := emit_refused enough held (List.mem_singleton.not.mpr other) rfl visited
  refine ⟨heard, ?_⟩
  rw [ask, Run.run_bind, ran]
  rfl

-- What the line means, and the check that it comes to.
inductive Asks (world : World) (actor : ThingId) (line : Line) : ThingId → Event → Prop where
  | go {here exit destination : ThingId} (placed : world.location? actor = some here)
      (meant : world.matchAmong (world.links here) line.rest = .found exit)
      (leads : world.destination? exit = some destination) :
      Asks world actor line exit ⟨actor, "go", [world.nameOf exit]⟩
  | get {here item : ThingId} (placed : world.location? actor = some here)
      (meant : world.matchAmong ((world.contents here).filter fun id => id != actor) line.rest = .found item) :
      Asks world actor line item ⟨actor, "get", [world.displayName item]⟩
  | drop {here item : ThingId} (placed : world.location? actor = some here)
      (meant : world.matchAmong (world.contents actor) line.rest = .found item) :
      Asks world actor line item ⟨actor, "drop", [world.displayName item]⟩

theorem run_currentRoom {here : ThingId} (placed : world.location? context.actor = some here) :
    (currentRoom context).run world = some (.ok here, world) := by
  rw [currentRoom, Run.run_bind, Run.run_get]
  dsimp only
  rw [placed]
  rfl

variable {line : Line} {verb : Verb}

theorem refuses_asking (asks : Asks world context.actor line id event)
    (named : (event.name, verb) ∈ [("go", Verb.go), ("get", .get), ("drop", .drop)])
    (unheard : world.hasListener id = false)
    (refuses : Refuses (engine.ask context id event.name event.args) name world last) :
    Refuses (engine.perform context verb line) name world last := by
  cases asks with
  | go placed meant leads =>
    obtain rfl : verb = .go := by simpa using named
    refine refuses_after (run_currentRoom placed) (refuses_read ?_)
    rw [meant]
    refine refuses_after rfl ?_
    rw [leads]
    exact refuses_bind refuses
  | get placed meant =>
    obtain rfl : verb = .get := by simpa using named
    refine refuses_bind (refuses_after (run_currentRoom placed) (refuses_read ?_))
    dsimp only
    rw [meant]
    refine refuses_after rfl ?_
    rw [unheard, if_neg Bool.false_ne_true]
    exact refuses_bind refuses
  | drop placed meant =>
    obtain rfl : verb = .drop := by simpa using named
    refine refuses_bind (refuses_after (run_currentRoom placed) (refuses_read ?_))
    rw [meant]
    exact refuses_after rfl (refuses_bind refuses)

end Engine

namespace World

variable {world : World} {context : Context} {text : String} {line : Line} {item : ThingId} {event : Event}

-- Nobody plays the thing, and its answer to the check begins with a refusal.
structure Locked (world : World) (item : ThingId) (event : Event) : Prop where
  unheard : world.hasListener item = false
  answer : ∃ template body reason rest, world.text? item (reactionProperty event.name) = some template ∧
    Template.parse template = .lines body ∧
    substitute body (event.name :: event.args) item = .ok (failLine reason :: rest) ∧ Text.isBlankText reason = false

theorem fuel_spare (world : World) : ∃ steps, walkFuel ≤ steps ∧ world.fuel = steps + 3 :=
  ⟨_, Nat.le_add_left walkFuel _, rfl⟩

theorem run_dispatch_spare (world : World) (context : Context) (text : String) : ∃ steps, walkFuel ≤ steps ∧
    (dispatch context text).run world = ((Engine.ofFuel (steps + 2)).dispatchLine context text).run world := by
  obtain ⟨steps, enough, fueled⟩ := world.fuel_spare
  exact ⟨steps, enough, by rw [run_engine, fueled]; rfl⟩

-- Its first line is carried out on an engine that still has enough for every walk.
theorem refuses_answer {steps : Nat} (enough : walkFuel ≤ steps) (standard : world.registry = .standard)
    (free : world.schedule.isChecking item = false) (nests : 1 ≤ world.limits.substitutionDepth)
    (locked : world.Locked item event) :
    Refuses ((Engine.ofFuel (steps + 2)).reactToCheck item event) event.name world (world.answered item) := by
  obtain ⟨template, body, reason, rest, found, lines, filled, shown⟩ := locked.answer
  have deep : walkFuel ≤ (Engine.ofFuel (steps + 1)).steps := by
    rw [Engine.ofFuel]
    exact enough
  have known : (world.pace (.startCheck item)).registry = .standard := standard
  have first (answering : Context) (answers : answering.event = some event) (depth : answering.depth = 1) :
      Refuses ((Engine.ofFuel (steps + 1)).dispatchLine answering (failLine reason)) event.name
        (world.pace (.startCheck item)) (world.pace (.startCheck item)) :=
    Engine.refuses_dispatchLine deep answers known (depth.trans_le nests) shown
  refine Engine.refuses_reactToCheck found free (Engine.refuses_runReaction lines filled ?_)
  exact first ((Context.forReaction item event _).child item _) rfl rfl

theorem refuses_dispatch (standard : world.registry = .standard) (free : world.schedule.isChecking item = false)
    (shallow : context.depth ≤ world.limits.substitutionDepth) (nests : 1 ≤ world.limits.substitutionDepth)
    (parsed : Line.parse (normalizeLine text) = line) (spoken : line.verb?.map Text.lower = some event.name)
    (more : line.args ≠ []) (asks : Engine.Asks world context.actor line item event) (other : item ≠ context.actor)
    (locked : world.Locked item event) : Refuses (dispatch context text) event.name world (world.answered item) := by
  obtain ⟨verb, named⟩ : ∃ verb, (event.name, verb) ∈ [("go", Verb.go), ("get", .get), ("drop", .drop)] := by
    cases asks with
    | go => exact ⟨.go, by simp⟩
    | get => exact ⟨.get, by simp⟩
    | drop => exact ⟨.drop, by simp⟩
  have offers : world.registry.Offers event.name verb := by
    rw [standard]
    exact standard_offers (List.mem_cons_of_mem _ named)
  have source : event = ⟨context.actor, event.name, event.args⟩ := by cases asks <;> rfl
  obtain ⟨template, _, _, _, found, _⟩ := locked.answer
  obtain ⟨steps, enough, dispatched⟩ := run_dispatch_spare world context text
  have deep : walkFuel ≤ (Engine.ofFuel (steps + 2)).steps := by
    rw [Engine.ofFuel]
    exact Nat.le_succ_of_le enough
  have answer := refuses_answer enough standard free nests locked
  have asked : Refuses ((Engine.ofFuel (steps + 2)).ask context item event.name event.args) event.name world
      (world.answered item) :=
    Engine.refuses_ask deep (contains_of_text found) other locked.unheard (source ▸ answer)
  obtain ⟨heard, ran⟩ := Engine.refuses_asking asks named locked.unheard asked
  refine ⟨heard, ?_⟩
  rw [dispatched, run_offered offers shallow parsed spoken more]
  exact ran

section Reading

variable {mid : World} (things : mid.things = world.things)

include things

theorem asks_same {actor : ThingId} (index : mid.index = world.index) (asks : Engine.Asks world actor line item event) :
    Engine.Asks mid actor line item event := by
  cases asks with
  | go placed meant leads =>
    rw [← nameOf_same things]
    rw [← links_same things index, ← matchAmong_same things] at meant
    exact .go ((association_same things _ _).trans placed) meant ((destination_same things _).trans leads)
  | get placed meant =>
    rw [← displayName_same things]
    rw [← contents_same things index, ← matchAmong_same things] at meant
    exact .get ((association_same things _ _).trans placed) meant
  | drop placed meant =>
    rw [← displayName_same things]
    rw [← contents_same things index, ← matchAmong_same things] at meant
    exact .drop ((association_same things _ _).trans placed) meant

end Reading

-- What is refused takes nothing back and leaves nothing behind but that the thing has answered.
theorem refused_command {actor : ThingId} (idle : Idle world) (nests : 1 ≤ world.limits.substitutionDepth)
    (parsed : Line.parse (normalizeLine text) = line) (spoken : line.verb?.map Text.lower = some event.name)
    (more : line.args ≠ []) (asks : Engine.Asks world actor line item event) (other : item ≠ actor)
    (locked : world.Locked item event) :
    ∃ last, (command actor text).run world = some (.error (.eventFailed event.name), last) ∧
      last.things = world.things ∧ last.schedule = (world.answered item).schedule := by
  let inside := Moment.opened.perform world.nextVersion
  have things : inside.things = world.things := rfl
  have still : inside.Locked item event := ⟨locked.unheard, locked.answer⟩
  obtain ⟨heard, ran⟩ : Refuses (dispatch (Context.of actor (world.isAdmin actor)) text) event.name inside
      (inside.answered item) :=
    refuses_dispatch idle.registry (idle.checking item) (Nat.zero_le _) nests parsed spoken more (asks_same things rfl asks)
      other still
  obtain ⟨result, last, typed, ⟨_, _, _, _, _, _, same⟩, rfl | ⟨well, -⟩⟩ := versioned_ended ran
  · exact ⟨last, run_reported typed, by rw [same]; rfl, by rw [same]; rfl⟩
  · cases well

-- Between the operations on a world nobody is deciding a check, whatever was done to it and however that ended. So a
-- command for something that refuses it is refused, however often and whatever else goes on: nothing moves, and nobody's
-- event is put away for later.
theorem locked_things_stay (alive : Alive world) :
    (∀ id, world.schedule.isChecking id = false) ∧
    (∀ {hand : Bool} {α : Type} {steps : Run α} {result : Except Failure α} {last : World}, Built hand steps →
      steps.run world = some (result, last) → ∀ id, last.schedule.isChecking id = false) ∧
    (1 ≤ world.limits.substitutionDepth → ∀ actor text line item event, Line.parse (normalizeLine text) = line →
      line.verb?.map Text.lower = some event.name → line.args ≠ [] → Engine.Asks world actor line item event →
      item ≠ actor → world.Locked item event →
        ∃ last, (command actor text).run world = some (.error (.eventFailed event.name), last) ∧
          last.things = world.things ∧ last.location? actor = world.location? actor ∧
          last.location? item = world.location? item ∧ last.schedule.pending = world.schedule.pending ∧
          last.schedule.tally.deferred = world.schedule.tally.deferred) := by
  have idle := alive_idle alive
  refine ⟨idle.checking, fun built ran => (idle_called idle built ran).checking, ?_⟩
  intro nests actor text line item event parsed spoken more asks other locked
  obtain ⟨last, ran, things, schedule⟩ := refused_command idle nests parsed spoken more asks other locked
  refine ⟨last, ran, things, association_same things _ _, association_same things _ _, ?_, ?_⟩
  · rw [schedule]
    rfl
  · rw [schedule]
    rfl

-- Links refuse everybody, and somebody has tried one.
def gated : Run Unit :=
  (Operation.create "ann" "").run >>= fun ann => (Operation.linkRooms 6 "gate" 5 "back").run >>= fun _ =>
    inTurn [.setLocation ann 6, .attach ann ⟨false, false⟩,
      .setProperty 3 "react_go" (.text "@fail The $1 is locked. @others $This rattles it.")] >>= fun _ =>
    (Operation.command ann "go gate").run.observe >>= fun _ => Run.ofExcept (.ok ())

theorem built_gated : Built false gated := by
  refine .follows (.calls (.create "ann" "") nofun) fun ann => .follows (.calls (.linkRooms 6 "gate" 5 "back") nofun)
    fun _ => .follows (built_inTurn _ ?_) fun _ => .follows (.observes (.calls (.command ann "go gate") nofun))
      fun _ => .gives _
  simp [Operation.byHand]

-- The gate is locked the second time, too.
theorem gates_stay_locked : ∃ start world last, openOn .inMemory ⟨"new", .standard, 1000, fun _ => 0⟩ = .ok start ∧
    gated.run start = some (.ok (), world) ∧ world.schedule.hasReacted 8 = true ∧
    (command 7 "go gate").run world = some (.error (.eventFailed "go"), last) ∧ last.location? 7 = some 6 := by
  have checked : opensTo .inMemory ⟨"new", .standard, 1000, fun _ => 0⟩ (fun start =>
      Run.gives (gated.run start) fun _ world =>
        decide (world.schedule.hasReacted 8 = true ∧ 1 ≤ world.limits.substitutionDepth ∧ world.location? 7 = some 6 ∧
          world.matchAmong (world.links 6) "gate" = .found 8 ∧ world.destination? 8 = some 5 ∧
          world.nameOf 8 = "gate" ∧ world.hasListener 8 = false ∧
          world.text? 8 (reactionProperty "go") = some "@fail The $1 is locked. @others $This rattles it.")) = true := by
    decide +kernel
  obtain ⟨start, opened, checked⟩ := opensTo_iff.mp checked
  obtain ⟨_, world, ran, checked⟩ := Run.gives_iff.mp checked
  obtain ⟨reacted, nests, placed, meant, leads, named, unheard, answers⟩ := of_decide_eq_true checked
  have asks : Engine.Asks world 7 (Line.parse (normalizeLine "go gate")) 8 ⟨7, "go", ["gate"]⟩ :=
    named ▸ .go placed meant leads
  have filled : substitute "@fail The $1 is locked. @others $This rattles it." ["go", "gate"] 8 =
      .ok [failLine "The gate is locked. @others $This rattles it."] := by decide +kernel
  have locked : world.Locked 8 ⟨7, "go", ["gate"]⟩ :=
    ⟨unheard, _, _, _, _, answers, by decide +kernel, filled, by decide +kernel⟩
  obtain ⟨last, ran', _, still, _⟩ := (locked_things_stay (.called (.opened opened) built_gated ran)).2.2 nests 7 "go gate"
    _ 8 ⟨7, "go", ["gate"]⟩ rfl (by decide +kernel) (by decide +kernel) asks (by decide) locked
  exact ⟨start, world, last, opened, ran, reacted, ran', still.trans placed⟩

end World
end ThingWorld
