import ThingWorld.Proofs.Checks.Locked
import ThingWorld.Proofs.Course.Line
import ThingWorld.Proofs.Format.Viewers
import ThingWorld.Proofs.Speech.Unanswered
namespace ThingWorld

open Format

-- The two ways of speaking.
inductive Tone where
  | say
  | emote
deriving DecidableEq

namespace Tone

def word : Tone → String
  | say => "say"
  | emote => "emote"

def verb : Tone → Verb
  | say => .say
  | emote => .emote

def format : Tone → String
  | say => Engine.Announcement.say
  | emote => Engine.Announcement.emote

-- What the actor reads, and what others read of somebody with that name.
def mine (said : String) : Tone → String
  | say => "You say, \"" ++ said ++ "\"."
  | emote => "You emote: " ++ said

def theirs (name said : String) : Tone → String
  | say => name ++ " says, \"" ++ said ++ "\"."
  | emote => name ++ " " ++ said

-- The actor's name as a listener reads it at the begin of a line.
def signature (world : World) (actor id : ThingId) : String :=
  Text.capitalize (if world.isVerbose id then world.displayName actor ++ " (" ++ showId actor ++ ")"
    else world.displayName actor)

-- What is said as a listener reads it.
def utterance (tone : Tone) (world : World) (actor : ThingId) (said : String) (id : ThingId) : String :=
  if id = actor then tone.mine said else tone.theirs (signature world actor id) said

end Tone

section Wording

variable {world : World} {nested : Option Nested} {context : FormatContext}

theorem renderPieces_plain (cs : List Char) (rest : List Piece) :
    renderPieces world nested context (cs.map Piece.char ++ rest) =
      (cs ++ (renderPieces world nested context rest).1, (renderPieces world nested context rest).2) := by
  induction cs with
  | nil => rfl
  | cons c cs ih =>
    rw [List.map_cons, List.cons_append, renderPieces, ih]
    rfl

theorem expand_arg (property : Option String) :
    expand world nested context "arg" property = some (String.intercalate " " context.args) := by
  have unnumbered : argPosition? "arg" = none := by decide +kernel
  rw [expand, unnumbered]

theorem expand_this : expand world nested context "this" none = some (nameFor world context.subject context) := by
  have unnumbered : argPosition? "this" = none := by decide +kernel
  rw [expand, unnumbered]
  rfl

theorem shown_arg : shown world nested context "arg".toList none = (String.intercalate " " context.args).toList := by
  have key : String.ofList (lowerFirst "arg".toList) = "arg" ∧ isCapitalized "arg".toList = false := by decide +kernel
  rw [shown, key.1, expand_arg, key.2]
  rfl

theorem shown_this :
    shown world nested context "This".toList none = (Text.capitalize (nameFor world context.subject context)).toList := by
  have key : String.ofList (lowerFirst "This".toList) = "this" ∧ isCapitalized "This".toList = true := by decide +kernel
  rw [shown, key.1, Option.map_none, expand_this, key.2]
  rfl

-- A word of the format between words that stand for themselves.
theorem renderTemplate_arg {template : String} (before after : String)
    (chosen : pieces (selectHalf template.toList context) =
      before.toList.map .char ++ .token "arg".toList none :: after.toList.map .char) :
    renderTemplate world nested context template = before ++ String.intercalate " " context.args ++ after := by
  have goesOn : ¬(Piece.token "arg".toList none).Stops := by decide +kernel
  have plain : renderPieces world nested context (after.toList.map .char ++ []) = _ := renderPieces_plain after.toList []
  rw [List.append_nil, renderPieces, List.append_nil] at plain
  rw [renderTemplate, chosen, renderPieces_plain, renderPieces_token goesOn, plain, shown_arg]
  simp [String.append_assoc, -String.toList_intercalate]

theorem renderTemplate_named {template : String} (before after : String)
    (chosen : pieces (selectHalf template.toList context) = .token "This".toList none ::
      (before.toList.map .char ++ .token "arg".toList none :: after.toList.map .char)) :
    renderTemplate world nested context template = Text.capitalize (nameFor world context.subject context) ++ before ++
      String.intercalate " " context.args ++ after := by
  have goesOn : ¬(Piece.token "This".toList none).Stops ∧ ¬(Piece.token "arg".toList none).Stops := by decide +kernel
  have plain : renderPieces world nested context (after.toList.map .char ++ []) = _ := renderPieces_plain after.toList []
  rw [List.append_nil, renderPieces, List.append_nil] at plain
  rw [renderTemplate, chosen, renderPieces_token goesOn.1, renderPieces_plain, renderPieces_token goesOn.2, plain, shown_arg,
    shown_this]
  simp [String.append_assoc, -String.toList_intercalate]

end Wording

namespace Tone

-- The two halves of a format.
def halves : Tone → String × String
  | say => (" You say, \"$arg\". ", " $This says, \"$arg\".")
  | emote => (" You emote: $arg ", " $This $arg")

theorem format_halved (tone : Tone) : tone.format.toList =
    halved [] forMe tone.halves.1.toList forOthers tone.halves.2.toList ∧ Unmarked tone.halves.1.toList := by
  cases tone <;> decide +kernel

theorem half_mine (tone : Tone) {context : FormatContext} (acts : context.Acts) :
    selectHalf tone.format.toList context = Text.trim tone.halves.1.toList := by
  obtain ⟨halved, unmarked⟩ := tone.format_halved
  rw [halved, mine_acts ⟨rfl, rfl⟩ unmarked acts]

theorem half_theirs (tone : Tone) {context : FormatContext} (watches : ¬context.Acts) :
    selectHalf tone.format.toList context = Text.trim tone.halves.2.toList := by
  obtain ⟨halved, unmarked⟩ := tone.format_halved
  rw [halved, mine_watches ⟨rfl, rfl⟩ unmarked watches]

theorem render_format (tone : Tone) (world : World) (actor id : ThingId) (said : String) :
    world.render tone.format (Engine.eventContext world id ⟨actor, tone.word, [said]⟩) = tone.utterance world actor said id := by
  let context := Engine.eventContext world id ⟨actor, tone.word, [said]⟩
  obtain ⟨nested, same⟩ := renderAt_template world maxDepth
  have single : String.intercalate " " context.args = said := rfl
  rw [World.render, same, utterance]
  by_cases self : id = actor
  · have acts : context.Acts := ⟨rfl, congrArg some self⟩
    have chosen := half_mine tone acts
    rw [if_pos self]
    cases tone with
    | say =>
      refine (renderTemplate_arg "You say, \"" "\"." ?_).trans (by rw [single]; rfl)
      rw [show selectHalf Tone.say.format.toList context = _ from chosen]
      decide +kernel
    | emote =>
      refine (renderTemplate_arg "You emote: " "" ?_).trans (by rw [single, String.append_empty]; rfl)
      rw [show selectHalf Tone.emote.format.toList context = _ from chosen]
      decide +kernel
  · have watches : ¬context.Acts := fun acts => self (Option.some.inj acts.2)
    have chosen := half_theirs tone watches
    have viewed : context.isViewer actor = false := by
      rw [← Bool.not_eq_true]
      intro same
      exact self (Option.some.inj (beq_iff_eq.mp same))
    have named : Text.capitalize (nameFor world context.subject context) = signature world actor id := by
      rw [nameFor, show context.isViewer context.subject = false from viewed]
      rfl
    rw [if_neg self]
    cases tone with
    | say =>
      refine (renderTemplate_named " says, \"" "\"." ?_).trans ?_
      · rw [show selectHalf Tone.say.format.toList context = _ from chosen]
        decide +kernel
      · rw [single, show Text.capitalize _ = _ from named, theirs]
    | emote =>
      refine (renderTemplate_named " " "" ?_).trans ?_
      · rw [show selectHalf Tone.emote.format.toList context = _ from chosen]
        decide +kernel
      · rw [single, show Text.capitalize _ = _ from named, String.append_empty, theirs]

-- Only an emote of somebody else can show nothing: one of blanks by somebody whose name is blank.
theorem utterance_blank {tone : Tone} {world : World} {actor id : ThingId} {said : String}
    (blank : Text.isBlankText (tone.utterance world actor said id) = true) :
    tone = .emote ∧ id ≠ actor ∧ Text.isBlankText (signature world actor id) = true ∧ Text.isBlankText said = true := by
  have parts (a b : String) : Text.isBlankText (a ++ b) = (Text.isBlankText a && Text.isBlankText b) := by
    rw [Text.isBlankText, String.toList_append, List.all_append]
    rfl
  have shown : Text.isBlankText "You say, \"" = false ∧ Text.isBlankText "You emote: " = false ∧
      Text.isBlankText " says, \"" = false := by decide +kernel
  obtain ⟨mine, mine', theirs⟩ := shown
  rw [utterance] at blank
  split at blank
  · cases tone with
    | say =>
      rw [Tone.mine, parts, parts, mine] at blank
      cases blank
    | emote =>
      rw [Tone.mine, parts, mine'] at blank
      cases blank
  · rename_i other
    cases tone with
    | say =>
      rw [Tone.theirs, parts, parts, parts, theirs, Bool.and_false] at blank
      cases blank
    | emote =>
      rw [Tone.theirs, parts, parts, Bool.and_eq_true, Bool.and_eq_true] at blank
      exact ⟨rfl, other, blank.1.1, blank.2⟩

end Tone

namespace World

-- What a listener has read, the latest first.
def heardBy (world : World) (id : ThingId) : List String :=
  (world.heard.filter fun line => line.1 == id).map Prod.snd

-- The world after these lines were read, too.
def read (world : World) (lines : List (ThingId × String)) : World :=
  { world with heard := lines ++ world.heard }

theorem read_read (world : World) (lines more : List (ThingId × String)) :
    (world.read lines).read more = world.read (more ++ lines) := by
  rw [read, read, read, List.append_assoc]

theorem heardBy_read (world : World) (lines : List (ThingId × String)) (id : ThingId) :
    (world.read lines).heardBy id = (lines.filter fun line => line.1 == id).map Prod.snd ++ world.heardBy id := by
  rw [heardBy, read, List.filter_append, List.map_append]
  rfl

-- Who listens reads a line in which something is to be seen.
def lineTo (world : World) (line : String) (id : ThingId) : Option (ThingId × String) :=
  if world.hasListener id = true ∧ Text.isBlankText line = false then some (id, line) else none

theorem lineTo_own {world : World} {line : String} {id : ThingId} {given : ThingId × String}
    (found : world.lineTo line id = some given) : given.1 = id := by
  rw [lineTo] at found
  split at found
  · cases found
    rfl
  · cases found

theorem tell_reads (world : World) (id : ThingId) (line : String) :
    world.tell id line = world.read (world.lineTo line id).toList := by
  rw [tell, lineTo]
  by_cases hears : world.hasListener id = true ∧ Text.isBlankText line = false
  · rw [if_pos hears, if_neg (by simp [hears.2, show world.listeners.contains id = true from hears.1])]
    rfl
  · rw [if_neg hears, if_pos ?_]
    · rfl
    · rw [not_and_or, Bool.not_eq_true, Bool.not_eq_false] at hears
      rcases hears with deaf | blank
      · rw [show world.listeners.contains id = false from deaf]
        simp
      · rw [blank]
        rfl

end World

section Delivering

variable {world mid : World} {tone : Tone} {actor id : ThingId} {said : String}

-- The line that is read by a thing on the way of what is said.
def delivery (tone : Tone) (world : World) (actor : ThingId) (said : String) (id : ThingId) : Option (ThingId × String) :=
  world.lineTo (tone.utterance world actor said id) id

def speech (tone : Tone) (actor : ThingId) (said : String) : Emission :=
  (Emission.of ⟨actor, tone.word, [said]⟩).saying tone.format

theorem delivery_same (things : mid.things = world.things) (listeners : mid.listeners = world.listeners) :
    delivery tone mid actor said = delivery tone world actor said := by
  funext id
  have words : tone.utterance mid actor said id = tone.utterance world actor said id := by
    rw [Tone.utterance, Tone.utterance, Tone.signature, Tone.signature, World.isVerbose, World.isVerbose, listeners,
      World.displayName_same things]
  rw [delivery, delivery, words, World.lineTo, World.lineTo, World.hasListener, World.hasListener, listeners]

theorem overhear_speech (world : World) (id : ThingId) :
    Engine.overhear (speech tone actor said) world id = world.read (delivery tone world actor said id).toList := by
  have hears : Engine.overhear (speech tone actor said) world id =
      if world.hasListener id then world.tell id (tone.utterance world actor said id) else world := by
    rw [← tone.render_format]
    rfl
  rw [hears, World.tell_reads, delivery, World.lineTo]
  by_cases listening : world.hasListener id = true
  · rw [if_pos listening]
  · rw [if_neg listening, if_neg fun both => listening both.1]
    rfl

-- Each thing on the way has its turn. Earlier lines make no difference to later ones.
theorem overheard_speech (order : List ThingId) : ∀ mid : World, mid.things = world.things →
    mid.listeners = world.listeners → order.foldl (Engine.overhear (speech tone actor said)) mid =
      mid.read (order.filterMap (delivery tone world actor said)).reverse := by
  induction order with
  | nil => exact fun _ _ _ => rfl
  | cons id rest ih =>
    intro mid things listeners
    rw [List.foldl_cons, overhear_speech, ih (mid.read _) things listeners, World.read_read, delivery_same things listeners,
      List.filterMap_cons]
    cases delivery tone world actor said id <;> simp

-- Who is on the way once reads at most once.
theorem filter_deliveries {order : List ThingId} (once : order.Nodup) (id : ThingId) :
    (order.filterMap (delivery tone world actor said)).filter (fun line => line.1 == id) =
      if id ∈ order then (delivery tone world actor said id).toList else [] := by
  induction order with
  | nil => rfl
  | cons first rest ih =>
    obtain ⟨fresh, once⟩ := List.nodup_cons.mp once
    have later := ih once
    rw [List.filterMap_cons]
    by_cases same : id = first
    · subst same
      rw [if_neg fresh] at later
      rw [if_pos List.mem_cons_self]
      cases delivered : delivery tone world actor said id with
      | none => exact later
      | some line =>
        dsimp only
        have own := World.lineTo_own delivered
        simp [own, later]
    · have further : id ∈ first :: rest ↔ id ∈ rest := by simp [same]
      simp only [further]
      cases delivered : delivery tone world actor said first with
      | none => exact later
      | some line =>
        dsimp only
        have own := World.lineTo_own delivered
        simp [own, Ne.symm same, later]

end Delivering

namespace World

variable {world : World} {tone : Tone} {actor : ThingId} {text : String} {line : Line}

theorem standard_speaks (tone : Tone) : Registry.standard.Offers tone.word tone.verb := by
  cases tone <;> exact offers_of_listed (by decide +kernel)

-- What is spoken goes once to all that can be reached.
theorem run_spoken {engine : Engine} (context : Context) (enough : walkFuel ≤ engine.steps)
    (unanswered : world.Unanswered tone.word) (line : Line) : ∃ order : List ThingId, order.Nodup ∧
      (∀ id, id ∈ order ↔
        Walk.Reaches world ⟨false, false⟩ world.info.limbo ∅ (Engine.origin world context.actor) id) ∧
      (engine.perform context tone.verb line).run world = some (.ok context.result,
        world.read (order.filterMap (delivery tone world context.actor line.rest)).reverse) := by
  obtain ⟨order, marked, tour, ran⟩ := Engine.run_emit (speech tone context.actor line.rest) enough unanswered rfl rfl
    (Engine.origin world context.actor) []
  refine ⟨order, tour.apart.once, tour.mem_iff, ?_⟩
  rw [overheard_speech order world rfl rfl, speech] at ran
  have speaks : engine.perform context tone.verb line =
      (engine.speak context tone.word tone.format line >>= fun _ => pure context.result) := by
    cases tone <;> rfl
  rw [speaks, Run.run_bind, Engine.speak, Run.run_bind, Run.run_get]
  dsimp only
  rw [Run.run_bind, ran]
  rfl

section Command

variable (standard : world.registry = .standard) (unanswered : world.Unanswered tone.word)
  (parsed : Line.parse (normalizeLine text) = line) (spoken : line.verb?.map Text.lower = some tone.word)
  (more : line.args ≠ []) (actor : ThingId)

include standard unanswered parsed spoken more

theorem versioned_speech : ∃ result last,
    (Run.versioned (dispatch (Context.of actor (world.isAdmin actor)) text)).run world = some (result, last) ∧
    (result = .ok none ∨ result = .error Store.refusal) ∧ last.listeners = world.listeners ∧
    ∃ order : List ThingId, order.Nodup ∧
      (∀ id, id ∈ order ↔ Walk.Reaches world ⟨false, false⟩ world.info.limbo ∅ (Engine.origin world actor) id) ∧
      last.heard = (order.filterMap (delivery tone world actor line.rest)).reverse ++ world.heard := by
  let inside := Moment.opened.perform world.nextVersion
  have admin : inside.isAdmin actor = world.isAdmin actor := isAdmin_same rfl rfl actor
  obtain ⟨steps, enough, dispatched⟩ := run_dispatch_spare inside (Context.of actor (inside.isAdmin actor)) text
  have deep : walkFuel ≤ (Engine.ofFuel (steps + 2)).steps := Nat.le_succ_of_le enough
  have unanswered' : inside.Unanswered tone.word := unanswered
  have offers : inside.registry.Offers tone.word tone.verb := by
    rw [show inside.registry = .standard from standard]
    exact standard_speaks tone
  obtain ⟨order, once, reached, ran⟩ := run_spoken (Context.of actor (inside.isAdmin actor)) deep unanswered' line
  rw [← run_offered offers (Nat.zero_le _) parsed spoken more, ← dispatched, admin,
    delivery_same (show inside.things = world.things from rfl) rfl] at ran
  obtain ⟨result, last, typed, ⟨_, _, _, _, _, _, same⟩, kept⟩ := versioned_ended ran
  refine ⟨result, last, typed, kept.imp_right And.right, by rw [same]; rfl, order, once, fun id => ?_, by rw [same]; rfl⟩
  exact (reached id).trans ⟨Walk.reaches_same (show inside.things = world.things from rfl) rfl,
    Walk.reaches_same (show world.things = inside.things from rfl) rfl⟩

end Command

-- The failure of a command as the one who typed it reads it.
def reportTo (world : World) (actor : ThingId) (result : Except Failure Unit) (id : ThingId) : List String :=
  match result with
  | .ok () => []
  | .error failure => if id = actor ∧ world.hasListener id = true then [failure.message] else []

theorem heardBy_reported {α : Type} {result : Except Failure α} {after : World} (listeners : after.listeners = world.listeners)
    (refused : ∀ failure, result = .error failure → failure = Store.refusal) (actor id : ThingId) :
    (reported actor (result, after)).2.heardBy id =
      world.reportTo actor (reported actor (result, after)).1 id ++ after.heardBy id := by
  cases result with
  | ok value => rfl
  | error failure =>
    obtain rfl := refused failure rfl
    have shown : Text.isBlankText Store.refusal.message = false := by decide +kernel
    have told : reported actor ((.error Store.refusal : Except Failure α), after) =
        (.error Store.refusal, after.tell actor Store.refusal.message) := rfl
    rw [told, tell_reads, heardBy_read, reportTo, lineTo, hasListener, listeners, ← hasListener]
    by_cases hears : world.hasListener actor = true
    · rw [if_pos ⟨hears, shown⟩]
      by_cases same : id = actor
      · subst same
        simp [hears]
      · simp [same, Ne.symm same]
    · have deaf : ¬(id = actor ∧ world.hasListener id = true) := by
        rintro ⟨rfl, listens⟩
        exact hears listens
      rw [if_neg fun both => hears both.1, if_neg deaf]
      rfl

-- A line that speaks comes to an end, and unless the store refuses the scope nothing fails. Each listener that can be reached
-- from where the actor is reads what is said, once, and nobody else does, and it stands there as it was typed. Only when
-- nothing is to be seen in a line is it dropped, and that is an emote of blanks by somebody else whose name is blank. Apart
-- from that the actor reads of the refusal.
theorem speech_is_delivered_verbatim (standard : world.registry = .standard) (unanswered : world.Unanswered tone.word)
    (parsed : Line.parse (normalizeLine text) = line) (spoken : line.verb?.map Text.lower = some tone.word)
    (more : line.args ≠ []) (actor : ThingId) :
    ∃ result last, (command actor text).run world = some (result, last) ∧
      (result = .ok () ∨ result = .error Store.refusal) ∧ ∀ id,
        (Walk.Reaches world ⟨false, false⟩ world.info.limbo ∅ (Engine.origin world actor) id → world.hasListener id = true →
          Text.isBlankText (tone.utterance world actor line.rest id) = false →
            last.heardBy id = world.reportTo actor result id ++ tone.utterance world actor line.rest id ::
              world.heardBy id) ∧
        (¬(Walk.Reaches world ⟨false, false⟩ world.info.limbo ∅ (Engine.origin world actor) id ∧
            world.hasListener id = true ∧ Text.isBlankText (tone.utterance world actor line.rest id) = false) →
          last.heardBy id = world.reportTo actor result id ++ world.heardBy id) ∧
        (Text.isBlankText (tone.utterance world actor line.rest id) = true →
          tone = .emote ∧ id ≠ actor ∧ Text.isBlankText (Tone.signature world actor id) = true ∧
            Text.isBlankText line.rest = true) := by
  obtain ⟨result, after, typed, kept, listeners, order, once, reached, heard⟩ :=
    versioned_speech standard unanswered parsed spoken more actor
  have refused (failure : Failure) (failed : result = .error failure) : failure = Store.refusal := by
    rcases kept with rfl | rfl
    · cases failed
    · exact (Except.error.inj failed).symm
  -- What was read is the report, what was said, and what was there before.
  have reads (id : ThingId) : (reported actor (result, after)).2.heardBy id =
      world.reportTo actor (reported actor (result, after)).1 id ++
        ((if id ∈ order then (delivery tone world actor line.rest id).toList else []).map Prod.snd ++ world.heardBy id) := by
    rw [heardBy_reported listeners refused, heardBy, heard, List.filter_append, List.filter_reverse, filter_deliveries once,
      List.map_append]
    split
    · cases delivery tone world actor line.rest id <;> rfl
    · rfl
  have done : (reported actor (result, after)).1 = .ok () ∨ (reported actor (result, after)).1 = .error Store.refusal := by
    rcases kept with rfl | rfl
    · exact .inl rfl
    · exact .inr rfl
  refine ⟨_, _, run_reported typed, done, fun id => ⟨fun way listens shown => ?_, fun apart => ?_, Tone.utterance_blank⟩⟩
  · refine (reads id).trans ?_
    rw [if_pos ((reached id).mpr way), delivery, lineTo, if_pos ⟨listens, shown⟩]
    rfl
  · refine (reads id).trans ?_
    split
    · rename_i way
      rw [delivery, lineTo, if_neg fun both => apart ⟨(reached id).mp way, both⟩]
      rfl
    · rfl

-- Two players in the lobby, the second of whom is told ids.
def acquainted : Run Unit :=
  (Operation.create "bard" "").run >>= fun bard => (Operation.create "cook" "").run >>= fun cook =>
    inTurn [.setLocation bard 6, .setLocation cook 6, .attach bard ⟨false, false⟩, .attach cook ⟨false, true⟩]

-- Words of formats and quotes, said aloud.
def riddle : String := "say $this owes $arg \"5%\" $admin $$"

theorem riddles_are_read_as_typed : ∃ start world last, openOn .inMemory ⟨"new", .standard, 1000, fun _ => 0⟩ = .ok start ∧
    acquainted.run start = some (.ok (), world) ∧ (command 7 riddle).run world = some (.ok (), last) ∧
    last.heardBy 7 = ["You say, \"$this owes $arg \"5%\" $admin $$\"."] ∧
    last.heardBy 8 = ["A bard (%7) says, \"$this owes $arg \"5%\" $admin $$\"."] := by
  have checked : opensTo .inMemory ⟨"new", .standard, 1000, fun _ => 0⟩ (fun start =>
      Run.gives (acquainted.run start) fun _ world =>
        decide (world.registry = .standard ∧ world.unreactive = true ∧ Engine.origin world 7 = 6 ∧ world.contains 6 = true ∧ world.contains 7 = true ∧ world.contains 8 = true ∧
          7 ∈ world.contents 6 ∧ 8 ∈ world.contents 6 ∧ world.hasListener 7 = true ∧ world.hasListener 8 = true ∧
          world.heardBy 7 = [] ∧ world.heardBy 8 = [] ∧
          Tone.say.utterance world 7 (Line.parse (normalizeLine riddle)).rest 7 =
            "You say, \"$this owes $arg \"5%\" $admin $$\"." ∧
          Tone.say.utterance world 7 (Line.parse (normalizeLine riddle)).rest 8 =
            "A bard (%7) says, \"$this owes $arg \"5%\" $admin $$\".") &&
        Run.gives ((command 7 riddle).run world) fun _ _ => true) = true := by
    decide +kernel
  obtain ⟨start, opened, checked⟩ := opensTo_iff.mp checked
  obtain ⟨_, world, ran, checked⟩ := Run.gives_iff.mp checked
  rw [Bool.and_eq_true, decide_eq_true_eq] at checked
  obtain ⟨⟨standard, plain, from6, lobby, there, there', inside, inside', listens, listens', before, before', words, words'⟩,
    checked⟩ := checked
  obtain ⟨⟨⟩, last, typed, -⟩ := Run.gives_iff.mp checked
  have spelled : (Line.parse (normalizeLine riddle)).verb?.map Text.lower = some Tone.say.word ∧
      (Line.parse (normalizeLine riddle)).args ≠ [] := by decide +kernel
  obtain ⟨result, after, ran', _, reads⟩ := speech_is_delivered_verbatim standard (Engine.unanswered_of_unreactive plain _) rfl
    spelled.1 spelled.2 7
  obtain ⟨rfl, rfl⟩ := Prod.mk.inj (Option.some.inj (typed.symm.trans ran'))
  have arrive {id : ThingId} (held : id ∈ world.contents 6) (there : world.contains id = true) :
      Walk.Reaches world ⟨false, false⟩ world.info.limbo ∅ (Engine.origin world 7) id := by
    rw [from6]
    exact .step (.start lobby Std.ExtTreeSet.contains_empty) (.inward held) there Std.ExtTreeSet.contains_empty
  have mine := (reads 7).1 (arrive inside there) listens (by rw [words]; decide +kernel)
  have theirs := (reads 8).1 (arrive inside' there') listens' (by rw [words']; decide +kernel)
  rw [words, before] at mine
  rw [words', before'] at theirs
  exact ⟨start, world, last, opened, ran, typed, mine, theirs⟩

-- A player in the lobby whose name is a blank; somebody plays the lobby, too.
def unnamed : Run Unit :=
  (Operation.create " " "").run >>= fun player =>
    inTurn [.setProperty player Property.article (.text ""), .setLocation player 6, .attach 6 ⟨false, false⟩,
      .attach player ⟨false, false⟩]

-- The lobby can be reached, but does not read the three blanks.
theorem blank_emotes_are_dropped : ∃ start world last, openOn .inMemory ⟨"new", .standard, 1000, fun _ => 0⟩ = .ok start ∧
    unnamed.run start = some (.ok (), world) ∧ world.Unanswered "emote" ∧
    (Line.parse (normalizeLine "emote \" \"")).args ≠ [] ∧ (command 7 "emote \" \"").run world = some (.ok (), last) ∧
    Walk.Reaches world ⟨false, false⟩ world.info.limbo ∅ (Engine.origin world 7) 6 ∧ world.hasListener 6 = true ∧
    world.displayName 7 = " " ∧ (Line.parse (normalizeLine "emote \" \"")).rest = " " ∧ last.heardBy 6 = [] := by
  have checked : opensTo .inMemory ⟨"new", .standard, 1000, fun _ => 0⟩ (fun start =>
      Run.gives (unnamed.run start) fun _ world =>
        decide (world.unreactive = true ∧ Engine.origin world 7 = 6 ∧ world.contains 6 = true ∧ world.hasListener 6 = true ∧ world.displayName 7 = " ") &&
        Run.gives ((command 7 "emote \" \"").run world) fun _ last => decide (last.heardBy 6 = [])) = true := by
    decide +kernel
  obtain ⟨start, opened, checked⟩ := opensTo_iff.mp checked
  obtain ⟨_, world, ran, checked⟩ := Run.gives_iff.mp checked
  rw [Bool.and_eq_true, decide_eq_true_eq] at checked
  obtain ⟨⟨plain, from6, lobby, listens, named⟩, checked⟩ := checked
  obtain ⟨⟨⟩, last, typed, nothing⟩ := Run.gives_iff.mp checked
  have reached : Walk.Reaches world ⟨false, false⟩ world.info.limbo ∅ (Engine.origin world 7) 6 := by
    rw [from6]
    exact .start lobby Std.ExtTreeSet.contains_empty
  have spelled : (Line.parse (normalizeLine "emote \" \"")).args ≠ [] ∧
      (Line.parse (normalizeLine "emote \" \"")).rest = " " := by decide +kernel
  exact ⟨start, world, last, opened, ran, Engine.unanswered_of_unreactive plain _, spelled.1, typed, reached, listens, named,
    spelled.2, of_decide_eq_true nothing⟩

end World

end ThingWorld
