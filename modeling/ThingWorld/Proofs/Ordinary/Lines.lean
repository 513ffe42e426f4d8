import ThingWorld.Proofs.Ends.Lines
import ThingWorld.Proofs.Ordinary.Moments
import ThingWorld.Proofs.Text.Trimming
namespace ThingWorld

-- The verbs that a standard world lets everybody use.
def Verb.ordinary : Verb → Bool
  | create | reproto | link | toast | copy | defineCommand | defineReaction | subscribe | unsubscribe | tick | clock
  | check => false
  | _ => true

theorem standard_known {word : String} {spec : VerbSpec} (known : Registry.standard[word]? = some spec) :
    (spec.adminOnly = false → spec.verb.ordinary = true) ∧ (word = "go" → spec.verb = .go) ∧
      (word = "look" → spec.verb = .look) := by
  have every : (Registry.standard.toList.all fun entry => (entry.2.adminOnly || entry.2.verb.ordinary) &&
      (entry.1 != "go" || entry.2.verb == .go) && (entry.1 != "look" || entry.2.verb == .look)) = true := by
    decide +kernel
  have listed := List.all_eq_true.mp every (word, spec) (Std.ExtTreeMap.mem_toList_iff_getElem?_eq_some.mpr known)
  simp only [Bool.and_eq_true, Bool.or_eq_true, bne_iff_ne, beq_iff_eq] at listed
  obtain ⟨⟨ordinary, goes⟩, looks⟩ := listed
  refine ⟨fun open' => ordinary.resolve_left ?_, fun named => goes.resolve_left (absurd named),
    fun named => looks.resolve_left (absurd named)⟩
  rw [open']
  exact Bool.false_ne_true

section Wandering

-- The line goes through an exit or looks around, whoever's template it is in.
def Wanders (text : String) : Prop :=
  ∃ verb, (Line.parse (normalizeLine text)).verb? = some verb ∧ (Text.lower verb = "go" ∨ Text.lower verb = "look")

-- A line keeps its first word, whatever comes after the blank.
theorem wanders_go (rest : List Char) : Wanders (String.ofList ('g' :: 'o' :: ' ' :: rest)) := by
  obtain ⟨tail, trimmed, begins⟩ : ∃ tail, Text.trim ('g' :: 'o' :: ' ' :: rest) = 'g' :: 'o' :: tail ∧
      (tail = [] ∨ ∃ more, tail = ' ' :: more) := by
    refine ⟨Text.trimEnd (' ' :: rest), ?_, ?_⟩
    · have start : Text.trimStart ('g' :: 'o' :: ' ' :: rest) = 'g' :: 'o' :: ' ' :: rest := rfl
      rw [Text.trim, start, trimEnd_visible rfl, trimEnd_visible rfl]
    · rw [Text.trimEnd]
      split
      · exact .inl rfl
      · exact .inr ⟨_, rfl⟩
  refine ⟨"go", ?_, .inl (by decide +kernel)⟩
  rw [normalizeLine, String.toList_ofList, trimmed]
  show ((wordsOf (String.ofList (spellOut 'g' ('o' :: tail)))).map Word.text).head? = some "go"
  have spelled : spellOut 'g' ('o' :: tail) = 'g' :: 'o' :: tail := rfl
  rw [spelled, wordsOf, String.toList_ofList]
  rcases begins with rfl | ⟨more, rfl⟩ <;> rfl

theorem substitute_go {args : List String} {word : String} (first : args.head? = some word) (this : ThingId) :
    substitute goTemplate args this = .ok [String.ofList ('g' :: 'o' :: ' ' :: word.toList)] := by
  have lines : templateLines goTemplate this = [['g', 'o', ' ', '$', '0']] := rfl
  obtain ⟨rest, rfl⟩ := List.head?_eq_some_iff.mp first
  have filled : fillFrom (word :: rest) .text ['g', 'o', ' ', '$', '0'] = .ok ('g' :: 'o' :: ' ' :: word.toList) := rfl
  rw [substitute, lines, List.mapM_cons, filled]
  rfl

end Wandering

-- In a standard world with those limits the others are unarmed.
structure World.Tame (world : World) (actor : ThingId) (limits : Limits) : Prop where
  registry : world.registry = .standard
  limits : world.limits = limits
  unarmed : world.Unarmed actor

def Watch.ordinary (actor : ThingId) (limits : Limits) : Watch where
  state world := world.Tame actor limits
  rule := Ordinary actor
  keeps tame ordinary :=
    have spared := World.spared_moment ordinary
    ⟨spared.registry.trans tame.registry, spared.limits.trans tame.limits, World.unarmed_spared tame.unarmed spared⟩
  tells _ id line := .told id line

def Law.ordinary (actor : ThingId) (limits : Limits) : Law :=
  (Watch.ordinary actor limits).law (fun _ => .opened) fun _ kept => .ended kept

-- In whose name an ordinary line runs, and in which template: its own, or the one of a link.
structure Chained (actor : ThingId) (context : Context) (text : String) : Prop where
  who : context.actor = actor
  plain : context.admin = false
  typed : context.event = none
  own : context.this = actor ∨ Wanders text

namespace Engine

variable {limits : Limits} {engine : Engine} {context : Context} {world : World}

section Emissions

variable {actor : ThingId} (enough : World.walkFuel ≤ engine.steps)

include enough

theorem sends_whispers (unarmed : world.Unarmed actor) : engine.Sends (Watch.whispers world).conduct actor := by
  refine (Watch.whispers world).conduct.sends_of_visits ((Watch.whispers world).conduct.roams_of_enough enough) ?_
  intro emission asked id mid
  refine abides_known ?_
  rintro ⟨heard, rfl⟩
  refine (Watch.whispers world).conduct.keeps_visitThing fun reactions other => ?_
  have source : emission.event.source = actor := asked.resolve_right fun silent => by
    rw [silent] at reactions
    cases reactions
  have unheard : reactionTemplate? { world with heard := heard } id emission.event = none :=
    World.unheard_of (World.unarmed_congr unarmed rfl) (source ▸ other) emission.event
  exact ⟨abides_still (run_unheard unheard), abides_still (run_unasked unheard)⟩

theorem sends_ordinary : engine.Sends (Watch.ordinary actor limits).conduct actor :=
  fun emission success failure asked start exclude mid => abides_known fun tame =>
    abides_of_whispers (sends_whispers enough tame.unarmed emission success failure asked start exclude mid)

end Emissions

section Changes

variable (actor : ThingId)

theorem ordinary_of_charted {α : Type} {act : Act α} (charted : Charted (.ordinary actor limits) (Run.ofAct act) world) :
    Abides (.ordinary actor limits) (Run.ofAct act) world :=
  abides_of_charted charted

theorem abides_write (property : String) (value : Datum) (world : World) :
    Abides (.ordinary actor limits) (Run.ofAct (World.setProperty actor property value)) world :=
  ordinary_of_charted actor (World.charted_amend actor (.write property value)
    (fun _ _ => ⟨.writes property value, trivial⟩) fun _ same => nomatch same)

theorem abides_erase (property : String) (world : World) :
    Abides (.ordinary actor limits) (Run.ofAct (World.unsetProperty actor property)) world :=
  ordinary_of_charted actor (World.charted_erase actor property (fun _ _ => ⟨.erases property, trivial⟩) world)

theorem abides_go (place : ThingId) (world : World) :
    Abides (.ordinary actor limits) (Run.ofAct (World.setLocation actor place)) world :=
  ordinary_of_charted actor (World.charted_amend actor (.point Relation.location place false)
    (fun _ _ => ⟨.goes place, trivial⟩) fun _ same => nomatch same)

-- Whether a scope is open makes no difference to what may be moved.
theorem abides_place {item place : ThingId}
    (inside : Ordinary actor world (.did (.revised item (.point Relation.location place false))))
    (outside : Ordinary actor (Moment.opened.perform world) (.did (.revised item (.point Relation.location place false)))) :
    Abides (.ordinary actor limits) (Run.ofAct (World.setLocation item place)) world :=
  ordinary_of_charted actor (World.charted_amendHere item (.point Relation.location place false)
    (fun _ => ⟨inside, trivial⟩) (fun _ => ⟨outside, trivial⟩) fun _ same => nomatch same)

theorem abides_script {script : Script.Context} (own : script.this = actor) (plain : script.admin = false)
    (source : String) (world : World) :
    Abides (.ordinary actor limits) (Run.ofAct (Script.run script source)) world := by
  refine ordinary_of_charted actor (Script.charted_run ⟨fun _ _ => ⟨.rolled, trivial⟩, ?_⟩ source world)
  intro id property value mid permitted _
  rw [plain] at permitted
  obtain rfl := (permitted.resolve_left Bool.false_ne_true).trans own
  exact ⟨.writes property value, trivial⟩

end Changes

section Verbs

variable {actor : ThingId} (enough : World.walkFuel ≤ engine.steps) (who : context.actor = actor)

include enough who

theorem sends_context : engine.Sends (Watch.ordinary actor limits).conduct context.actor := by
  rw [who]
  exact sends_ordinary enough

omit enough who in
theorem lies_still {mid : World} {item place : ThingId} (lies : item ∈ world.contents place)
    (same : mid.index = world.index) : item ∈ mid.contents place := by
  rw [World.mem_contents, same]
  exact world.mem_contents.mp lies

-- What was found to lie here lies here still when everybody was asked.
theorem abides_take (line : Line) : Abides (.ordinary actor limits) (engine.take context line) world := by
  subst who
  refine abides_known fun tame => ?_
  refine (Watch.ordinary context.actor limits).conduct.keeps_take line fun here item name place lies _ unheard => ?_
  refine abides_whispered ((Watch.whispers world).conduct.keeps_ask (sends_whispers enough tame.unarmed) item "get" [name]
    world) fun _ heard => ?_
  refine abides_bind (abides_place context.actor ?_ ?_) fun _ mid _ => ?_
  · exact .gets place (lies_still lies rfl) unheard
  · exact .gets place (lies_still lies rfl) unheard
  · exact (Watch.ordinary context.actor limits).conduct.keeps_announce (sends_ordinary enough) here _ _ _ mid

theorem abides_drop (line : Line) : Abides (.ordinary actor limits) (engine.drop context line) world := by
  subst who
  refine abides_known fun tame => ?_
  refine (Watch.ordinary context.actor limits).conduct.keeps_drop line fun here item name place held => ?_
  refine abides_whispered ((Watch.whispers world).conduct.keeps_ask (sends_whispers enough tame.unarmed) item "drop" [name]
    world) fun _ heard => ?_
  refine abides_bind (abides_place context.actor ?_ ?_) fun _ mid _ => ?_
  · exact .drops place (lies_still held rfl)
  · exact .drops place (lies_still held rfl)
  · exact (Watch.ordinary context.actor limits).conduct.keeps_announce (sends_ordinary enough) here _ _ _ mid

variable (looks : ∀ world, Abides (.ordinary actor limits) (engine.dispatch context "look") world)

include looks

theorem abides_wander {verb : Verb} (wanders : verb = .go ∨ verb = .look) (line : Line) :
    Abides (.ordinary actor limits) (engine.perform context verb line) world := by
  have sends : engine.Sends (Watch.ordinary actor limits).conduct context.actor := sends_context enough who
  rcases wanders with rfl | rfl
  · refine (Watch.ordinary actor limits).conduct.keeps_go sends line (fun place mid => ?_) looks
    subst who
    exact abides_go context.actor place mid
  · exact (Watch.ordinary actor limits).conduct.keeps_andResult ((Watch.ordinary actor limits).conduct.keeps_look line)

theorem abides_perform (plain : context.admin = false) (own : context.this = actor) {verb : Verb}
    (ordinary : verb.ordinary = true) (line : Line)
    (children : ∀ word result text world, Abides (.ordinary actor limits)
      (engine.dispatch ((context.withResult result).child context.this word) text) world)
    (branches : ∀ result text world, Abides (.ordinary actor limits)
      (engine.dispatch (context.withResult result).deeper text) world) :
    Abides (.ordinary actor limits) (engine.perform context verb line) world := by
  let conduct := (Watch.ordinary actor limits).conduct
  have sends : engine.Sends conduct context.actor := sends_context enough who
  have owes {steps : Run Unit} (abides : Abides (.ordinary actor limits) steps world) :
      Abides (.ordinary actor limits) (do steps; return context.result) world := conduct.keeps_andResult abides
  have scripts (source : String) : conduct.keeps
      (Run.ofAct (Script.run (scriptContext world context context.this line.texts) source)) world :=
    abides_script actor own plain source world
  have controlled {id : ThingId} (controls : context.controls id = true) : actor = id := by
    rw [Context.controls, plain, Bool.false_or, beq_iff_eq, own] at controls
    exact controls.symm
  cases verb with
  | go => exact abides_wander enough who looks (.inl rfl) line
  | look => exact abides_wander enough who looks (.inr rfl) line
  | fail => exact conduct.keeps_refuse sends line
  | branch => exact conduct.keeps_branch line children scripts branches
  | script => exact conduct.keeps_script line children scripts
  | examine => exact owes (conduct.keeps_examine line)
  | get => exact owes (abides_take enough who line)
  | drop => exact owes (abides_drop enough who line)
  | inventory => exact owes conduct.keeps_inventory
  | say => exact owes (conduct.keeps_speak sends "say" _ line)
  | emote => exact owes (conduct.keeps_speak sends "emote" _ line)
  | help => exact owes conduct.keeps_help
  | setProperty =>
    exact owes (conduct.keeps_setValue line fun id property value mid controls =>
      controlled controls ▸ abides_write actor property value mid)
  | unsetProperty =>
    exact owes (conduct.keeps_unsetValue line fun id property mid controls =>
      controlled controls ▸ abides_erase actor property mid)
  | move =>
    exact owes (conduct.keeps_move line fun id place mid controls => controlled controls ▸ abides_go actor place mid)
  | output => exact owes (conduct.keeps_output context line.rest world)
  | emit => exact owes (conduct.keeps_emitAround sends line)
  | who => exact owes conduct.keeps_who
  | _ => cases ordinary

end Verbs

section Dispatch

variable {actor : ThingId}
  (lines : ∀ context' text, Chained actor context' text → context'.depth = context.depth + 1 →
    ∀ world, Abides (.ordinary actor limits) (engine.dispatch context' text) world)

include lines

theorem abides_template (who : context.actor = actor) (plain : context.admin = false) (typed : context.event = none)
    {owner : ThingId} {template word verb : String} {args : List String} (first : args.head? = some verb)
    (known : owner = actor ∨ template = goTemplate) :
    Abides (.ordinary actor limits) (engine.runTemplate context owner word template args) world := by
  let conduct := (Watch.ordinary actor limits).conduct
  rcases known with rfl | rfl
  · refine conduct.keeps_runTemplate (fun result text mid => ?_) fun source => ?_
    · exact lines ((context.withResult result).child owner word) text ⟨who, plain, typed, .inl rfl⟩ rfl mid
    · exact abides_script owner rfl plain source world
  · have parsed : Template.parse goTemplate = .lines goTemplate := rfl
    rw [runTemplate, parsed]
    dsimp only
    refine conduct.keeps_given fun texts filled => ?_
    rw [substitute_go first] at filled
    cases filled
    refine conduct.keeps_runLines context (fun result text member mid => ?_) world
    rw [List.mem_singleton.mp member]
    exact lines ((context.withResult result).child owner word) _ ⟨who, plain, typed, .inr (wanders_go _)⟩ rfl mid

theorem abides_dispatchLine (enough : World.walkFuel ≤ engine.steps)
    (looks : ∀ world, Abides (.ordinary actor limits) (engine.dispatch context "look") world) {text : String}
    (chained : Chained actor context text) :
    Abides (.ordinary actor limits) (engine.dispatchLine context text) world := by
  obtain ⟨who, plain, typed, own⟩ := chained
  let conduct := (Watch.ordinary actor limits).conduct
  refine abides_known fun tame => conduct.keeps_read ?_
  dsimp only
  split
  · exact conduct.keeps_throw_bind _ _
  · split
    · exact conduct.keeps_pure _ world
    · rename_i verb said
      refine conduct.keeps_read ?_
      rw [tame.registry]
      split
      · rename_i spec known
        obtain ⟨ordinary, goes, sees⟩ := standard_known known
        rw [dispatchVerb]
        split
        · exact conduct.keeps_throw _ world
        · rename_i unrefused
          have open' : spec.adminOnly = false := by
            cases only : spec.adminOnly with
            | false => rfl
            | true => simp [verbRefusal?, only, plain] at unrefused
          rcases own with own | ⟨word, wanders, named⟩
          · exact abides_perform enough who looks plain own (ordinary open') _
              (fun word result text mid =>
                lines ((context.withResult result).child context.this word) text ⟨who, plain, typed, .inl own⟩ rfl mid)
              fun result text mid =>
                lines (context.withResult result).deeper text ⟨who, plain, typed, .inl own⟩ rfl mid
          · rw [said] at wanders
            cases wanders
            exact abides_wander enough who looks (named.imp goes sees) _
      · rename_i unknown
        split
        · rename_i owner template found
          refine abides_template lines who plain typed said ?_
          rw [who] at found
          split at found
          · cases found
          · exact World.findTemplate_cases tame.unarmed found
        · exact conduct.keeps_throw _ world

end Dispatch

end Engine
end ThingWorld
