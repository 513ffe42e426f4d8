import ThingWorld.Proofs.Ancestry.Inheritance
import ThingWorld.Proofs.Command.Remainders
import ThingWorld.Proofs.Ordinary.Moments
import ThingWorld.Proofs.Templates.Stored
import ThingWorld.Proofs.Text.Folding
import ThingWorld.Proofs.Upkeep.Ranking
import ThingWorld.Proofs.Walk.Reading
namespace ThingWorld

namespace World

section Written

variable {world last : World} {id : ThingId} {property asked : String} {value : Datum}
  (writes : Inscribed world last id property value)

include writes

theorem choose_written (apart : asked ≠ property) (other : ThingId) :
    last.choose? other [asked] = world.choose? other [asked] :=
  choose_apart writes (by simpa using apart.symm) other

theorem text_written (apart : asked ≠ property) (other : ThingId) : last.text? other asked = world.text? other asked := by
  rw [text?, text?, choose_written writes apart]

theorem text_inscribed (held : world.contains id = true) : last.text? id property = some value.asText := by
  obtain ⟨thing, found⟩ := some_of_contains held
  have own : (thing.write property value).own? property = some value := Std.ExtTreeMap.getElem?_insert_self
  rw [text?, choose?, maxAncestors, chooseFrom, writes id, found]
  simp [own]

-- A thing answers to its names, whatever templates it has.
theorem answersTo_written (template : isTemplate property = true) (other : ThingId) (word : String) :
    last.answersTo other word = world.answersTo other word := by
  have apart {asked : String} (plain : isTemplate asked = false) : asked ≠ property := by
    rintro rfl
    rw [template] at plain
    cases plain
  have named : last.nameOf other = world.nameOf other := by
    rw [nameOf, nameOf, text_written writes (apart rfl)]
  rw [answersTo, answersTo, namesOf, namesOf, named, text_written writes (apart rfl), aliases, aliases,
    choose_written writes (apart rfl)]

end Written

-- What the things hold is listed as before when only a template was written.
theorem contents_inscribed {world last : World} {id : ThingId} {property : String} {value : Datum}
    (writes : Inscribed world last id property value) (template : isTemplate property = true)
    (tracked : world.Tracked []) (tracked' : last.Tracked []) (holder : ThingId) :
    last.contents holder = world.contents holder := by
  have apart : Property.priority ≠ property := by
    rintro rfl
    cases template
  have before : last.goesBefore = world.goesBefore := by
    funext a b
    rw [goesBefore, goesBefore, priority, priority, priority, priority, number?, number?, number?, number?,
      choose_written writes apart, choose_written writes apart]
  have lists := (tracked_current tracked).associated Relation.location holder
  have lists' := (tracked_current tracked').associated Relation.location holder
  have edges (other : ThingId) (edge : Edge) : (∃ thing, last.things[other]? = some thing ∧ edge ∈ thing.edges) ↔
      ∃ thing, world.things[other]? = some thing ∧ edge ∈ thing.edges := by
    rw [writes other]
    cases world.things[other]? with
    | none => simp
    | some thing => by_cases same : other = id <;> simp [same, Thing.write]
  have same : last.associated Relation.location holder = world.associated Relation.location holder :=
    lists'.ascending.eq_of_mem_iff lists.ascending fun other =>
      (lists'.members other).trans ((edges other _).trans (lists.members other).symm)
  rw [contents, contents, byPriority_sort, byPriority_sort, before, same]

end World

section Words

-- A word without blanks that is no shorthand.
structure PlainWord (word : String) : Prop where
  some : word ≠ ""
  shown : ∀ c ∈ word.toList, Text.isBlank c = false
  plain : ∀ c ∈ word.toList.head?, c ≠ '\x27' ∧ c ≠ '"' ∧ c ≠ ':' ∧ c ≠ '!'

variable {word : String}

theorem normalizeLine_plain (plain : PlainWord word) : normalizeLine word = word := by
  obtain ⟨nonempty, shown, first⟩ := plain
  have snug : Text.trim word.toList = word.toList := trim_keeps
    (fun c member => shown c (List.mem_of_mem_head? member)) fun c member => shown c (List.mem_of_mem_getLast? member)
  rw [normalizeLine, snug]
  cases letters : word.toList with
  | nil => exact absurd (String.toList_eq_nil_iff.mp letters) nonempty
  | cons c rest =>
    rw [letters] at first
    obtain ⟨single, double, colon, mark⟩ := first c rfl
    dsimp only
    rw [spellOut, if_neg (by simp [single, double]), if_neg colon, if_neg mark, ← letters, String.ofList_toList]

theorem parse_plain (plain : PlainWord word) : Line.parse word = ⟨word, [⟨0, word⟩]⟩ := by
  obtain ⟨nonempty, shown, first⟩ := plain
  refine congrArg (Line.mk word) ?_
  rw [wordsOf]
  cases letters : word.toList with
  | nil => exact absurd (String.toList_eq_nil_iff.mp letters) nonempty
  | cons c rest =>
    rw [letters] at first shown
    obtain ⟨single, double, -, -⟩ := first c rfl
    have stretch : Stretch (c :: rest) (String.ofList (c :: rest)) [] :=
      .bare (shown c List.mem_cons_self) ⟨single, double⟩ (fun d member => shown d (List.mem_cons_of_mem c member)) (by simp)
    have split := wordsFrom_stretch stretch 0
    rw [List.append_nil] at split
    rw [split, ← letters, String.ofList_toList]
    rfl

end Words

namespace World

variable {world last : World} {actor id : ThingId} {text word reference : String} {line : Line}

theorem command_gave (ran : (command actor text).run world = some (.ok (), last)) : ∃ value mid,
    (dispatch (Context.of actor (world.isAdmin actor)) text).run (Moment.opened.perform world.nextVersion) =
      some (.ok value, mid) ∧
    last.things = mid.things ∧ last.registry = mid.registry ∧ (mid.Tracked [] → last.Tracked []) := by
  rw [command, Run.run_bind, Run.run_get] at ran
  dsimp only at ran
  rw [reporting, Run.run_bind, Run.run_observe] at ran
  cases typed : (Run.versioned (dispatch (Context.of actor (world.isAdmin actor)) text)).run world with
  | none =>
    rw [typed] at ran
    cases ran
  | some ended =>
    obtain ⟨result, mid⟩ := ended
    rw [typed] at ran
    cases result with
    | error failure =>
      dsimp only [Option.map_some] at ran
      split at ran <;> cases ran
    | ok value =>
      cases ran
      rw [Run.versioned, Run.run_bind, Run.run_modify] at typed
      obtain ⟨inner, ran, rfl | rfl⟩ := run_scope_gave typed
      · exact ⟨value, last, ran, rfl, rfl, id⟩
      · exact ⟨value, inner, ran, commit_things _ _, commit_registry _ _,
          fun tracked => tracked_commit _ (tracked_congr tracked rfl rfl rfl)⟩

theorem dispatch_gave {context : Context} {value : Option Script.Value} {spec : VerbSpec}
    (shallow : context.depth ≤ world.limits.substitutionDepth) (parsed : Line.parse (normalizeLine text) = line)
    (spoken : line.verb?.map Text.lower = some word) (known : world.registry[word]? = some spec)
    (ran : (dispatch context text).run world = some (.ok value, last)) :
    ∃ fuel, ((Engine.ofFuel fuel).perform context spec.verb line).run world = some (.ok value, last) := by
  obtain ⟨first, verb, rfl⟩ := Option.map_eq_some_iff.mp spoken
  obtain ⟨fuel, same⟩ := run_known shallow parsed verb known
  rw [ran, Engine.dispatchVerb] at same
  split at same
  · cases same
  · exact ⟨fuel, same.symm⟩

-- What is done about a word that is no built-in verb, typed alone, when that template or none was found for it.
def answer (world : World) (context : Context) (word : String) : Option (ThingId × String) → Run (Option Script.Value)
  | some (owner, template) => (Engine.ofFuel (world.fuel - 1)).runTemplate context owner (Text.lower word) template [word]
  | none => throw (.unknownCommand (Text.lower word))

theorem run_plain {context : Context} (shallow : context.depth ≤ world.limits.substitutionDepth)
    (fresh : context.running = none) (plain : PlainWord word) (unlisted : world.registry[Text.lower word]? = none) :
    (dispatch context word).run world =
      (world.answer context word (world.findTemplate? context.actor (Text.lower word))).run world := by
  rw [run_engine, answer.eq_def, Engine.dispatchLine, Run.run_bind, Run.run_get]
  dsimp only
  rw [if_neg (Nat.not_lt.mpr shallow), normalizeLine_plain plain, parse_plain plain]
  show ((Engine.ofFuel (world.fuel - 1)).dispatchWord context (Text.lower word) _).run world = _
  rw [Engine.dispatchWord, Run.run_bind, Run.run_get]
  dsimp only
  rw [unlisted, fresh]
  dsimp only
  rw [if_neg (Option.some_ne_none _).symm]
  cases world.findTemplate? context.actor (Text.lower word) <;> rfl

theorem standard_defines : ∃ spec, Registry.standard["@command"]? = some spec ∧ spec.verb = .defineCommand := by
  have listed : (Registry.standard["@command"]?.any fun spec => spec.verb == .defineCommand) = true := by decide +kernel
  obtain ⟨spec, known, defines⟩ := (Option.any_eq_true _ _).mp listed
  exact ⟨spec, known, beq_iff_eq.mp defines⟩

-- The two properties are one when lower case changes only ASCII letters.
theorem commandProperty_lower_iff :
    commandProperty (Text.lower word) = commandProperty word ↔ Text.asciiLower word = Text.lower word := by
  rw [commandProperty, commandProperty, Text.asciiLower_lower, ← String.toList_inj, String.toList_append,
    String.toList_append, List.append_cancel_left_eq, String.toList_inj, eq_comm]

theorem put_inscribes {context : Context} {property template : String} (inside : world.inScope = true)
    (ran : (Engine.putTemplate context id property template).run world = some (.ok (), last)) :
    Inscribed world last id property (.text (Engine.splitTyped template)) ∧ world.contains id = true ∧
      last.registry = world.registry ∧ (world.Tracked [] → last.Tracked []) := by
  obtain ⟨_, mid, heard, written, rfl⟩ := Engine.tell_after ran
  have revises := (Act.run_joined inside _).trans
    (run_revise id (Change.write property (.text (Engine.splitTyped template))).apply () world)
  rw [show (setProperty id property _).run world = _ from revises] at written
  cases held : world.contains id with
  | false =>
    rw [held] at written
    cases written
  | true =>
    rw [held] at written
    cases written
    obtain ⟨_, _, _, same⟩ := revise_same id (Change.write property (.text (Engine.splitTyped template))).apply world
    have registry : (world.revise id (Change.write property (.text (Engine.splitTyped template))).apply).registry =
      world.registry := by rw [same]
    refine ⟨revise_things id _ world, rfl, registry, fun tracked => ?_⟩
    exact tracked_congr (tracked_revise tracked id (change_id _)) rfl rfl rfl

theorem defineCommand_inscribes {engine : Engine} {context : Context} {value : Option Script.Value}
    (inside : world.inScope = true) (filled : line.restFrom 2 ≠ "")
    (meant : world.resolveOne context.view (line.arg 0) = .ok id)
    (ran : (engine.perform context .defineCommand line).run world = some (.ok value, last)) :
    Inscribed world last id (commandProperty (line.arg 1)) (.text (Engine.splitTyped (line.restFrom 2))) ∧
      world.contains id = true ∧ last.registry = world.registry ∧ (world.Tracked [] → last.Tracked []) := by
  have resolves : (Engine.resolve context (line.arg 0)).run world = some (.ok id, world) := by
    show some (world.resolveOne context.view (line.arg 0), world) = _
    rw [meant]
  have typed : (line.restFrom 2).isEmpty = false := by
    rw [← Bool.not_eq_true, String.isEmpty_iff]
    exact filled
  have stores : (Engine.define commandProperty context line).run world =
      (Engine.storeTemplate context id (commandProperty (line.arg 1)) (line.restFrom 2)).run world := by
    rw [Engine.define, Run.run_bind, resolves]
  have ran : (Engine.define commandProperty context line >>= fun _ => pure context.result).run world =
      some (.ok value, last) := ran
  rw [Run.run_bind, stores] at ran
  cases stored : (Engine.storeTemplate context id (commandProperty (line.arg 1)) (line.restFrom 2)).run world with
  | none =>
    rw [stored] at ran
    cases ran
  | some ended =>
    obtain ⟨result, mid⟩ := ended
    rw [stored] at ran
    cases result with
    | error failure => cases ran
    | ok _ =>
      cases ran
      exact put_inscribes inside (Engine.storeTemplate_puts typed stored).1

section Search

variable {value : Datum} {typed : String}

theorem templateOf_names {other : ThingId} {found : ThingId × String} (offers : world.templateOf? word other = some found) :
    found.1 = other := by
  rw [templateOf?] at offers
  split at offers
  · cases offers
    rfl
  · split at offers
    · obtain ⟨template, -, rfl⟩ := Option.map_eq_some_iff.mp offers
      rfl
    · cases offers

-- What is held comes first, in its order.
theorem findTemplate_held {actor : ThingId} {before after : List ThingId} {template : String}
    (held : world.contents actor = before ++ id :: after)
    (earlier : ∀ other ∈ before, world.templateOf? word other = none) :
    world.findTemplate? actor word = some (id, template) ↔ world.templateOf? word id = some (id, template) := by
  rw [findTemplate?, templateScope, held, List.append_assoc, List.append_assoc, List.append_assoc, List.findSome?_append,
    List.findSome?_eq_none_iff.mpr earlier, Option.none_or, List.cons_append, List.findSome?_cons]
  cases offers : world.templateOf? word id with
  | some found => rfl
  | none =>
    refine ⟨fun later => ?_, nofun⟩
    obtain ⟨other, -, found⟩ := List.exists_of_findSome?_eq_some later
    obtain rfl : id = other := templateOf_names found
    rw [offers] at found
    cases found

theorem templateOf_apart (writes : Inscribed world last id (commandProperty typed) value)
    (apart : commandProperty word ≠ commandProperty typed) (other : ThingId) :
    last.templateOf? word other = world.templateOf? word other := by
  rw [templateOf?, templateOf?, text_written writes apart,
    answersTo_written writes (isTemplate_commandProperty typed), text_written writes (commandProperty_ne typed).symm]

theorem templateOf_inscribed (writes : Inscribed world last id (commandProperty typed) value)
    (held : world.contains id = true) (same : commandProperty word = commandProperty typed) :
    last.templateOf? word id = some (id, value.asText) := by
  rw [templateOf?, same, text_inscribed writes held]

end Search

-- After a verb was defined on a thing: under what it is stored, under what the line of that word is looked for, and that
-- the search comes to the thing and its template, if nothing before it answers, when lower case changes only ASCII
-- letters of the word, or the thing answered so before. Else every thing answers the word as it did before.
theorem verbs_are_found_by_their_ascii_fold (standard : world.registry = .standard)
    (parsed : Line.parse (normalizeLine text) = line) (spoken : line.verb?.map Text.lower = some "@command")
    (meant : world.resolveOne (Context.of actor (world.isAdmin actor)).view (line.arg 0) = .ok id)
    (typed : line.arg 1 = word) (plain : PlainWord word) (unlisted : world.registry[Text.lower word]? = none)
    (filled : line.restFrom 2 ≠ "") (ran : (command actor text).run world = some (.ok (), last)) :
    (last.things[id]?).bind (·.own? (commandProperty word)) = some (.text (Engine.splitTyped (line.restFrom 2))) ∧
    (dispatch (Context.of actor (last.isAdmin actor)) word).run last =
      (last.answer (Context.of actor (last.isAdmin actor)) word (last.findTemplate? actor (Text.lower word))).run last ∧
    (∀ before after, last.contents actor = before ++ id :: after →
      (∀ other ∈ before, last.templateOf? (Text.lower word) other = none) →
        (last.findTemplate? actor (Text.lower word) = some (id, Engine.splitTyped (line.restFrom 2)) ↔
          Text.asciiLower word = Text.lower word ∨
            world.templateOf? (Text.lower word) id = some (id, Engine.splitTyped (line.restFrom 2)))) ∧
    (Text.asciiLower word ≠ Text.lower word →
      ∀ other, last.templateOf? (Text.lower word) other = world.templateOf? (Text.lower word) other) ∧
    (world.Tracked [] → ∀ holder, last.contents holder = world.contents holder) := by
  obtain ⟨value, mid, gave, things, registry, tracks⟩ := command_gave ran
  obtain ⟨spec, known, defines⟩ := standard_defines
  let inside := Moment.opened.perform world.nextVersion
  have offered : inside.registry["@command"]? = some spec := standard ▸ known
  have meant' : inside.resolveOne (Context.of actor (world.isAdmin actor)).view (line.arg 0) = .ok id :=
    (resolveOne_same (show inside.things = world.things from rfl) rfl rfl _ _).trans meant
  obtain ⟨fuel, performed⟩ := dispatch_gave (Nat.zero_le _) parsed spoken offered gave
  rw [defines] at performed
  obtain ⟨inscribed, held, registry', tracks'⟩ := defineCommand_inscribes rfl filled meant' performed
  rw [typed] at inscribed
  have writes : Inscribed world last id (commandProperty word) (.text (Engine.splitTyped (line.restFrom 2))) :=
    fun other => things ▸ inscribed other
  have unlisted' : last.registry[Text.lower word]? = none := by
    rw [registry, registry']
    exact unlisted
  refine ⟨?_, run_plain (Nat.zero_le _) rfl plain unlisted', ?_, ?_, ?_⟩
  · obtain ⟨thing, found⟩ := some_of_contains held
    rw [writes id, show world.things[id]? = some thing from found]
    simp [Thing.own?, Thing.write]
  · intro before after contents earlier
    rw [findTemplate_held contents earlier]
    by_cases folds : Text.asciiLower word = Text.lower word
    · exact iff_of_true (templateOf_inscribed writes held (commandProperty_lower_iff.mpr folds)) (.inl folds)
    · rw [templateOf_apart writes (commandProperty_lower_iff.not.mpr folds), or_iff_right folds]
  · exact fun folds => templateOf_apart writes (commandProperty_lower_iff.not.mpr folds)
  · intro tracked
    have opened : inside.Tracked [] := tracked_congr tracked rfl rfl rfl
    exact contents_inscribed writes (isTemplate_commandProperty word) tracked (tracks (tracks' opened))

-- A wizard holds a rock.
def furnished : Run Unit :=
  (Operation.create "wizard" "").run >>= fun wizard => (Operation.create "rock" "").run >>= fun rock =>
    inTurn [.attach wizard ⟨true, false⟩, .setLocation rock wizard]

-- The wizard gives the rock a verb, and nobody knows that verb.
theorem accented_verbs_are_unknown : ∃ start world last,
    openOn .inMemory ⟨"new", .standard, 1000, fun _ => 0⟩ = .ok start ∧ furnished.run start = some (.ok (), world) ∧
    8 ∈ world.contents 7 ∧ (command 7 "@command rock É say hi").run world = some (.ok (), last) ∧
    (last.things[(8 : ThingId)]?).bind (·.own? (commandProperty "É")) = some (.text "say hi") ∧
    (dispatch (Context.of 7 (last.isAdmin 7)) "É").run last = some (.error (.unknownCommand "é"), last) := by
  have checked : opensTo .inMemory ⟨"new", .standard, 1000, fun _ => 0⟩ (fun start =>
      Run.gives (furnished.run start) fun _ world =>
        decide (8 ∈ world.contents 7 ∧ world.registry = .standard ∧
          world.resolveOne (Context.of 7 (world.isAdmin 7)).view "rock" = .ok 8) &&
          Run.gives ((command 7 "@command rock É say hi").run world) fun _ last =>
            decide (last.findTemplate? 7 (Text.lower "É") = none)) = true := by decide +kernel
  obtain ⟨start, opened, checked⟩ := opensTo_iff.mp checked
  obtain ⟨⟨⟩, world, ran, checked⟩ := Run.gives_iff.mp checked
  obtain ⟨here, checked⟩ := (Bool.and_eq_true _ _).mp checked
  obtain ⟨held, standard, meant⟩ := of_decide_eq_true here
  obtain ⟨⟨⟩, last, defined, checked⟩ := Run.gives_iff.mp checked
  have nowhere := of_decide_eq_true checked
  have words : (Line.parse (normalizeLine "@command rock É say hi")).verb?.map Text.lower = some "@command" ∧
      (Line.parse (normalizeLine "@command rock É say hi")).arg 0 = "rock" ∧
      (Line.parse (normalizeLine "@command rock É say hi")).arg 1 = "É" ∧
      (Line.parse (normalizeLine "@command rock É say hi")).restFrom 2 = "say hi" := by decide +kernel
  obtain ⟨spoken, first, second, rest⟩ := words
  have letters : "É".toList = ['É'] := by decide +kernel
  have plain : PlainWord "É" := by
    refine ⟨by decide, fun c member => ?_, fun c member => ?_⟩
    · rw [letters] at member
      obtain rfl := List.mem_singleton.mp member
      decide +kernel
    · rw [letters] at member
      obtain rfl := Option.some.inj member
      decide
  have unlisted : world.registry[Text.lower "É"]? = none := by
    rw [standard]
    decide +kernel
  obtain ⟨stored, typed, -⟩ := verbs_are_found_by_their_ascii_fold standard rfl spoken (first ▸ meant) second plain
    unlisted (by rw [rest]; decide) defined
  have split : Engine.splitTyped "say hi" = "say hi" := by decide +kernel
  have lower : Text.lower "É" = "é" := by decide +kernel
  rw [rest, split] at stored
  rw [nowhere, answer, lower] at typed
  exact ⟨start, world, last, opened, ran, held, defined, stored, typed⟩

end World

end ThingWorld
