import ThingWorld.Proofs.Course.Line
import ThingWorld.Proofs.Course.Seed
import ThingWorld.Proofs.Templates.Typed
import ThingWorld.Proofs.Text.Trimming
import ThingWorld.Proofs.Upkeep.Opened
namespace ThingWorld

open Engine (splitTyped)

section Sources

variable {rest : List Char} {tokens : List Script.Token}

theorem trim_read (begins : ∀ c ∈ rest.head?, Text.isBlank c = false)
    (ends : ∀ c ∈ rest.getLast?, Text.isBlank c = false) (read : Script.lexFrom .gap rest = .ok tokens) :
    Text.trim (breakLines false rest) = breakLines false rest := by
  refine trim_keeps ?_ ?_
  · cases rest with
    | nil => exact nofun
    | cons c rest =>
      obtain ⟨first, next, more, step, _⟩ := Script.lexFrom_ok read
      rw [breakLines_plain (Script.apart_step rfl step).1]
      exact begins
  · rcases List.eq_nil_or_concat rest with rfl | ⟨front, c, rfl⟩
    · exact nofun
    · rw [List.concat_eq_append] at ends read ⊢
      obtain ⟨out, same⟩ := Script.lexFrom_last (.outside rfl) read
      rw [same, List.getLast?_concat]
      rw [List.getLast?_concat] at ends
      exact ends

-- A source that is read may be trimmed before or after.
theorem trim_breakLines (read : Script.lexFrom .gap (Text.trim rest) = .ok tokens) :
    Text.trim (breakLines false rest) = breakLines false (Text.trim rest) := by
  obtain ⟨lead, tail, before, after, same⟩ := trim_padded rest
  have whole : breakLines false rest = lead ++ breakLines false (Text.trim rest) ++ tail := by
    calc breakLines false rest = breakLines false (lead ++ Text.trim rest ++ tail) := congrArg _ same
      _ = lead ++ breakLines false (Text.trim rest) ++ tail := by rw [(breakLines_tail after _).1, breakLines_blank before]
  rw [whole]
  exact trim_strips before after (trim_read (trim_begins rest) (trimEnd_ends _) read)

variable {limits : Limits} {source : String} {expr : Script.Expr}

theorem read_of_validated (accepted : Script.validate limits source = .ok expr) :
    source.length ≤ limits.scriptLength ∧ ∃ tokens, Script.lexFrom .gap source.toList = .ok tokens ∧
      Script.parseTokens Script.maxNesting tokens = .ok expr := by
  rw [Script.validate] at accepted
  split at accepted
  · cases accepted
  · rename_i short
    refine ⟨Nat.not_lt.mp short, ?_⟩
    cases parsed : Script.parse source with
    | error error =>
      rw [parsed] at accepted
      cases accepted
    | ok expr' =>
      rw [parsed] at accepted
      cases accepted
      exact Script.passes_bind parsed

theorem validate_splitTyped (accepted : Script.validate limits source = .ok expr) :
    Script.validate limits (splitTyped source) = .ok (expr.retell splitTyped) := by
  obtain ⟨short, tokens, read, parsed⟩ := read_of_validated accepted
  have read' : Script.lex (splitTyped source) = .ok (tokens.map (Script.Token.retell splitTyped)) := by
    rw [Script.lex, splitTyped_breaks, String.toList_ofList]
    exact Script.lexFrom_breakLines (.outside rfl) read
  have short' : (splitTyped source).length ≤ limits.scriptLength := by
    rw [splitTyped_breaks, String.length_ofList]
    exact Nat.le_trans (length_breakLines source.toList).1 short
  have parsed' : Script.parse (splitTyped source) = .ok (expr.retell splitTyped) := by
    rw [Script.parse, read']
    exact Script.parseTokens_retell splitTyped parsed
  rw [Script.validate, if_neg (Nat.not_lt.mpr short'), parsed']
  rfl

end Sources

-- What may be typed before a mark without being seen in the stored text.
inductive Margin : List Char → Prop where
  | nil : Margin []
  | blank {c : Char} {rest : List Char} (blank : Text.isBlank c = true) (more : Margin rest) : Margin (c :: rest)
  | typed {rest : List Char} (more : Margin rest) : Margin ('\\' :: 'n' :: rest)

section Marks

variable {lead rest shown : List Char} {text source : String}

theorem Margin.breaks (margin : Margin lead) : ∃ blanks : List Char, blanks.all Text.isBlank = true ∧
    ∀ rest, breakLines false (lead ++ rest) = blanks ++ breakLines false rest := by
  induction margin with
  | nil => exact ⟨[], rfl, fun rest => rfl⟩
  | @blank c more blank _ ih =>
    obtain ⟨blanks, hidden, same⟩ := ih
    refine ⟨c :: blanks, by rw [List.all_cons, blank, hidden]; rfl, fun rest => ?_⟩
    rw [List.cons_append, breakLines_plain (blank_plain blank), same]
    rfl
  | typed _ ih =>
    obtain ⟨blanks, hidden, same⟩ := ih
    refine ⟨'\n' :: blanks, hidden, fun rest => ?_⟩
    exact congrArg ('\n' :: ·) (same rest)

theorem Margin.shows (margin : Margin lead) : lead.all Text.isBlank = true ∨
    '\\' ∈ lead ∧ ∀ rest, ∃ more, Text.trimStart (lead ++ rest) = '\\' :: more := by
  induction margin with
  | nil => exact .inl rfl
  | @blank c more blank _ ih =>
    have drop (rest : List Char) : Text.trimStart (c :: rest) = Text.trimStart rest := List.dropWhile_cons_of_pos blank
    rcases ih with hidden | ⟨typed, shown⟩
    · exact .inl (by rw [List.all_cons, blank, hidden]; rfl)
    · exact .inr ⟨List.mem_cons_of_mem c typed, fun rest => (shown rest).imp fun _ same => (drop _).trans same⟩
  | typed _ _ => exact .inr ⟨List.mem_cons_self, fun rest => ⟨_, rfl⟩⟩

theorem margin_of_mark (cs : List Char) :
    (Text.trimStart (breakLines false cs) = '!' :: shown →
      ∃ lead rest, Margin lead ∧ cs = lead ++ '!' :: rest ∧ shown = breakLines false rest) ∧
    (Text.trimStart (breakLines true cs) = '!' :: shown →
      ∃ lead rest, Margin lead ∧ '\\' :: cs = lead ++ '!' :: rest ∧ shown = breakLines false rest) := by
  induction cs with
  | nil => exact ⟨nofun, nofun⟩
  | cons c rest ih =>
    have first (marked : Text.trimStart (breakLines false (c :: rest)) = '!' :: shown) :
        ∃ lead more, Margin lead ∧ c :: rest = lead ++ '!' :: more ∧ shown = breakLines false more := by
      by_cases backslash : c = '\\'
      · subst backslash
        exact ih.2 marked
      rw [breakLines_plain backslash] at marked
      cases blank : Text.isBlank c with
      | true =>
        obtain ⟨lead, more, margin, rfl, same⟩ := ih.1 ((List.dropWhile_cons_of_pos blank).symm.trans marked)
        exact ⟨c :: lead, more, .blank blank margin, rfl, same⟩
      | false =>
        have stays := (List.dropWhile_cons_of_neg (by rw [blank]; exact Bool.false_ne_true)).symm.trans marked
        cases stays
        exact ⟨[], rest, .nil, rfl, rfl⟩
    refine ⟨first, fun marked => ?_⟩
    by_cases pair : c = 'n'
    · subst pair
      obtain ⟨lead, more, margin, rfl, same⟩ := ih.1 marked
      exact ⟨'\\' :: 'n' :: lead, more, .typed margin, rfl, same⟩
    · rw [breakLines_released pair] at marked
      have stays : '\\' :: breakLines false (c :: rest) = '!' :: shown := marked
      cases stays

theorem scriptSource_iff : scriptSource? text = some source ↔ ∃ lead rest, lead.all Text.isBlank = true ∧
    text.toList = lead ++ '!' :: rest ∧ source = String.ofList (Text.trim rest) := by
  rw [scriptSource?]
  constructor
  · intro found
    split at found
    · rename_i rest marked
      cases found
      refine ⟨text.toList.takeWhile Text.isBlank, rest, List.all_takeWhile, ?_, rfl⟩
      rw [← marked]
      exact List.takeWhile_append_dropWhile.symm
    · cases found
  · rintro ⟨lead, rest, blank, same, rfl⟩
    rw [same, trimStart_append blank]
    rfl

theorem scriptSource_splitTyped_iff : scriptSource? (splitTyped text) = some source ↔ ∃ lead rest, Margin lead ∧
    text.toList = lead ++ '!' :: rest ∧ source = String.ofList (Text.trim (breakLines false rest)) := by
  constructor
  · intro found
    rw [scriptSource?, splitTyped_breaks, String.toList_ofList] at found
    split at found
    · rename_i shown marked
      cases found
      obtain ⟨lead, rest, margin, same, rfl⟩ := (margin_of_mark text.toList).1 marked
      exact ⟨lead, rest, margin, same, rfl⟩
    · cases found
  · rintro ⟨lead, rest, margin, same, rfl⟩
    obtain ⟨blanks, hidden, broken⟩ := margin.breaks
    refine scriptSource_iff.mpr ⟨blanks, breakLines false rest, hidden, ?_, rfl⟩
    rw [splitTyped_breaks, String.toList_ofList, same, broken]
    rfl

end Marks

-- The source that is stored is that of the script that was validated, and so is its expression but for what its texts say.
def Vetted (limits : Limits) (template source : String) : Prop :=
  ∃ typed expr, scriptSource? template = some typed ∧ source = splitTyped typed ∧
    Script.validate limits typed = .ok expr ∧ Script.validate limits source = .ok (expr.retell splitTyped) ∧
    (expr.retell splitTyped = expr ↔ ∀ content ∈ expr.texts, ¬ ['\\', 'n'] <:+: content.toList)

-- The mark stands behind a typed line break, so that the text was no script when it was looked at.
def Unvetted (template source : String) : Prop :=
  ∃ lead rest, Margin lead ∧ '\\' ∈ lead ∧ template.toList = lead ++ '!' :: rest ∧
    source = String.ofList (Text.trim (breakLines false rest))

theorem scriptSource_of_parse {text source : String} (parsed : Template.parse text = .script source) :
    scriptSource? text = some source := by
  rw [Template.parse] at parsed
  split at parsed
  · rename_i found
    cases parsed
    exact found
  · cases parsed

section Stored

variable {limits : Limits} {template source : String}

theorem unvetted_iff : Unvetted template source ↔
    scriptSource? template = none ∧ scriptSource? (splitTyped template) = some source := by
  constructor
  · rintro ⟨lead, rest, margin, typed, same, rfl⟩
    refine ⟨?_, scriptSource_splitTyped_iff.mpr ⟨lead, rest, margin, same, rfl⟩⟩
    rcases margin.shows with blank | ⟨_, shown⟩
    · exact absurd rfl (blank_plain (List.all_eq_true.mp blank '\\' typed))
    · obtain ⟨more, first⟩ := shown ('!' :: rest)
      rw [scriptSource?, same, first]
      rfl
  · rintro ⟨unseen, found⟩
    obtain ⟨lead, rest, margin, same, rfl⟩ := scriptSource_splitTyped_iff.mp found
    rcases margin.shows with blank | ⟨typed, _⟩
    · rw [scriptSource_iff.mpr ⟨lead, rest, blank, same, rfl⟩] at unseen
      cases unseen
    · exact ⟨lead, rest, margin, typed, same, rfl⟩

theorem stored_source (accepted : ∀ typed, scriptSource? template = some typed →
      ∃ expr, Script.validate limits typed = .ok expr) (found : scriptSource? (splitTyped template) = some source) :
    Vetted limits template source ∨ Unvetted template source := by
  obtain ⟨lead, rest, margin, same, rfl⟩ := scriptSource_splitTyped_iff.mp found
  rcases margin.shows with blank | ⟨typed, _⟩
  · have seen := scriptSource_iff.mpr ⟨lead, rest, blank, same, rfl⟩
    obtain ⟨expr, validated⟩ := accepted _ seen
    obtain ⟨_, tokens, read, _⟩ := read_of_validated validated
    rw [String.toList_ofList] at read
    have split : String.ofList (Text.trim (breakLines false rest)) = splitTyped (String.ofList (Text.trim rest)) := by
      rw [splitTyped_breaks, String.toList_ofList, trim_breakLines read]
    refine .inl ⟨_, expr, seen, split, validated, split ▸ validate_splitTyped validated, ?_⟩
    exact (Script.Expr.retell_same_iff splitTyped expr).trans (forall₂_congr fun content _ => splitTyped_same_iff)
  · exact .inr ⟨lead, rest, margin, typed, same, rfl⟩

end Stored

namespace World

theorem scope_revised {α : Type} {body : Act α} {id : ThingId} {f : Thing → Thing} {world last : World} {result : α}
    (revises : ∀ mid, ∃ a, body.run mid =
      if mid.contains id then (.ok a, mid.revise id f) else (.error (missing id), mid))
    (ran : body.scope.run world = (.ok result, last)) :
    last.limits = world.limits ∧ ∃ thing, world.things[id]? = some thing ∧ last.things[id]? = some (f thing) := by
  obtain ⟨_, _, _, _, _, _, same, gives⟩ := scope_leaves body world
  obtain ⟨a, revised⟩ := revises { world with inScope := true }
  rw [ran, revised] at same gives
  cases held : World.contains { world with inScope := true } id with
  | false =>
    rw [held] at gives
    cases gives result rfl
  | true =>
    rw [held] at same
    obtain ⟨thing, found⟩ := some_of_contains held
    have found : world.things[id]? = some thing := found
    refine ⟨?_, thing, found, ?_⟩
    · obtain ⟨_, _, _, same'⟩ := revise_same id f { world with inScope := true }
      rw [show last = _ from same, if_pos rfl, same']
    · rw [show last = _ from same, if_pos rfl]
      refine (revise_things id f { world with inScope := true } id).trans ?_
      rw [found, Option.map_some, if_pos rfl]

variable {id : ThingId} {property : String} {world last : World}

theorem own_setProperty {value : Datum} (ran : (setProperty id property value).run world = (.ok (), last)) :
    last.limits = world.limits ∧ (last.things[id]?).bind (·.own? property) = some value := by
  obtain ⟨limits, thing, _, found⟩ := scope_revised
    (fun mid => ⟨(), run_revise id (fun thing => thing.write property value) () mid⟩) ran
  refine ⟨limits, ?_⟩
  rw [found]
  exact Std.ExtTreeMap.getElem?_insert_self

theorem own_unsetProperty {old : Option Datum} (ran : (unsetProperty id property).run world = (.ok old, last)) :
    last.limits = world.limits ∧ (last.things[id]?).bind (·.own? property) = none := by
  obtain ⟨limits, thing, _, found⟩ := scope_revised
    (fun mid => ⟨_, run_revise id (fun thing => thing.erase property)
      ((mid.things[id]?).bind fun thing => thing.own? property) mid⟩) ran
  refine ⟨limits, ?_⟩
  rw [found]
  exact Std.ExtTreeMap.getElem?_erase_self

end World

namespace Engine

variable {context : Context} {world last : World} {id : ThingId} {property template : String}

-- The template as it is stored when nothing is to be validated.
def putTemplate (context : Context) (id : ThingId) (property template : String) : Run Unit := do
  World.setProperty id property (.text (splitTyped template))
  tell context ("Set " ++ property ++ " on " ++ showId id ++ ".")

theorem tell_after {α : Type} {act : Act α} {text : String}
    (ran : (do let _ ← act; tell context text : Run Unit).run world = some (.ok (), last)) :
    ∃ a mid heard, act.run world = (.ok a, mid) ∧ last = { mid with heard := heard } := by
  have acts : (liftM act : Run α).run world = some (act.run world) := rfl
  rw [Run.run_bind, acts] at ran
  cases acted : act.run world with
  | mk result mid =>
    rw [acted] at ran
    cases result with
    | error failure => cases ran
    | ok a =>
      obtain ⟨heard, same⟩ := World.tell_same context.actor text mid
      cases ran
      exact ⟨a, mid, heard, rfl, same⟩

theorem put_gave (ran : (putTemplate context id property template).run world = some (.ok (), last)) :
    last.limits = world.limits ∧
      (last.things[id]?).bind (·.own? property) = some (.text (splitTyped template)) := by
  obtain ⟨_, mid, heard, written, rfl⟩ := tell_after ran
  have own : mid.limits = world.limits ∧ _ := World.own_setProperty written
  exact own

theorem storeTemplate_unseen (typed : template.isEmpty = false) (unseen : scriptSource? template = none) :
    storeTemplate context id property template = putTemplate context id property template := by
  rw [storeTemplate, typed, if_neg Bool.false_ne_true, unseen]
  rfl

theorem storeTemplate_puts (typed : template.isEmpty = false)
    (ran : (storeTemplate context id property template).run world = some (.ok (), last)) :
    (putTemplate context id property template).run world = some (.ok (), last) ∧
      ∀ typed, scriptSource? template = some typed → ∃ expr, Script.validate world.limits typed = .ok expr := by
  cases found : scriptSource? template with
  | none =>
    rw [storeTemplate_unseen typed found] at ran
    exact ⟨ran, fun typed same => by cases same⟩
  | some source =>
    rw [storeTemplate, typed, if_neg Bool.false_ne_true, found, Run.run_bind, Run.run_get] at ran
    dsimp only at ran
    cases validated : Script.validate world.limits source with
    | error failure =>
      rw [validated] at ran
      cases ran
    | ok expr =>
      rw [validated] at ran
      refine ⟨ran, fun typed same => ?_⟩
      cases same
      exact ⟨expr, validated⟩

theorem storeTemplate_gave (ran : (storeTemplate context id property template).run world = some (.ok (), last)) :
    last.limits = world.limits ∧ (last.things[id]?).bind (·.own? property) =
      (if template.isEmpty then none else some (.text (splitTyped template))) ∧
    ∀ typed, scriptSource? template = some typed → ∃ expr, Script.validate world.limits typed = .ok expr := by
  cases empty : template.isEmpty with
  | true =>
    rw [storeTemplate, if_pos empty] at ran
    obtain ⟨_, mid, heard, unset, rfl⟩ := tell_after ran
    obtain ⟨limits, own⟩ := World.own_unsetProperty unset
    refine ⟨limits, own, fun typed found => ?_⟩
    rw [String.isEmpty_iff.mp empty] at found
    cases found
  | false =>
    obtain ⟨put, accepted⟩ := storeTemplate_puts empty ran
    obtain ⟨limits, own⟩ := put_gave put
    exact ⟨limits, own, accepted⟩

theorem templates_are_stored_with_their_breaks (property : String → String) (context : Context) (line : Line)
    (world : World) :
    (∀ last, (define property context line).run world = some (.ok (), last) →
      ∃ id, world.resolveOne context.view (line.arg 0) = .ok id ∧ last.limits = world.limits ∧
        (last.things[id]?).bind (·.own? (property (line.arg 1))) =
          (if (line.restFrom 2).isEmpty then none else some (.text (splitTyped (line.restFrom 2)))) ∧
        ∀ source, Template.parse (splitTyped (line.restFrom 2)) = .script source →
          Vetted world.limits (line.restFrom 2) source ∨ Unvetted (line.restFrom 2) source) ∧
    ∀ id source, world.resolveOne context.view (line.arg 0) = .ok id → Unvetted (line.restFrom 2) source →
      Template.parse (splitTyped (line.restFrom 2)) = .script source ∧ (define property context line).run world =
        (putTemplate context id (property (line.arg 1)) (line.restFrom 2)).run world := by
  have resolves : (resolve context (line.arg 0)).run world =
      some (world.resolveOne context.view (line.arg 0), world) := rfl
  constructor
  · intro last ran
    rw [define, Run.run_bind, resolves] at ran
    cases resolved : world.resolveOne context.view (line.arg 0) with
    | error failure =>
      rw [resolved] at ran
      cases ran
    | ok id =>
      rw [resolved] at ran
      obtain ⟨limits, own, accepted⟩ := storeTemplate_gave ran
      exact ⟨id, rfl, limits, own, fun source found => stored_source accepted (scriptSource_of_parse found)⟩
  · intro id source resolved unvetted
    obtain ⟨unseen, found⟩ := unvetted_iff.mp unvetted
    have typed : (line.restFrom 2).isEmpty = false := by
      obtain ⟨lead, rest, _, _, same, _⟩ := unvetted
      cases empty : (line.restFrom 2).isEmpty with
      | false => rfl
      | true =>
        rw [String.isEmpty_iff.mp empty] at same
        exact absurd same.symm (List.append_ne_nil_of_right_ne_nil lead (List.cons_ne_nil _ _))
    refine ⟨by rw [Template.parse, found], ?_⟩
    rw [define, Run.run_bind, resolves, resolved]
    exact congrArg (fun steps => steps.run world) (storeTemplate_unseen typed unseen)

def waving : Line := Line.parse "@command me wave \\n!("

-- A lobby is given a script that nobody can read.
theorem unread_waves_are_stored :
    ∃ start last, World.openOn .inMemory ⟨"new", .standard, 1000, fun _ => 0⟩ = .ok start ∧
      (define commandProperty (.of start.info.lobby true) waving).run start = some (.ok (), last) ∧
      (last.things[start.info.lobby]?).bind (·.own? (commandProperty "wave")) = some (.text "\n!(") ∧
      Template.parse "\n!(" = .script "(" ∧ (Script.validate last.limits "(").isOk = false ∧
      (putTemplate (.of start.info.lobby true) start.info.lobby (commandProperty "wave") "\\n!(").run start =
        some (.ok (), last) := by
  have checked : World.opensTo .inMemory ⟨"new", .standard, 1000, fun _ => 0⟩ (fun start =>
      Run.gives ((define commandProperty (.of start.info.lobby true) waving).run start) fun _ last =>
        !(Script.validate last.limits "(").isOk) = true := by decide +kernel
  obtain ⟨start, opened, checked⟩ := World.opensTo_iff.mp checked
  obtain ⟨⟨⟩, last, ran, unread⟩ := Run.gives_iff.mp checked
  have unread := (Bool.not_eq_true' _).mp unread
  have template : waving.restFrom 2 = "\\n!(" := by decide +kernel
  have word : waving.arg 1 = "wave" := by decide +kernel
  have script : Template.parse (splitTyped "\\n!(") = .script "(" := by decide +kernel
  have stored : splitTyped "\\n!(" = "\n!(" := by decide +kernel
  have meant : start.resolveOne (Context.of start.info.lobby true).view (waving.arg 0) = .ok start.info.lobby := by
    have name : waving.arg 0 = "me" := by decide +kernel
    rw [name, World.resolveOne, World.resolve_me]
    rfl
  obtain ⟨gave, puts⟩ :=
    templates_are_stored_with_their_breaks commandProperty (.of start.info.lobby true) waving start
  obtain ⟨id, resolved, limits, own, sources⟩ := gave last ran
  obtain rfl : start.info.lobby = id := Except.ok.inj (meant.symm.trans resolved)
  rw [template] at own sources puts
  rw [word] at own puts
  have unvetted : Unvetted "\\n!(" "(" := by
    rcases sources "(" script with ⟨_, _, _, _, _, read, _⟩ | unvetted
    · rw [limits, read] at unread
      cases unread
    · exact unvetted
  obtain ⟨_, same⟩ := puts _ "(" meant unvetted
  exact ⟨start, last, opened, ran, stored ▸ own, stored ▸ script, unread, same.symm.trans ran⟩

end Engine

end ThingWorld
