import ThingWorld.Format
import ThingWorld.Proofs.Format.Scanning
import ThingWorld.Proofs.Text.Finding
import ThingWorld.Proofs.Text.Trimming
import ThingWorld.Proofs.Upkeep.Opened
namespace ThingWorld

open Format

variable {world : World} {nested : Option Nested} {context : FormatContext} {template : String}
  {first second before mine after cs : List Char} {lead rest : List Piece}

-- The viewer is the one who acts.
def FormatContext.Acts (context : FormatContext) : Prop :=
  context.viewer.isSome = true ∧ context.viewer = context.actor

namespace Format

-- A text with neither mark in it.
def Unmarked (cs : List Char) : Prop := Text.find? forMe cs = none ∧ Text.find? forOthers cs = none

theorem forMe_chars : forMe = ['$', 'f', 'o', 'r', 'm', 'e'] := by decide +kernel

theorem forOthers_chars : forOthers = ['$', 'f', 'o', 'r', 'o', 't', 'h', 'e', 'r', 's'] := by decide +kernel

instance (cs : List Char) : Decidable (Unmarked cs) :=
  inferInstanceAs (Decidable (Text.find? forMe cs = none ∧ Text.find? forOthers cs = none))

-- Two marks of which the second is not found in the first, nor across its end.
structure Marks (first second : List Char) : Prop where
  opens : ∃ body, first = '$' :: body ∧ '$' ∉ body
  follows : ∃ body, second = '$' :: body ∧ '$' ∉ body
  other : ∀ rest, Text.find? second rest = none → Text.find? second (first ++ rest) = none

theorem marks_mine : Marks forMe forOthers where
  opens := ⟨_, forMe_chars, by decide⟩
  follows := ⟨_, forOthers_chars, by decide⟩
  other rest absent := by
    rw [forOthers_chars] at absent
    rw [forOthers_chars, forMe_chars, List.cons_append, Text.find?, find_skips (by decide) absent]
    rfl

theorem marks_theirs : Marks forOthers forMe where
  opens := ⟨_, forOthers_chars, by decide⟩
  follows := ⟨_, forMe_chars, by decide⟩
  other rest absent := by
    rw [forMe_chars] at absent
    rw [forOthers_chars, forMe_chars, List.cons_append, Text.find?, find_skips (by decide) absent]
    rfl

-- A text with both marks in it, in the order in which they stand.
def halved (before first mine second after : List Char) : List Char := before ++ first ++ mine ++ second ++ after

theorem find_opening (marks : Marks first second) (absent : Text.find? first before = none) :
    Text.find? first (halved before first mine second after) = some before.length := by
  obtain ⟨body, rfl, once⟩ := marks.opens
  rw [halved, List.append_assoc, List.append_assoc, List.append_assoc, List.cons_append, find_after once absent,
    ← List.cons_append, find_here]
  exact congrArg some (Nat.zero_add before.length)

theorem find_following (marks : Marks first second) (absent : Text.find? second before = none)
    (absent' : Text.find? second mine = none) :
    Text.find? second (halved before first mine second after) = some (before ++ first ++ mine).length := by
  obtain ⟨shape, rfl, -⟩ := marks.opens
  obtain ⟨body, rfl, once⟩ := marks.follows
  have clear : Text.find? ('$' :: body) (before ++ '$' :: shape ++ mine) = none := by
    rw [List.append_assoc, List.cons_append, find_after once absent, ← List.cons_append, marks.other mine absent']
    rfl
  rw [halved, List.append_assoc _ ('$' :: body), List.cons_append, find_after once clear, ← List.cons_append, find_here]
  exact congrArg some (Nat.zero_add _)

theorem half_opening (marks : Marks first second) :
    half (halved before first mine second after) first.length before.length (some (before ++ first ++ mine).length) =
      Text.trim mine := by
  obtain ⟨body, rfl, -⟩ := marks.opens
  have later : before.length < (before ++ '$' :: body ++ mine).length := by
    simp only [List.length_append, List.length_cons]
    omega
  rw [half, if_pos later, halved, List.append_assoc _ second, List.take_left, ← List.length_append, List.drop_left]

theorem half_following : half (halved before first mine second after) second.length (before ++ first ++ mine).length
    (some before.length) = Text.trim after := by
  have earlier : ¬ (before ++ first ++ mine).length < before.length := by
    simp only [List.length_append]
    omega
  rw [half, if_neg earlier, List.take_length, halved, ← List.length_append, List.drop_left]

theorem unmarked_within (within : before <:+: cs) (unmarked : Unmarked cs) : Unmarked before :=
  ⟨find_none_within within unmarked.1, find_none_within within unmarked.2⟩

theorem unmarked_trim (unmarked : Unmarked cs) : Unmarked (Text.trim cs) := by
  obtain ⟨lead, tail, -, -, same⟩ := trim_padded cs
  exact unmarked_within ⟨lead, tail, same.symm⟩ unmarked

theorem selectHalf_unmarked (unmarked : Unmarked cs) : selectHalf cs context = cs := by
  rw [selectHalf, unmarked.1, unmarked.2]
  rfl

theorem selectHalf_acts (acts : context.Acts) {here : Nat} (found : Text.find? forMe cs = some here) :
    selectHalf cs context = half cs forMe.length here (Text.find? forOthers cs) := by
  have actor : (context.viewer.isSome && context.viewer == context.actor) = true := by
    rw [acts.1, acts.2, beq_self_eq_true]
    rfl
  rw [selectHalf, actor, found]
  rfl

theorem selectHalf_watches (watches : ¬ context.Acts) {there : Nat} (found : Text.find? forOthers cs = some there) :
    selectHalf cs context = half cs forOthers.length there (Text.find? forMe cs) := by
  have other : (context.viewer.isSome && context.viewer == context.actor) = false := by
    rw [← Bool.not_eq_true, Bool.and_eq_true, beq_iff_eq]
    exact watches
  rw [selectHalf, other, found]
  cases Text.find? forMe cs <;> rfl

section
variable {theirs : List Char} (clear : Unmarked before)
include clear

theorem mine_acts (only : Unmarked mine) (acts : context.Acts) :
    selectHalf (halved before forMe mine forOthers theirs) context = Text.trim mine := by
  rw [selectHalf_acts acts (find_opening marks_mine clear.1), find_following marks_mine clear.2 only.2,
    half_opening marks_mine]

theorem mine_watches (only : Unmarked mine) (watches : ¬ context.Acts) :
    selectHalf (halved before forMe mine forOthers theirs) context = Text.trim theirs := by
  rw [selectHalf_watches watches (find_following marks_mine clear.2 only.2), find_opening marks_mine clear.1,
    half_following]

theorem theirs_acts (only : Unmarked theirs) (acts : context.Acts) :
    selectHalf (halved before forOthers theirs forMe mine) context = Text.trim mine := by
  rw [selectHalf_acts acts (find_following marks_theirs clear.1 only.1), find_opening marks_theirs clear.2,
    half_following]

theorem theirs_watches (only : Unmarked theirs) (watches : ¬ context.Acts) :
    selectHalf (halved before forOthers theirs forMe mine) context = Text.trim theirs := by
  rw [selectHalf_watches watches (find_opening marks_theirs clear.2), find_following marks_theirs clear.1 only.1,
    half_opening marks_theirs]

end

-- The scanner ends at the piece or leaves out what follows.
def Piece.Stops : Piece → Prop
  | .token name _ => String.ofList (lowerFirst name) = "quote" ∨ String.ofList (lowerFirst name) = "admin"
  | _ => False

instance : DecidablePred Piece.Stops
  | .char _ => inferInstanceAs (Decidable False)
  | .dollar => inferInstanceAs (Decidable False)
  | .token name _ =>
    inferInstanceAs (Decidable (String.ofList (lowerFirst name) = "quote" ∨ String.ofList (lowerFirst name) = "admin"))

-- Having read `before`, the scanner comes to a word for admins, the first one.
def AdminAfter (before template : String) : Prop :=
  ∃ lead name property rest, pieces template.toList = lead ++ .token name property :: rest ∧
    spelling lead = before.toList ∧ String.ofList (lowerFirst name) = "admin" ∧ ∀ piece ∈ lead, ¬ piece.Stops

-- What a word shows that does not stop the scanner.
def shown (world : World) (nested : Option Nested) (context : FormatContext) (name : List Char)
    (property : Option (List Char)) : List Char :=
  match expand world nested context (String.ofList (lowerFirst name)) (property.map String.ofList) with
  | some text => (if isCapitalized name then Text.capitalize text else text).toList
  | none => (Piece.token name property).spelling

theorem renderPieces_token {name : List Char} {property : Option (List Char)} (on : ¬ (Piece.token name property).Stops)
    (rest : List Piece) :
    renderPieces world nested context (.token name property :: rest) =
      (shown world nested context name property ++ (renderPieces world nested context rest).1,
        (renderPieces world nested context rest).2) := by
  obtain ⟨quote, admin⟩ := not_or.mp on
  rw [renderPieces.eq_def]
  dsimp only
  rw [if_neg (by rwa [beq_iff_eq]), if_neg (by rwa [beq_iff_eq])]
  rfl

theorem renderPieces_lead (on : ∀ piece ∈ lead, ¬ piece.Stops) (rest : List Piece) :
    renderPieces world nested context (lead ++ rest) =
      ((renderPieces world nested context lead).1 ++ (renderPieces world nested context rest).1,
        (renderPieces world nested context rest).2) := by
  induction lead with
  | nil => rfl
  | cons piece lead ih =>
    have later := ih fun piece member => on piece (List.mem_cons_of_mem _ member)
    have here := on piece List.mem_cons_self
    cases piece with
    | char c => rw [List.cons_append, renderPieces, renderPieces, later]; rfl
    | dollar => rw [List.cons_append, renderPieces, renderPieces, later]; rfl
    | token name property =>
      rw [List.cons_append, renderPieces_token here, renderPieces_token here, later, List.append_assoc]

theorem renderPieces_admin (barred : context.admin = false) {name : List Char} (admin : String.ofList (lowerFirst name) = "admin")
    (property : Option (List Char)) (rest : List Piece) :
    renderPieces world nested context (.token name property :: rest) = ([], true) := by
  rw [renderPieces.eq_def]
  dsimp only
  rw [admin, barred]
  rfl

theorem renderAt_template (world : World) (levels : Nat) :
    ∃ nested, renderAt world levels = renderTemplate world nested := by
  cases levels with
  | zero => exact ⟨none, rfl⟩
  | succ levels => exact ⟨some (renderAt world levels), rfl⟩

theorem renderTemplate_trimmed {half : String} (unmarked : Unmarked half.toList)
    (chosen : selectHalf template.toList context = Text.trim half.toList) :
    renderTemplate world nested context template = renderTemplate world nested context (Text.trimmed half) := by
  rw [renderTemplate, renderTemplate, chosen, Text.trimmed, Text.mapChars, String.toList_ofList,
    selectHalf_unmarked (unmarked_trim unmarked)]

-- What is read of a template with a word for admins in it, by one who is none.
theorem renderTemplate_barred (barred : context.admin = false) {before : String} (unmarked : Unmarked template.toList)
    (reached : AdminAfter before template) :
    renderTemplate world nested context template =
      Text.mapChars Text.trimEnd (renderTemplate world nested context before) := by
  obtain ⟨lead, name, property, rest, read, spelled, admin, on⟩ := reached
  have whole : spelling lead ++ spelling (.token name property :: rest) = template.toList := by
    rw [← spelling_append, ← read, spelling_pieces]
  have within : before.toList <:+: template.toList :=
    ⟨[], spelling (.token name property :: rest), by rw [List.nil_append, ← spelled, whole]⟩
  have unmarked' := unmarked_within within unmarked
  have onward : renderPieces world nested context (lead ++ []) = _ := renderPieces_lead on []
  rw [List.append_nil, renderPieces] at onward
  rw [renderTemplate, renderTemplate, selectHalf_unmarked unmarked, selectHalf_unmarked unmarked', ← spelled,
    pieces_lead read, read, renderPieces_lead on, renderPieces_admin barred admin, onward]
  simp [Text.mapChars]

end Format

theorem viewers_read_apart (world : World) (levels : Nat) (context : FormatContext) :
    (∀ lead mine theirs : String, Unmarked lead.toList → Unmarked mine.toList → Unmarked theirs.toList →
      ∀ template ∈ [lead ++ "$forme" ++ mine ++ "$forothers" ++ theirs, lead ++ "$forothers" ++ theirs ++ "$forme" ++ mine],
        (context.Acts → renderAt world levels context template = renderAt world levels context (Text.trimmed mine)) ∧
        (¬ context.Acts → renderAt world levels context template = renderAt world levels context (Text.trimmed theirs))) ∧
    (context.admin = false → ∀ before template other : String, Unmarked template.toList → Unmarked other.toList →
      AdminAfter before template → AdminAfter before other →
        renderAt world levels context template = renderAt world levels context other ∧
        renderAt world levels context template = Text.mapChars Text.trimEnd (renderAt world levels context before)) := by
  obtain ⟨nested, same⟩ := renderAt_template world levels
  rw [same]
  constructor
  · intro lead mine theirs clear only only' template member
    rcases List.mem_pair.mp member with rfl | rfl
    · have spelled : (lead ++ "$forme" ++ mine ++ "$forothers" ++ theirs).toList =
        halved lead.toList forMe mine.toList forOthers theirs.toList := by simp only [String.toList_append]; rfl
      exact ⟨fun acts => renderTemplate_trimmed only (spelled ▸ mine_acts clear only acts),
        fun watches => renderTemplate_trimmed only' (spelled ▸ mine_watches clear only watches)⟩
    · have spelled : (lead ++ "$forothers" ++ theirs ++ "$forme" ++ mine).toList =
        halved lead.toList forOthers theirs.toList forMe mine.toList := by simp only [String.toList_append]; rfl
      exact ⟨fun acts => renderTemplate_trimmed only (spelled ▸ theirs_acts clear only' acts),
        fun watches => renderTemplate_trimmed only' (spelled ▸ theirs_watches clear only' watches)⟩
  · intro barred before template other unmarked unmarked' reached reached'
    have barely : renderTemplate world nested context template = _ := renderTemplate_barred barred unmarked reached
    exact ⟨barely.trans (renderTemplate_barred barred unmarked' reached').symm, barely⟩

-- The lobby claps.
def clapping (viewer : ThingId) : FormatContext := { FormatContext.of 6 with viewer := some viewer, actor := some 6 }

def loud : String := "It is loud. " ++ "$forme" ++ " You clap. " ++ "$forothers" ++ " $This claps. "

-- The lobby reads that it claps and the hall that the lobby does, and what stands after a word for admins nobody reads.
theorem claps_are_read_apart : ∃ world, World.openOn .inMemory ⟨"new", .standard, 1000, fun _ => 0⟩ = .ok world ∧
    renderAt world 4 (clapping 6) loud = "You clap." ∧ renderAt world 4 (clapping 5) loud = "The lobby claps." ∧
    renderAt world 4 (clapping 5) "A $name. $admin 6" = "A lobby." ∧
    renderAt world 4 (clapping 5) "A $name. $admin 6" = renderAt world 4 (clapping 5) "A $name. $Admin.name" := by
  have checked : World.opensTo .inMemory ⟨"new", .standard, 1000, fun _ => 0⟩ (fun world =>
      decide (renderAt world 4 (clapping 6) (Text.trimmed " You clap. ") = "You clap." ∧
        renderAt world 4 (clapping 5) (Text.trimmed " $This claps. ") = "The lobby claps." ∧
        Text.mapChars Text.trimEnd (renderAt world 4 (clapping 5) "A $name. ") = "A lobby.")) = true := by
    decide +kernel
  obtain ⟨world, opened, checked⟩ := World.opensTo_iff.mp checked
  obtain ⟨mine, theirs, barely⟩ := of_decide_eq_true checked
  have acts : (clapping 6).Acts := ⟨rfl, rfl⟩
  have watches : ¬ (clapping 5).Acts := fun acts => absurd acts.2 (by decide)
  have unmarked : Unmarked "It is loud. ".toList ∧ Unmarked " You clap. ".toList ∧ Unmarked " $This claps. ".toList ∧
      Unmarked "A $name. $admin 6".toList ∧ Unmarked "A $name. $Admin.name".toList := by decide +kernel
  obtain ⟨clear, clearMine, clearTheirs, clearOne, clearOther⟩ := unmarked
  have reached : AdminAfter "A $name. " "A $name. $admin 6" :=
    ⟨pieces "A $name. ".toList, "admin".toList, none, pieces " 6".toList, by decide +kernel, by decide +kernel,
      by decide +kernel, by decide +kernel⟩
  have reachedOther : AdminAfter "A $name. " "A $name. $Admin.name" :=
    ⟨pieces "A $name. ".toList, "Admin".toList, some "name".toList, [], by decide +kernel, by decide +kernel,
      by decide +kernel, by decide +kernel⟩
  have toActor := (viewers_read_apart world 4 (clapping 6)).1 _ _ _ clear clearMine clearTheirs loud List.mem_cons_self
  have toOthers := (viewers_read_apart world 4 (clapping 5)).1 _ _ _ clear clearMine clearTheirs loud List.mem_cons_self
  obtain ⟨same, least⟩ := (viewers_read_apart world 4 (clapping 5)).2 rfl _ _ _ clearOne clearOther reached reachedOther
  exact ⟨world, opened, (toActor.1 acts).trans mine, (toOthers.2 watches).trans theirs, least.trans barely, same⟩

end ThingWorld
