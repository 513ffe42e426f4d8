import ThingWorld.Proofs.Json.Scalars
namespace ThingWorld.Json

mutual

-- Nothing is garbled, and each number is a word.
def isPlain : Json → Bool
  | integer n => isWord n
  | decimal _ => false
  | garbled => false
  | array items => arePlain items
  | object fields => fieldsArePlain fields
  | _ => true

def arePlain : List Json → Bool
  | [] => true
  | item :: rest => isPlain item && arePlain rest

def fieldsArePlain : List (String × Json) → Bool
  | [] => true
  | (_, value) :: rest => isPlain value && fieldsArePlain rest

end

-- Nothing but blanks is put between the parts.
structure Layout.Blank (layout : Layout) : Prop where
  lead (level : Nat) : ∀ c ∈ layout.lead level, isSpace c = true
  colon : ∃ blanks, layout.colon = ':' :: blanks ∧ ∀ c ∈ blanks, isSpace c = true

theorem blank_compact : Layout.compact.Blank where
  lead _ := nofun
  colon := ⟨[], rfl, nofun⟩

theorem blank_pretty : Layout.pretty.Blank where
  lead level c among := by
    rcases List.mem_cons.mp among with rfl | among
    · rfl
    · rw [(List.mem_replicate.mp among).2]
      rfl
  colon := ⟨[' '], rfl, fun c among => List.mem_singleton.mp among ▸ rfl⟩

section Blanks

variable {blanks : List Char}

theorem skipSpace_append (blank : ∀ c ∈ blanks, isSpace c = true) (cs : List Char) :
    skipSpace (blanks ++ cs) = skipSpace cs :=
  List.dropWhile_append_of_pos blank

theorem visible_of_opens {c : Char} (opens : ¬Closes [c]) : isSpace c = false := by
  rw [Bool.eq_false_iff]
  exact fun space => opens (closes_cons.mpr (.inl space))

theorem skipSpace_cons {c : Char} (visible : isSpace c = false) (more : List Char) : skipSpace (c :: more) = c :: more := by
  rw [skipSpace, List.dropWhile_cons, visible]
  rfl

theorem closes_blanks (blank : ∀ c ∈ blanks, isSpace c = true) {rest : List Char} (closes : Closes rest) :
    Closes (blanks ++ rest) := by
  cases blanks with
  | nil => exact closes
  | cons c more => exact closes_cons.mpr (.inl (blank c List.mem_cons_self))

end Blanks

section Loops

variable {α β : Type} {read : Reader α} {closing : Char} {loop : Nat → List α → Reader (List α)}

-- Elements with commas between them, up to the closing character.
structure Lists (read : Reader α) (closing : Char) (loop : Nat → List α → Reader (List α)) : Prop where
  goesOn {fuel : Nat} {seen : List α} {cs : List Char} {value : α} {behind rest : List Char} :
    read (skipSpace cs) = some (value, behind) → skipSpace behind = ',' :: rest →
    loop (fuel + 1) seen cs = loop fuel (value :: seen) rest
  ends {fuel : Nat} {seen : List α} {cs : List Char} {value : α} {behind rest : List Char} :
    read (skipSpace cs) = some (value, behind) → skipSpace behind = closing :: rest →
    loop (fuel + 1) seen cs = some ((value :: seen).reverse, rest)

theorem lists_items (item : Reader Json) : Lists item ']' (readItems item) where
  goesOn took behind := by simp only [readItems, took, behind, Option.bind_eq_bind, Option.bind_some]
  ends took behind := by simp only [readItems, took, behind, Option.bind_eq_bind, Option.bind_some]

theorem lists_fields (item : Reader Json) : Lists (readField item) '\x7d' (readFields item) where
  goesOn took behind := by simp only [readFields, took, behind, Option.bind_eq_bind, Option.bind_some]
  ends took behind := by simp only [readFields, took, behind, Option.bind_eq_bind, Option.bind_some]

-- A value that is written so is read back, and the writing begins with nothing that could close another value.
structure Spelled (read : Reader α) (value : α) (written : List Char) : Prop where
  begins : ∃ c more, written = c :: more ∧ ¬Closes [c]
  back {rest : List Char} : Closes rest → read (written ++ rest) = some (value, rest)

theorem Spelled.skips {value : α} {written : List Char} (spelled : Spelled read value written) {blanks : List Char}
    (blank : ∀ c ∈ blanks, isSpace c = true) {rest : List Char} (closes : Closes rest) :
    read (skipSpace (blanks ++ (written ++ rest))) = some (value, rest) := by
  obtain ⟨c, more, same, opens⟩ := spelled.begins
  have begun : skipSpace (written ++ rest) = written ++ rest := by
    rw [same, List.cons_append, skipSpace_cons (visible_of_opens opens)]
  rw [skipSpace_append blank, begun, spelled.back closes]

variable {lead last : List Char} {write : β → List Char} {value : β → α}

theorem Lists.reads (lists : Lists read closing loop) (visible : isSpace closing = false)
    (closes : ∀ rest, Closes (closing :: rest)) (blankLead : ∀ c ∈ lead, isSpace c = true)
    (blankLast : ∀ c ∈ last, isSpace c = true) {first : β} {others : List β}
    (spelled : ∀ element ∈ first :: others, Spelled read (value element) (write element)) {fuel : Nat}
    (enough : (first :: others).length ≤ fuel) {blanks : List Char} (blank : ∀ c ∈ blanks, isSpace c = true)
    (seen : List α) (rest : List Char) :
    loop fuel seen
        (blanks ++ (List.intercalate (',' :: lead) ((first :: others).map write) ++ (last ++ closing :: rest))) =
      some (seen.reverse ++ (first :: others).map value, rest) := by
  induction others generalizing first fuel blanks seen with
  | nil =>
    obtain ⟨fuel, rfl⟩ := Nat.exists_eq_add_one_of_ne_zero (Nat.ne_of_gt enough)
    have took := (spelled first List.mem_cons_self).skips blank (closes_blanks blankLast (closes rest))
    have behind : skipSpace (last ++ closing :: rest) = closing :: rest := by
      rw [skipSpace_append blankLast, skipSpace_cons visible]
    rw [List.map_singleton, List.intercalate_singleton, lists.ends took behind, List.reverse_cons]
    rfl
  | cons second others ih =>
    obtain ⟨fuel, rfl⟩ := Nat.exists_eq_add_one_of_ne_zero (Nat.ne_of_gt (Nat.zero_lt_of_lt enough))
    have took := (spelled first List.mem_cons_self).skips blank
      (closes_cons.mpr (.inr (.inl rfl)) : Closes (',' :: (lead ++ (List.intercalate (',' :: lead)
        ((second :: others).map write) ++ (last ++ closing :: rest)))))
    have more := ih (fun element among => spelled element (List.mem_cons_of_mem first among))
      (Nat.le_of_succ_le_succ enough) blankLead (value first :: seen)
    rw [List.map_cons, List.map_cons, List.intercalate_cons_cons, List.append_assoc, List.append_assoc, List.cons_append,
      ← List.map_cons, lists.goesOn took (skipSpace_cons rfl _), more, List.reverse_cons, List.append_assoc]
    rfl

-- Each part takes at least one character.
theorem length_intercalate (separator : List Char) {members : List (List Char)}
    (written : ∀ member ∈ members, 0 < member.length) :
    members.length ≤ (List.intercalate separator members).length ∧
      ∀ member ∈ members, member.length ≤ (List.intercalate separator members).length := by
  induction members with
  | nil => exact ⟨Nat.zero_le _, nofun⟩
  | cons first others ih =>
    obtain ⟨many, each⟩ := ih fun member among => written member (List.mem_cons_of_mem first among)
    have some' := written first List.mem_cons_self
    cases others with
    | nil =>
      rw [List.intercalate_singleton]
      exact ⟨some', fun member among => Nat.le_of_eq (by rw [List.mem_singleton.mp among])⟩
    | cons second others =>
      rw [List.intercalate_cons_cons, List.length_append, List.length_append]
      refine ⟨by rw [List.length_cons]; omega, fun member among => ?_⟩
      rcases List.mem_cons.mp among with rfl | among
      · omega
      · have := each member among
        omega

end Loops

section Values

variable {layout : Layout} {nesting level : Nat} {rest : List Char}

theorem printItems_map (layout : Layout) (level : Nat) (items : List Json) :
    printItems layout level items = items.map (printAt layout level) := by
  induction items with
  | nil => rw [printItems, List.map_nil]
  | cons item items ih => rw [printItems, ih, List.map_cons]

def printField (layout : Layout) (level : Nat) (field : String × Json) : List Char :=
  quoteChars field.1 ++ layout.colon ++ printAt layout level field.2

theorem length_printField (layout : Layout) (level : Nat) (field : String × Json) :
    (printAt layout level field.2).length ≤ (printField layout level field).length := by
  rw [printField, List.length_append]
  exact Nat.le_add_left _ _

theorem printFields_map (layout : Layout) (level : Nat) (fields : List (String × Json)) :
    printFields layout level fields = fields.map (printField layout level) := by
  induction fields with
  | nil => rw [printFields, List.map_nil]
  | cons field fields ih => rw [printFields, ih, List.map_cons, printField]

theorem enclose_map {β : Type} (layout : Layout) (level : Nat) (opening closing : Char) (write : β → List Char) (first : β)
    (others : List β) (rest : List Char) :
    enclose layout level opening closing ((first :: others).map write) ++ rest =
      opening :: (layout.lead (level + 1) ++ (List.intercalate (',' :: layout.lead (level + 1))
        ((first :: others).map write) ++ (layout.lead level ++ closing :: rest))) := by
  simp [enclose]

-- Read from whatever it is written as, when the nesting admits as many levels as there are characters.
def Returns (layout : Layout) (json : Json) : Prop :=
  ∀ {nesting level : Nat}, (printAt layout level json).length ≤ nesting →
    Spelled (readValue nesting) json (printAt layout level json)

theorem written_of_returns {json : Json} (returns : json.Returns layout) : 0 < (printAt layout level json).length := by
  obtain ⟨c, more, same, _⟩ := (returns (Nat.le_refl _)).begins
  rw [same]
  exact Nat.succ_pos _

theorem readValue_number {c : Char} {more : List Char} (numeric : c = '-' ∨ Text.isDigit c = true) :
    readValue nesting (c :: more) = readNumber (c :: more) := by
  unfold readValue
  split
  case h_7 => rfl
  all_goals
    rename_i same
    obtain ⟨rfl, -⟩ := List.cons.inj same
    exact absurd numeric (by decide)

theorem showInt_cons (n : Int) : ∃ c more, (Text.showInt n).toList = c :: more ∧ (c = '-' ∨ Text.isDigit c = true) := by
  unfold Text.showInt
  split
  · exact ⟨'-', Nat.toDigits 10 n.natAbs, by simp [Text.showNat], .inl rfl⟩
  · obtain ⟨c, more, spelled, digit⟩ := toDigits_cons n.natAbs
    exact ⟨c, more, by simp [Text.showNat, spelled], .inr digit⟩

theorem digit_opens {c : Char} (digit : Text.isDigit c = true) : ¬Closes [c] := by
  intro closes
  rw [(closes_head closes).1] at digit
  cases digit

theorem returns_integer {n : Int} (word : isWord n = true) : (integer n).Returns layout := by
  intro nesting level deep
  obtain ⟨c, more, spelled, numeric⟩ := showInt_cons n
  refine ⟨⟨c, more, by rw [printAt, spelled], ?_⟩, fun closes => ?_⟩
  · rcases numeric with rfl | digit
    · rw [closes_cons]
      decide
    · exact digit_opens digit
  · rw [printAt, spelled, List.cons_append, readValue_number numeric, ← List.cons_append, ← spelled,
      readNumber_showInt word closes]

theorem returns_text (content : String) : (text content).Returns layout := by
  intro nesting level deep
  refine ⟨⟨'"', _, by rw [printAt, quoteChars, List.cons_append], by rw [closes_cons]; decide⟩, fun closes => ?_⟩
  rw [printAt, quoteChars, List.cons_append, List.cons_append, readValue, List.append_assoc, List.singleton_append,
    readString_quoteChars]
  rfl

theorem returns_null : null.Returns layout := by
  intro nesting level deep
  refine ⟨⟨'n', _, rfl, by rw [closes_cons]; decide⟩, fun closes => ?_⟩
  rw [printAt]
  change readValue nesting ('n' :: ("ull".toList ++ _)) = _
  rw [readValue]
  exact readWord_append "null" null _

theorem returns_bool (flag : Bool) : (bool flag).Returns layout := by
  intro nesting level deep
  cases flag with
  | false =>
    refine ⟨⟨'f', _, rfl, by rw [closes_cons]; decide⟩, fun closes => ?_⟩
    rw [printAt]
    change readValue nesting ('f' :: ("alse".toList ++ _)) = _
    rw [readValue]
    exact readWord_append "false" (bool false) _
  | true =>
    refine ⟨⟨'t', _, rfl, by rw [closes_cons]; decide⟩, fun closes => ?_⟩
    rw [printAt]
    change readValue nesting ('t' :: ("rue".toList ++ _)) = _
    rw [readValue]
    exact readWord_append "true" (bool true) _

section Containers

variable {α β : Type} {read : Reader α} {write : β → List Char} {value : β → α} {opening closing : Char} {first : β}
  {others : List β}

theorem within_enclose (written : ∀ element ∈ first :: others, 0 < (write element).length)
    (deep : (enclose layout level opening closing ((first :: others).map write)).length ≤ nesting) :
    ∃ inner, nesting = inner + 1 ∧ (∀ element ∈ first :: others, (write element).length ≤ inner) ∧
      (first :: others).length ≤
        (List.intercalate (',' :: layout.lead (level + 1)) ((first :: others).map write)).length := by
  have whole := enclose_map layout level opening closing write first others []
  obtain ⟨many, each⟩ := length_intercalate (',' :: layout.lead (level + 1)) (List.forall_mem_map.mpr written)
  rw [List.append_nil] at whole
  rw [whole, List.length_cons, List.length_append, List.length_append] at deep
  refine ⟨nesting - 1, by omega, fun element among => ?_, by rwa [List.length_map] at many⟩
  have := each _ (List.mem_map_of_mem among)
  omega

theorem begins_intercalate (separator : List Char) {written : List Char} (members : List (List Char))
    (begins : ∃ c more, written = c :: more ∧ ¬Closes [c]) (rest : List Char) :
    ∃ c more, List.intercalate separator (written :: members) ++ rest = c :: more ∧ ¬Closes [c] := by
  obtain ⟨c, more, rfl, opens⟩ := begins
  cases members with
  | nil => exact ⟨c, more ++ rest, by rw [List.intercalate_singleton, List.cons_append], opens⟩
  | cons second members => exact ⟨c, _, by rw [List.intercalate_cons_cons, List.cons_append, List.cons_append,
      List.cons_append], opens⟩

theorem Lists.reads_inside {loop : Nat → List α → Reader (List α)} (lists : Lists read closing loop)
    (closes : ∀ rest, Closes (closing :: rest)) (visible : isSpace closing = false) (blank : layout.Blank)
    (spelled : ∀ element ∈ first :: others, Spelled read (value element) (write element))
    (many : (first :: others).length ≤
      (List.intercalate (',' :: layout.lead (level + 1)) ((first :: others).map write)).length) (rest : List Char) :
    ∃ c more, skipSpace (layout.lead (level + 1) ++ (List.intercalate (',' :: layout.lead (level + 1))
        ((first :: others).map write) ++ (layout.lead level ++ closing :: rest))) = c :: more ∧ ¬Closes [c] ∧
      loop ((c :: more).length + 1) [] (c :: more) = some ((first :: others).map value, rest) := by
  obtain ⟨c, more, same, opens⟩ := begins_intercalate (',' :: layout.lead (level + 1)) (others.map write)
    (spelled first List.mem_cons_self).begins (layout.lead level ++ closing :: rest)
  have enough : (first :: others).length ≤ (c :: more).length + 1 := by
    rw [← same, List.length_append, ← List.map_cons]
    omega
  refine ⟨c, more, ?_, opens, ?_⟩
  · rw [skipSpace_append (blank.lead _), List.map_cons, same, skipSpace_cons (visible_of_opens opens)]
  · have took := lists.reads visible closes (blank.lead (level + 1)) (blank.lead level) spelled enough
      (List.forall_mem_nil _) [] rest
    rwa [List.nil_append, List.map_cons, same] at took

end Containers

theorem returns_array {items : List Json} (blank : layout.Blank) (returns : ∀ item ∈ items, item.Returns layout) :
    (array items).Returns layout := by
  intro nesting level deep
  cases items with
  | nil =>
    obtain ⟨inner, rfl⟩ := Nat.exists_eq_add_one_of_ne_zero (Nat.ne_of_gt (Nat.zero_lt_of_lt deep))
    exact ⟨⟨'[', [']'], rfl, by rw [closes_cons]; decide⟩, fun _ => rfl⟩
  | cons first others =>
    have closes (rest : List Char) : Closes (']' :: rest) := closes_cons.mpr (.inr (.inr (.inl rfl)))
    have whole := enclose_map layout level '[' ']' (printAt layout (level + 1)) first others
    rw [printAt, printItems_map] at deep ⊢
    obtain ⟨inner, rfl, fits, many⟩ := within_enclose (fun item among => written_of_returns (returns item among)) deep
    refine ⟨⟨'[', _, by rw [← whole [], List.append_nil], by rw [closes_cons]; decide⟩, fun {rest} _ => ?_⟩
    obtain ⟨c, more, begun, opens, took⟩ := (lists_items (readValue inner)).reads_inside closes rfl blank
      (fun item among => returns item among (fits item among)) many rest
    rw [whole, readValue, readArray, begun]
    split
    · rename_i same
      obtain ⟨rfl, -⟩ := List.cons.inj same
      exact absurd (closes []) opens
    · rw [took, Option.map_some, List.map_id']

theorem spelled_field (blank : layout.Blank) {field : String × Json}
    (spelled : Spelled (readValue nesting) field.2 (printAt layout level field.2)) :
    Spelled (readField (readValue nesting)) (some field.1, field.2) (printField layout level field) := by
  obtain ⟨blanks, colon, blanks'⟩ := blank.colon
  have whole (rest : List Char) : printField layout level field ++ rest =
      '"' :: (field.1.toList.flatMap escapeChar ++ '"' :: (':' :: (blanks ++ (printAt layout level field.2 ++ rest)))) := by
    simp [printField, quoteChars, colon]
  refine ⟨⟨'"', _, by rw [← whole [], List.append_nil], by rw [closes_cons]; decide⟩, fun closes => ?_⟩
  rw [whole, readField, readString_quoteChars]
  simp only [Option.bind_eq_bind, Option.bind_some, skipSpace_cons (rfl : isSpace ':' = false),
    spelled.skips blanks' closes]

theorem ofFields_named (fields : List (String × Json)) :
    ofFields (fields.map fun field => (some field.1, field.2)) = object fields := by
  have named : (fields.map fun field => (some field.1, field.2)).mapM
      (fun field : Option String × Json => field.1.map (·, field.2)) = some fields := by
    induction fields with
    | nil => rfl
    | cons field fields ih => rw [List.map_cons, List.mapM_cons, ih]; rfl
  simp only [ofFields, named]

theorem returns_object {fields : List (String × Json)} (blank : layout.Blank)
    (returns : ∀ field ∈ fields, field.2.Returns layout) : (object fields).Returns layout := by
  intro nesting level deep
  cases fields with
  | nil =>
    obtain ⟨inner, rfl⟩ := Nat.exists_eq_add_one_of_ne_zero (Nat.ne_of_gt (Nat.zero_lt_of_lt deep))
    exact ⟨⟨'\x7b', ['\x7d'], rfl, by rw [closes_cons]; decide⟩, fun _ => rfl⟩
  | cons first others =>
    have closes (rest : List Char) : Closes ('\x7d' :: rest) := closes_cons.mpr (.inr (.inr (.inr rfl)))
    have whole := enclose_map layout level '\x7b' '\x7d' (printField layout (level + 1)) first others
    rw [printAt, printFields_map] at deep ⊢
    obtain ⟨inner, rfl, fits, many⟩ := within_enclose (fun field _ => by simp [printField, quoteChars]) deep
    refine ⟨⟨'\x7b', _, by rw [← whole [], List.append_nil], by rw [closes_cons]; decide⟩, fun {rest} _ => ?_⟩
    obtain ⟨c, more, begun, opens, took⟩ := (lists_fields (readValue inner)).reads_inside closes rfl blank
      (fun field among => spelled_field blank (returns field among
        (Nat.le_trans (length_printField layout (level + 1) field) (fits field among)))) many rest
    rw [whole, readValue, readObject, begun]
    split
    · rename_i same
      obtain ⟨rfl, -⟩ := List.cons.inj same
      exact absurd (closes []) opens
    · rw [took, Option.map_some]
      dsimp only
      rw [ofFields_named]

end Values

section Plain

variable {layout : Layout}

mutual

theorem returns_of_isPlain (blank : layout.Blank) : (json : Json) → json.isPlain = true → json.Returns layout
  | null, _ => returns_null
  | bool flag, _ => returns_bool flag
  | integer _, plain => returns_integer plain
  | text content, _ => returns_text content
  | array items, plain => returns_array blank (return_of_arePlain blank items plain)
  | object fields, plain => returns_object blank (return_of_fieldsArePlain blank fields plain)

theorem return_of_arePlain (blank : layout.Blank) :
    (items : List Json) → arePlain items = true → ∀ item ∈ items, item.Returns layout
  | [], _ => nofun
  | item :: items, plain => by
    obtain ⟨plainItem, plainItems⟩ := Bool.and_eq_true_iff.mp plain
    exact List.forall_mem_cons.mpr ⟨returns_of_isPlain blank item plainItem, return_of_arePlain blank items plainItems⟩

theorem return_of_fieldsArePlain (blank : layout.Blank) :
    (fields : List (String × Json)) → fieldsArePlain fields = true → ∀ field ∈ fields, field.2.Returns layout
  | [], _ => nofun
  | (_, value) :: fields, plain => by
    obtain ⟨plainValue, plainFields⟩ := Bool.and_eq_true_iff.mp plain
    exact List.forall_mem_cons.mpr
      ⟨returns_of_isPlain blank value plainValue, return_of_fieldsArePlain blank fields plainFields⟩

end

theorem readAll_printed {json : Json} (returns : json.Returns layout) {nesting : Nat}
    (deep : (printAt layout 0 json).length ≤ nesting) :
    readAll nesting (String.ofList (printAt layout 0 json)) = some json := by
  have took := (returns deep).skips (List.forall_mem_nil _) closes_nil
  rw [List.nil_append, List.append_nil] at took
  rw [readAll, String.toList_ofList, took]
  rfl

theorem parse?_compact {json : Json} (plain : json.isPlain = true) : parse? json.compact = some json :=
  readAll_printed (returns_of_isPlain blank_compact json plain) (Nat.le_of_eq (by rw [compact, String.length_ofList]))

theorem parse?_pretty {json : Json} (plain : json.isPlain = true) : parse? json.pretty = some json :=
  readAll_printed (returns_of_isPlain blank_pretty json plain) (Nat.le_of_eq (by rw [pretty, String.length_ofList]))

end Plain

end ThingWorld.Json
