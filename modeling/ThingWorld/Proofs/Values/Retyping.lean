import ThingWorld.Datum
import ThingWorld.Proofs.Text.Numerals
import ThingWorld.Proofs.Text.Pieces
namespace ThingWorld.Datum

-- What cells hold, one behind the other. A cell of blanks holds nothing.
inductive Cells : List (List Char) → List String → Prop
  | done : Cells [] []
  | blank {cell cells items} (nothing : cell.all Text.isBlank = true) (others : Cells cells items) :
      Cells (cell :: cells) items
  | item {cell cells item items} (some : item ≠ "") (padded : Padded item.toList cell) (others : Cells cells items) :
      Cells (cell :: cells) (item :: items)

inductive Means (property raw : String) : Datum → Prop
  | list {cells items} (listed : Property.isList property = true) (some : cells ≠ [])
      (apart : ∀ cell ∈ cells, ',' ∉ cell) (joined : [','].intercalate cells = raw.toList) (held : Cells cells items) :
      Means property raw (.list items)
  | flag (plain : Property.isList property = false) (b : Bool) (shown : Padded (showFlag b).toList raw.toList) :
      Means property raw (.flag b)
  | number {numeral : String} (plain : Property.isList property = false) (n : Int64)
      (spelled : Numeral n.toInt numeral.toList) (shown : Padded numeral.toList raw.toList) :
      Means property raw (.number n)
  | text (plain : Property.isList property = false) (s : String) (unflagged : ∀ b, s ≠ showFlag b)
      (unnumbered : ∀ n : Int64, ¬Numeral n.toInt s.toList) (shown : Padded s.toList raw.toList) :
      Means property raw (.text s)

variable {property raw : String} {cells : List (List Char)} {items : List String} {value : Datum}

theorem cells_total (cells : List (List Char)) : ∃ items, Cells cells items := by
  induction cells with
  | nil => exact ⟨[], .done⟩
  | cons cell cells ih =>
    obtain ⟨items, others⟩ := ih
    have padded : Padded (Text.trim cell) cell := trim_iff.mp rfl
    by_cases nothing : Text.trim cell = []
    · rw [nothing] at padded
      obtain ⟨_, lead, tail, before, after, rfl⟩ := padded
      exact ⟨items, .blank (by simp [before, after]) others⟩
    · exact ⟨String.ofList (Text.trim cell) :: items, .item (by simpa using nothing) (by simpa using padded) others⟩

theorem items_of_cells (held : Cells cells items) :
    ((cells.map Text.trim).filter fun item => !item.isEmpty).map String.ofList = items := by
  induction held with
  | done => rfl
  | @blank cell _ _ nothing _ ih =>
    have trimmed : Text.trim cell = [] := trim_iff.mpr ⟨by simp [Snug], cell, [], nothing, rfl, by simp⟩
    simpa [trimmed] using ih
  | item some padded _ ih => simpa [trim_iff.mpr padded, some] using ih

theorem listItems_trimmed (some : cells ≠ []) (apart : ∀ cell ∈ cells, ',' ∉ cell)
    (joined : [','].intercalate cells = raw.toList) (held : Cells cells items) :
    listItems (Text.trimmed raw).toList = items := by
  obtain ⟨lead, tail, before, after, same⟩ := trim_padded raw.toList
  have pieces : Text.pieces ',' raw.toList = cells := pieces_iff.mpr ⟨some, apart, joined⟩
  have around : (Text.pieces ',' (lead ++ Text.trim raw.toList ++ tail)).map Text.trim =
      (Text.pieces ',' (Text.trim raw.toList)).map Text.trim := pieces_around rfl before after
  rw [← same, pieces] at around
  rw [listItems, Text.trimmed, Text.mapChars, String.toList_ofList, ← around, items_of_cells held]

theorem parse_of_means (means : Means property raw value) : parse property raw = value := by
  cases means with
  | list listed some apart joined held => simp [parse, listed, listItems_trimmed some apart joined held]
  | flag plain b shown =>
    rw [parse, trimmed_iff.mpr shown, plain]
    cases b <;> rfl
  | @number numeral plain n spelled shown =>
    have read := int64_iff.mpr spelled
    have unflagged : numeral ≠ "true" ∧ numeral ≠ "false" := by
      constructor <;> rintro rfl <;> cases read
    simp [parse, trimmed_iff.mpr shown, plain, unflagged, read]
  | text plain s unflagged unnumbered shown =>
    have unread : Text.int64? s = none :=
      Option.eq_none_iff_forall_ne_some.mpr fun n read => unnumbered n (int64_iff.mp read)
    have apart : s ≠ "true" ∧ s ≠ "false" := ⟨unflagged true, unflagged false⟩
    simp [parse, trimmed_iff.mpr shown, plain, apart, unread]

theorem means_total (property raw : String) : ∃ value, Means property raw value := by
  cases listed : Property.isList property with
  | true =>
    obtain ⟨some, apart, joined⟩ := pieces_iff.mp (rfl : Text.pieces ',' raw.toList = _)
    obtain ⟨items, held⟩ := cells_total (Text.pieces ',' raw.toList)
    exact ⟨.list items, .list listed some apart joined held⟩
  | false =>
    have shown : Padded (Text.trimmed raw).toList raw.toList := trimmed_iff.mp rfl
    by_cases flagged : ∃ b, Text.trimmed raw = showFlag b
    · obtain ⟨b, same⟩ := flagged
      exact ⟨.flag b, .flag listed b (same ▸ shown)⟩
    by_cases numbered : ∃ n : Int64, Numeral n.toInt (Text.trimmed raw).toList
    · obtain ⟨n, spelled⟩ := numbered
      exact ⟨.number n, .number listed n spelled shown⟩
    · exact ⟨.text _, .text listed _ (not_exists.mp flagged) (not_exists.mp numbered) shown⟩

theorem parse_iff : parse property raw = value ↔ Means property raw value := by
  constructor
  · rintro rfl
    obtain ⟨value, means⟩ := means_total property raw
    rwa [parse_of_means means]
  · exact parse_of_means

section Showing

-- What a list can show and be read from: items that are not empty, without blanks at their ends and without commas.
def Listable (item : String) : Prop := item ≠ "" ∧ Snug item.toList ∧ ',' ∉ item.toList

theorem listable_of_cells (held : Cells cells items) (apart : ∀ cell ∈ cells, ',' ∉ cell) :
    ∀ item ∈ items, Listable item := by
  induction held with
  | done => exact List.forall_mem_nil _
  | blank _ _ ih => exact ih (List.forall_mem_cons.mp apart).2
  | item some padded _ ih =>
    obtain ⟨first, others⟩ := List.forall_mem_cons.mp apart
    refine List.forall_mem_cons.mpr ⟨⟨some, padded.1, fun comma => first ?_⟩, ih others⟩
    obtain ⟨_, lead, tail, _, _, rfl⟩ := padded
    simp [comma]

theorem cells_spaced (fit : ∀ item ∈ items, Listable item) : Cells (items.map fun item => ' ' :: item.toList) items := by
  induction items with
  | nil => exact .done
  | cons item items ih =>
    obtain ⟨⟨some, snug, _⟩, others⟩ := List.forall_mem_cons.mp fit
    exact .item some ⟨snug, [' '], [], rfl, rfl, by simp⟩ (ih others)

theorem intercalate_spaced (more : List (List Char)) : ∀ first : List Char,
    [','].intercalate (first :: more.map (' ' :: ·)) = [',', ' '].intercalate (first :: more) := by
  induction more with
  | nil => exact fun _ => rfl
  | cons next more ih =>
    intro first
    have later := ih next
    cases more with
    | nil => simp
    | cons _ _ => simpa using later

theorem means_items (listed : Property.isList property = true) (fit : ∀ item ∈ items, Listable item) :
    Means property (list items).asText (.list items) := by
  cases items with
  | nil => exact .list listed (List.cons_ne_nil [] []) (by simp) rfl (.blank rfl .done)
  | cons first more =>
    obtain ⟨⟨some, snug, apart⟩, others⟩ := List.forall_mem_cons.mp fit
    have spaced := intercalate_spaced (more.map String.toList) first.toList
    rw [List.map_map] at spaced
    refine .list listed (List.cons_ne_nil first.toList _) ?_ (spaced.trans ?_) ?_
    · refine List.forall_mem_cons.mpr ⟨apart, List.forall_mem_map.mpr fun item member => ?_⟩
      simp [(others item member).2.2]
    · rw [asText, String.toList_intercalate]
      rfl
    · exact .item some (padded_self snug) (cells_spaced others)

theorem means_asText (means : Means property raw value) : Means property value.asText value := by
  cases means with
  | list listed some apart joined held => exact means_items listed (listable_of_cells held apart)
  | flag plain b shown => exact .flag plain b (padded_self shown.1)
  | number plain n spelled shown =>
    have numeral := numeral_showInt n.toInt
    exact .number plain n numeral (padded_self (snug_of_visible (numeral_visible numeral)))
  | text plain s unflagged unnumbered shown => exact .text plain s unflagged unnumbered (padded_self shown.1)

end Showing

-- A value that is shown and typed again stays as it is, and it is the one that the text says.
theorem shown_values_are_retyped (property raw : String) :
    parse property (parse property raw).asText = parse property raw ∧
      ∀ value, parse property raw = value ↔ Means property raw value :=
  ⟨parse_of_means (means_asText (parse_iff.mp rfl)), fun _ => parse_iff⟩

example : parse Property.keys " brass key,, ,lamp ," = .list ["brass key", "lamp"] ∧
    parse Property.priority " -007" = .number (-7) ∧ parse Property.priority "1 0" = .text "1 0" := by
  decide +kernel

end ThingWorld.Datum
