import Mathlib.Data.List.Basic
import ThingWorld.Text.Blank
namespace ThingWorld

variable {cs rest : List Char} {first : Char}

theorem trimEnd_visible (visible : Text.isBlank first = false) (rest : List Char) :
    Text.trimEnd (first :: rest) = first :: Text.trimEnd rest := by
  rw [Text.trimEnd]
  split
  · rename_i blank
    rw [visible, blank]
    rfl
  · rfl

theorem trimEnd_shown (first : Char) {rest : List Char} (shown : rest.all Text.isBlank = false) :
    Text.trimEnd (first :: rest) = first :: Text.trimEnd rest ∧ (Text.trimEnd rest).all Text.isBlank = false := by
  induction rest generalizing first with
  | nil => cases shown
  | cons second rest ih =>
    have kept : (Text.trimEnd (second :: rest)).all Text.isBlank = false := by
      cases later : rest.all Text.isBlank with
      | false =>
        obtain ⟨same, kept⟩ := ih second later
        rw [same, List.all_cons, kept, Bool.and_false]
      | true =>
        rw [List.all_cons, later, Bool.and_true] at shown
        rw [trimEnd_visible shown, List.all_cons, shown, Bool.false_and]
    refine ⟨?_, kept⟩
    rw [Text.trimEnd]
    split
    · rename_i nothing
      rw [nothing] at kept
      cases kept
    · rfl

theorem trimEnd_blank (blank : cs.all Text.isBlank = true) : Text.trimEnd cs = [] := by
  induction cs with
  | nil => rfl
  | cons c rest ih =>
    rw [List.all_cons, Bool.and_eq_true] at blank
    rw [Text.trimEnd, ih blank.2]
    exact if_pos blank.1

theorem trimEnd_append (blank : rest.all Text.isBlank = true) : Text.trimEnd (cs ++ rest) = Text.trimEnd cs := by
  induction cs with
  | nil => exact trimEnd_blank blank
  | cons c more ih => rw [List.cons_append, Text.trimEnd, Text.trimEnd, ih]

theorem trimEnd_padded (cs : List Char) : ∃ tail, tail.all Text.isBlank = true ∧ cs = Text.trimEnd cs ++ tail := by
  induction cs with
  | nil => exact ⟨[], rfl, rfl⟩
  | cons c rest ih =>
    obtain ⟨tail, blank, same⟩ := ih
    rw [Text.trimEnd]
    split
    · rename_i nothing
      rw [nothing] at same
      split
      · rename_i blank'
        exact ⟨c :: rest, by rw [List.all_cons, blank', same]; exact blank, rfl⟩
      · exact ⟨tail, blank, by rw [same]; rfl⟩
    · exact ⟨tail, blank, by rw [List.cons_append, ← same]⟩

-- A text that ends with something to be seen stays.
theorem trimEnd_keeps (visible : ∀ c ∈ cs.getLast?, Text.isBlank c = false) : Text.trimEnd cs = cs := by
  obtain ⟨tail, blank, same⟩ := trimEnd_padded cs
  rcases List.eq_nil_or_concat tail with rfl | ⟨tail, c, rfl⟩
  · rw [List.append_nil] at same
    exact same.symm
  · rw [same, List.concat_eq_append, ← List.append_assoc, List.getLast?_concat] at visible
    have shown := visible c rfl
    have hidden := List.all_eq_true.mp blank c (by simp)
    rw [shown] at hidden
    cases hidden

theorem trimEnd_ends (cs : List Char) : ∀ c ∈ (Text.trimEnd cs).getLast?, Text.isBlank c = false := by
  induction cs with
  | nil => exact fun c member => nomatch member
  | cons first rest ih =>
    intro c last
    rw [Text.trimEnd] at last
    split at last
    · split at last
      · cases last
      · rename_i visible
        cases last
        exact Bool.not_eq_true _ ▸ visible
    · rename_i nonempty
      rw [List.getLast?_cons_of_ne_nil nonempty] at last
      exact ih c last

theorem trimStart_append (blank : cs.all Text.isBlank = true) : Text.trimStart (cs ++ rest) = Text.trimStart rest :=
  List.dropWhile_append_of_pos (List.all_eq_true.mp blank)

theorem trimStart_keeps (visible : ∀ c ∈ cs.head?, Text.isBlank c = false) : Text.trimStart cs = cs := by
  cases cs with
  | nil => rfl
  | cons c rest => exact List.dropWhile_cons_of_neg (by rw [visible c rfl]; exact Bool.false_ne_true)

theorem trimStart_begins (cs : List Char) : ∀ c ∈ (Text.trimStart cs).head?, Text.isBlank c = false := by
  intro c first
  have visible := List.head?_dropWhile_not Text.isBlank cs
  rw [show (cs.dropWhile Text.isBlank).head? = some c from first] at visible
  exact visible

theorem trim_padded (cs : List Char) : ∃ lead tail, lead.all Text.isBlank = true ∧ tail.all Text.isBlank = true ∧
    cs = lead ++ Text.trim cs ++ tail := by
  obtain ⟨tail, blank, same⟩ := trimEnd_padded (Text.trimStart cs)
  refine ⟨cs.takeWhile Text.isBlank, tail, List.all_takeWhile, blank, ?_⟩
  rw [Text.trim, List.append_assoc, ← same]
  exact List.takeWhile_append_dropWhile.symm

theorem trim_begins (cs : List Char) : ∀ c ∈ (Text.trim cs).head?, Text.isBlank c = false := by
  have begins := trimStart_begins cs
  rw [Text.trim]
  cases started : Text.trimStart cs with
  | nil => exact fun c member => nomatch member
  | cons first rest =>
    rw [started] at begins
    rw [trimEnd_visible (begins first rfl)]
    exact begins

theorem trim_keeps (begins : ∀ c ∈ cs.head?, Text.isBlank c = false) (ends : ∀ c ∈ cs.getLast?, Text.isBlank c = false) :
    Text.trim cs = cs := by
  rw [Text.trim, trimStart_keeps begins, trimEnd_keeps ends]

-- Blanks around a text that has none at its ends go away, and nothing else does.
theorem trim_strips {lead tail : List Char} (before : lead.all Text.isBlank = true)
    (after : tail.all Text.isBlank = true) (snug : Text.trim cs = cs) : Text.trim (lead ++ cs ++ tail) = cs := by
  have begins := trim_begins cs
  rw [snug] at begins
  rw [Text.trim, trimStart_keeps begins] at snug
  rw [Text.trim, List.append_assoc, trimStart_append before]
  cases cs with
  | nil =>
    rw [List.nil_append, ← List.append_nil tail, trimStart_append after]
    rfl
  | cons c rest =>
    have whole : Text.trimStart (c :: rest ++ tail) = c :: rest ++ tail := trimStart_keeps begins
    rw [whole, trimEnd_append after, snug]

-- Neither the first character nor the last is a blank.
def Snug (cs : List Char) : Prop :=
  (∀ c ∈ cs.head?, Text.isBlank c = false) ∧ ∀ c ∈ cs.getLast?, Text.isBlank c = false

-- A text without blanks at its ends, and the same with some around it.
def Padded (core cs : List Char) : Prop :=
  Snug core ∧ ∃ lead tail, lead.all Text.isBlank = true ∧ tail.all Text.isBlank = true ∧ cs = lead ++ core ++ tail

theorem snug_trim (cs : List Char) : Snug (Text.trim cs) := ⟨trim_begins cs, trimEnd_ends _⟩

theorem snug_of_visible (visible : ∀ c ∈ cs, Text.isBlank c = false) : Snug cs :=
  ⟨fun c first => visible c (List.mem_of_mem_head? first), fun c last => visible c (List.mem_of_mem_getLast? last)⟩

theorem padded_self (snug : Snug cs) : Padded cs cs := ⟨snug, [], [], rfl, rfl, by simp⟩

theorem trim_iff {core : List Char} : Text.trim cs = core ↔ Padded core cs := by
  constructor
  · rintro rfl
    exact ⟨snug_trim cs, trim_padded cs⟩
  · rintro ⟨snug, lead, tail, before, after, rfl⟩
    exact trim_strips before after (trim_keeps snug.1 snug.2)

theorem trimmed_iff {text s : String} : Text.trimmed text = s ↔ Padded s.toList text.toList := by
  rw [← trim_iff, ← String.toList_inj, Text.trimmed, Text.mapChars, String.toList_ofList]

theorem trim_around {lead tail : List Char} (before : lead.all Text.isBlank = true)
    (after : tail.all Text.isBlank = true) : Text.trim (lead ++ cs ++ tail) = Text.trim cs := by
  obtain ⟨lead', tail', before', after', same⟩ := trim_padded cs
  have split : lead ++ cs ++ tail = (lead ++ lead') ++ Text.trim cs ++ (tail' ++ tail) := by
    nth_rewrite 1 [same]
    simp
  exact trim_iff.mpr ⟨snug_trim cs, lead ++ lead', tail' ++ tail, by simp [before, before'], by simp [after, after'], split⟩

end ThingWorld
