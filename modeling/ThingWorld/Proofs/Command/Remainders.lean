import ThingWorld.Command.Line
import ThingWorld.Proofs.Text.Trimming
import ThingWorld.Text.Numeral
namespace ThingWorld

-- How many bytes characters take.
def bytes (cs : List Char) : Nat := (String.ofList cs).utf8ByteSize

@[simp]
theorem bytes_nil : bytes [] = 0 := rfl

@[simp]
theorem bytes_cons (c : Char) (cs : List Char) : bytes (c :: cs) = c.utf8Size + bytes cs := by
  rw [bytes, String.ofList_cons, String.utf8ByteSize_append, String.utf8ByteSize_singleton, bytes]

@[simp]
theorem bytes_append (cs cs' : List Char) : bytes (cs ++ cs') = bytes cs + bytes cs' := by
  rw [bytes, String.ofList_append, String.utf8ByteSize_append, bytes, bytes]

theorem dropBytes_append (before after : List Char) : dropBytes (bytes before) (before ++ after) = after := by
  induction before with
  | nil =>
    cases after <;> rfl
  | cons c rest ih =>
    obtain ⟨less, size⟩ := Nat.exists_eq_add_one_of_ne_zero (Nat.ne_of_gt (Nat.add_pos_left c.utf8Size_pos (bytes rest)))
    rw [bytes_cons, size, List.cons_append, dropBytes, ← size, Nat.add_sub_cancel_left, ih]

section Words

variable {c : Char} {cs : List Char} {start : Nat}

-- Words of a line that stands behind so many bytes.
def Word.behind (bytes : Nat) (word : Word) : Word := ⟨bytes + word.offset, word.text⟩

def WordState.behind (bytes : Nat) : WordState → WordState
  | .gap => .gap
  | .bare start seen => .bare (bytes + start) seen
  | .quoted quote start seen => .quoted quote (bytes + start) seen

theorem wordsFrom_behind (bytes : Nat) (cs : List Char) : ∀ (offset : Nat) (state : WordState),
    wordsFrom (bytes + offset) (state.behind bytes) cs = (wordsFrom offset state cs).map (Word.behind bytes) := by
  induction cs with
  | nil => exact fun offset state => by cases state <;> rfl
  | cons c rest ih =>
    intro offset state
    have later := ih (offset + c.utf8Size)
    rw [← Nat.add_assoc] at later
    cases state with
    | gap =>
      simp only [wordsFrom, WordState.behind]
      split
      · exact later .gap
      · split
        · exact later (.quoted c offset [])
        · exact later (.bare offset [c])
    | bare start seen =>
      simp only [wordsFrom, WordState.behind]
      split
      · exact congrArg _ (later .gap)
      · exact later (.bare start (c :: seen))
    | quoted quote start seen =>
      simp only [wordsFrom, WordState.behind]
      split
      · exact congrArg _ (later .gap)
      · exact later (.quoted quote start (c :: seen))

-- What one word takes of a line, what its text is, and what follows. A bare word ends before a blank, a quoted one
-- with the next quote of its kind or with the line.
inductive Stretch : List Char → String → List Char → Prop where
  | bare {first : Char} {body rest : List Char} (visible : Text.isBlank first = false)
      (unquoted : first ≠ '\x27' ∧ first ≠ '"') (shown : ∀ c ∈ body, Text.isBlank c = false)
      (ends : ∀ c ∈ rest.head?, Text.isBlank c = true) : Stretch (first :: body) (String.ofList (first :: body)) rest
  | quoted {quote : Char} {body rest : List Char} (opens : quote = '\x27' ∨ quote = '"') (inside : quote ∉ body) :
      Stretch (quote :: (body ++ [quote])) (String.ofList body) rest
  | unended {quote : Char} {body : List Char} (opens : quote = '\x27' ∨ quote = '"') (inside : quote ∉ body) :
      Stretch (quote :: body) (String.ofList body) []

-- The words that characters behind an offset are cut into, with blanks in front of each.
inductive CutInto : Nat → List Char → List Word → Prop where
  | blank {offset : Nat} {lead : List Char} (blank : lead.all Text.isBlank = true) : CutInto offset lead []
  | word {offset : Nat} {lead taken rest : List Char} {text : String} {later : List Word}
      (blank : lead.all Text.isBlank = true) (stretch : Stretch taken text rest)
      (more : CutInto (offset + bytes lead + bytes taken) rest later) :
      CutInto offset (lead ++ (taken ++ rest)) (⟨offset + bytes lead, text⟩ :: later)

theorem wordsFrom_blanks {lead : List Char} (blank : lead.all Text.isBlank = true) : ∀ (offset : Nat),
    wordsFrom offset .gap (lead ++ cs) = wordsFrom (offset + bytes lead) .gap cs := by
  induction lead with
  | nil => exact fun offset => rfl
  | cons c rest ih =>
    intro offset
    rw [List.all_cons, Bool.and_eq_true] at blank
    rw [List.cons_append, wordsFrom, if_pos blank.1, ih blank.2, bytes_cons, Nat.add_assoc]

-- The blank that ends a bare word is no part of what follows it, and makes no difference there.
theorem wordsFrom_bare {body rest : List Char} (ends : ∀ c ∈ rest.head?, Text.isBlank c = true) :
    (∀ c ∈ body, Text.isBlank c = false) → ∀ (offset : Nat) (seen : List Char),
      wordsFrom offset (.bare start seen) (body ++ rest) =
        makeWord start (body.reverse ++ seen) :: wordsFrom (offset + bytes body) .gap rest := by
  induction body with
  | nil =>
    intro _ offset seen
    cases rest with
    | nil => rfl
    | cons c after =>
      have blank := ends c rfl
      simp [wordsFrom, blank]
  | cons c body ih =>
    intro shown offset seen
    have visible := shown c List.mem_cons_self
    simp [wordsFrom, visible, ih (fun other member => shown other (List.mem_cons_of_mem c member)), Nat.add_assoc]

theorem wordsFrom_quoted {quote : Char} {body : List Char} (cs : List Char) : quote ∉ body → ∀ (offset : Nat)
    (seen : List Char), wordsFrom offset (.quoted quote start seen) (body ++ quote :: cs) =
      makeWord start (body.reverse ++ seen) :: wordsFrom (offset + bytes body + quote.utf8Size) .gap cs := by
  induction body with
  | nil =>
    intro _ offset seen
    simp [wordsFrom]
  | cons c body ih =>
    intro inside offset seen
    obtain ⟨other, inside⟩ := not_or.mp (List.mem_cons.not.mp inside)
    simp [wordsFrom, Ne.symm other, ih inside, Nat.add_assoc]

theorem wordsFrom_unended {quote : Char} {body : List Char} : quote ∉ body → ∀ (offset : Nat) (seen : List Char),
    wordsFrom offset (.quoted quote start seen) body = [makeWord start (body.reverse ++ seen)] := by
  induction body with
  | nil => exact fun _ offset seen => rfl
  | cons c body ih =>
    intro inside offset seen
    obtain ⟨other, inside⟩ := not_or.mp (List.mem_cons.not.mp inside)
    simp [wordsFrom, Ne.symm other, ih inside]

theorem visible_quote {quote : Char} (opens : quote = '\x27' ∨ quote = '"') : Text.isBlank quote = false := by
  rcases opens with rfl | rfl <;> decide

theorem stretch_begins {taken rest : List Char} {text : String} (stretch : Stretch taken text rest) :
    ∃ first body, taken = first :: body ∧ Text.isBlank first = false := by
  cases stretch with
  | bare visible => exact ⟨_, _, rfl, visible⟩
  | quoted opens => exact ⟨_, _, rfl, visible_quote opens⟩
  | unended opens => exact ⟨_, _, rfl, visible_quote opens⟩

theorem wordsFrom_stretch {taken rest : List Char} {text : String} (stretch : Stretch taken text rest) (offset : Nat) :
    wordsFrom offset .gap (taken ++ rest) = ⟨offset, text⟩ :: wordsFrom (offset + bytes taken) .gap rest := by
  cases stretch with
  | bare visible unquoted shown ends =>
    simp [wordsFrom, visible, unquoted, wordsFrom_bare ends shown, makeWord, Nat.add_assoc]
  | quoted opens inside =>
    simp [wordsFrom, visible_quote opens, opens, wordsFrom_quoted _ inside, makeWord, Nat.add_assoc]
  | unended opens inside =>
    simp [wordsFrom, visible_quote opens, opens, wordsFrom_unended inside, makeWord]

theorem stretch_exists (visible : Text.isBlank c = false) (cs : List Char) :
    ∃ taken text rest, c :: cs = taken ++ rest ∧ Stretch taken text rest := by
  by_cases opens : c = '\x27' ∨ c = '"'
  · have split : cs.takeWhile (· != c) ++ cs.dropWhile (· != c) = cs := List.takeWhile_append_dropWhile
    have inside : c ∉ cs.takeWhile (· != c) := fun member => by simpa using List.all_eq_true.mp List.all_takeWhile c member
    cases after : cs.dropWhile (· != c) with
    | nil =>
      rw [after, List.append_nil] at split
      rw [split] at inside
      exact ⟨c :: cs, _, [], (List.append_nil _).symm, .unended opens inside⟩
    | cons closing rest =>
      have same : closing = c := by
        have stops := List.head?_dropWhile_not (· != c) cs
        rw [after] at stops
        simpa using stops
      subst same
      refine ⟨_, _, rest, ?_, .quoted opens inside⟩
      rw [after] at split
      simp [split]
  · have split : cs.takeWhile (!Text.isBlank ·) ++ cs.dropWhile (!Text.isBlank ·) = cs :=
      List.takeWhile_append_dropWhile
    refine ⟨_, _, cs.dropWhile (!Text.isBlank ·), congrArg (c :: ·) split.symm,
      .bare visible (not_or.mp opens) (fun other member => ?_) (fun other member => ?_)⟩
    · simpa using List.all_eq_true.mp List.all_takeWhile other member
    · have stops := List.head?_dropWhile_not (!Text.isBlank ·) cs
      rw [Option.mem_def.mp member] at stops
      simpa using stops

theorem wordsFrom_of_cut {offset : Nat} {words : List Word} (cut : CutInto offset cs words) :
    wordsFrom offset .gap cs = words := by
  induction cut with
  | @blank offset lead blank =>
    have alone : wordsFrom offset .gap (lead ++ []) = [] := wordsFrom_blanks blank offset
    rwa [List.append_nil] at alone
  | word blank stretch more ih => rw [wordsFrom_blanks blank, wordsFrom_stretch stretch, ih]

theorem cut_wordsFrom (cs : List Char) (offset : Nat) : CutInto offset cs (wordsFrom offset .gap cs) := by
  induction size : cs.length using Nat.strongRecOn generalizing cs offset with
  | _ size ih =>
    subst size
    have split : cs.takeWhile Text.isBlank ++ cs.dropWhile Text.isBlank = cs := List.takeWhile_append_dropWhile
    have blank : (cs.takeWhile Text.isBlank).all Text.isBlank = true := List.all_takeWhile
    cases shown : cs.dropWhile Text.isBlank with
    | nil =>
      rw [shown, List.append_nil] at split
      rw [split] at blank
      rw [wordsFrom_of_cut (.blank blank)]
      exact .blank blank
    | cons c more =>
      have visible : Text.isBlank c = false := by
        have begins := trimStart_begins cs
        rw [Text.trimStart, shown] at begins
        exact begins c rfl
      obtain ⟨taken, text, rest, parts, stretch⟩ := stretch_exists visible more
      obtain ⟨first, body, rfl, _⟩ := stretch_begins stretch
      rw [shown, parts] at split
      have shorter : rest.length < cs.length := by
        have length := congrArg List.length split
        simp at length
        omega
      have whole : CutInto offset _ _ := .word blank stretch (ih rest.length shorter rest _ rfl)
      rw [split] at whole
      rwa [wordsFrom_of_cut whole]

theorem cut_iff {offset : Nat} {words : List Word} : CutInto offset cs words ↔ wordsFrom offset .gap cs = words :=
  ⟨wordsFrom_of_cut, fun same => same ▸ cut_wordsFrom cs offset⟩

-- The first word, if there is one, stands behind blanks, and behind it come the others.
theorem wordsFrom_cons {offset : Nat} {word : Word} {later : List Word}
    (words : wordsFrom offset .gap cs = word :: later) :
    ∃ lead first body rest, cs = lead ++ first :: (body ++ rest) ∧ Text.isBlank first = false ∧
      word.offset = offset + bytes lead ∧ wordsFrom word.offset .gap (first :: (body ++ rest)) = word :: later ∧
      later = wordsFrom (word.offset + bytes (first :: body)) .gap rest := by
  cases cut_iff.mpr words with
  | @word _ lead taken rest text _ blank stretch more =>
    obtain ⟨first, body, rfl, visible⟩ := stretch_begins stretch
    have later := wordsFrom_of_cut more
    refine ⟨lead, first, body, rest, rfl, visible, rfl, ?_, later.symm⟩
    rw [← List.cons_append, wordsFrom_stretch stretch, later]

-- Every word is the first one from where it stands on.
theorem wordsFrom_split {front back : List Word} {word : Word} : ∀ {cs : List Char} {offset : Nat},
    wordsFrom offset .gap cs = front ++ word :: back →
      ∃ before first after, cs = before ++ first :: after ∧ Text.isBlank first = false ∧
        word.offset = offset + bytes before ∧ wordsFrom word.offset .gap (first :: after) = word :: back := by
  induction front with
  | nil =>
    intro cs offset words
    obtain ⟨lead, first, body, rest, split, visible, stands, same, _⟩ := wordsFrom_cons words
    exact ⟨lead, first, body ++ rest, split, visible, stands, same⟩
  | cons other front ih =>
    intro cs offset words
    obtain ⟨lead, first, body, rest, split, _, stands, _, later⟩ := wordsFrom_cons words
    obtain ⟨before, first', after, rfl, visible, stands', same⟩ := ih later.symm
    refine ⟨lead ++ first :: (body ++ before), first', after, ?_, visible, ?_, same⟩
    · simp [split]
    · rw [stands', stands]
      simp
      omega

theorem wordsFrom_later {offset : Nat} {word : Word} (listed : word ∈ wordsFrom offset .gap cs) :
    offset ≤ word.offset := by
  obtain ⟨front, back, words⟩ := List.append_of_mem listed
  obtain ⟨_, _, _, _, _, stands, _⟩ := wordsFrom_split words
  omega

theorem wordsFrom_increase {words : List Word} : ∀ {cs : List Char} {offset : Nat},
    wordsFrom offset .gap cs = words → words.Pairwise fun word later => word.offset < later.offset := by
  induction words with
  | nil => exact fun _ => .nil
  | cons word later ih =>
    intro cs offset words
    obtain ⟨_, first, body, rest, _, _, _, _, same⟩ := wordsFrom_cons words
    refine .cons (fun other listed => ?_) (ih same.symm)
    rw [same] at listed
    have behind := wordsFrom_later listed
    have size := first.utf8Size_pos
    rw [bytes_cons] at behind
    omega

end Words

-- The text falls apart at a byte, in front of one of its characters, and this is what comes from there on.
def CutAt (text : String) (offset : Nat) (after : String) : Prop :=
  ∃ before, text = before ++ after ∧ before.utf8ByteSize = offset

theorem CutAt.dropped {text after : String} {offset : Nat} (cut : CutAt text offset after) :
    dropBytes offset text.toList = after.toList := by
  obtain ⟨before, rfl, rfl⟩ := cut
  have size : before.utf8ByteSize = bytes before.toList := by rw [bytes, String.ofList_toList]
  rw [String.toList_append, size, dropBytes_append]

theorem CutAt.ending {text after : String} {offset : Nat} (cut : CutAt text offset after) (shown : after ≠ "") :
    after.toList.getLast? = text.toList.getLast? := by
  obtain ⟨before, rfl, _⟩ := cut
  have shown' : after.toList ≠ [] := fun nothing => shown (String.toList_eq_nil_iff.mp nothing)
  rw [String.toList_append, List.getLast?_append_of_ne_nil _ shown']

theorem wordsOf_split {text : String} {front back : List Word} {word : Word}
    (words : wordsOf text = front ++ word :: back) :
    ∃ first after, CutAt text word.offset (String.ofList (first :: after)) ∧ Text.isBlank first = false ∧
      (wordsOf (String.ofList (first :: after))).map (Word.behind word.offset) = word :: back := by
  obtain ⟨before, first, after, split, visible, stands, same⟩ := wordsFrom_split words
  rw [Nat.zero_add] at stands
  refine ⟨first, after, ⟨String.ofList before, ?_, stands.symm⟩, visible, ?_⟩
  · rw [← String.ofList_append, ← split, String.ofList_toList]
  · rw [wordsOf, String.toList_ofList, ← wordsFrom_behind word.offset _ 0 .gap]
    exact same

@[simp]
theorem texts_behind (bytes : Nat) (words : List Word) :
    (words.map (Word.behind bytes)).map Word.text = words.map Word.text := by
  rw [List.map_map]
  rfl

-- A visible end means that nothing is trimmed off.
theorem rawFrom_several {text : String} {index : UInt64} {word more : Word} {back : List Word}
    (several : (wordsOf text).drop (index + 1).toNat = word :: more :: back) :
    ∃ after, CutAt text word.offset after ∧ (Line.parse text).rawFrom index = Text.trimmed after ∧
      ((∀ c ∈ text.toList.getLast?, Text.isBlank c = false) → (Line.parse text).rawFrom index = after ∧
        (Line.parse ((Line.parse text).rawFrom index)).texts = (Line.parse text).texts.drop (index + 1).toNat) := by
  have words : wordsOf text = (wordsOf text).take (index + 1).toNat ++ word :: more :: back := by
    rw [← several, List.take_append_drop]
  obtain ⟨first, rest, cut, visible, again⟩ := wordsOf_split words
  have raw : (Line.parse text).rawFrom index = Text.trimmed (String.ofList (first :: rest)) := by
    rw [Line.parse, Line.rawFrom, several]
    simp only [cut.dropped, Text.trimmed, Text.mapChars]
  refine ⟨String.ofList (first :: rest), cut, raw, fun ends => ?_⟩
  have kept : (Line.parse text).rawFrom index = String.ofList (first :: rest) := by
    rw [← cut.ending (by simp)] at ends
    rw [raw, Text.trimmed, Text.mapChars, trim_keeps (by simpa using visible) ends, String.ofList_toList]
  refine ⟨kept, ?_⟩
  rw [kept, Line.texts, Line.texts, Line.parse, Line.parse, ← List.map_drop, several, ← again, texts_behind]

-- How many words an index leaves out. The sum is one of machine words, so the largest index leaves out none.
theorem left_out (index : UInt64) :
    (index + 1).toNat = if index.toNat + 1 = Text.wordSize then 0 else index.toNat + 1 := by
  have bound := index.toNat_lt
  rw [UInt64.toNat_add, Text.wordSize]
  split <;> simp <;> omega

-- There is no next word for the largest index, and all of them are left.
example : (Line.parse "say hello").rawFrom 18446744073709551615 = "say hello" := by decide +kernel

end ThingWorld
