import ThingWorld.Proofs.Script.Derivations
import ThingWorld.Proofs.Text.Numerals
namespace ThingWorld.Script

namespace Token

def escape (c : Char) : List Char :=
  if c = '\\' ∨ c = '"' then ['\\', c] else [c]

def source : Token → List Char
  | name s => s.toList
  | text s => '"' :: (s.toList.flatMap escape ++ ['"'])
  | number n => (Text.showInt64 n).toList
  | var s => '$' :: s.toList
  | symbol s => s.spelling.toList

-- A name that begins as names do, a variable that has a name, a number that is not negative, any text and any symbol.
def isWritable : Token → Bool
  | name s =>
    match s.toList with
    | [] => false
    | c :: rest => isNameStart c && rest.all isNamePart
  | var s => !s.toList.isEmpty && s.toList.all isNamePart
  | number n => decide (0 ≤ n)
  | text _ => true
  | symbol _ => true

end Token

-- One behind the other, a blank between them.
def written (tokens : List Token) : String :=
  String.ofList (List.intercalate [' '] (tokens.map Token.source))

section Characters

def blanks : List Char :=
  (List.range' 9 5 ++ [32, 0x85, 0xA0, 0x1680] ++ List.range' 0x2000 11 ++ [0x2028, 0x2029, 0x202F, 0x205F, 0x3000]).map
    Char.ofNat

def digits : List Char := (List.range' 48 10).map Char.ofNat

variable {c : Char}

theorem mem_blanks (blank : Text.isBlank c = true) : c ∈ blanks := by
  refine List.mem_map.mpr ⟨c.toNat, ?_, Char.ofNat_toNat c⟩
  simp only [Text.isBlank, Bool.or_eq_true, Bool.and_eq_true, decide_eq_true_eq, beq_iff_eq] at blank
  simp only [List.mem_append, List.mem_range'_1, List.mem_cons, List.not_mem_nil, or_false]
  omega

theorem mem_digits (digit : Text.isDigit c = true) : c ∈ digits := by
  refine List.mem_map.mpr ⟨c.toNat, ?_, Char.ofNat_toNat c⟩
  simp only [Text.isDigit, Bool.and_eq_true, decide_eq_true_eq, Char.le_def, UInt32.le_iff_toNat_le] at digit
  rw [List.mem_range'_1]
  exact ⟨digit.1, Nat.lt_succ_of_le digit.2⟩

-- Whoever is none of a few characters.
theorem false_of_mem {p q : Char → Bool} {few : List Char} (among : ∀ {c}, p c = true → c ∈ few)
    (none : few.all (fun c => !q c) = true) (other : q c = true) : p c = false := by
  cases holds : p c with
  | false => rfl
  | true =>
    have refused := List.all_eq_true.mp none c (among holds)
    rw [other] at refused
    cases refused

theorem namePart_visible (named : isNamePart c = true) : Text.isBlank c = false :=
  false_of_mem mem_blanks (by decide +kernel) named

theorem start_undigit (starts : isNameStart c = true) : Text.isDigit c = false :=
  false_of_mem mem_digits (by decide +kernel) starts

theorem namePart_of_start (starts : isNameStart c = true) : isNamePart c = true := by
  rw [isNameStart, Bool.or_eq_true] at starts
  rw [isNamePart, Text.isAlphanumeric]
  rcases starts with letter | line
  · rw [letter]
    rfl
  · rw [line, Bool.or_true]

end Characters

section Reading

theorem lexFrom_cons {state next : LexState} {c : Char} {tokens : List Token}
    (step : lexStep state c = .ok (tokens, next)) {rest : List Char} {more : List Token}
    (read : lexFrom next rest = .ok more) : lexFrom state (c :: rest) = .ok (tokens ++ more) := by
  rw [lexFrom, step]
  show (lexFrom next rest >>= fun more => Except.ok (tokens ++ more)) = _
  rw [read]
  rfl

theorem lexFrom_ok {state : LexState} {c : Char} {rest : List Char} {tokens : List Token}
    (read : lexFrom state (c :: rest) = .ok tokens) :
    ∃ first next more, lexStep state c = .ok (first, next) ∧ lexFrom next rest = .ok more ∧ tokens = first ++ more := by
  obtain ⟨⟨first, next⟩, step, rest'⟩ := passes_bind read
  obtain ⟨more, read', same⟩ := passes_bind rest'
  cases same
  exact ⟨first, next, more, step, read', rfl⟩

-- Reading these characters from a state gives these tokens and leaves another state.
def Reads (state : LexState) (cs : List Char) (tokens : List Token) (next : LexState) : Prop :=
  ∀ rest more, lexFrom next rest = .ok more → lexFrom state (cs ++ rest) = .ok (tokens ++ more)

variable {state mid next : LexState} {c : Char} {cs cs' : List Char} {tokens tokens' : List Token}

theorem reads_nil (state : LexState) : Reads state [] [] state :=
  fun _ _ read => read

theorem reads_cons (step : lexStep state c = .ok (tokens, mid)) (later : Reads mid cs tokens' next) :
    Reads state (c :: cs) (tokens ++ tokens') next := by
  intro rest more read
  rw [List.append_assoc]
  exact lexFrom_cons step (later rest more read)

theorem reads_one (step : lexStep state c = .ok (tokens, next)) : Reads state [c] tokens next := by
  have read := reads_cons step (reads_nil next)
  rwa [List.append_nil] at read

theorem reads_append (first : Reads state cs tokens mid) (later : Reads mid cs' tokens' next) :
    Reads state (cs ++ cs') (tokens ++ tokens') next := by
  intro rest more read
  rw [List.append_assoc, List.append_assoc]
  exact first _ _ (later rest more read)

theorem reads_on (begun : List Char → LexState)
    (on : ∀ c ∈ cs, ∀ seen, lexStep (begun seen) c = .ok ([], begun (c :: seen))) :
    ∀ seen, Reads (begun seen) cs [] (begun (cs.reverse ++ seen)) := by
  induction cs with
  | nil => exact fun seen => reads_nil _
  | cons c rest ih =>
    intro seen
    have later := ih (fun d member => on d (List.mem_cons_of_mem c member)) (c :: seen)
    rw [List.reverse_cons, List.append_assoc, List.singleton_append]
    exact reads_cons (on c List.mem_cons_self seen) later

end Reading

-- These characters are read as this token, whether the source ends behind them or a blank comes.
def Spells (token : Token) (cs : List Char) : Prop :=
  ∃ before last state, Reads .gap cs before state ∧ lexEnd state = .ok last ∧
    lexStep state ' ' = .ok (last, .gap) ∧ before ++ last = [token]

section Spelling

variable {token : Token} {cs rest : List Char} {tokens : List Token}

theorem Spells.ends (spells : Spells token cs) : lexFrom .gap cs = .ok [token] := by
  obtain ⟨before, last, state, reads, ended, _, same⟩ := spells
  have read := reads [] last ended
  rwa [List.append_nil, same] at read

theorem Spells.before (spells : Spells token cs) (read : lexFrom .gap rest = .ok tokens) :
    lexFrom .gap (cs ++ ' ' :: rest) = .ok (token :: tokens) := by
  obtain ⟨before, last, state, reads, _, step, same⟩ := spells
  rw [reads _ _ (lexFrom_cons step read), ← List.append_assoc, same]
  rfl

-- A token that its last character completes.
theorem spells_whole (reads : Reads .gap cs [token] .gap) : Spells token cs :=
  ⟨[token], [], .gap, reads, rfl, rfl, rfl⟩

-- A token that is completed by what it is not.
theorem spells_open {state : LexState} (reads : Reads .gap cs [] state) (ended : lexEnd state = .ok [token])
    (step : lexStep state ' ' = .ok ([token], .gap)) : Spells token cs :=
  ⟨[], [token], state, reads, ended, step, rfl⟩

theorem spells_symbol (symbol : Symbol) : Spells (.symbol symbol) symbol.spelling.toList := by
  have single {c : Char} {symbol : Symbol} (step : lexStep .gap c = .ok ([.symbol symbol], .gap)) :
      Spells (.symbol symbol) [c] := spells_whole (reads_one step)
  have double {c d : Char} {symbol : Symbol} (first : lexStep .gap c = .ok ([], .half c))
      (second : lexStep (.half c) d = .ok ([.symbol symbol], .gap)) : Spells (.symbol symbol) [c, d] :=
    spells_whole (reads_cons first (reads_one second))
  have half {c : Char} {symbol : Symbol} (first : lexStep .gap c = .ok ([], .half c))
      (ended : lexEnd (.half c) = .ok [.symbol symbol]) (step : lexStep (.half c) ' ' = .ok ([.symbol symbol], .gap)) :
      Spells (.symbol symbol) [c] := spells_open (reads_one first) ended step
  cases symbol with
  | and | or | equal | notEqual | greaterEqual | lessEqual => exact double rfl rfl
  | not | greater | less => exact half rfl rfl rfl
  | question | colon | semicolon | plus | minus | leftParen | rightParen | comma => exact single rfl

theorem spells_name {c : Char} (starts : isNameStart c = true) (parts : ∀ d ∈ cs, isNamePart d = true) :
    Spells (.name (String.ofList (c :: cs))) (c :: cs) := by
  have first : lexStep .gap c = .ok ([], .name [c]) := by
    rw [lexStep, beginWith, if_neg (Bool.eq_false_iff.mp (namePart_visible (namePart_of_start starts))),
      if_neg (Bool.eq_false_iff.mp (start_undigit starts)), if_pos starts]
  have on := reads_on .name (fun d member seen => if_pos (parts d member)) [c]
  have whole : gathered (cs.reverse ++ [c]) = String.ofList (c :: cs) := by simp [gathered]
  refine spells_open (reads_cons first on) ?_ ?_
  · rw [lexEnd, whole]
  · rw [← whole]
    rfl

theorem blank_ends : ¬isNamePart ' ' = true ∧ ¬Text.isDigit ' ' = true := by
  decide +kernel

theorem spells_var (named : cs ≠ []) (parts : ∀ d ∈ cs, isNamePart d = true) :
    Spells (.var (String.ofList cs)) ('$' :: cs) := by
  have first : lexStep .gap '$' = .ok ([], .var []) := rfl
  have on := reads_on .var (fun d member seen => if_pos (parts d member)) []
  have whole : variableToken (cs.reverse ++ []) = .ok (.var (String.ofList cs)) := by
    simp [variableToken, gathered, named]
  refine spells_open (reads_cons first on) ?_ ?_
  · rw [lexEnd, whole]
    rfl
  · rw [lexStep, if_neg blank_ends.1, whole]
    rfl

theorem spells_number {n : Int64} (natural : 0 ≤ n) : Spells (.number n) (Text.showInt64 n).toList := by
  have positive : 0 ≤ n.toInt := Int64.le_iff_toInt_le.mp natural
  have spelled : (Text.showInt64 n).toList = Nat.toDigits 10 n.toInt.natAbs := by
    rw [Text.showInt64, Text.showInt, if_neg (Int.not_lt.mpr positive), Text.showNat, String.toList_ofList]
  obtain ⟨c, more, led, digit⟩ := Json.toDigits_cons n.toInt.natAbs
  have all := Json.all_digits n.toInt.natAbs
  rw [led] at all spelled
  have first : lexStep .gap c = .ok ([], .number [c]) := by
    rw [lexStep, beginWith, if_neg (Bool.eq_false_iff.mp (digit_visible digit)), if_pos digit]
  have on := reads_on .number (fun d member seen => if_pos (all d (List.mem_cons_of_mem c member))) [c]
  have whole : numberToken (more.reverse ++ [c]) = .ok (.number n) := by
    have back : gathered (more.reverse ++ [c]) = Text.showInt64 n := by simp [gathered, ← spelled]
    rw [numberToken, back, int64_showInt64]
  rw [spelled]
  refine spells_open (reads_cons first on) ?_ ?_
  · rw [lexEnd, whole]
    rfl
  · rw [lexStep, if_neg blank_ends.2, whole]
    rfl

theorem reads_content (content seen : List Char) :
    Reads (.text '"' seen) (content.flatMap Token.escape) [] (.text '"' (content.reverse ++ seen)) := by
  induction content generalizing seen with
  | nil => exact reads_nil _
  | cons c rest ih =>
    have later := ih (c :: seen)
    rw [List.flatMap_cons, List.reverse_cons, List.append_assoc, List.singleton_append]
    have one : Reads (.text '"' seen) (Token.escape c) [] (.text '"' (c :: seen)) := by
      rw [Token.escape]
      split
      · rename_i marked
        have slash : lexStep (.text '"' seen) '\\' = .ok ([], .escape '"' seen) := rfl
        refine reads_cons slash (reads_one ?_)
        rcases marked with rfl | rfl <;> rfl
      · rename_i plain
        obtain ⟨slash, quote⟩ := not_or.mp plain
        refine reads_one ?_
        rw [lexStep, if_neg quote, if_neg slash]
    exact reads_append one later

theorem spells_text (s : String) : Spells (.text s) (Token.source (.text s)) := by
  have closes : lexStep (.text '"' (s.toList.reverse ++ [])) '"' = .ok ([.text s], .gap) := by
    simp [lexStep, gathered]
  have first : lexStep .gap '"' = .ok ([], .text '"' []) := rfl
  exact spells_whole (reads_cons first (reads_append (reads_content s.toList []) (reads_one closes)))

theorem spells_source (writable : token.isWritable = true) : Spells token token.source := by
  cases token with
  | name s =>
    rw [Token.isWritable] at writable
    split at writable
    · cases writable
    · rename_i c rest spelled
      rw [Bool.and_eq_true, List.all_eq_true] at writable
      have spells := spells_name writable.1 writable.2
      rwa [← spelled, String.ofList_toList] at spells
  | text s => exact spells_text s
  | number n => exact spells_number (of_decide_eq_true writable)
  | var s =>
    rw [Token.isWritable, Bool.and_eq_true, Bool.not_eq_true', List.isEmpty_eq_false_iff, List.all_eq_true] at writable
    have spells := spells_var writable.1 writable.2
    rwa [String.ofList_toList] at spells
  | symbol s => exact spells_symbol s

end Spelling

theorem lex_written {tokens : List Token} (writable : ∀ token ∈ tokens, token.isWritable = true) :
    lex (written tokens) = .ok tokens := by
  rw [lex, written, String.toList_ofList]
  induction tokens with
  | nil => rfl
  | cons token rest ih =>
    have spells := spells_source (writable token List.mem_cons_self)
    have read := ih fun other member => writable other (List.mem_cons_of_mem token member)
    cases rest with
    | nil =>
      rw [List.map_singleton, List.intercalate_singleton]
      exact spells.ends
    | cons next rest => exact spells.before read

section Soundness

-- What has been begun can become a token that can be written.
def LexState.Sound : LexState → Prop
  | .name seen => (Token.name (gathered seen)).isWritable = true
  | .number seen => ∀ c ∈ seen, Text.isDigit c = true
  | .var seen => ∀ c ∈ seen, isNamePart c = true
  | _ => True

variable {state next : LexState} {c : Char} {seen : List Char} {token : Token} {tokens : List Token}

theorem writable_name {s : String} : (Token.name s).isWritable = true ↔
    ∃ c rest, s.toList = c :: rest ∧ isNameStart c = true ∧ ∀ d ∈ rest, isNamePart d = true := by
  rw [Token.isWritable]
  cases s.toList with
  | nil => simp
  | cons c rest => simp [List.all_eq_true]

theorem sound_on (sound : (LexState.name seen).Sound) (part : isNamePart c = true) : (LexState.name (c :: seen)).Sound := by
  obtain ⟨first, rest, spelled, starts, parts⟩ := writable_name.mp sound
  rw [gathered, String.toList_ofList] at spelled
  refine writable_name.mpr ⟨first, rest ++ [c], ?_, starts, ?_⟩
  · rw [gathered, String.toList_ofList, List.reverse_cons, spelled, List.cons_append]
  · intro d member
    rcases List.mem_append.mp member with member | member
    · exact parts d member
    · rwa [List.mem_singleton.mp member]

theorem writable_number (sound : (LexState.number seen).Sound) (read : numberToken seen = .ok token) :
    token.isWritable = true := by
  rw [numberToken] at read
  split at read
  · rename_i n numeral
    cases read
    exact decide_eq_true (int64_natural (fun c member => sound c (List.mem_reverse.mp member)) numeral)
  · cases read

theorem writable_var (sound : (LexState.var seen).Sound) (read : variableToken seen = .ok token) :
    token.isWritable = true := by
  rw [variableToken] at read
  split at read
  · cases read
  · rename_i nonempty
    cases read
    rw [Token.isWritable, gathered, String.toList_ofList, Bool.and_eq_true, List.all_reverse, List.all_eq_true]
    exact ⟨by simpa using nonempty, sound⟩

theorem sound_beginWith (step : beginWith c = .ok (tokens, next)) :
    (∀ token ∈ tokens, token.isWritable = true) ∧ next.Sound := by
  rw [beginWith] at step
  split at step
  · cases step
    exact ⟨List.forall_mem_nil _, trivial⟩
  split at step
  · rename_i digit
    cases step
    exact ⟨List.forall_mem_nil _, List.forall_mem_singleton.mpr digit⟩
  split at step
  · rename_i starts
    cases step
    refine ⟨List.forall_mem_nil _, writable_name.mpr ⟨c, [], ?_, starts, List.forall_mem_nil _⟩⟩
    rw [gathered, String.toList_ofList, List.reverse_singleton]
  split at step
  · cases step
    exact ⟨List.forall_mem_nil _, trivial⟩
  split at step
  · cases step
    exact ⟨List.forall_mem_nil _, trivial⟩
  split at step
  · cases step
    exact ⟨List.forall_mem_nil _, List.forall_mem_nil _⟩
  split at step
  · cases step
    exact ⟨List.forall_mem_singleton.mpr rfl, trivial⟩
  · cases step

theorem sound_endThenBegin (writable : token.isWritable = true) (step : endThenBegin token c = .ok (tokens, next)) :
    (∀ token ∈ tokens, token.isWritable = true) ∧ next.Sound := by
  rw [endThenBegin] at step
  cases began : beginWith c with
  | error error =>
    rw [began] at step
    cases step
  | ok begun =>
    rw [began] at step
    cases step
    obtain ⟨each, sound⟩ := sound_beginWith began
    exact ⟨List.forall_mem_cons.mpr ⟨writable, each⟩, sound⟩

theorem sound_step (sound : state.Sound) (step : lexStep state c = .ok (tokens, next)) :
    (∀ token ∈ tokens, token.isWritable = true) ∧ next.Sound := by
  cases state with
  | gap => exact sound_beginWith step
  | name seen =>
    rw [lexStep] at step
    split at step
    · rename_i part
      cases step
      exact ⟨List.forall_mem_nil _, sound_on sound part⟩
    · exact sound_endThenBegin sound step
  | number seen =>
    rw [lexStep] at step
    split at step
    · rename_i digit
      cases step
      exact ⟨List.forall_mem_nil _, List.forall_mem_cons.mpr ⟨digit, sound⟩⟩
    · obtain ⟨token, read, step⟩ := passes_bind step
      exact sound_endThenBegin (writable_number sound read) step
  | var seen =>
    rw [lexStep] at step
    split at step
    · rename_i part
      cases step
      exact ⟨List.forall_mem_nil _, List.forall_mem_cons.mpr ⟨part, sound⟩⟩
    · obtain ⟨token, read, step⟩ := passes_bind step
      exact sound_endThenBegin (writable_var sound read) step
  | text quote seen =>
    rw [lexStep] at step
    split at step
    · cases step
      exact ⟨List.forall_mem_singleton.mpr rfl, trivial⟩
    · split at step <;> cases step <;> exact ⟨List.forall_mem_nil _, trivial⟩
  | escape quote seen =>
    cases step
    exact ⟨List.forall_mem_nil _, trivial⟩
  | half first =>
    rw [lexStep] at step
    split at step
    · cases step
      exact ⟨List.forall_mem_singleton.mpr rfl, trivial⟩
    · obtain ⟨symbol, _, step⟩ := passes_bind step
      exact sound_endThenBegin rfl step

theorem sound_end (sound : state.Sound) (ended : lexEnd state = .ok tokens) :
    ∀ token ∈ tokens, token.isWritable = true := by
  cases state with
  | gap =>
    cases ended
    exact List.forall_mem_nil _
  | name seen =>
    cases ended
    exact List.forall_mem_singleton.mpr sound
  | number seen =>
    obtain ⟨token, read, same⟩ := passes_bind ended
    cases same
    exact List.forall_mem_singleton.mpr (writable_number sound read)
  | var seen =>
    obtain ⟨token, read, same⟩ := passes_bind ended
    cases same
    exact List.forall_mem_singleton.mpr (writable_var sound read)
  | text quote seen => cases ended
  | escape quote seen => cases ended
  | half first =>
    obtain ⟨symbol, _, same⟩ := passes_bind ended
    cases same
    exact List.forall_mem_singleton.mpr rfl

theorem writable_of_lexFrom {cs : List Char} : ∀ {state : LexState} {tokens : List Token}, state.Sound →
    lexFrom state cs = .ok tokens → ∀ token ∈ tokens, token.isWritable = true := by
  induction cs with
  | nil => exact fun sound ended => sound_end sound ended
  | cons c rest ih =>
    intro state tokens sound read
    obtain ⟨first, next, more, step, read', rfl⟩ := lexFrom_ok read
    obtain ⟨writable, sound'⟩ := sound_step sound step
    exact List.forall_mem_append.mpr ⟨writable, ih sound' read'⟩

end Soundness

-- Tokens are read back from what is written of them exactly when each of them can be written, and those are all the
-- tokens that any source has.
theorem tokens_are_read_back (tokens : List Token) :
    (lex (written tokens) = .ok tokens ↔ ∀ token ∈ tokens, token.isWritable = true) ∧
      ∀ source, lex source = .ok tokens → ∀ token ∈ tokens, token.isWritable = true := by
  have sound : LexState.gap.Sound := trivial
  have readable (source : String) (read : lex source = .ok tokens) : ∀ token ∈ tokens, token.isWritable = true :=
    writable_of_lexFrom sound read
  exact ⟨⟨readable _, lex_written⟩, readable⟩

end ThingWorld.Script
