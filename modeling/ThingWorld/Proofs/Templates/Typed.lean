import ThingWorld.Engine.Verbs
import ThingWorld.Proofs.Script.Retelling
import ThingWorld.Proofs.Script.Spelling
namespace ThingWorld

-- Line feeds for a typed `\n`, character by character. A backslash is held back until it is seen what comes after it.
def breakLines : Bool → List Char → List Char
  | false, [] => []
  | true, [] => ['\\']
  | false, c :: rest => if c = '\\' then breakLines true rest else c :: breakLines false rest
  | true, c :: rest =>
    if c = 'n' then '\n' :: breakLines false rest
    else if c = '\\' then '\\' :: breakLines true rest
    else '\\' :: c :: breakLines false rest

section Breaks

variable {c : Char}

theorem breakLines_plain (plain : c ≠ '\\') (rest : List Char) :
    breakLines false (c :: rest) = c :: breakLines false rest := by
  rw [breakLines, if_neg plain]

theorem breakLines_released (other : c ≠ 'n') (rest : List Char) :
    breakLines true (c :: rest) = '\\' :: breakLines false (c :: rest) := by
  simp only [breakLines, if_neg other]
  split <;> rfl

theorem breakLines_replaces (cs : List Char) :
    Text.replace ['\\', 'n'] ['\n'] cs = breakLines false cs ∧
      Text.replace ['\\', 'n'] ['\n'] ('\\' :: cs) = breakLines true cs := by
  induction cs with
  | nil => exact ⟨rfl, rfl⟩
  | cons c rest ih =>
    have first : Text.replace ['\\', 'n'] ['\n'] (c :: rest) = breakLines false (c :: rest) := by
      by_cases backslash : c = '\\'
      · subst backslash
        exact ih.2
      · have apart : (['\\', 'n'].isPrefixOf (c :: rest)) = false := by
          rw [List.isPrefixOf, beq_false_of_ne (Ne.symm backslash), Bool.false_and]
        rw [breakLines_plain backslash, ← ih.1, Text.replace, Text.replaceFrom, apart]
        rfl
    refine ⟨first, ?_⟩
    by_cases pair : c = 'n'
    · subst pair
      rw [breakLines, if_pos rfl, ← ih.1]
      rfl
    · have apart : (['\\', 'n'].isPrefixOf ('\\' :: c :: rest)) = false := by
        rw [List.isPrefixOf, List.isPrefixOf, beq_false_of_ne (Ne.symm pair)]
        rfl
      rw [breakLines_released pair, ← first, Text.replace, Text.replaceFrom, apart]
      rfl

theorem splitTyped_breaks (text : String) :
    Engine.splitTyped text = String.ofList (breakLines false text.toList) :=
  congrArg String.ofList (breakLines_replaces text.toList).1

theorem length_breakLines (cs : List Char) :
    (breakLines false cs).length ≤ cs.length ∧ (breakLines true cs).length ≤ cs.length + 1 := by
  induction cs with
  | nil => exact ⟨Nat.le_refl _, Nat.le_refl _⟩
  | cons c rest ih =>
    obtain ⟨free, held⟩ := ih
    constructor
    · rw [breakLines]
      split
      · exact held
      · exact Nat.succ_le_succ free
    · rw [breakLines]
      split
      · exact Nat.le_trans (Nat.succ_le_succ free) (Nat.le_succ _)
      · split
        · exact Nat.succ_le_succ held
        · exact Nat.succ_le_succ (Nat.succ_le_succ free)

-- Only a text without the pair stays as it is.
theorem breakLines_same_iff (cs : List Char) :
    (breakLines false cs = cs ↔ ¬ ['\\', 'n'] <:+: cs) ∧
      (breakLines true cs = '\\' :: cs ↔ ¬ ['\\', 'n'] <:+: '\\' :: cs) := by
  induction cs with
  | nil => exact ⟨by simp [breakLines], by simp [breakLines, List.infix_cons_iff]⟩
  | cons c rest ih =>
    have first : breakLines false (c :: rest) = c :: rest ↔ ¬ ['\\', 'n'] <:+: c :: rest := by
      by_cases backslash : c = '\\'
      · subst backslash
        exact ih.2
      · rw [breakLines_plain backslash, List.cons_inj_right, ih.1, List.infix_cons_iff, List.cons_prefix_cons]
        simp [Ne.symm backslash]
    refine ⟨first, ?_⟩
    by_cases pair : c = 'n'
    · subst pair
      rw [breakLines, if_pos rfl]
      simp [List.infix_cons_iff]
    · rw [breakLines_released pair, List.cons_inj_right, first, List.infix_cons_iff (a := '\\'), List.cons_prefix_cons,
        List.cons_prefix_cons]
      simp [Ne.symm pair]

theorem splitTyped_same_iff {text : String} : Engine.splitTyped text = text ↔ ¬ ['\\', 'n'] <:+: text.toList := by
  rw [splitTyped_breaks, ← (breakLines_same_iff text.toList).1]
  exact ⟨fun same => String.toList_ofList.symm.trans (congrArg String.toList same),
    fun same => by rw [same, String.ofList_toList]⟩

theorem blank_plain (blank : Text.isBlank c = true) : c ≠ '\\' := by
  rintro rfl
  exact absurd blank (by decide)

theorem breakLines_blank {lead : List Char} (blank : lead.all Text.isBlank = true) (more : List Char) :
    breakLines false (lead ++ more) = lead ++ breakLines false more := by
  induction lead with
  | nil => rfl
  | cons c rest ih =>
    rw [List.all_cons, Bool.and_eq_true] at blank
    rw [List.cons_append, breakLines_plain (blank_plain blank.1), ih blank.2]
    rfl

theorem breakLines_tail {tail : List Char} (blank : tail.all Text.isBlank = true) (cs : List Char) :
    breakLines false (cs ++ tail) = breakLines false cs ++ tail ∧ breakLines true (cs ++ tail) = breakLines true cs ++ tail := by
  induction cs with
  | nil =>
    have plain : breakLines false tail = tail := by
      have whole := breakLines_blank blank []
      rw [List.append_nil] at whole
      rw [whole, breakLines, List.append_nil]
    refine ⟨plain, ?_⟩
    cases tail with
    | nil => rfl
    | cons c rest =>
      have blank : Text.isBlank c = true := List.all_eq_true.mp blank c List.mem_cons_self
      have other : c ≠ 'n' := by
        rintro rfl
        exact absurd blank (by decide)
      rw [List.nil_append, breakLines_released other, plain]
      rfl
  | cons c rest ih =>
    have first : breakLines false (c :: rest ++ tail) = breakLines false (c :: rest) ++ tail := by
      rw [List.cons_append, breakLines, breakLines, ih.1, ih.2]
      split <;> rfl
    refine ⟨first, ?_⟩
    rw [List.cons_append, breakLines, breakLines, ih.1, ih.2]
    split
    · rfl
    · split <;> rfl

end Breaks

namespace Script

-- What a text says so far and what it says with its line breaks; the characters of both are reversed. Its last character
-- may be a backslash that is held back.
def Breaks (seen : List Char) (held : Bool) (out : List Char) : Prop :=
  ∀ more, breakLines false (seen.reverse ++ more) = out.reverse ++ breakLines held more

-- The same if no `n` comes next.
def Settles (seen out : List Char) : Prop :=
  ∀ more, more.head? ≠ some 'n' → breakLines false (seen.reverse ++ more) = out.reverse ++ breakLines false more

section Contents

variable {seen out : List Char} {held : Bool} {c : Char}

theorem breaks_nil : Breaks [] false [] := fun _ => rfl

theorem Breaks.settles (breaks : Breaks seen false out) : Settles seen out :=
  fun more _ => breaks more

theorem reverse_cons_append (c : Char) (seen more : List Char) :
    (c :: seen).reverse ++ more = seen.reverse ++ c :: more := by
  rw [List.reverse_cons, List.append_assoc, List.singleton_append]

theorem Breaks.settles_held (breaks : Breaks seen true out) : Settles seen ('\\' :: out) := by
  intro more other
  rw [breaks more, reverse_cons_append]
  cases more with
  | nil => rfl
  | cons c rest =>
    have other : c ≠ 'n' := fun same => other (congrArg some same)
    rw [breakLines_released other]

theorem Settles.plain (settles : Settles seen out) (other : c ≠ 'n') (plain : c ≠ '\\') :
    Breaks (c :: seen) false (c :: out) := by
  intro more
  have apart : (c :: more).head? ≠ some 'n' := fun same => other (Option.some.inj same)
  rw [reverse_cons_append, reverse_cons_append, settles _ apart, breakLines_plain plain]

theorem Settles.backslash (settles : Settles seen out) : Breaks ('\\' :: seen) true out := by
  intro more
  have apart : ('\\' :: more).head? ≠ some 'n' := by simp
  rw [reverse_cons_append, settles _ apart]
  rfl

theorem Breaks.plain (breaks : Breaks seen false out) (plain : c ≠ '\\') : Breaks (c :: seen) false (c :: out) := by
  intro more
  rw [reverse_cons_append, reverse_cons_append, breaks, breakLines_plain plain]

theorem Breaks.pair (breaks : Breaks seen true out) : Breaks ('n' :: seen) false ('\n' :: out) := by
  intro more
  rw [reverse_cons_append, reverse_cons_append, breaks]
  rfl

theorem gathered_settled (settles : Settles seen out) : gathered out = Engine.splitTyped (gathered seen) := by
  have whole := settles [] (by simp)
  rw [List.append_nil] at whole
  rw [gathered, gathered, splitTyped_breaks, String.toList_ofList, whole, breakLines, List.append_nil]

end Contents

-- Nothing of a text has been begun.
def LexState.outside : LexState → Bool
  | .text _ _ => false
  | .escape _ _ => false
  | _ => true

def IsQuote (c : Char) : Prop := c = '"' ∨ c = '\x27'

theorem IsQuote.ordinary {c : Char} (quote : IsQuote c) : c ≠ 'n' ∧ c ≠ '\\' ∧ c ≠ '\n' := by
  rcases quote with rfl | rfl <;> decide

-- How far the reading of a source with its line breaks is when the reading of the source itself is in some state.
inductive Tracks : LexState → Bool → LexState → Prop where
  | outside {state : LexState} (outside : state.outside = true) : Tracks state false state
  | text {quote : Char} {seen out : List Char} (mark : IsQuote quote) (breaks : Breaks seen false out) :
      Tracks (.text quote seen) false (.text quote out)
  -- The backslash is held back.
  | escape {quote : Char} {seen out : List Char} (mark : IsQuote quote) (settles : Settles seen out) :
      Tracks (.escape quote seen) true (.text quote out)
  -- The second of two backslashes is held back, the first is what the other reading has come to.
  | doubled {quote : Char} {seen out : List Char} (mark : IsQuote quote) (breaks : Breaks seen true out) :
      Tracks (.text quote seen) true (.escape quote out)

section Outside

variable {state next : LexState} {c : Char} {tokens : List Token}

theorem beginWith_backslash : beginWith '\\' = .error (.unexpectedCharacter '\\') := by
  have nameless : isNameStart '\\' = false := by decide +kernel
  rw [beginWith, nameless]
  rfl

-- Where no text has been begun, the tokens say nothing and no backslash is read.
def Apart (c : Char) (tokens : List Token) (next : LexState) : Prop :=
  c ≠ '\\' ∧ (∀ f, tokens.map (Token.retell f) = tokens) ∧ Tracks next false next

theorem apart_beginWith (step : beginWith c = .ok (tokens, next)) : Apart c tokens next := by
  refine ⟨fun same => ?_, ?_⟩
  · rw [same, beginWith_backslash] at step
    cases step
  · rw [beginWith] at step
    split at step
    · cases step
      exact ⟨fun f => rfl, .outside rfl⟩
    split at step
    · cases step
      exact ⟨fun f => rfl, .outside rfl⟩
    split at step
    · cases step
      exact ⟨fun f => rfl, .outside rfl⟩
    split at step
    · cases step
      exact ⟨fun f => rfl, .outside rfl⟩
    split at step
    · rename_i mark
      rw [Bool.or_eq_true, decide_eq_true_eq, decide_eq_true_eq] at mark
      cases step
      exact ⟨fun f => rfl, .text mark breaks_nil⟩
    split at step
    · cases step
      exact ⟨fun f => rfl, .outside rfl⟩
    split at step
    · cases step
      exact ⟨fun f => rfl, .outside rfl⟩
    · cases step

theorem apart_endThenBegin {token : Token} (said : ∀ f, token.retell f = token)
    (step : endThenBegin token c = .ok (tokens, next)) : Apart c tokens next := by
  rw [endThenBegin] at step
  cases began : beginWith c with
  | error error =>
    rw [began] at step
    cases step
  | ok begun =>
    rw [began] at step
    cases step
    obtain ⟨plain, silent, tracks⟩ := apart_beginWith began
    refine ⟨plain, fun f => ?_, tracks⟩
    rw [List.map_cons, said, silent]

-- What has been begun goes on, and nothing comes of it yet.
theorem apart_goesOn {p : Char → Bool} (never : p '\\' = false) (on : p c = true) (outside : next.outside = true) :
    Apart c [] next := by
  refine ⟨fun same => ?_, fun f => rfl, .outside outside⟩
  rw [same, never] at on
  cases on

theorem double_backslash (first : Char) : double? first '\\' = none := by
  simp [double?]

theorem apart_step (outside : state.outside = true) (step : lexStep state c = .ok (tokens, next)) :
    Apart c tokens next := by
  have nameless : isNamePart '\\' = false := by decide +kernel
  cases state with
  | gap => exact apart_beginWith step
  | name seen =>
    rw [lexStep] at step
    split at step
    · rename_i on
      cases step
      exact apart_goesOn nameless on rfl
    · exact apart_endThenBegin (fun f => rfl) step
  | number seen =>
    rw [lexStep] at step
    split at step
    · rename_i on
      cases step
      exact apart_goesOn rfl on rfl
    · obtain ⟨token, ended, step⟩ := passes_bind step
      refine apart_endThenBegin (fun f => ?_) step
      rw [numberToken] at ended
      split at ended <;> cases ended
      rfl
  | var seen =>
    rw [lexStep] at step
    split at step
    · rename_i on
      cases step
      exact apart_goesOn nameless on rfl
    · obtain ⟨token, ended, step⟩ := passes_bind step
      refine apart_endThenBegin (fun f => ?_) step
      rw [variableToken] at ended
      split at ended <;> cases ended
      rfl
  | half first =>
    rw [lexStep] at step
    split at step
    · rename_i symbol both
      cases step
      refine ⟨fun same => ?_, fun f => rfl, .outside rfl⟩
      rw [same, double_backslash] at both
      cases both
    · obtain ⟨symbol, ended, step⟩ := passes_bind step
      exact apart_endThenBegin (fun f => rfl) step
  | text quote seen => cases outside
  | escape quote seen => cases outside

theorem lexEnd_silent (ended : lexEnd state = .ok tokens) (f : String → String) :
    state.outside = true ∧ tokens.map (Token.retell f) = tokens := by
  cases state with
  | gap => cases ended; exact ⟨rfl, rfl⟩
  | name seen => cases ended; exact ⟨rfl, rfl⟩
  | number seen =>
    obtain ⟨token, number, same⟩ := passes_bind ended
    cases same
    rw [numberToken] at number
    split at number <;> cases number
    exact ⟨rfl, rfl⟩
  | var seen =>
    obtain ⟨token, variable', same⟩ := passes_bind ended
    cases same
    rw [variableToken] at variable'
    split at variable' <;> cases variable'
    exact ⟨rfl, rfl⟩
  | half first =>
    obtain ⟨symbol, _, same⟩ := passes_bind ended
    cases same
    exact ⟨rfl, rfl⟩
  | text quote seen => cases ended
  | escape quote seen => cases ended

end Outside

section Simulation

variable {state next state' : LexState} {held : Bool} {c : Char} {tokens : List Token}

-- What one character of the source comes to in the source with its line breaks.
def Answers (state' : LexState) (held : Bool) (c : Char) (tokens : List Token) (next : LexState) : Prop :=
  ∃ emitted held' next', Tracks next held' next' ∧ (∀ rest, breakLines held (c :: rest) = emitted ++ breakLines held' rest) ∧
    ∀ rest more, lexFrom next' rest = .ok more →
      lexFrom state' (emitted ++ rest) = .ok (tokens.map (Token.retell Engine.splitTyped) ++ more)

variable {quote : Char} {seen out : List Char}

theorem step_reads (other : c ≠ quote) (plain : c ≠ '\\') : lexStep (.text quote out) c = .ok ([], .text quote (c :: out)) := by
  rw [lexStep, if_neg other, if_neg plain]

theorem step_escapes (mark : IsQuote quote) : lexStep (.text quote out) '\\' = .ok ([], .escape quote out) := by
  rw [lexStep, if_neg mark.ordinary.2.1.symm, if_pos rfl]

theorem step_closes : lexStep (.text quote out) quote = .ok ([.text (gathered out)], .gap) := by
  rw [lexStep, if_pos rfl]

theorem answers_outside (outside : state.outside = true) (step : lexStep state c = .ok (tokens, next)) :
    Answers state false c tokens next := by
  obtain ⟨plain, silent, tracks⟩ := apart_step outside step
  refine ⟨[c], false, next, tracks, breakLines_plain plain, fun rest more read => ?_⟩
  rw [silent]
  exact lexFrom_cons step read

theorem answers_text (mark : IsQuote quote) (breaks : Breaks seen false out)
    (step : lexStep (.text quote seen) c = .ok (tokens, next)) : Answers (.text quote out) false c tokens next := by
  obtain ⟨_, plain, _⟩ := mark.ordinary
  rw [lexStep] at step
  split at step
  · rename_i same
    subst same
    cases step
    refine ⟨[c], false, .gap, .outside rfl, breakLines_plain plain, fun rest more read => ?_⟩
    rw [List.map_singleton, Token.retell, ← gathered_settled breaks.settles]
    exact lexFrom_cons step_closes read
  · rename_i other
    split at step
    · rename_i backslash
      cases step
      refine ⟨[], true, .text quote out, .escape mark breaks.settles, ?_, fun rest more read => read⟩
      exact fun rest => by rw [breakLines, if_pos backslash]; rfl
    · rename_i plain
      cases step
      refine ⟨[c], false, .text quote (c :: out), .text mark (breaks.plain plain), breakLines_plain plain, ?_⟩
      exact fun rest more read => lexFrom_cons (step_reads other plain) read

-- An escaped character is never an `n`, and a backslash only if it was one.
theorem unescape_ordinary (c : Char) : unescape c ≠ 'n' ∧ (c ≠ '\\' → unescape c ≠ '\\') := by
  rw [unescape]
  split
  · exact ⟨by decide, fun _ => by decide⟩
  · split
    · exact ⟨by decide, fun _ => by decide⟩
    · rename_i other _
      exact ⟨other, id⟩

theorem breakLines_apart (other : c ≠ 'n') (plain : c ≠ '\\') (rest : List Char) :
    breakLines true (c :: rest) = '\\' :: c :: breakLines false rest := by
  rw [breakLines_released other, breakLines_plain plain]

theorem answers_escape (mark : IsQuote quote) (settles : Settles seen out)
    (step : lexStep (.escape quote seen) c = .ok (tokens, next)) : Answers (.text quote out) true c tokens next := by
  obtain ⟨_, _, unbroken⟩ := mark.ordinary
  obtain ⟨other', plain'⟩ := unescape_ordinary c
  cases step
  by_cases pair : c = 'n'
  · subst pair
    refine ⟨['\n'], false, .text quote ('\n' :: out), .text mark (settles.plain (by decide) (by decide)), fun rest => rfl, ?_⟩
    exact fun rest more read => lexFrom_cons (step_reads unbroken.symm (by decide)) read
  by_cases backslash : c = '\\'
  · subst backslash
    refine ⟨['\\'], true, .escape quote out, .doubled mark settles.backslash, fun rest => rfl, ?_⟩
    exact fun rest more read => lexFrom_cons (step_escapes mark) read
  · refine ⟨['\\', c], false, .text quote (unescape c :: out), .text mark (settles.plain other' (plain' backslash)),
      breakLines_apart pair backslash, ?_⟩
    intro rest more read
    have escaped : lexStep (.escape quote out) c = .ok ([], .text quote (unescape c :: out)) := rfl
    exact lexFrom_cons (step_escapes mark) (lexFrom_cons escaped read)

theorem answers_doubled (mark : IsQuote quote) (breaks : Breaks seen true out)
    (step : lexStep (.text quote seen) c = .ok (tokens, next)) : Answers (.escape quote out) true c tokens next := by
  obtain ⟨unnamed, unheld, unbroken⟩ := mark.ordinary
  have escaped : lexStep (.escape quote out) '\\' = .ok ([], .text quote ('\\' :: out)) := rfl
  rw [lexStep] at step
  split at step
  · rename_i same
    subst same
    cases step
    refine ⟨['\\', c], false, .gap, .outside rfl, breakLines_apart unnamed unheld, fun rest more read => ?_⟩
    rw [List.map_singleton, Token.retell, ← gathered_settled breaks.settles_held]
    exact lexFrom_cons escaped (lexFrom_cons step_closes read)
  rename_i other
  split at step
  · rename_i backslash
    subst backslash
    cases step
    refine ⟨['\\'], true, .text quote ('\\' :: out), .escape mark breaks.settles_held, fun rest => rfl, ?_⟩
    exact fun rest more read => lexFrom_cons escaped read
  rename_i plain
  cases step
  by_cases pair : c = 'n'
  · subst pair
    refine ⟨['\n'], false, .text quote ('\n' :: out), .text mark breaks.pair, fun rest => rfl, ?_⟩
    exact fun rest more read => lexFrom_cons rfl read
  · refine ⟨['\\', c], false, .text quote (c :: '\\' :: out), .text mark (breaks.settles_held.plain pair plain),
      breakLines_apart pair plain, ?_⟩
    exact fun rest more read => lexFrom_cons escaped (lexFrom_cons (step_reads other plain) read)

theorem answers (tracks : Tracks state held state') (step : lexStep state c = .ok (tokens, next)) :
    Answers state' held c tokens next := by
  cases tracks with
  | outside outside => exact answers_outside outside step
  | text mark breaks => exact answers_text mark breaks step
  | escape mark settles => exact answers_escape mark settles step
  | doubled mark breaks => exact answers_doubled mark breaks step

-- A source ends where no text has been begun.
theorem settled_end (tracks : Tracks state held state') (ended : lexEnd state = .ok tokens) :
    held = false ∧ state' = state := by
  obtain ⟨outside, _⟩ := lexEnd_silent ended id
  cases tracks with
  | outside => exact ⟨rfl, rfl⟩
  | text => cases outside
  | escape => cases outside
  | doubled => cases outside

theorem lexFrom_breakLines {cs : List Char} : ∀ {state state' : LexState} {held : Bool} {tokens : List Token},
    Tracks state held state' → lexFrom state cs = .ok tokens →
      lexFrom state' (breakLines held cs) = .ok (tokens.map (Token.retell Engine.splitTyped)) := by
  induction cs with
  | nil =>
    intro state state' held tokens tracks read
    obtain ⟨rfl, rfl⟩ := settled_end tracks read
    rw [(lexEnd_silent read _).2]
    exact read
  | cons c rest ih =>
    intro state state' held tokens tracks read
    obtain ⟨first, next, more, step, read', rfl⟩ := lexFrom_ok read
    obtain ⟨emitted, held', next', tracks', broken, reads⟩ := answers tracks step
    rw [broken, List.map_append]
    exact reads _ _ (ih tracks' read')

-- The last character of a source stays: where a text is ended no backslash is held back before the mark, or the mark
-- releases it.
theorem last_stays (tracks : Tracks state held state') (step : lexStep state c = .ok (tokens, next))
    (ended : next.outside = true) : ∃ out, breakLines held [c] = out ++ [c] := by
  have closed {quote : Char} {seen : List Char} (mark : IsQuote quote)
      (step : lexStep (.text quote seen) c = .ok (tokens, next)) : IsQuote c := by
    rw [lexStep] at step
    split at step
    · rename_i same
      exact same ▸ mark
    · split at step <;> cases step <;> cases ended
  cases tracks with
  | outside outside => exact ⟨[], breakLines_plain (apart_step outside step).1 []⟩
  | text mark breaks => exact ⟨[], breakLines_plain (closed mark step).ordinary.2.1 []⟩
  | escape mark settles =>
    cases step
    cases ended
  | doubled mark breaks =>
    obtain ⟨other, plain, _⟩ := (closed mark step).ordinary
    exact ⟨['\\'], breakLines_apart other plain []⟩

theorem lexFrom_last {cs : List Char} : ∀ {state state' : LexState} {held : Bool} {tokens : List Token},
    Tracks state held state' → lexFrom state (cs ++ [c]) = .ok tokens →
      ∃ out, breakLines held (cs ++ [c]) = out ++ [c] := by
  induction cs with
  | nil =>
    intro state state' held tokens tracks read
    obtain ⟨first, next, more, step, ended, rfl⟩ := lexFrom_ok read
    exact last_stays tracks step (lexEnd_silent ended id).1
  | cons d rest ih =>
    intro state state' held tokens tracks read
    obtain ⟨first, next, more, step, read', rfl⟩ := lexFrom_ok read
    obtain ⟨emitted, held', next', tracks', broken, _⟩ := answers tracks step
    obtain ⟨out, same⟩ := ih tracks' read'
    exact ⟨emitted ++ out, by rw [List.cons_append, broken, same, List.append_assoc]⟩

end Simulation

end Script
end ThingWorld
