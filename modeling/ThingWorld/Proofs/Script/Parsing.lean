import ThingWorld.Proofs.Script.Derivations
import ThingWorld.Proofs.Script.Readability
namespace ThingWorld.Script

variable {level : Level} {tokens rest : List Token}

-- The descent from a phrase to a primary expression takes no tokens.
def Phrase.slack : Phrase → Nat
  | sequence => 12
  | parts => 1
  | choice => 11
  | chain level => 2 * level.looseness + 2
  | links _ => 1
  | operand level => 2 * level.looseness + 1
  | unary => 2
  | primary => 1
  | args => 12
  | moreArgs => 1

-- The parser takes the phrase from the tokens. Links continue what is left of them, and arguments what has been seen.
def Phrase.Taken (limit fuel depth : Nat) (tokens rest : List Token) : (phrase : Phrase) → phrase.Value → Prop
  | sequence, expr => parseSequence limit fuel depth tokens = .ok (expr, rest)
  | parts, exprs => parseParts limit fuel depth tokens = .ok (exprs, rest)
  | choice, expr => parseChoice limit fuel depth tokens = .ok (expr, rest)
  | chain level, expr => parseChain limit fuel depth level tokens = .ok (expr, rest)
  | links level, joined =>
    ∀ left, parseLinks limit fuel depth level left tokens = .ok (joined.foldl Expr.join left, rest)
  | operand level, expr => parseOperand limit fuel depth level tokens = .ok (expr, rest)
  | unary, expr => parseUnary limit fuel depth tokens = .ok (expr, rest)
  | primary, expr => parsePrimary limit fuel depth tokens = .ok (expr, rest)
  | args, exprs => parseArgs limit fuel depth tokens = .ok (exprs, rest)
  | moreArgs, exprs => ∀ seen, parseMoreArgs limit fuel depth seen tokens = .ok (seen.reverse ++ exprs, rest)

theorem ok_bind {ε α β : Type} (value : α) (next : α → Except ε β) : (Except.ok value >>= next) = next value :=
  rfl

theorem Phrase.spends {phrase : Phrase} {size fuel : Nat} (enough : 16 * size + phrase.slack ≤ fuel) :
    ∃ less, fuel = less + 1 := by
  have positive : 0 < phrase.slack := by cases phrase <;> simp [slack]
  exact ⟨fuel - 1, by omega⟩

section Tokens

theorem operatorAhead?_link {symbol : Symbol} {operator : Operator} (joins : Joins level symbol operator) :
    operatorAhead? level (.symbol symbol :: rest) = some (operator, rest) := by
  rw [operatorAhead?, joins_iff.mpr joins]
  rfl

theorem operatorAhead?_stops (stops : (Phrase.links level).Stops rest) : operatorAhead? level rest = none := by
  rw [Option.eq_none_iff_forall_ne_some]
  rintro ⟨operator, behind⟩ found
  obtain ⟨symbol, rfl, joins⟩ := operatorAhead?_some found
  exact stops.ne_cons joins.belongs _ rfl

theorem expect_self (symbol : Symbol) (rest : List Token) : expect symbol (.symbol symbol :: rest) = .ok rest := by
  rw [expect, if_pos rfl]

theorem descend_within {limit depth : Nat} (within : depth + 1 ≤ limit) : descend limit depth = .ok (depth + 1) :=
  if_pos within

-- A semicolon ends a sequence where nothing may follow that belongs to it.
theorem endsSequence_iff : endsSequence tokens = true ↔ Phrase.parts.Stops tokens := by
  cases tokens with
  | nil => exact ⟨fun _ => Phrase.stops_nil _, fun _ => rfl⟩
  | cons token more =>
    rw [Phrase.stops_cons]
    cases token with
    | symbol sign =>
      cases sign <;> simp [endsSequence, Phrase.looseness, Token.looseness, Symbol.looseness]
    | _ => simp [endsSequence, Phrase.looseness, Token.looseness]

end Tokens

namespace Tree

def Parses {phrase : Phrase} (tree : Tree phrase) : Prop :=
  ∀ {limit fuel depth : Nat} {rest : List Token}, phrase.Stops rest → depth + tree.nesting ≤ limit →
    16 * tree.tokens.length + phrase.slack ≤ fuel → phrase.Taken limit fuel depth (tree.tokens ++ rest) rest tree.value

section Sequences

theorem parses_sequence {first : Tree .choice} {others : Tree .parts} (parses : first.Parses)
    (parses' : others.Parses) : (sequence first others).Parses := by
  intro limit fuel depth rest stops fits enough
  obtain ⟨fuel, rfl⟩ := Phrase.spends enough
  simp only [tokens, nesting, List.length_append, Phrase.slack] at fits enough
  have taken : Phrase.choice.Taken limit fuel depth (first.tokens ++ (others.tokens ++ rest)) _ first.value :=
    parses (others.stops_parts stops) (by omega) (by simp only [Phrase.slack]; omega)
  have taken' : Phrase.parts.Taken limit fuel depth (others.tokens ++ rest) rest others.value :=
    parses' stops (by omega) (by simp only [Phrase.slack]; omega)
  simp only [Phrase.Taken] at taken taken' ⊢
  simp only [tokens, parseSequence, List.append_assoc, taken, taken', ok_bind, value]

theorem parses_lastPart : lastPart.Parses := by
  intro limit fuel depth rest stops fits enough
  obtain ⟨fuel, rfl⟩ := Phrase.spends enough
  unfold Phrase.Taken parseParts
  dsimp only [tokens, List.nil_append]
  split
  · exact absurd rfl (stops.ne_cons (by decide) _)
  · rfl

theorem parses_lastSemicolon : lastSemicolon.Parses := by
  intro limit fuel depth rest stops fits enough
  obtain ⟨fuel, rfl⟩ := Phrase.spends enough
  simp only [Phrase.Taken, tokens, List.singleton_append, parseParts, endsSequence_iff.mpr stops, if_true, value]

theorem parses_part {first : Tree .choice} {others : Tree .parts} (parses : first.Parses)
    (parses' : others.Parses) : (part first others).Parses := by
  intro limit fuel depth rest stops fits enough
  obtain ⟨fuel, rfl⟩ := Phrase.spends enough
  simp only [tokens, nesting, List.length_append, List.length_cons, Phrase.slack] at fits enough
  have goesOn : endsSequence (first.tokens ++ (others.tokens ++ rest)) ≠ true :=
    mt endsSequence_iff.mp (first.not_stops rfl _)
  have taken : Phrase.choice.Taken limit fuel depth (first.tokens ++ (others.tokens ++ rest)) _ first.value :=
    parses (others.stops_parts stops) (by omega) (by simp only [Phrase.slack]; omega)
  have taken' : Phrase.parts.Taken limit fuel depth (others.tokens ++ rest) rest others.value :=
    parses' stops (by omega) (by simp only [Phrase.slack]; omega)
  simp only [Phrase.Taken] at taken taken' ⊢
  simp only [tokens, List.cons_append, List.append_assoc, parseParts, if_neg goesOn, taken, taken', ok_bind, value]

end Sequences

section Choices

variable {condition yes : Tree (.chain .or)} {no : Tree .choice}

theorem parses_plain (parses : condition.Parses) : (plain condition).Parses := by
  intro limit fuel depth rest stops fits enough
  obtain ⟨fuel, rfl⟩ := Phrase.spends enough
  simp only [tokens, nesting, Phrase.slack] at fits enough
  have taken : (Phrase.chain .or).Taken limit fuel depth (condition.tokens ++ rest) rest condition.value :=
    parses (stops.tighter (by decide)) fits (by simp only [Phrase.slack, Level.looseness]; omega)
  simp only [Phrase.Taken] at taken ⊢
  simp only [tokens, parseChoice, taken, ok_bind, value]
  split
  · exact absurd rfl (stops.ne_cons (by decide) _)
  · rfl

-- The branches stand one level deeper.
theorem parses_choice (parses : condition.Parses) (parsesYes : yes.Parses) (parsesNo : no.Parses) :
    (choice condition yes no).Parses := by
  intro limit fuel depth rest stops fits enough
  obtain ⟨fuel, rfl⟩ := Phrase.spends enough
  simp only [tokens, nesting, List.length_append, List.length_cons, Phrase.slack] at fits enough
  have taken : (Phrase.chain .or).Taken limit fuel depth
      (condition.tokens ++ .symbol .question :: (yes.tokens ++ .symbol .colon :: (no.tokens ++ rest))) _ condition.value :=
    parses (Phrase.stops_cons.mpr (by decide)) (by omega) (by simp only [Phrase.slack, Level.looseness]; omega)
  have takenYes : (Phrase.chain .or).Taken limit fuel (depth + 1)
      (yes.tokens ++ .symbol .colon :: (no.tokens ++ rest)) _ yes.value :=
    parsesYes (Phrase.stops_cons.mpr (by decide)) (by omega) (by simp only [Phrase.slack, Level.looseness]; omega)
  have takenNo : Phrase.choice.Taken limit fuel (depth + 1) (no.tokens ++ rest) rest no.value :=
    parsesNo stops (by omega) (by simp only [Phrase.slack]; omega)
  have within : descend limit depth = .ok (depth + 1) := descend_within (by omega)
  simp only [Phrase.Taken] at taken takenYes takenNo ⊢
  simp only [tokens, List.append_assoc, List.cons_append, parseChoice, taken, takenYes, takenNo, within, expect_self,
    ok_bind, value]

end Choices

section Chains

theorem parses_chain {first : Tree (.operand level)} {others : Tree (.links level)} (parses : first.Parses)
    (parses' : others.Parses) : (chain first others).Parses := by
  intro limit fuel depth rest stops fits enough
  obtain ⟨fuel, rfl⟩ := Phrase.spends enough
  simp only [tokens, nesting, List.length_append, Phrase.slack] at fits enough
  have taken : (Phrase.operand level).Taken limit fuel depth (first.tokens ++ (others.tokens ++ rest)) _ first.value :=
    parses (others.stops_links stops) (by omega) (by simp only [Phrase.slack]; omega)
  have taken' : (Phrase.links level).Taken limit fuel depth (others.tokens ++ rest) rest others.value :=
    parses' stops (by omega) (by simp only [Phrase.slack]; omega)
  simp only [Phrase.Taken] at taken taken' ⊢
  simp only [tokens, parseChain, List.append_assoc, taken, taken', ok_bind, value]

theorem parses_lastLink : (lastLink : Tree (.links level)).Parses := by
  intro limit fuel depth rest stops fits enough left
  obtain ⟨fuel, rfl⟩ := Phrase.spends enough
  simp only [tokens, List.nil_append, parseLinks, operatorAhead?_stops stops, value, List.foldl_nil]

theorem parses_link {symbol : Symbol} {operator : Operator} {joins : Joins level symbol operator}
    {operand : Tree (.operand level)} {others : Tree (.links level)} (parses : operand.Parses)
    (parses' : others.Parses) : (link joins operand others).Parses := by
  intro limit fuel depth rest stops fits enough left
  obtain ⟨fuel, rfl⟩ := Phrase.spends enough
  have shallow := level.looseness_le
  simp only [tokens, nesting, List.length_append, List.length_cons, Phrase.slack] at fits enough
  have taken : (Phrase.operand level).Taken limit fuel depth (operand.tokens ++ (others.tokens ++ rest)) _ operand.value :=
    parses (others.stops_links stops) (by omega) (by simp only [Phrase.slack]; omega)
  have taken' : (Phrase.links level).Taken limit fuel depth (others.tokens ++ rest) rest others.value :=
    parses' stops (by omega) (by simp only [Phrase.slack]; omega)
  simp only [Phrase.Taken] at taken taken'
  simp only [tokens, List.cons_append, List.append_assoc, parseLinks, operatorAhead?_link joins, taken, taken', ok_bind,
    value, List.foldl_cons, Expr.join]

end Chains

section Unary

variable {operand : Tree .unary} {primary : Tree .primary}

theorem parses_not (parses : operand.Parses) : (not operand).Parses := by
  intro limit fuel depth rest stops fits enough
  obtain ⟨fuel, rfl⟩ := Phrase.spends enough
  simp only [tokens, List.length_cons, Phrase.slack] at enough
  have taken : Phrase.unary.Taken limit fuel depth (operand.tokens ++ rest) rest operand.value :=
    parses stops fits (by simp only [Phrase.slack]; omega)
  simp only [Phrase.Taken] at taken ⊢
  simp only [tokens, List.cons_append, parseUnary, taken, ok_bind, value]

theorem parses_negative (parses : operand.Parses) : (negative operand).Parses := by
  intro limit fuel depth rest stops fits enough
  obtain ⟨fuel, rfl⟩ := Phrase.spends enough
  simp only [tokens, List.length_cons, Phrase.slack] at enough
  have taken : Phrase.unary.Taken limit fuel depth (operand.tokens ++ rest) rest operand.value :=
    parses stops fits (by simp only [Phrase.slack]; omega)
  simp only [Phrase.Taken] at taken ⊢
  simp only [tokens, List.cons_append, parseUnary, taken, ok_bind, value, Expr.negate]

theorem parses_positive (parses : primary.Parses) : (positive primary).Parses := by
  intro limit fuel depth rest stops fits enough
  obtain ⟨fuel, rfl⟩ := Phrase.spends enough
  have taken : Phrase.primary.Taken limit fuel depth (primary.tokens ++ rest) rest primary.value :=
    parses stops fits (Nat.le_of_succ_le_succ enough)
  unfold Phrase.Taken parseUnary
  dsimp only [tokens]
  split
  · exact absurd ‹_› (primary.primary_unsigned _ _).1
  · exact absurd ‹_› (primary.primary_unsigned _ _).2
  · exact taken

end Unary

section Primaries

theorem parses_truth : truth.Parses := by
  intro limit fuel depth rest stops fits enough
  obtain ⟨fuel, rfl⟩ := Phrase.spends enough
  unfold Phrase.Taken parsePrimary
  exact if_pos rfl

theorem parses_falsity : falsity.Parses := by
  intro limit fuel depth rest stops fits enough
  obtain ⟨fuel, rfl⟩ := Phrase.spends enough
  unfold Phrase.Taken parsePrimary
  exact (if_neg (by decide)).trans (if_pos rfl)

variable {word : String} {other : word ≠ "true" ∧ word ≠ "false"}

theorem parses_name : (name word other).Parses := by
  intro limit fuel depth rest stops fits enough
  obtain ⟨fuel, rfl⟩ := Phrase.spends enough
  unfold Phrase.Taken parsePrimary
  simp only [tokens, List.singleton_append, if_neg other.1, if_neg other.2, value]
  split
  · exact absurd rfl (stops.ne_cons (by decide) _)
  · rfl

theorem parses_call {given : Tree .args} (parses : given.Parses) : (call word other given).Parses := by
  intro limit fuel depth rest stops fits enough
  obtain ⟨fuel, rfl⟩ := Phrase.spends enough
  simp only [tokens, List.length_cons, Phrase.slack] at enough
  have taken : Phrase.args.Taken limit fuel depth (given.tokens ++ rest) rest given.value :=
    parses (stops.tighter (by decide)) fits (by simp only [Phrase.slack]; omega)
  simp only [Phrase.Taken] at taken ⊢
  simp only [tokens, List.cons_append, parsePrimary, if_neg other.1, if_neg other.2, taken, ok_bind, value]

theorem parses_group {inner : Tree .sequence} (parses : inner.Parses) : (group inner).Parses := by
  intro limit fuel depth rest stops fits enough
  obtain ⟨fuel, rfl⟩ := Phrase.spends enough
  simp only [tokens, nesting, List.length_append, List.length_cons, Phrase.slack] at fits enough
  have taken : Phrase.sequence.Taken limit fuel (depth + 1) (inner.tokens ++ .symbol .rightParen :: rest) _ inner.value :=
    parses (Phrase.stops_cons.mpr (by decide)) (by omega) (by simp only [Phrase.slack]; omega)
  have within : descend limit depth = .ok (depth + 1) := descend_within (by omega)
  simp only [Phrase.Taken] at taken ⊢
  simp only [tokens, List.cons_append, List.append_assoc, List.nil_append, parsePrimary, within, taken, expect_self,
    ok_bind, value]

end Primaries

section Arguments

variable {first : Tree .choice} {others : Tree .moreArgs}

theorem parses_noArgs : noArgs.Parses := by
  intro limit fuel depth rest stops fits enough
  obtain ⟨fuel, rfl⟩ := Phrase.spends enough
  simp only [Phrase.Taken, tokens, List.singleton_append, parseArgs, value]

theorem parses_args (parses : first.Parses) (parses' : others.Parses) : (args first others).Parses := by
  intro limit fuel depth rest stops fits enough
  obtain ⟨fuel, rfl⟩ := Phrase.spends enough
  simp only [tokens, nesting, List.length_append, Phrase.slack] at fits enough
  have taken : Phrase.choice.Taken limit fuel depth (first.tokens ++ (others.tokens ++ rest)) _ first.value :=
    parses (others.stops_moreArgs rest) (by omega) (by simp only [Phrase.slack]; omega)
  have taken' : Phrase.moreArgs.Taken limit fuel depth (others.tokens ++ rest) rest others.value :=
    parses' stops (by omega) (by simp only [Phrase.slack]; omega)
  simp only [Phrase.Taken] at taken taken'
  unfold Phrase.Taken parseArgs
  dsimp only
  split
  · exact absurd ‹_› (not_closed others _ _)
  · simp only [tokens, List.append_assoc, taken, taken', ok_bind, value, List.reverse_singleton, List.singleton_append]

theorem parses_lastArg : lastArg.Parses := by
  intro limit fuel depth rest stops fits enough seen
  obtain ⟨fuel, rfl⟩ := Phrase.spends enough
  simp only [tokens, List.singleton_append, parseMoreArgs, expect_self, ok_bind, value, List.append_nil]

theorem parses_arg (parses : first.Parses) (parses' : others.Parses) : (arg first others).Parses := by
  intro limit fuel depth rest stops fits enough seen
  obtain ⟨fuel, rfl⟩ := Phrase.spends enough
  simp only [tokens, nesting, List.length_append, List.length_cons, Phrase.slack] at fits enough
  have taken : Phrase.choice.Taken limit fuel depth (first.tokens ++ (others.tokens ++ rest)) _ first.value :=
    parses (others.stops_moreArgs rest) (by omega) (by simp only [Phrase.slack]; omega)
  have taken' : Phrase.moreArgs.Taken limit fuel depth (others.tokens ++ rest) rest others.value :=
    parses' stops (by omega) (by simp only [Phrase.slack]; omega)
  simp only [Phrase.Taken] at taken taken'
  simp only [tokens, List.cons_append, List.append_assoc, parseMoreArgs, taken, taken', ok_bind, value,
    List.reverse_cons, List.nil_append]

end Arguments

theorem parses {phrase : Phrase} (tree : Tree phrase) : tree.Parses := by
  induction tree with
  | sequence _ _ ihFirst ihOthers => exact parses_sequence ihFirst ihOthers
  | lastPart => exact parses_lastPart
  | lastSemicolon => exact parses_lastSemicolon
  | part _ _ ihFirst ihOthers => exact parses_part ihFirst ihOthers
  | plain _ ih => exact parses_plain ih
  | choice _ _ _ ih ihYes ihNo => exact parses_choice ih ihYes ihNo
  | chain _ _ ihFirst ihOthers => exact parses_chain ihFirst ihOthers
  | lastLink => exact parses_lastLink
  | link _ _ _ ihOperand ihOthers => exact parses_link ihOperand ihOthers
  -- The operands of a level are chains of the next tighter one, those of sums are unary.
  | conjunction _ ih | comparison _ ih | sum _ ih | term _ ih =>
    intro limit fuel depth rest stops fits enough
    obtain ⟨fuel, rfl⟩ := Phrase.spends enough
    have taken := @ih limit fuel depth rest stops fits (Nat.le_of_succ_le_succ enough)
    rwa [Phrase.Taken, parseOperand]
  | not _ ih => exact parses_not ih
  | negative _ ih => exact parses_negative ih
  | positive _ ih => exact parses_positive ih
  | text | number | var =>
    intro limit fuel depth rest stops fits enough
    obtain ⟨fuel, rfl⟩ := Phrase.spends enough
    simp only [Phrase.Taken, tokens, List.singleton_append, parsePrimary, value]
  | truth => exact parses_truth
  | falsity => exact parses_falsity
  | name => exact parses_name
  | call _ _ _ ih => exact parses_call ih
  | group _ ih => exact parses_group ih
  | noArgs => exact parses_noArgs
  | args _ _ ihFirst ihOthers => exact parses_args ihFirst ihOthers
  | lastArg => exact parses_lastArg
  | arg _ _ ihFirst ihOthers => exact parses_arg ihFirst ihOthers

end Tree

theorem derived_of_parsed {limit : Nat} {tokens : List Token} {expr : Expr}
    (parsed : parseTokens limit tokens = .ok expr) :
    ∃ tree : Tree .sequence, tree.tokens = tokens ∧ tree.nesting ≤ limit ∧ tree.value = expr := by
  obtain ⟨⟨read, rest⟩, taken, parsed⟩ := passes_bind parsed
  obtain ⟨tree, took, fits, rfl⟩ := (sound_fueled limit _).sequence (Nat.zero_le limit) taken
  dsimp only at parsed
  split at parsed
  · cases parsed
    rename_i empty
    rw [List.isEmpty_iff.mp empty, List.append_nil] at took
    exact ⟨tree, took, by omega, rfl⟩
  · cases parsed

theorem parsed_of_derived {limit : Nat} (tree : Tree .sequence) (fits : tree.nesting ≤ limit) :
    parseTokens limit tree.tokens = .ok tree.value := by
  have taken : Phrase.sequence.Taken limit (enoughFuel tree.tokens) 0 (tree.tokens ++ []) [] tree.value :=
    tree.parses (Phrase.stops_nil _) (by omega) (by simp only [Phrase.slack, enoughFuel]; omega)
  rw [Phrase.Taken, List.append_nil] at taken
  rw [parseTokens, taken]
  rfl

-- Tokens are an expression as a whole when they are derived from the grammar within the limit, and then in one way only.
theorem parser_accepts_its_grammar (limit : Nat) (tokens : List Token) :
    (∀ expr, parseTokens limit tokens = .ok expr ↔
      ∃ tree : Tree .sequence, tree.tokens = tokens ∧ tree.nesting ≤ limit ∧ tree.value = expr) ∧
    ∀ tree other : Tree .sequence, tree.tokens = tokens → other.tokens = tokens → tree = other := by
  refine ⟨fun expr => ⟨?sound, ?complete⟩, ?unique⟩
  case sound => exact derived_of_parsed
  case complete =>
    rintro ⟨tree, rfl, fits, rfl⟩
    exact parsed_of_derived tree fits
  case unique =>
    rintro tree other rfl same
    exact (tree.sole other [] [] (Phrase.stops_nil _) (Phrase.stops_nil _) (by rw [same])).1

def Tree.alone (primary : Tree .primary) : Tree (.chain .or) :=
  .chain (.conjunction (.chain (.comparison (.chain (.sum (.chain (.term (.positive primary))
    .lastLink)) .lastLink)) .lastLink)) .lastLink

def Tree.minus (primary : Tree .primary) : Tree (.chain .or) :=
  .chain (.conjunction (.chain (.comparison (.chain (.sum (.chain (.term (.negative (.positive primary)))
    .lastLink)) .lastLink)) .lastLink)) .lastLink

-- `known ? say("hi", $name) : (wave; -1;)`
def greeting : Tree .sequence :=
  .sequence
    (.choice (.alone (.name "known" (by decide)))
      (.alone (.call "say" (by decide) (.args (.plain (.alone (.text "hi"))) (.arg (.plain (.alone (.var "name"))) .lastArg))))
      (.plain (.alone (.group (.sequence (.plain (.alone (.name "wave" (by decide))))
        (.part (.plain (.minus (.number 1))) .lastSemicolon))))))
    .lastPart

-- The parentheses in the branch are one level too many for a limit of one.
theorem greetings_are_read_one_way :
    lex "known ? say(\"hi\", $name) : (wave; -1;)" = .ok greeting.tokens ∧
      parseTokens 2 greeting.tokens = .ok (.choice (.call "known" []) (.call "say" [.text "hi", .var "name"])
        (.sequence [.call "wave" [], .binary .subtract (.number 0) (.number 1)])) ∧
      ∀ expr, parseTokens 1 greeting.tokens ≠ .ok expr := by
  refine ⟨by rfl, ?read, ?tooDeep⟩
  case read => exact ((parser_accepts_its_grammar 2 greeting.tokens).1 _).mpr ⟨greeting, rfl, by decide, rfl⟩
  case tooDeep =>
    intro expr parsed
    obtain ⟨accepts, unique⟩ := parser_accepts_its_grammar 1 greeting.tokens
    obtain ⟨tree, same, fits, _⟩ := (accepts expr).mp parsed
    obtain rfl := unique tree greeting same rfl
    exact absurd fits (by decide)

end ThingWorld.Script
