import ThingWorld.Proofs.Script.Grammar
namespace ThingWorld.Script.Tree

def Sole {phrase : Phrase} (tree : Tree phrase) : Prop :=
  ∀ (other : Tree phrase) (rest rest' : List Token), phrase.Stops rest → phrase.Stops rest' →
    tree.tokens ++ rest = other.tokens ++ rest' → tree = other ∧ rest = rest'

theorem Sole.both {phrase phrase' : Phrase} {first first' : Tree phrase} {others others' : Tree phrase'}
    (sole : first.Sole) (sole' : others.Sole) {rest rest' : List Token} (between : phrase.Stops (others.tokens ++ rest))
    (between' : phrase.Stops (others'.tokens ++ rest')) (stops : phrase'.Stops rest) (stops' : phrase'.Stops rest')
    (same : first.tokens ++ (others.tokens ++ rest) = first'.tokens ++ (others'.tokens ++ rest')) :
    first = first' ∧ others = others' ∧ rest = rest' := by
  obtain ⟨rfl, behind⟩ := sole first' _ _ between between' same
  obtain ⟨rfl, left⟩ := sole' others' _ _ stops stops' behind
  exact ⟨rfl, rfl, left⟩

section Sequences

theorem sole_sequence {first : Tree .choice} {others : Tree .parts} (sole : first.Sole) (sole' : others.Sole) :
    (sequence first others).Sole := by
  intro other rest rest' stops stops' same
  cases other with
  | sequence first' others' =>
    simp only [tokens, List.append_assoc] at same
    obtain ⟨rfl, rfl, left⟩ :=
      sole.both sole' (others.stops_parts stops) (others'.stops_parts stops') stops stops' same
    exact ⟨rfl, left⟩

theorem sole_lastPart : lastPart.Sole := by
  intro other rest rest' stops stops' same
  cases other with
  | lastPart => exact ⟨rfl, same⟩
  | lastSemicolon => exact absurd same (stops.ne_cons (by decide) _)
  | part first others => exact absurd same (stops.ne_cons (by decide) _)

theorem sole_lastSemicolon : lastSemicolon.Sole := by
  intro other rest rest' stops stops' same
  cases other with
  | lastPart => exact absurd same.symm (stops'.ne_cons (by decide) _)
  | lastSemicolon => exact ⟨rfl, (List.cons.inj same).2⟩
  | part first others =>
    simp only [tokens, List.cons_append, List.nil_append, List.cons.injEq, true_and, List.append_assoc] at same
    exact absurd (same ▸ stops) (first.not_stops rfl _)

theorem sole_part {first : Tree .choice} {others : Tree .parts} (sole : first.Sole) (sole' : others.Sole) :
    (part first others).Sole := by
  intro other rest rest' stops stops' same
  cases other with
  | lastPart => exact absurd same.symm (stops'.ne_cons (by decide) _)
  | lastSemicolon =>
    simp only [tokens, List.cons_append, List.nil_append, List.cons.injEq, true_and, List.append_assoc] at same
    exact absurd (same ▸ stops') (first.not_stops rfl _)
  | part first' others' =>
    simp only [tokens, List.cons_append, List.cons.injEq, true_and, List.append_assoc] at same
    obtain ⟨rfl, rfl, left⟩ :=
      sole.both sole' (others.stops_parts stops) (others'.stops_parts stops') stops stops' same
    exact ⟨rfl, left⟩

end Sequences

section Choices

variable {condition yes : Tree (.chain .or)} {no : Tree .choice}

-- The condition is followed by a question mark in a choice only.
theorem sole_plain (sole : condition.Sole) : (plain condition).Sole := by
  intro other rest rest' stops stops' same
  cases other with
  | plain condition' =>
    obtain ⟨rfl, left⟩ := sole condition' _ _ (stops.tighter (by decide)) (stops'.tighter (by decide)) same
    exact ⟨rfl, left⟩
  | choice condition' yes' no' =>
    simp only [tokens, List.append_assoc, List.cons_append] at same
    obtain ⟨_, behind⟩ := sole condition' _ _ (stops.tighter (by decide)) (Phrase.stops_cons.mpr (by decide)) same
    exact absurd behind (stops.ne_cons (by decide) _)

theorem sole_choice (sole : condition.Sole) (soleYes : yes.Sole) (soleNo : no.Sole) :
    (choice condition yes no).Sole := by
  intro other rest rest' stops stops' same
  have asked (more : List Token) : (Phrase.chain .or).Stops (.symbol .question :: more) :=
    Phrase.stops_cons.mpr (by decide)
  have answered (more : List Token) : (Phrase.chain .or).Stops (.symbol .colon :: more) :=
    Phrase.stops_cons.mpr (by decide)
  cases other with
  | plain condition' =>
    simp only [tokens, List.append_assoc, List.cons_append] at same
    obtain ⟨_, behind⟩ := sole condition' _ _ (asked _) (stops'.tighter (by decide)) same
    exact absurd behind.symm (stops'.ne_cons (by decide) _)
  | choice condition' yes' no' =>
    simp only [tokens, List.append_assoc, List.cons_append] at same
    obtain ⟨rfl, behind⟩ := sole condition' _ _ (asked _) (asked _) same
    obtain ⟨rfl, behind'⟩ := soleYes yes' _ _ (answered _) (answered _) (List.cons.inj behind).2
    obtain ⟨rfl, left⟩ := soleNo no' _ _ stops stops' (List.cons.inj behind').2
    exact ⟨rfl, left⟩

end Choices

section Chains

variable {level : Level}

theorem sole_chain {first : Tree (.operand level)} {others : Tree (.links level)} (sole : first.Sole)
    (sole' : others.Sole) : (chain first others).Sole := by
  intro other rest rest' stops stops' same
  cases other with
  | chain first' others' =>
    simp only [tokens, List.append_assoc] at same
    obtain ⟨rfl, rfl, left⟩ :=
      sole.both sole' (others.stops_links stops) (others'.stops_links stops') stops stops' same
    exact ⟨rfl, left⟩

theorem sole_lastLink : (lastLink : Tree (.links level)).Sole := by
  intro other rest rest' stops stops' same
  cases other with
  | lastLink => exact ⟨rfl, same⟩
  | link joins operand others => exact absurd same (stops.ne_cons joins.belongs _)

theorem sole_link {symbol : Symbol} {operator : Operator} {joins : Joins level symbol operator}
    {operand : Tree (.operand level)} {others : Tree (.links level)} (sole : operand.Sole) (sole' : others.Sole) :
    (link joins operand others).Sole := by
  intro other rest rest' stops stops' same
  cases other with
  | lastLink => exact absurd same.symm (stops'.ne_cons joins.belongs _)
  | link joins' operand' others' =>
    simp only [tokens, List.cons_append, List.cons.injEq, Token.symbol.injEq, List.append_assoc] at same
    obtain ⟨rfl, same⟩ := same
    obtain rfl := joins.unique joins'
    obtain ⟨rfl, rfl, left⟩ :=
      sole.both sole' (others.stops_links stops) (others'.stops_links stops') stops stops' same
    exact ⟨rfl, left⟩

end Chains

section Operands

variable {operand : Tree .unary} {primary : Tree .primary}

-- A sign is no beginning of a primary expression.
theorem sole_not (sole : operand.Sole) : (not operand).Sole := by
  intro other rest rest' stops stops' same
  cases other with
  | not operand' =>
    obtain ⟨rfl, left⟩ := sole operand' _ _ stops stops' (List.cons.inj same).2
    exact ⟨rfl, left⟩
  | negative operand' => cases (List.cons.inj same).1
  | positive primary' => exact absurd same.symm (primary'.primary_unsigned _ _).1

theorem sole_negative (sole : operand.Sole) : (negative operand).Sole := by
  intro other rest rest' stops stops' same
  cases other with
  | not operand' => cases (List.cons.inj same).1
  | negative operand' =>
    obtain ⟨rfl, left⟩ := sole operand' _ _ stops stops' (List.cons.inj same).2
    exact ⟨rfl, left⟩
  | positive primary' => exact absurd same.symm (primary'.primary_unsigned _ _).2

theorem sole_positive (sole : primary.Sole) : (positive primary).Sole := by
  intro other rest rest' stops stops' same
  cases other with
  | not operand => exact absurd same (primary.primary_unsigned _ _).1
  | negative operand => exact absurd same (primary.primary_unsigned _ _).2
  | positive primary' =>
    obtain ⟨rfl, left⟩ := sole primary' _ _ stops stops' same
    exact ⟨rfl, left⟩

end Operands

section Primaries

variable {word : String} {differs : word ≠ "true" ∧ word ≠ "false"}

-- A name is a call of that name when a parenthesis follows, and no part of one else.
theorem sole_name : (name word differs).Sole := by
  intro other rest rest' stops stops' same
  cases other with
  | name word' differs' => simp_all [tokens]
  | call word' differs' given => exact absurd (List.cons.inj same).2 (stops.ne_cons (by decide) _)
  | _ => simp_all [tokens]

theorem sole_call {given : Tree .args} (sole : given.Sole) : (call word differs given).Sole := by
  intro other rest rest' stops stops' same
  cases other with
  | name word' differs' => exact absurd (List.cons.inj same).2.symm (stops'.ne_cons (by decide) _)
  | call word' differs' given' =>
    simp only [tokens, List.cons_append, List.cons.injEq, Token.name.injEq, true_and] at same
    obtain ⟨rfl, same⟩ := same
    obtain ⟨rfl, left⟩ := sole given' _ _ (stops.tighter (by decide)) (stops'.tighter (by decide)) same
    exact ⟨rfl, left⟩
  | _ => simp_all [tokens]

theorem sole_group {inner : Tree .sequence} (sole : inner.Sole) : (group inner).Sole := by
  intro other rest rest' stops stops' same
  have closed (more : List Token) : Phrase.sequence.Stops (.symbol .rightParen :: more) :=
    Phrase.stops_cons.mpr (by decide)
  cases other with
  | group inner' =>
    simp only [tokens, List.cons_append, List.cons.injEq, true_and, List.append_assoc, List.nil_append] at same
    obtain ⟨rfl, behind⟩ := sole inner' _ _ (closed _) (closed _) same
    exact ⟨rfl, (List.cons.inj behind).2⟩
  | _ => simp_all [tokens]

end Primaries

section Arguments

variable {first : Tree .choice} {others : Tree .moreArgs}

theorem not_closed (others : Tree .moreArgs) (rest more : List Token) :
    (args first others).tokens ++ rest ≠ .symbol .rightParen :: more := by
  intro same
  have closed : Phrase.parts.Stops (.symbol .rightParen :: more) := Phrase.stops_cons.mpr (by decide)
  rw [← same, tokens, List.append_assoc] at closed
  exact first.not_stops rfl _ closed

theorem sole_noArgs : noArgs.Sole := by
  intro other rest rest' stops stops' same
  cases other with
  | noArgs => exact ⟨rfl, (List.cons.inj same).2⟩
  | args first others => exact absurd same.symm (not_closed others _ _)

theorem sole_args (sole : first.Sole) (sole' : others.Sole) : (args first others).Sole := by
  intro other rest rest' stops stops' same
  cases other with
  | noArgs => exact absurd same (not_closed others _ _)
  | args first' others' =>
    simp only [tokens, List.append_assoc] at same
    obtain ⟨rfl, rfl, left⟩ :=
      sole.both sole' (others.stops_moreArgs rest) (others'.stops_moreArgs rest') stops stops' same
    exact ⟨rfl, left⟩

theorem sole_lastArg : lastArg.Sole := by
  intro other rest rest' stops stops' same
  cases other with
  | lastArg => exact ⟨rfl, (List.cons.inj same).2⟩
  | arg first others => cases (List.cons.inj same).1

theorem sole_arg (sole : first.Sole) (sole' : others.Sole) : (arg first others).Sole := by
  intro other rest rest' stops stops' same
  cases other with
  | lastArg => cases (List.cons.inj same).1
  | arg first' others' =>
    simp only [tokens, List.cons_append, List.cons.injEq, true_and, List.append_assoc] at same
    obtain ⟨rfl, rfl, left⟩ :=
      sole.both sole' (others.stops_moreArgs rest) (others'.stops_moreArgs rest') stops stops' same
    exact ⟨rfl, left⟩

end Arguments

theorem sole {phrase : Phrase} (tree : Tree phrase) : tree.Sole := by
  induction tree with
  | sequence _ _ ihFirst ihOthers => exact sole_sequence ihFirst ihOthers
  | lastPart => exact sole_lastPart
  | lastSemicolon => exact sole_lastSemicolon
  | part _ _ ihFirst ihOthers => exact sole_part ihFirst ihOthers
  | plain _ ih => exact sole_plain ih
  | choice _ _ _ ih ihYes ihNo => exact sole_choice ih ihYes ihNo
  | chain _ _ ihFirst ihOthers => exact sole_chain ihFirst ihOthers
  | lastLink => exact sole_lastLink
  | link _ _ _ ihOperand ihOthers => exact sole_link ihOperand ihOthers
  | conjunction inner ih | comparison inner ih | sum inner ih | term inner ih =>
    intro other rest rest' stops stops' same
    cases other
    obtain ⟨rfl, left⟩ := ih _ _ _ stops stops' same
    exact ⟨rfl, left⟩
  | not _ ih => exact sole_not ih
  | negative _ ih => exact sole_negative ih
  | positive _ ih => exact sole_positive ih
  | text | number | var =>
    intro other rest rest' stops stops' same
    cases other <;> simp_all [tokens]
  | truth | falsity =>
    intro other rest rest' stops stops' same
    cases other with
    | name word differs | call word differs _ => cases (List.cons.inj same).1; simp at differs
    | _ => simp_all [tokens]
  | name => exact sole_name
  | call _ _ _ ih => exact sole_call ih
  | group _ ih => exact sole_group ih
  | noArgs => exact sole_noArgs
  | args _ _ ihFirst ihOthers => exact sole_args ihFirst ihOthers
  | lastArg => exact sole_lastArg
  | arg _ _ ihFirst ihOthers => exact sole_arg ihFirst ihOthers

end ThingWorld.Script.Tree
