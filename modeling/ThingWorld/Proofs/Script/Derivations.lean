import ThingWorld.Proofs.Script.Grammar
namespace ThingWorld.Script

variable {limit fuel depth : Nat} {level : Level} {symbol : Symbol} {tokens rest : List Token}

theorem passes_bind {ε α β : Type} {first : Except ε α} {next : α → Except ε β} {result : β}
    (passed : first >>= next = .ok result) : ∃ between, first = .ok between ∧ next between = .ok result := by
  cases first with
  | error reason => cases passed
  | ok between => exact ⟨between, rfl, passed⟩

section Tokens

theorem joins_iff {operator : Operator} : level.operator? symbol = some operator ↔ Joins level symbol operator := by
  constructor
  · intro found
    unfold Level.operator? at found
    split at found <;> cases found <;> constructor
  · intro joins
    cases joins <;> rfl

theorem operatorAhead?_some {operator : Operator} (found : operatorAhead? level tokens = some (operator, rest)) :
    ∃ symbol, tokens = .symbol symbol :: rest ∧ Joins level symbol operator := by
  unfold operatorAhead? at found
  split at found
  · obtain ⟨_, joins, same⟩ := Option.map_eq_some_iff.mp found
    cases same
    exact ⟨_, rfl, joins_iff.mp joins⟩
  · cases found

theorem expect_ok (expected : expect symbol tokens = .ok rest) : tokens = .symbol symbol :: rest := by
  unfold expect at expected
  split at expected
  · split at expected
    · rename_i same
      cases expected
      rw [same]
    · cases expected
  · cases expected

theorem descend_ok {deeper : Nat} (descended : descend limit depth = .ok deeper) :
    depth + 1 ≤ limit ∧ deeper = depth + 1 := by
  unfold descend at descended
  split at descended
  · cases descended
    exact ⟨‹_›, rfl⟩
  · cases descended

end Tokens

-- The tokens before the rest are a phrase with that value, and it may stand at that depth.
def Phrase.Derived (phrase : Phrase) (limit depth : Nat) (tokens rest : List Token) (value : phrase.Value) : Prop :=
  ∃ tree : Tree phrase, tree.tokens ++ rest = tokens ∧ depth + tree.nesting ≤ limit ∧ tree.value = value

-- What is taken with so much fuel is derived. Links continue what is left of them, and arguments what has been seen.
structure Sound (limit fuel : Nat) : Prop where
  sequence {depth : Nat} {tokens rest : List Token} {expr : Expr} : depth ≤ limit →
    parseSequence limit fuel depth tokens = .ok (expr, rest) → Phrase.sequence.Derived limit depth tokens rest expr
  parts {depth : Nat} {tokens rest : List Token} {exprs : List Expr} : depth ≤ limit →
    parseParts limit fuel depth tokens = .ok (exprs, rest) → Phrase.parts.Derived limit depth tokens rest exprs
  choice {depth : Nat} {tokens rest : List Token} {expr : Expr} : depth ≤ limit →
    parseChoice limit fuel depth tokens = .ok (expr, rest) → Phrase.choice.Derived limit depth tokens rest expr
  chain {depth : Nat} {level : Level} {tokens rest : List Token} {expr : Expr} : depth ≤ limit →
    parseChain limit fuel depth level tokens = .ok (expr, rest) →
    (Phrase.chain level).Derived limit depth tokens rest expr
  links {depth : Nat} {level : Level} {left : Expr} {tokens rest : List Token} {expr : Expr} : depth ≤ limit →
    parseLinks limit fuel depth level left tokens = .ok (expr, rest) →
    ∃ links : List (Operator × Expr), (Phrase.links level).Derived limit depth tokens rest links ∧
      links.foldl Expr.join left = expr
  operand {depth : Nat} {level : Level} {tokens rest : List Token} {expr : Expr} : depth ≤ limit →
    parseOperand limit fuel depth level tokens = .ok (expr, rest) →
    (Phrase.operand level).Derived limit depth tokens rest expr
  unary {depth : Nat} {tokens rest : List Token} {expr : Expr} : depth ≤ limit →
    parseUnary limit fuel depth tokens = .ok (expr, rest) → Phrase.unary.Derived limit depth tokens rest expr
  primary {depth : Nat} {tokens rest : List Token} {expr : Expr} : depth ≤ limit →
    parsePrimary limit fuel depth tokens = .ok (expr, rest) → Phrase.primary.Derived limit depth tokens rest expr
  args {depth : Nat} {tokens rest : List Token} {exprs : List Expr} : depth ≤ limit →
    parseArgs limit fuel depth tokens = .ok (exprs, rest) → Phrase.args.Derived limit depth tokens rest exprs
  moreArgs {depth : Nat} {seen : List Expr} {tokens rest : List Token} {exprs : List Expr} : depth ≤ limit →
    parseMoreArgs limit fuel depth seen tokens = .ok (exprs, rest) →
    ∃ more : List Expr, Phrase.moreArgs.Derived limit depth tokens rest more ∧ seen.reverse ++ more = exprs

section Steps

variable {expr : Expr} {exprs : List Expr}

theorem derived_sequence (sound : Sound limit fuel) (within : depth ≤ limit)
    (parsed : parseSequence limit (fuel + 1) depth tokens = .ok (expr, rest)) :
    Phrase.sequence.Derived limit depth tokens rest expr := by
  rw [parseSequence] at parsed
  obtain ⟨⟨first, between⟩, parsedFirst, parsed⟩ := passes_bind parsed
  obtain ⟨⟨others, behind⟩, parsedOthers, parsed⟩ := passes_bind parsed
  cases parsed
  obtain ⟨tree, rfl, fits, rfl⟩ := sound.choice within parsedFirst
  obtain ⟨tree', rfl, fits', rfl⟩ := sound.parts within parsedOthers
  exact ⟨.sequence tree tree', List.append_assoc .., by simp only [Tree.nesting]; omega, rfl⟩

theorem derived_parts (sound : Sound limit fuel) (within : depth ≤ limit)
    (parsed : parseParts limit (fuel + 1) depth tokens = .ok (exprs, rest)) :
    Phrase.parts.Derived limit depth tokens rest exprs := by
  unfold parseParts at parsed
  split at parsed
  · split at parsed
    · cases parsed
      exact ⟨.lastSemicolon, rfl, within, rfl⟩
    · obtain ⟨⟨first, between⟩, parsedFirst, parsed⟩ := passes_bind parsed
      obtain ⟨⟨others, behind⟩, parsedOthers, parsed⟩ := passes_bind parsed
      cases parsed
      obtain ⟨tree, rfl, fits, rfl⟩ := sound.choice within parsedFirst
      obtain ⟨tree', rfl, fits', rfl⟩ := sound.parts within parsedOthers
      exact ⟨.part tree tree', by simp [Tree.tokens], by simp only [Tree.nesting]; omega, rfl⟩
  · cases parsed
    exact ⟨.lastPart, rfl, within, rfl⟩

-- The branches stand one level deeper, the condition does not.
theorem derived_choice (sound : Sound limit fuel) (within : depth ≤ limit)
    (parsed : parseChoice limit (fuel + 1) depth tokens = .ok (expr, rest)) :
    Phrase.choice.Derived limit depth tokens rest expr := by
  rw [parseChoice] at parsed
  obtain ⟨⟨condition, between⟩, parsedCondition, parsed⟩ := passes_bind parsed
  obtain ⟨tree, rfl, fits, rfl⟩ := sound.chain within parsedCondition
  dsimp only at parsed
  split at parsed
  · obtain ⟨deeper, descended, parsed⟩ := passes_bind parsed
    obtain ⟨within', rfl⟩ := descend_ok descended
    obtain ⟨⟨yes, behindYes⟩, parsedYes, parsed⟩ := passes_bind parsed
    obtain ⟨behindColon, expected, parsed⟩ := passes_bind parsed
    obtain ⟨⟨no, behind⟩, parsedNo, parsed⟩ := passes_bind parsed
    cases parsed
    obtain rfl := expect_ok expected
    obtain ⟨treeYes, rfl, fitsYes, rfl⟩ := sound.chain within' parsedYes
    obtain ⟨treeNo, rfl, fitsNo, rfl⟩ := sound.choice within' parsedNo
    exact ⟨.choice tree treeYes treeNo, by simp [Tree.tokens], by simp only [Tree.nesting]; omega, rfl⟩
  · cases parsed
    exact ⟨.plain tree, rfl, fits, rfl⟩

theorem derived_chain (sound : Sound limit fuel) (within : depth ≤ limit)
    (parsed : parseChain limit (fuel + 1) depth level tokens = .ok (expr, rest)) :
    (Phrase.chain level).Derived limit depth tokens rest expr := by
  rw [parseChain] at parsed
  obtain ⟨⟨first, between⟩, parsedFirst, parsed⟩ := passes_bind parsed
  obtain ⟨tree, rfl, fits, rfl⟩ := sound.operand within parsedFirst
  obtain ⟨links, ⟨tree', rfl, fits', rfl⟩, rfl⟩ := sound.links within parsed
  exact ⟨.chain tree tree', List.append_assoc .., by simp only [Tree.nesting]; omega, rfl⟩

theorem derived_links {left : Expr} (sound : Sound limit fuel) (within : depth ≤ limit)
    (parsed : parseLinks limit (fuel + 1) depth level left tokens = .ok (expr, rest)) :
    ∃ links : List (Operator × Expr), (Phrase.links level).Derived limit depth tokens rest links ∧
      links.foldl Expr.join left = expr := by
  rw [parseLinks] at parsed
  split at parsed
  · obtain ⟨symbol, rfl, joins⟩ := operatorAhead?_some ‹_›
    obtain ⟨⟨right, between⟩, parsedRight, parsed⟩ := passes_bind parsed
    obtain ⟨tree, rfl, fits, rfl⟩ := sound.operand within parsedRight
    obtain ⟨links, ⟨tree', rfl, fits', rfl⟩, rfl⟩ := sound.links within parsed
    exact ⟨_, ⟨.link joins tree tree', by simp [Tree.tokens], by simp only [Tree.nesting]; omega, rfl⟩, rfl⟩
  · cases parsed
    exact ⟨[], ⟨.lastLink, rfl, within, rfl⟩, rfl⟩

theorem derived_operand (sound : Sound limit fuel) (within : depth ≤ limit)
    (parsed : parseOperand limit (fuel + 1) depth level tokens = .ok (expr, rest)) :
    (Phrase.operand level).Derived limit depth tokens rest expr := by
  rw [parseOperand] at parsed
  cases level with
  | or =>
    obtain ⟨tree, took, fits, read⟩ := sound.chain within parsed
    exact ⟨.conjunction tree, took, fits, read⟩
  | and =>
    obtain ⟨tree, took, fits, read⟩ := sound.chain within parsed
    exact ⟨.comparison tree, took, fits, read⟩
  | comparison =>
    obtain ⟨tree, took, fits, read⟩ := sound.chain within parsed
    exact ⟨.sum tree, took, fits, read⟩
  | sum =>
    obtain ⟨tree, took, fits, read⟩ := sound.unary within parsed
    exact ⟨.term tree, took, fits, read⟩

theorem derived_unary (sound : Sound limit fuel) (within : depth ≤ limit)
    (parsed : parseUnary limit (fuel + 1) depth tokens = .ok (expr, rest)) :
    Phrase.unary.Derived limit depth tokens rest expr := by
  unfold parseUnary at parsed
  split at parsed
  · obtain ⟨⟨operand, behind⟩, parsedOperand, parsed⟩ := passes_bind parsed
    cases parsed
    obtain ⟨tree, rfl, fits, rfl⟩ := sound.unary within parsedOperand
    exact ⟨.not tree, rfl, fits, rfl⟩
  · obtain ⟨⟨operand, behind⟩, parsedOperand, parsed⟩ := passes_bind parsed
    cases parsed
    obtain ⟨tree, rfl, fits, rfl⟩ := sound.unary within parsedOperand
    exact ⟨.negative tree, rfl, fits, rfl⟩
  · obtain ⟨tree, took, fits, read⟩ := sound.primary within parsed
    exact ⟨.positive tree, took, fits, read⟩

theorem derived_primary (sound : Sound limit fuel) (within : depth ≤ limit)
    (parsed : parsePrimary limit (fuel + 1) depth tokens = .ok (expr, rest)) :
    Phrase.primary.Derived limit depth tokens rest expr := by
  unfold parsePrimary at parsed
  split at parsed
  · rename_i content behind
    cases parsed
    exact ⟨.text content, rfl, within, rfl⟩
  · rename_i value behind
    cases parsed
    exact ⟨.number value, rfl, within, rfl⟩
  · rename_i word behind
    cases parsed
    exact ⟨.var word, rfl, within, rfl⟩
  · rename_i word behind
    split at parsed
    · cases parsed
      subst_vars
      exact ⟨.truth, rfl, within, rfl⟩
    · split at parsed
      · cases parsed
        subst_vars
        exact ⟨.falsity, rfl, within, rfl⟩
      · have other : word ≠ "true" ∧ word ≠ "false" := ⟨‹_›, ‹_›⟩
        split at parsed
        · obtain ⟨⟨given, behind⟩, parsedArgs, parsed⟩ := passes_bind parsed
          cases parsed
          obtain ⟨tree, rfl, fits, rfl⟩ := sound.args within parsedArgs
          exact ⟨.call word other tree, rfl, fits, rfl⟩
        · cases parsed
          exact ⟨.name word other, rfl, within, rfl⟩
  · obtain ⟨deeper, descended, parsed⟩ := passes_bind parsed
    obtain ⟨within', rfl⟩ := descend_ok descended
    obtain ⟨⟨inner, between⟩, parsedInner, parsed⟩ := passes_bind parsed
    obtain ⟨behind, expected, parsed⟩ := passes_bind parsed
    cases parsed
    obtain rfl := expect_ok expected
    obtain ⟨tree, rfl, fits, rfl⟩ := sound.sequence within' parsedInner
    exact ⟨.group tree, by simp [Tree.tokens], by simp only [Tree.nesting]; omega, rfl⟩
  · cases parsed

theorem derived_args (sound : Sound limit fuel) (within : depth ≤ limit)
    (parsed : parseArgs limit (fuel + 1) depth tokens = .ok (exprs, rest)) :
    Phrase.args.Derived limit depth tokens rest exprs := by
  unfold parseArgs at parsed
  split at parsed
  · cases parsed
    exact ⟨.noArgs, rfl, within, rfl⟩
  · obtain ⟨⟨first, between⟩, parsedFirst, parsed⟩ := passes_bind parsed
    obtain ⟨tree, rfl, fits, rfl⟩ := sound.choice within parsedFirst
    obtain ⟨others, ⟨tree', rfl, fits', rfl⟩, rfl⟩ := sound.moreArgs within parsed
    exact ⟨.args tree tree', List.append_assoc .., by simp only [Tree.nesting]; omega, rfl⟩

theorem derived_moreArgs {seen : List Expr} (sound : Sound limit fuel) (within : depth ≤ limit)
    (parsed : parseMoreArgs limit (fuel + 1) depth seen tokens = .ok (exprs, rest)) :
    ∃ more : List Expr, Phrase.moreArgs.Derived limit depth tokens rest more ∧ seen.reverse ++ more = exprs := by
  unfold parseMoreArgs at parsed
  split at parsed
  · obtain ⟨⟨arg, between⟩, parsedArg, parsed⟩ := passes_bind parsed
    obtain ⟨tree, rfl, fits, rfl⟩ := sound.choice within parsedArg
    obtain ⟨others, ⟨tree', rfl, fits', rfl⟩, rfl⟩ := sound.moreArgs within parsed
    refine ⟨_, ⟨.arg tree tree', by simp [Tree.tokens], by simp only [Tree.nesting]; omega, rfl⟩, ?_⟩
    rw [List.reverse_cons, List.append_assoc, List.singleton_append, Tree.value]
  · obtain ⟨behind, expected, parsed⟩ := passes_bind parsed
    cases parsed
    obtain rfl := expect_ok expected
    exact ⟨[], ⟨.lastArg, rfl, within, rfl⟩, List.append_nil _⟩

end Steps

-- Without fuel nothing is taken.
theorem sound_unfueled (limit : Nat) : Sound limit 0 := by
  constructor <;>
    simp [parseSequence, parseParts, parseChoice, parseChain, parseLinks, parseOperand, parseUnary, parsePrimary,
      parseArgs, parseMoreArgs]

theorem sound_fueled (limit fuel : Nat) : Sound limit fuel := by
  induction fuel with
  | zero => exact sound_unfueled limit
  | succ fuel sound =>
    exact {
      sequence := derived_sequence sound
      parts := derived_parts sound
      choice := derived_choice sound
      chain := derived_chain sound
      links := derived_links sound
      operand := derived_operand sound
      unary := derived_unary sound
      primary := derived_primary sound
      args := derived_args sound
      moreArgs := derived_moreArgs sound }

end ThingWorld.Script
