import ThingWorld.Script.Parser
namespace ThingWorld.Script

-- The symbols that join the operands of a chain, and what they do.
inductive Joins : Level → Symbol → Operator → Prop where
  | either : Joins .or .or .or
  | both : Joins .and .and .and
  | equal : Joins .comparison .equal .equal
  | notEqual : Joins .comparison .notEqual .notEqual
  | greater : Joins .comparison .greater .greater
  | less : Joins .comparison .less .less
  | greaterEqual : Joins .comparison .greaterEqual .greaterEqual
  | lessEqual : Joins .comparison .lessEqual .lessEqual
  | plus : Joins .sum .plus .add
  | minus : Joins .sum .minus .subtract

inductive Phrase where
  | sequence
  -- What follows the first part of a sequence.
  | parts
  | choice
  | chain (level : Level)
  -- What follows the first operand of a chain.
  | links (level : Level)
  | operand (level : Level)
  | unary
  | primary
  -- Arguments behind their opening parenthesis, with the closing one.
  | args
  | moreArgs

inductive Tree : Phrase → Type where
  | sequence (first : Tree .choice) (rest : Tree .parts) : Tree .sequence
  | lastPart : Tree .parts
  | lastSemicolon : Tree .parts
  | part (first : Tree .choice) (rest : Tree .parts) : Tree .parts
  | plain (condition : Tree (.chain .or)) : Tree .choice
  | choice (condition yes : Tree (.chain .or)) (no : Tree .choice) : Tree .choice
  | chain {level : Level} (first : Tree (.operand level)) (rest : Tree (.links level)) : Tree (.chain level)
  | lastLink {level : Level} : Tree (.links level)
  | link {level : Level} {symbol : Symbol} {operator : Operator} (joins : Joins level symbol operator)
      (operand : Tree (.operand level)) (rest : Tree (.links level)) : Tree (.links level)
  | conjunction (inner : Tree (.chain .and)) : Tree (.operand .or)
  | comparison (inner : Tree (.chain .comparison)) : Tree (.operand .and)
  | sum (inner : Tree (.chain .sum)) : Tree (.operand .comparison)
  | term (unary : Tree .unary) : Tree (.operand .sum)
  | not (operand : Tree .unary) : Tree .unary
  | negative (operand : Tree .unary) : Tree .unary
  | positive (primary : Tree .primary) : Tree .unary
  | text (content : String) : Tree .primary
  | number (value : Int64) : Tree .primary
  | var (word : String) : Tree .primary
  | truth : Tree .primary
  | falsity : Tree .primary
  | name (word : String) (other : word ≠ "true" ∧ word ≠ "false") : Tree .primary
  | call (word : String) (other : word ≠ "true" ∧ word ≠ "false") (given : Tree .args) : Tree .primary
  | group (inner : Tree .sequence) : Tree .primary
  | noArgs : Tree .args
  | args (first : Tree .choice) (rest : Tree .moreArgs) : Tree .args
  | lastArg : Tree .moreArgs
  | arg (first : Tree .choice) (rest : Tree .moreArgs) : Tree .moreArgs

-- What a phrase is read as.
abbrev Phrase.Value : Phrase → Type
  | sequence => Expr
  | parts => List Expr
  | choice => Expr
  | chain _ => Expr
  | links _ => List (Operator × Expr)
  | operand _ => Expr
  | unary => Expr
  | primary => Expr
  | args => List Expr
  | moreArgs => List Expr

def Expr.join (left : Expr) (link : Operator × Expr) : Expr := .binary link.1 left link.2

namespace Tree

@[simp]
def tokens : {phrase : Phrase} → Tree phrase → List Token
  | _, sequence first rest => first.tokens ++ rest.tokens
  | _, lastPart => []
  | _, lastSemicolon => [.symbol .semicolon]
  | _, part first rest => .symbol .semicolon :: (first.tokens ++ rest.tokens)
  | _, plain condition => condition.tokens
  | _, choice condition yes no =>
    condition.tokens ++ .symbol .question :: (yes.tokens ++ .symbol .colon :: no.tokens)
  | _, chain first rest => first.tokens ++ rest.tokens
  | _, lastLink => []
  | _, @link _ symbol _ _ operand rest => .symbol symbol :: (operand.tokens ++ rest.tokens)
  | _, conjunction inner => inner.tokens
  | _, comparison inner => inner.tokens
  | _, sum inner => inner.tokens
  | _, term unary => unary.tokens
  | _, not operand => .symbol .not :: operand.tokens
  | _, negative operand => .symbol .minus :: operand.tokens
  | _, positive primary => primary.tokens
  | _, text content => [.text content]
  | _, number value => [.number value]
  | _, var word => [.var word]
  | _, truth => [.name "true"]
  | _, falsity => [.name "false"]
  | _, name word _ => [.name word]
  | _, call word _ given => .name word :: .symbol .leftParen :: given.tokens
  | _, group inner => .symbol .leftParen :: (inner.tokens ++ [.symbol .rightParen])
  | _, noArgs => [.symbol .rightParen]
  | _, args first rest => first.tokens ++ rest.tokens
  | _, lastArg => [.symbol .rightParen]
  | _, arg first rest => .symbol .comma :: (first.tokens ++ rest.tokens)

-- The most parentheses and branches of choices that are open around any point. Neither the condition of a choice nor an
-- argument is one.
@[simp]
def nesting : {phrase : Phrase} → Tree phrase → Nat
  | _, sequence first rest => max first.nesting rest.nesting
  | _, lastPart => 0
  | _, lastSemicolon => 0
  | _, part first rest => max first.nesting rest.nesting
  | _, plain condition => condition.nesting
  | _, choice condition yes no => max condition.nesting (max yes.nesting no.nesting + 1)
  | _, chain first rest => max first.nesting rest.nesting
  | _, lastLink => 0
  | _, link _ operand rest => max operand.nesting rest.nesting
  | _, conjunction inner => inner.nesting
  | _, comparison inner => inner.nesting
  | _, sum inner => inner.nesting
  | _, term unary => unary.nesting
  | _, not operand => operand.nesting
  | _, negative operand => operand.nesting
  | _, positive primary => primary.nesting
  | _, text _ => 0
  | _, number _ => 0
  | _, var _ => 0
  | _, truth => 0
  | _, falsity => 0
  | _, name _ _ => 0
  | _, call _ _ given => given.nesting
  | _, group inner => inner.nesting + 1
  | _, noArgs => 0
  | _, args first rest => max first.nesting rest.nesting
  | _, lastArg => 0
  | _, arg first rest => max first.nesting rest.nesting

-- Chains group to the left, a lone part stands for itself, and a name by itself is a call.
@[simp]
def value : {phrase : Phrase} → Tree phrase → phrase.Value
  | _, sequence first rest => Expr.ofParts (first.value :: rest.value)
  | _, lastPart => []
  | _, lastSemicolon => []
  | _, part first rest => first.value :: rest.value
  | _, plain condition => condition.value
  | _, choice condition yes no => Expr.choice condition.value yes.value no.value
  | _, chain first rest => rest.value.foldl Expr.join first.value
  | _, lastLink => []
  | _, @link _ _ operator _ operand rest => (operator, operand.value) :: rest.value
  | _, conjunction inner => inner.value
  | _, comparison inner => inner.value
  | _, sum inner => inner.value
  | _, term unary => unary.value
  | _, not operand => Expr.not operand.value
  | _, negative operand => Expr.binary .subtract (.number 0) operand.value
  | _, positive primary => primary.value
  | _, text content => Expr.text content
  | _, number value => Expr.number value
  | _, var word => Expr.var word
  | _, truth => Expr.flag true
  | _, falsity => Expr.flag false
  | _, name word _ => Expr.call word []
  | _, call word _ given => Expr.call word given.value
  | _, group inner => inner.value
  | _, noArgs => []
  | _, args first rest => first.value :: rest.value
  | _, lastArg => []
  | _, arg first rest => first.value :: rest.value

end Tree

-- How loosely a symbol holds together what stands before it and what comes after it.
def Symbol.looseness : Symbol → Nat
  | leftParen => 0
  | plus => 1
  | minus => 1
  | equal => 2
  | notEqual => 2
  | greater => 2
  | less => 2
  | greaterEqual => 2
  | lessEqual => 2
  | and => 3
  | or => 4
  | question => 5
  | semicolon => 6
  | not => 7
  | colon => 7
  | comma => 7
  | rightParen => 8

def Token.looseness : Token → Nat
  | symbol sign => sign.looseness
  | _ => 7

def Level.looseness : Level → Nat
  | sum => 1
  | comparison => 2
  | and => 3
  | or => 4

-- Tokens that are at least as loose do not belong to the phrase before them.
def Phrase.looseness : Phrase → Nat
  | sequence => 8
  | parts => 8
  | choice => 6
  | chain level => level.looseness + 1
  | links level => level.looseness + 1
  | operand level => level.looseness
  | unary => 1
  | primary => 1
  | args => 0
  | moreArgs => 0

-- Phrases that cannot be empty and that begin with an expression.
def Phrase.opens : Phrase → Bool
  | sequence => true
  | choice => true
  | chain _ => true
  | operand _ => true
  | unary => true
  | primary => true
  | _ => false

def Phrase.Stops (phrase : Phrase) (rest : List Token) : Prop :=
  ∀ token ∈ rest.head?, phrase.looseness ≤ token.looseness

theorem Joins.unique {level : Level} {symbol : Symbol} {operator other : Operator}
    (joins : Joins level symbol operator) (joins' : Joins level symbol other) : operator = other := by
  cases joins <;> cases joins' <;> rfl

theorem Joins.looseness {level : Level} {symbol : Symbol} {operator : Operator} (joins : Joins level symbol operator) :
    symbol.looseness = level.looseness := by
  cases joins <;> rfl

theorem Level.looseness_le (level : Level) : level.looseness ≤ 4 := by
  cases level <;> decide

theorem Joins.belongs {level : Level} {symbol : Symbol} {operator : Operator} (joins : Joins level symbol operator) :
    (Token.symbol symbol).looseness < (Phrase.links level).looseness :=
  Nat.lt_succ_of_le (Nat.le_of_eq joins.looseness)

namespace Phrase

variable {phrase : Phrase}

@[simp]
theorem stops_nil (phrase : Phrase) : phrase.Stops [] := nofun

@[simp]
theorem stops_cons {token : Token} {rest : List Token} :
    phrase.Stops (token :: rest) ↔ phrase.looseness ≤ token.looseness := by
  simp [Stops]

theorem Stops.tighter {other : Phrase} {rest : List Token} (stops : phrase.Stops rest)
    (le : other.looseness ≤ phrase.looseness) : other.Stops rest :=
  fun token first => Nat.le_trans le (stops token first)

-- What may follow a phrase does not begin with a token that would belong to it.
theorem Stops.ne_cons {rest : List Token} (stops : phrase.Stops rest) {token : Token}
    (tight : token.looseness < phrase.looseness) (more : List Token) : rest ≠ token :: more := by
  rintro rfl
  exact absurd (stops_cons.mp stops) (Nat.not_le_of_lt tight)

end Phrase

namespace Tree

-- What may follow a phrase may also follow its last part, behind which it stands.
theorem stops_parts (tree : Tree .parts) {rest : List Token} (stops : Phrase.parts.Stops rest) :
    Phrase.choice.Stops (tree.tokens ++ rest) := by
  cases tree with
  | lastPart => exact stops.tighter (by decide)
  | lastSemicolon => exact Phrase.stops_cons.mpr (by decide)
  | part first others => exact Phrase.stops_cons.mpr (by decide)

theorem stops_links {level : Level} (tree : Tree (.links level)) {rest : List Token}
    (stops : (Phrase.links level).Stops rest) : (Phrase.operand level).Stops (tree.tokens ++ rest) := by
  cases tree with
  | lastLink => exact stops.tighter (Nat.le_succ level.looseness)
  | link joins operand others => exact Phrase.stops_cons.mpr (Nat.le_of_eq joins.looseness.symm)

theorem stops_moreArgs (tree : Tree .moreArgs) (rest : List Token) : Phrase.choice.Stops (tree.tokens ++ rest) := by
  cases tree <;> exact Phrase.stops_cons.mpr (by decide)

theorem begins {phrase : Phrase} (tree : Tree phrase) (opens : phrase.opens = true) :
    ∃ token more, tree.tokens = token :: more ∧ token.looseness < 8 := by
  induction tree with
  | sequence first rest ihFirst _ | chain first rest ihFirst _ =>
    obtain ⟨token, more, same, tight⟩ := ihFirst rfl
    exact ⟨token, more ++ rest.tokens, by rw [tokens, same, List.cons_append], tight⟩
  | choice condition yes no ih _ _ =>
    obtain ⟨token, more, same, tight⟩ := ih rfl
    exact ⟨token, _, by rw [tokens, same, List.cons_append], tight⟩
  | plain condition ih => exact ih rfl
  | conjunction inner ih | comparison inner ih | sum inner ih => exact ih rfl
  | term unary ih => exact ih rfl
  | positive primary ih => exact ih rfl
  | lastPart | lastSemicolon | part | lastLink | link | noArgs | args | lastArg | arg => cases opens
  | _ => exact ⟨_, _, rfl, Nat.lt_of_le_of_lt (Nat.le_of_ble_eq_true rfl) (Nat.lt_succ_self 7)⟩

theorem primary_unsigned (tree : Tree .primary) (rest more : List Token) :
    tree.tokens ++ rest ≠ .symbol .not :: more ∧ tree.tokens ++ rest ≠ .symbol .minus :: more := by
  cases tree <;> exact ⟨nofun, nofun⟩

-- Nothing that may follow a sequence begins like an expression.
theorem not_stops {phrase : Phrase} (tree : Tree phrase) (opens : phrase.opens = true) (rest : List Token) :
    ¬Phrase.parts.Stops (tree.tokens ++ rest) := by
  obtain ⟨token, more, same, tight⟩ := tree.begins opens
  rw [same, List.cons_append, Phrase.stops_cons]
  exact Nat.not_le_of_lt tight

end Tree
end ThingWorld.Script
