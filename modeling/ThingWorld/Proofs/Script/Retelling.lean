import ThingWorld.Proofs.Script.Parsing
namespace ThingWorld.Script

variable (f : String → String)

def Token.retell : Token → Token
  | .text content => .text (f content)
  | token => token

mutual

def Expr.retell : Expr → Expr
  | .text content => .text (f content)
  | .number value => .number value
  | .flag value => .flag value
  | .var name => .var name
  | .call name args => .call name (Expr.retellAll args)
  | .not operand => .not (Expr.retell operand)
  | .binary operator left right => .binary operator (Expr.retell left) (Expr.retell right)
  | .choice condition yes no => .choice (Expr.retell condition) (Expr.retell yes) (Expr.retell no)
  | .sequence parts => .sequence (Expr.retellAll parts)

def Expr.retellAll : List Expr → List Expr
  | [] => []
  | part :: rest => Expr.retell part :: Expr.retellAll rest

end

mutual

-- What the expression says, from left to right.
def Expr.texts : Expr → List String
  | .text content => [content]
  | .number _ => []
  | .flag _ => []
  | .var _ => []
  | .call _ args => Expr.textsOfAll args
  | .not operand => operand.texts
  | .binary _ left right => left.texts ++ right.texts
  | .choice condition yes no => condition.texts ++ (yes.texts ++ no.texts)
  | .sequence parts => Expr.textsOfAll parts

def Expr.textsOfAll : List Expr → List String
  | [] => []
  | part :: rest => part.texts ++ Expr.textsOfAll rest

end

mutual

theorem Expr.retell_same_iff : ∀ expr : Expr, expr.retell f = expr ↔ ∀ content ∈ expr.texts, f content = content
  | .text content => by simp [Expr.retell, Expr.texts]
  | .number _ => by simp [Expr.retell, Expr.texts]
  | .flag _ => by simp [Expr.retell, Expr.texts]
  | .var _ => by simp [Expr.retell, Expr.texts]
  | .call _ args => by simp [Expr.retell, Expr.texts, Expr.retellAll_same_iff args]
  | .not operand => by simp [Expr.retell, Expr.texts, Expr.retell_same_iff operand]
  | .binary _ left right => by
    simp [Expr.retell, Expr.texts, Expr.retell_same_iff left, Expr.retell_same_iff right, or_imp, forall_and]
  | .choice condition yes no => by
    simp [Expr.retell, Expr.texts, Expr.retell_same_iff condition, Expr.retell_same_iff yes, Expr.retell_same_iff no,
      or_imp, forall_and]
  | .sequence parts => by simp [Expr.retell, Expr.texts, Expr.retellAll_same_iff parts]

theorem Expr.retellAll_same_iff : ∀ parts : List Expr,
    Expr.retellAll f parts = parts ↔ ∀ content ∈ Expr.textsOfAll parts, f content = content
  | [] => by simp [Expr.retellAll, Expr.textsOfAll]
  | part :: rest => by
    simp [Expr.retellAll, Expr.textsOfAll, Expr.retell_same_iff part, Expr.retellAll_same_iff rest, or_imp, forall_and]

end

theorem Expr.retell_ofParts (parts : List Expr) :
    (Expr.ofParts parts).retell f = Expr.ofParts (Expr.retellAll f parts) := by
  rcases parts with _ | ⟨first, _ | ⟨second, rest⟩⟩
  · rfl
  · rfl
  · rfl

def retellLink (link : Operator × Expr) : Operator × Expr := (link.1, link.2.retell f)

theorem Expr.retell_joined (links : List (Operator × Expr)) : ∀ left : Expr,
    (links.foldl Expr.join left).retell f = (links.map (retellLink f)).foldl Expr.join (left.retell f) := by
  induction links with
  | nil => exact fun left => rfl
  | cons link rest ih => exact fun left => ih (left.join link)

def Phrase.retell : (phrase : Phrase) → phrase.Value → phrase.Value
  | .sequence, expr => Expr.retell f expr
  | .parts, exprs => Expr.retellAll f exprs
  | .choice, expr => Expr.retell f expr
  | .chain _, expr => Expr.retell f expr
  | .links _, joined => joined.map (retellLink f)
  | .operand _, expr => Expr.retell f expr
  | .unary, expr => Expr.retell f expr
  | .primary, expr => Expr.retell f expr
  | .args, exprs => Expr.retellAll f exprs
  | .moreArgs, exprs => Expr.retellAll f exprs

namespace Tree

def retell : {phrase : Phrase} → Tree phrase → Tree phrase
  | _, sequence first rest => sequence first.retell rest.retell
  | _, lastPart => lastPart
  | _, lastSemicolon => lastSemicolon
  | _, part first rest => part first.retell rest.retell
  | _, plain condition => plain condition.retell
  | _, choice condition yes no => choice condition.retell yes.retell no.retell
  | _, chain first rest => chain first.retell rest.retell
  | _, lastLink => lastLink
  | _, link joins operand rest => link joins operand.retell rest.retell
  | _, conjunction inner => conjunction inner.retell
  | _, comparison inner => comparison inner.retell
  | _, sum inner => sum inner.retell
  | _, term unary => term unary.retell
  | _, not operand => not operand.retell
  | _, negative operand => negative operand.retell
  | _, positive primary => positive primary.retell
  | _, text content => text (f content)
  | _, number value => number value
  | _, var word => var word
  | _, truth => truth
  | _, falsity => falsity
  | _, name word other => name word other
  | _, call word other given => call word other given.retell
  | _, group inner => group inner.retell
  | _, noArgs => noArgs
  | _, args first rest => args first.retell rest.retell
  | _, lastArg => lastArg
  | _, arg first rest => arg first.retell rest.retell

theorem tokens_retell {phrase : Phrase} (tree : Tree phrase) :
    (tree.retell f).tokens = tree.tokens.map (Token.retell f) := by
  induction tree <;> simp_all [retell, Token.retell]

theorem nesting_retell {phrase : Phrase} (tree : Tree phrase) : (tree.retell f).nesting = tree.nesting := by
  induction tree <;> simp_all [retell]

theorem value_retell {phrase : Phrase} (tree : Tree phrase) : (tree.retell f).value = phrase.retell f tree.value := by
  induction tree with
  | sequence first rest ihFirst ihRest =>
    rw [retell, value, ihFirst, ihRest]
    exact (Expr.retell_ofParts f (first.value :: rest.value)).symm
  | chain first rest ihFirst ihRest =>
    rw [retell, value, ihFirst, ihRest]
    exact (Expr.retell_joined f _ _).symm
  | _ => simp_all [retell, Phrase.retell, Expr.retell, Expr.retellAll, retellLink]

end Tree

theorem parseTokens_retell {limit : Nat} {tokens : List Token} {expr : Expr}
    (parsed : parseTokens limit tokens = .ok expr) :
    parseTokens limit (tokens.map (Token.retell f)) = .ok (expr.retell f) := by
  obtain ⟨tree, rfl, fits, rfl⟩ := derived_of_parsed parsed
  rw [← Tree.tokens_retell]
  exact (parsed_of_derived (tree.retell f) (Nat.le_trans (Nat.le_of_eq (tree.nesting_retell f)) fits)).trans
    (congrArg Except.ok (tree.value_retell f))

end ThingWorld.Script
