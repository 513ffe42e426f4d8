import ThingWorld.Script.Expr
namespace ThingWorld.Script

inductive Level where
  | or | and | comparison | sum
deriving DecidableEq, Repr

-- The next tighter level; the operands of sums are no chains.
def Level.tighter? : Level → Option Level
  | or => some .and
  | and => some .comparison
  | comparison => some .sum
  | sum => none

def Level.operator? : Level → Symbol → Option Operator
  | .or, .or => some .or
  | .and, .and => some .and
  | .comparison, .equal => some .equal
  | .comparison, .notEqual => some .notEqual
  | .comparison, .greater => some .greater
  | .comparison, .less => some .less
  | .comparison, .greaterEqual => some .greaterEqual
  | .comparison, .lessEqual => some .lessEqual
  | .sum, .plus => some .add
  | .sum, .minus => some .subtract
  | _, _ => none

def describeNext : List Token → String
  | [] => endOfInput
  | token :: _ => token.describe

def expect (symbol : Symbol) (tokens : List Token) : Except SyntaxError (List Token) :=
  match tokens with
  | .symbol found :: rest =>
    if found = symbol then .ok rest else .error (.expected symbol.spelling found.spelling)
  | _ => .error (.expected symbol.spelling (describeNext tokens))

def operatorAhead? (level : Level) : List Token → Option (Operator × List Token)
  | .symbol symbol :: rest => (level.operator? symbol).map (·, rest)
  | _ => none

def descend (limit depth : Nat) : Except SyntaxError Nat :=
  if depth < limit then .ok (depth + 1) else .error (.nestedTooDeep limit)

-- A semicolon may stand at the end of a sequence.
def endsSequence : List Token → Bool
  | [] => true
  | .symbol .rightParen :: _ => true
  | _ => false

mutual

def parseSequence (limit fuel depth : Nat) (tokens : List Token) :
    Except SyntaxError (Expr × List Token) :=
  match fuel with
  | 0 => .error .outOfFuel
  | fuel + 1 => do
    let (first, tokens) ← parseChoice limit fuel depth tokens
    let (rest, tokens) ← parseParts limit fuel depth tokens
    .ok (Expr.ofParts (first :: rest), tokens)

def parseParts (limit fuel depth : Nat) (tokens : List Token) :
    Except SyntaxError (List Expr × List Token) :=
  match fuel with
  | 0 => .error .outOfFuel
  | fuel + 1 =>
    match tokens with
    | .symbol .semicolon :: tokens =>
      if endsSequence tokens then .ok ([], tokens)
      else do
        let (part, tokens) ← parseChoice limit fuel depth tokens
        let (rest, tokens) ← parseParts limit fuel depth tokens
        .ok (part :: rest, tokens)
    | _ => .ok ([], tokens)

def parseChoice (limit fuel depth : Nat) (tokens : List Token) :
    Except SyntaxError (Expr × List Token) :=
  match fuel with
  | 0 => .error .outOfFuel
  | fuel + 1 => do
    let (condition, tokens) ← parseChain limit fuel depth .or tokens
    match tokens with
    | .symbol .question :: tokens => do
      let depth ← descend limit depth
      let (yes, tokens) ← parseChain limit fuel depth .or tokens
      let tokens ← expect .colon tokens
      let (no, tokens) ← parseChoice limit fuel depth tokens
      .ok (.choice condition yes no, tokens)
    | _ => .ok (condition, tokens)

def parseChain (limit fuel depth : Nat) (level : Level) (tokens : List Token) :
    Except SyntaxError (Expr × List Token) :=
  match fuel with
  | 0 => .error .outOfFuel
  | fuel + 1 => do
    let (left, tokens) ← parseOperand limit fuel depth level tokens
    parseLinks limit fuel depth level left tokens

def parseLinks (limit fuel depth : Nat) (level : Level) (left : Expr) (tokens : List Token) :
    Except SyntaxError (Expr × List Token) :=
  match fuel with
  | 0 => .error .outOfFuel
  | fuel + 1 =>
    match operatorAhead? level tokens with
    | some (operator, tokens) => do
      let (right, tokens) ← parseOperand limit fuel depth level tokens
      parseLinks limit fuel depth level (.binary operator left right) tokens
    | none => .ok (left, tokens)

def parseOperand (limit fuel depth : Nat) (level : Level) (tokens : List Token) :
    Except SyntaxError (Expr × List Token) :=
  match fuel with
  | 0 => .error .outOfFuel
  | fuel + 1 =>
    match level.tighter? with
    | some level => parseChain limit fuel depth level tokens
    | none => parseUnary limit fuel depth tokens

def parseUnary (limit fuel depth : Nat) (tokens : List Token) :
    Except SyntaxError (Expr × List Token) :=
  match fuel with
  | 0 => .error .outOfFuel
  | fuel + 1 =>
    match tokens with
    | .symbol .not :: tokens => do
      let (operand, tokens) ← parseUnary limit fuel depth tokens
      .ok (.not operand, tokens)
    | .symbol .minus :: tokens => do
      let (operand, tokens) ← parseUnary limit fuel depth tokens
      .ok (.negate operand, tokens)
    | _ => parsePrimary limit fuel depth tokens

def parsePrimary (limit fuel depth : Nat) (tokens : List Token) :
    Except SyntaxError (Expr × List Token) :=
  match fuel with
  | 0 => .error .outOfFuel
  | fuel + 1 =>
    match tokens with
    | .text s :: tokens => .ok (.text s, tokens)
    | .number n :: tokens => .ok (.number n, tokens)
    | .var v :: tokens => .ok (.var v, tokens)
    | .name word :: tokens =>
      if word = "true" then .ok (.flag true, tokens)
      else if word = "false" then .ok (.flag false, tokens)
      else
        match tokens with
        | .symbol .leftParen :: tokens => do
          let (args, tokens) ← parseArgs limit fuel depth tokens
          .ok (.call word args, tokens)
        | _ => .ok (.call word [], tokens)
    | .symbol .leftParen :: tokens => do
      let depth ← descend limit depth
      let (inner, tokens) ← parseSequence limit fuel depth tokens
      let tokens ← expect .rightParen tokens
      .ok (inner, tokens)
    | _ => .error (.noExpression (describeNext tokens))

def parseArgs (limit fuel depth : Nat) (tokens : List Token) :
    Except SyntaxError (List Expr × List Token) :=
  match fuel with
  | 0 => .error .outOfFuel
  | fuel + 1 =>
    match tokens with
    | .symbol .rightParen :: tokens => .ok ([], tokens)
    | _ => do
      let (first, tokens) ← parseChoice limit fuel depth tokens
      parseMoreArgs limit fuel depth [first] tokens

-- The arguments read so far are reversed.
def parseMoreArgs (limit fuel depth : Nat) (seen : List Expr) (tokens : List Token) :
    Except SyntaxError (List Expr × List Token) :=
  match fuel with
  | 0 => .error .outOfFuel
  | fuel + 1 =>
    match tokens with
    | .symbol .comma :: tokens => do
      let (arg, tokens) ← parseChoice limit fuel depth tokens
      parseMoreArgs limit fuel depth (arg :: seen) tokens
    | _ => do
      let tokens ← expect .rightParen tokens
      .ok (seen.reverse, tokens)

end

-- A token costs at most one descent through all levels.
def enoughFuel (tokens : List Token) : Nat := 16 * (tokens.length + 2)

def parseTokens (limit : Nat) (tokens : List Token) : Except SyntaxError Expr := do
  let (expr, rest) ← parseSequence limit (enoughFuel tokens) 0 tokens
  if rest.isEmpty then .ok expr else .error (.trailing (describeNext rest))

def maxNesting : Nat := 8

def parse (source : String) : Except SyntaxError Expr := do
  parseTokens maxNesting (← lex source)

end ThingWorld.Script
