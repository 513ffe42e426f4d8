import ThingWorld.Text.Blank
import ThingWorld.Text.Letter
import ThingWorld.Text.Numeral
namespace ThingWorld.Script

inductive Symbol where
  | and | or | not | question | colon | semicolon
  | equal | notEqual | greater | less | greaterEqual | lessEqual
  | plus | minus | leftParen | rightParen | comma
deriving DecidableEq, Repr

def Symbol.spelling : Symbol → String
  | and => "&&"
  | or => "||"
  | not => "!"
  | question => "?"
  | colon => ":"
  | semicolon => ";"
  | equal => "=="
  | notEqual => "!="
  | greater => ">"
  | less => "<"
  | greaterEqual => ">="
  | lessEqual => "<="
  | plus => "+"
  | minus => "-"
  | leftParen => "("
  | rightParen => ")"
  | comma => ","

inductive Token where
  | name (name : String)
  | text (content : String)
  | number (value : Int64)
  | var (name : String)
  | symbol (symbol : Symbol)
deriving DecidableEq, Repr

def Token.describe : Token → String
  | name s => "identifier '" ++ s ++ "'"
  | text s => "string \"" ++ s ++ "\""
  | number n => "number " ++ Text.showInt64 n
  | var s => "variable $" ++ s
  | symbol s => s.spelling

def endOfInput : String := "end of input"

-- Why a source is no script.
inductive SyntaxError where
  | unterminatedText
  | numberOutOfRange (digits : String)
  | loneSymbol (char : Char)
  | missingVariableName
  | unexpectedCharacter (char : Char)
  | expected (wanted found : String)
  | nestedTooDeep (limit : Nat)
  | noExpression (found : String)
  | trailing (found : String)
  | outOfFuel
deriving DecidableEq, Repr

namespace SyntaxError

def message : SyntaxError → String
  | unterminatedText => "Unterminated string literal"
  | numberOutOfRange digits => "Number out of range: " ++ digits
  | loneSymbol c =>
    let s := String.singleton c
    "Expected '" ++ s ++ s ++ "', found single '" ++ s ++ "'"
  | missingVariableName => "Expected variable name after '$'"
  | unexpectedCharacter c => "Unexpected character: '" ++ String.singleton c ++ "'"
  | expected wanted found => "Expected " ++ wanted ++ ", found " ++ found
  | nestedTooDeep limit => "Expression nested deeper than " ++ Text.showNat limit
  | noExpression found => "Unexpected token in expression: " ++ found
  | trailing found => "Unexpected token after expression: " ++ found
  | outOfFuel => "Expression too long"

end SyntaxError

def isNameStart (c : Char) : Bool := Text.isAlphabetic c || c == '_'

def isNamePart (c : Char) : Bool := Text.isAlphanumeric c || c == '_'

-- What has been begun. Characters read so far are reversed.
inductive LexState where
  | gap
  | name (seen : List Char)
  | number (seen : List Char)
  | var (seen : List Char)
  | text (quote : Char) (seen : List Char)
  | escape (quote : Char) (seen : List Char)
  -- The first half of a symbol of two characters.
  | half (char : Char)

def gathered (seen : List Char) : String := String.ofList seen.reverse

def numberToken (seen : List Char) : Except SyntaxError Token :=
  match Text.int64? (gathered seen) with
  | some n => .ok (.number n)
  | none => .error (.numberOutOfRange (gathered seen))

def variableToken (seen : List Char) : Except SyntaxError Token :=
  if seen.isEmpty then .error .missingVariableName else .ok (.var (gathered seen))

def single? (c : Char) : Option Symbol :=
  match c with
  | '(' => some .leftParen
  | ')' => some .rightParen
  | ',' => some .comma
  | '?' => some .question
  | ':' => some .colon
  | ';' => some .semicolon
  | '+' => some .plus
  | '-' => some .minus
  | _ => none

def double? (first second : Char) : Option Symbol :=
  match first, second with
  | '&', '&' => some .and
  | '|', '|' => some .or
  | '=', '=' => some .equal
  | '!', '=' => some .notEqual
  | '>', '=' => some .greaterEqual
  | '<', '=' => some .lessEqual
  | _, _ => none

-- The symbol that the first half is by itself.
def alone (first : Char) : Except SyntaxError Symbol :=
  match first with
  | '!' => .ok .not
  | '>' => .ok .greater
  | '<' => .ok .less
  | _ => .error (.loneSymbol first)

def isHalf (c : Char) : Bool := ['&', '|', '=', '!', '>', '<'].contains c

def beginWith (c : Char) : Except SyntaxError (List Token × LexState) :=
  if Text.isBlank c then .ok ([], .gap)
  else if Text.isDigit c then .ok ([], .number [c])
  else if isNameStart c then .ok ([], .name [c])
  else if isHalf c then .ok ([], .half c)
  else if c = '"' || c = '\x27' then .ok ([], .text c [])
  else if c = '$' then .ok ([], .var [])
  else
    match single? c with
    | some symbol => .ok ([.symbol symbol], .gap)
    | none => .error (.unexpectedCharacter c)

def endThenBegin (token : Token) (c : Char) : Except SyntaxError (List Token × LexState) :=
  (beginWith c).map fun (tokens, state) => (token :: tokens, state)

def unescape (c : Char) : Char :=
  if c = 'n' then '\n' else if c = 't' then '\t' else c

def lexStep (state : LexState) (c : Char) : Except SyntaxError (List Token × LexState) :=
  match state with
  | .gap => beginWith c
  | .name seen => if isNamePart c then .ok ([], .name (c :: seen)) else endThenBegin (.name (gathered seen)) c
  | .number seen =>
    if Text.isDigit c then .ok ([], .number (c :: seen))
    else do endThenBegin (← numberToken seen) c
  | .var seen =>
    if isNamePart c then .ok ([], .var (c :: seen))
    else do endThenBegin (← variableToken seen) c
  | .text quote seen =>
    if c = quote then .ok ([.text (gathered seen)], .gap)
    else if c = '\\' then .ok ([], .escape quote seen)
    else .ok ([], .text quote (c :: seen))
  | .escape quote seen => .ok ([], .text quote (unescape c :: seen))
  | .half first =>
    match double? first c with
    | some symbol => .ok ([.symbol symbol], .gap)
    | none => do endThenBegin (.symbol (← alone first)) c

-- What is still to come when the source ends.
def lexEnd : LexState → Except SyntaxError (List Token)
  | .gap => .ok []
  | .name seen => .ok [.name (gathered seen)]
  | .number seen => do .ok [← numberToken seen]
  | .var seen => do .ok [← variableToken seen]
  | .text _ _ => .error .unterminatedText
  | .escape _ _ => .error .unterminatedText
  | .half first => do .ok [.symbol (← alone first)]

def lexFrom (state : LexState) : List Char → Except SyntaxError (List Token)
  | [] => lexEnd state
  | c :: r => do
    let (tokens, state) ← lexStep state c
    let rest ← lexFrom state r
    .ok (tokens ++ rest)

def lex (source : String) : Except SyntaxError (List Token) :=
  lexFrom .gap source.toList

end ThingWorld.Script
