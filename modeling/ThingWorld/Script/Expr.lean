import ThingWorld.Script.Token
namespace ThingWorld.Script

inductive Operator where
  | and | or
  | equal | notEqual | greater | less | greaterEqual | lessEqual
  | add | subtract
deriving DecidableEq, Repr

def Operator.spelling : Operator → String
  | and => "&&"
  | or => "||"
  | equal => "=="
  | notEqual => "!="
  | greater => ">"
  | less => "<"
  | greaterEqual => ">="
  | lessEqual => "<="
  | add => "+"
  | subtract => "-"

inductive Expr where
  | text (content : String)
  | number (value : Int64)
  | flag (value : Bool)
  | var (name : String)
  | call (name : String) (args : List Expr)
  | not (operand : Expr)
  | binary (operator : Operator) (left right : Expr)
  | choice (condition yes no : Expr)
  | sequence (parts : List Expr)
deriving Repr, Inhabited

def Expr.negate (operand : Expr) : Expr := .binary .subtract (.number 0) operand

def Expr.ofParts : List Expr → Expr
  | [part] => part
  | parts => .sequence parts

end ThingWorld.Script
