import ThingWorld.Thing
namespace ThingWorld.Script

inductive Value where
  | text (content : String)
  | number (value : Int64)
  | flag (value : Bool)
  | thing (id : ThingId)
  | null
deriving DecidableEq, Repr, Inhabited

namespace Value

def isTruthy : Value → Bool
  | flag b => b
  | number n => n != 0
  | text s => !s.isEmpty && s != "false"
  | thing _ => true
  | null => false

def asText : Value → String
  | text s => s
  | number n => Text.showInt64 n
  | flag b => Datum.showFlag b
  | thing id => showId id
  | null => ""

def number? : Value → Option Int64
  | number n => some n
  | flag b => some (if b then 1 else 0)
  | text s => Text.int64? (Text.trimmed s)
  | thing _ => none
  | null => none

def ofDatum : Datum → Value
  | .text s => text s
  | .number n => number n
  | .flag b => flag b
  | .list items => text (String.intercalate ", " items)

def toDatum : Value → Datum
  | text s => .text s
  | number n => .number n
  | flag b => .flag b
  | thing id => .text (showId id)
  | null => .text ""

end Value
end ThingWorld.Script
