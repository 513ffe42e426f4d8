import ThingWorld.Text.Blank
import ThingWorld.Text.Numeral
import ThingWorld.Text.Split
namespace ThingWorld

inductive Datum where
  | text (content : String)
  | number (value : Int64)
  | flag (value : Bool)
  | list (items : List String)
deriving DecidableEq, Repr, Inhabited

namespace Property

def name := "name"
def fullName := "fullName"
def article := "article"
def description := "description"
def contentsFormat := "contentsFormat"
def linkFormat := "linkFormat"
def examineFormat := "examineFormat"
def lookFormat := "lookFormat"
def closed := "closed"
def priority := "priority"
def keys := "keys"
def aliases := "aliases"
def everywhere := "global"
def admin := "admin"
-- The stored side of a tick subscription; the schedule keeps the live set.
def ticking := "ticking"
def command := "cmd"
def commandStem := "cmd_"
def reactionStem := "react_"

def isList (property : String) : Bool :=
  property == keys || property == aliases

end Property

namespace Datum

-- Blank items are dropped, also those at the ends.
def listItems (cs : List Char) : List String :=
  (((Text.pieces ',' cs).map Text.trim).filter fun item => !item.isEmpty).map String.ofList

-- Reads what was typed for `property`: a list for a list property, else a flag or a number when the whole
-- text is one, else the text. Blanks around it do not count.
def parse (property raw : String) : Datum :=
  let raw := Text.trimmed raw
  if Property.isList property then .list (listItems raw.toList)
  else if raw == "true" then .flag true
  else if raw == "false" then .flag false
  else
    match Text.int64? raw with
    | some n => .number n
    | none => .text raw

def showFlag (b : Bool) : String :=
  if b then "true" else "false"

def asText : Datum → String
  | text s => s
  | number n => Text.showInt64 n
  | flag b => showFlag b
  | list items => String.intercalate ", " items

-- The text "false" does not hold, any other nonempty text does.
def holds : Datum → Bool
  | flag b => b
  | number n => n != 0
  | text s => !s.isEmpty && s != "false"
  | list items => !items.isEmpty

def number? : Datum → Option Int64
  | number n => some n
  | text s => Text.int64? (Text.trimmed s)
  | flag _ => none
  | list _ => none

def items : Datum → List String
  | list items => items
  | text s => if s.isEmpty then [] else [s]
  | number _ => []
  | flag _ => []

end Datum
end ThingWorld
