import ThingWorld.Text.Numeral
namespace ThingWorld

inductive Json where
  | null
  | bool (value : Bool)
  | integer (value : Int)
  | decimal (spelling : String)
  | text (content : String)
  -- A text that spells no characters, or an object with a field of such a name.
  | garbled
  | array (items : List Json)
  | object (fields : List (String × Json))
deriving Repr, Inhabited

namespace Json

def isWord (n : Int) : Bool :=
  -Text.halfSize ≤ n && n < Text.wordSize

def nat (n : Nat) : Json := integer n

def uint64 (n : UInt64) : Json := integer n.toNat

def int64 (n : Int64) : Json := integer n.toInt

def ofOption {α : Type} (f : α → Json) : Option α → Json
  | some a => f a
  | none => null

def texts (items : List String) : Json := array (items.map text)

mutual

-- Whether no part of the value is garbled.
def isClear : Json → Bool
  | garbled => false
  | array items => areClear items
  | object fields => fieldsAreClear fields
  | _ => true

def areClear : List Json → Bool
  | [] => true
  | item :: rest => isClear item && areClear rest

def fieldsAreClear : List (String × Json) → Bool
  | [] => true
  | (_, value) :: rest => isClear value && fieldsAreClear rest

end

def toNat? (bound : Nat) : Json → Option Nat
  | integer n => if 0 ≤ n && n < bound then some n.toNat else none
  | _ => none

def toUInt64? (json : Json) : Option UInt64 :=
  (json.toNat? Text.wordSize).map UInt64.ofNat

def toUInt8? (json : Json) : Option UInt8 :=
  (json.toNat? 256).map UInt8.ofNat

def toInt64? : Json → Option Int64
  | integer n => if Text.fitsInt64 n then some (Int64.ofInt n) else none
  | _ => none

def toText? : Json → Option String
  | text s => some s
  | _ => none

def toBool? : Json → Option Bool
  | bool b => some b
  | _ => none

def toList? {α : Type} (f : Json → Option α) : Json → Option (List α)
  | array items => items.mapM f
  | _ => none

-- The last field of that name.
def field? (name : String) : Json → Option Json
  | object fields => (fields.reverse.find? fun f => f.1 == name).map Prod.snd
  | _ => none

-- The fields `names` of a record, in that order. A record is an object, in which other fields are ignored and
-- none of these may stand twice, or an array of exactly these fields.
def record? (names : List String) : Json → Option (List (Option Json))
  | object fields =>
    if names.all fun name => (fields.filter fun f => f.1 == name).length ≤ 1 then
      some (names.map fun name => fields.lookup name)
    else none
  | array items => if items.length = names.length then some (items.map some) else none
  | _ => none

end Json
end ThingWorld
