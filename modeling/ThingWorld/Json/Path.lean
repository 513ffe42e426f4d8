import ThingWorld.Json
import ThingWorld.Text.Numeral
import ThingWorld.Text.Split
namespace ThingWorld.Json

def unescapeStep (cs : List Char) : String :=
  String.ofList (Text.replace ['~', '0'] ['~'] (Text.replace ['~', '1'] ['/'] cs))

def pointer? (s : String) : Option (List String) :=
  match s.toList with
  | [] => some []
  | '/' :: r => some ((Text.pieces '/' r).map unescapeStep)
  | _ => none

-- A numeral without sign or leading zero.
def arrayIndex? (step : String) : Option Nat :=
  match step.toList with
  | ['0'] => some 0
  | '0' :: _ => none
  | '+' :: _ => none
  | cs => Text.word? cs

mutual

-- Puts `value` where the steps lead; a step that leads nowhere changes nothing.
def replaceAt (value : Json) : List String → Json → Json
  | [], _ => value
  | step :: steps, array items =>
    match arrayIndex? step with
    | some i => array (replaceItem value steps i items)
    | none => array items
  | step :: steps, object fields => object (replaceField value steps step fields)
  | _ :: _, other => other

def replaceItem (value : Json) (steps : List String) : Nat → List Json → List Json
  | _, [] => []
  | 0, item :: rest => replaceAt value steps item :: rest
  | i + 1, item :: rest => item :: replaceItem value steps i rest

def replaceField (value : Json) (steps : List String) (name : String) :
    List (String × Json) → List (String × Json)
  | [] => []
  | (n, item) :: rest =>
    if n == name then (n, replaceAt value steps item) :: rest
    else (n, item) :: replaceField value steps name rest

end

end ThingWorld.Json
