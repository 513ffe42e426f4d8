import ThingWorld.Json
namespace ThingWorld.Json

def hexDigit (n : Nat) : Char :=
  Nat.digitChar n

def escapeChar (c : Char) : List Char :=
  match c with
  | '"' => ['\\', '"']
  | '\\' => ['\\', '\\']
  | '\n' => ['\\', 'n']
  | '\r' => ['\\', 'r']
  | '\t' => ['\\', 't']
  | '\x08' => ['\\', 'b']
  | '\x0c' => ['\\', 'f']
  | _ =>
    if c.toNat < 32 then
      ['\\', 'u', '0', '0', hexDigit (c.toNat / 16), hexDigit (c.toNat % 16)]
    else [c]

def quoteChars (s : String) : List Char :=
  '"' :: s.toList.flatMap escapeChar ++ ['"']

structure Layout where
  lead : Nat → List Char
  colon : List Char

def Layout.compact : Layout := ⟨fun _ => [], [':']⟩

def Layout.pretty : Layout := ⟨fun level => '\n' :: List.replicate (2 * level) ' ', [':', ' ']⟩

def enclose (layout : Layout) (level : Nat) (opening closing : Char) (members : List (List Char)) :
    List Char :=
  match members with
  | [] => [opening, closing]
  | _ =>
    let separated := List.intercalate (',' :: layout.lead (level + 1)) members
    opening :: layout.lead (level + 1) ++ separated ++ layout.lead level ++ [closing]

mutual

def printAt (layout : Layout) (level : Nat) : Json → List Char
  | null => "null".toList
  | bool b => (if b then "true" else "false").toList
  | integer n => (Text.showInt n).toList
  | decimal spelling => spelling.toList
  | text s => quoteChars s
  | garbled => "null".toList
  | array items => enclose layout level '[' ']' (printItems layout (level + 1) items)
  | object fields => enclose layout level '\x7b' '\x7d' (printFields layout (level + 1) fields)

def printItems (layout : Layout) (level : Nat) : List Json → List (List Char)
  | [] => []
  | item :: rest => printAt layout level item :: printItems layout level rest

def printFields (layout : Layout) (level : Nat) : List (String × Json) → List (List Char)
  | [] => []
  | (name, value) :: rest =>
    (quoteChars name ++ layout.colon ++ printAt layout level value) :: printFields layout level rest

end

def compact (json : Json) : String :=
  String.ofList (printAt .compact 0 json)

def pretty (json : Json) : String :=
  String.ofList (printAt .pretty 0 json)

end ThingWorld.Json
