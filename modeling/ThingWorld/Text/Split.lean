namespace ThingWorld.Text

-- What follows `lead` when the text begins with it.
def after? (lead : List Char) (cs : List Char) : Option (List Char) :=
  match lead, cs with
  | [], r => some r
  | _ :: _, [] => none
  | p :: ps, c :: r => if p = c then after? ps r else none

-- Where `part` first begins.
def find? (part : List Char) : List Char → Option Nat
  | [] => if part.isEmpty then some 0 else none
  | c :: r => if part.isPrefixOf (c :: r) then some 0 else (find? part r).map (· + 1)

def contains (part cs : List Char) : Bool :=
  (find? part cs).isSome

-- The texts before and after the first `mark`.
def cut? (mark : List Char) : List Char → Option (List Char × List Char)
  | [] => (after? mark []).map ([], ·)
  | c :: r =>
    match after? mark (c :: r) with
    | some rest => some ([], rest)
    | none => (cut? mark r).map fun (before, rest) => (c :: before, rest)

-- `skip` counts the characters of an occurrence that was already replaced.
def replaceFrom (part new : List Char) (skip : Nat) : List Char → List Char
  | [] => []
  | c :: r =>
    match skip with
    | k + 1 => replaceFrom part new k r
    | 0 =>
      if part.isPrefixOf (c :: r) then new ++ replaceFrom part new (part.length - 1) r
      else c :: replaceFrom part new 0 r

-- Replaces the occurrences of a nonempty `part` from left to right; they do not overlap.
def replace (part new cs : List Char) : List Char :=
  replaceFrom part new 0 cs

def pieces (sep : Char) : List Char → List (List Char)
  | [] => [[]]
  | c :: r =>
    match pieces sep r with
    | [] => [[]]
    | piece :: more => if c = sep then [] :: piece :: more else (c :: piece) :: more

end ThingWorld.Text
