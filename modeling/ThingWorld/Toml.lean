import ThingWorld.Text.Numeral
namespace ThingWorld

inductive TableOrigin where
  | header
  | inner
  | dotted
  -- Braces; nothing is added to it.
  | inline
deriving DecidableEq, Repr

inductive Toml where
  | text (content : String)
  | integer (value : Int64)
  | float
  | flag (value : Bool)
  | moment
  | array (items : List Toml)
  | table (origin : TableOrigin) (entries : List (String × Toml))
  | tables (items : List Toml)
deriving Repr, Inhabited

namespace Toml

abbrev Entries := List (String × Toml)

def setEntry (key : String) (value : Toml) : Entries → Entries
  | [] => [(key, value)]
  | (k, old) :: rest => if k == key then (k, value) :: rest else (k, old) :: setEntry key value rest

-- Changes the last item.
def changeLast (f : Toml → Option Toml) : List Toml → Option (List Toml)
  | [] => none
  | [item] => (f item).map fun item => [item]
  | item :: rest => (changeLast f rest).map (item :: ·)

def changeEntries (f : Entries → Option Entries) : Toml → Option Toml
  | table origin entries => (f entries).map (table origin)
  | _ => none

-- Changes the table that the keys lead to; tables on the way are made when they are missing, and of tables under
-- one header the last is taken.
def inside (path : List String) (f : Entries → Option Entries) (entries : Entries) : Option Entries :=
  match path with
  | [] => f entries
  | key :: path => do
    let value ← match entries.lookup key with
      | none => (inside path f []).map (table .inner)
      | some (table origin inner) =>
        if origin = .inline then none else (inside path f inner).map (table origin)
      | some (tables items) => (changeLast (changeEntries (inside path f)) items).map tables
      | some _ => none
    some (setEntry key value entries)

def opened (repeated : Bool) : Option Toml → Option Toml
  | none => some (if repeated then tables [table .header []] else table .header [])
  | some (table .inner entries) => if repeated then none else some (table .header entries)
  | some (tables items) => if repeated then some (tables (items ++ [table .header []])) else none
  | some _ => none

-- Opens the table of a header; `repeated` headers may come again.
def openTable (repeated : Bool) (path : List String) (root : Entries) : Option Entries :=
  match path.getLast? with
  | none => none
  | some key =>
    inside path.dropLast (fun entries =>
      (opened repeated (entries.lookup key)).map fun value => setEntry key value entries) root

-- Adds a value under a dotted key. `extends` says whether the table may be given a value.
def define (value : Toml) (extends? : Bool) (path : List String) (entries : Entries) : Option Entries :=
  match path with
  | [] => none
  | [key] =>
    if extends? && (entries.lookup key).isNone then some (setEntry key value entries) else none
  | key :: path => do
    let inner ← match entries.lookup key with
      | none => (define value true path []).map (table .dotted)
      | some (table .dotted inner) => (define value true path inner).map (table .dotted)
      | some (table .inner inner) => (define value false path inner).map (table .inner)
      | some (tables items) => (changeLast (changeEntries (define value false path)) items).map tables
      | some _ => none
    some (setEntry key inner entries)

-- The fields `names` of a record, in that order. A table has them by name and an array by position; a moment is a
-- record without any of them.
def record? (names : List String) : Toml → Option (List (Option Toml))
  | table _ entries => some (names.map fun name => entries.lookup name)
  | array items => some (names.mapIdx fun i _ => items[i]?)
  | tables items => some (names.mapIdx fun i _ => items[i]?)
  | moment => some (names.map fun _ => none)
  | _ => none

def toText? : Toml → Option String
  | text s => some s
  | _ => none

def toFlag? : Toml → Option Bool
  | flag b => some b
  | _ => none

-- A natural number below `bound`.
def toNat? (bound : Nat) : Toml → Option Nat
  | integer n => if 0 ≤ n.toInt && n.toInt < bound then some n.toInt.toNat else none
  | _ => none

end Toml
end ThingWorld
