import ThingWorld.Toml.Value
namespace ThingWorld.Toml

def skipComment : List Char → List Char
  | '#' :: r => r.dropWhile isPlain
  | cs => cs

-- The rest of a line holds nothing but blanks and a comment.
def endLine? (cs : List Char) : Option (List Char) :=
  match skipComment (skipSpace cs) with
  | [] => some []
  | r => newline? r

def skipBetween (fuel : Nat) (cs : List Char) : Option (List Char) :=
  match fuel with
  | 0 => none
  | fuel + 1 =>
    match skipLayout cs with
    | '#' :: r => do
      let r ← newline? (skipComment ('#' :: r))
      skipBetween fuel r
    | '\r' :: _ => none
    | r => some r

def skipGap (cs : List Char) : Option (List Char) := skipBetween (cs.length + 1) cs

-- Items up to the closing bracket; a comma may follow the last.
def readItems (item : Reader Toml) (fuel : Nat) (seen : List Toml) : Reader Toml := fun cs =>
  match fuel with
  | 0 => none
  | fuel + 1 => do
    match ← skipGap cs with
    | ']' :: r => some (array seen.reverse, r)
    | r =>
      let (value, r) ← item r
      match ← skipGap r with
      | ',' :: r => readItems item fuel (value :: seen) r
      | ']' :: r => some (array (value :: seen).reverse, r)
      | _ => none

def readPair (item : Reader Toml) : Reader (List String × Toml) := fun cs => do
  let (key, r) ← readKey cs
  match r with
  | '=' :: r =>
    let (value, r) ← item (skipSpace r)
    some ((key, value), r)
  | _ => none

-- Pairs up to the closing brace, at least one, on one line.
def readPairs (item : Reader Toml) (fuel : Nat) (entries : Entries) : Reader Toml := fun cs =>
  match fuel with
  | 0 => none
  | fuel + 1 => do
    let ((key, value), r) ← readPair item cs
    let entries ← define value true key entries
    match skipSpace r with
    | ',' :: r => readPairs item fuel entries r
    | '\x7d' :: r => some (table .inline entries, r)
    | _ => none

def readInline (item : Reader Toml) : Reader Toml := fun cs =>
  match skipSpace cs with
  | '\x7d' :: r => some (table .inline [], r)
  | r => readPairs item (r.length + 1) [] r

-- One container more and a document is refused.
def maxNesting : Nat := 79

-- One value; `nesting` containers may still be opened.
def readValue (nesting : Nat) : Reader Toml := fun cs =>
  match cs with
  | '"' :: _ => (readText cs).map fun (s, r) => (text s, r)
  | '\x27' :: _ => (readText cs).map fun (s, r) => (text s, r)
  | '[' :: r =>
    match nesting with
    | 0 => none
    | n + 1 => readItems (readValue n) (r.length + 1) [] r
  | '\x7b' :: r =>
    match nesting with
    | 0 => none
    | n + 1 => readInline (readValue n) r
  | 't' :: _ => readWord "true" (flag true) cs
  | 'f' :: _ => readWord "false" (flag false) cs
  | _ =>
    match readMoment cs with
    | some read => some read
    | none => readNumber cs

def readHeader (repeated : Bool) (cs : List Char) : Option (List String × List Char) := do
  let (path, r) ← readKey cs
  match repeated, r with
  | false, ']' :: r => some (path, ← endLine? r)
  | true, ']' :: ']' :: r => some (path, ← endLine? r)
  | _, _ => none

-- The table whose header came last, and the document so far.
structure Draft where
  path : List String
  root : Entries

def openSection (repeated : Bool) (draft : Draft) (cs : List Char) : Option (Draft × List Char) := do
  let (path, r) ← readHeader repeated cs
  let root ← openTable repeated path draft.root
  some (⟨path, root⟩, r)

def addPair (draft : Draft) (cs : List Char) : Option (Draft × List Char) := do
  let ((key, value), r) ← readPair (readValue maxNesting) cs
  let root ← inside draft.path (define value true key) draft.root
  some ({ draft with root := root }, ← endLine? r)

def readLine (draft : Draft) (cs : List Char) : Option (Draft × List Char) :=
  match cs with
  | '[' :: '[' :: r => openSection true draft r
  | '[' :: r => openSection false draft r
  | _ => addPair draft cs

def readLines (fuel : Nat) (draft : Draft) (cs : List Char) : Option Entries :=
  match fuel with
  | 0 => none
  | fuel + 1 =>
    match endLine? cs with
    | some [] => some draft.root
    | some r => readLines fuel draft r
    | none => do
      let (draft, r) ← readLine draft (skipSpace cs)
      readLines fuel draft r

-- A mark of the byte order at the very begin does not count.
def dropMark : List Char → List Char
  | '\ufeff' :: r => r
  | cs => cs

def parse? (s : String) : Option Toml :=
  let cs := dropMark s.toList
  (readLines (cs.length + 1) ⟨[], []⟩ cs).map (table .header)

end ThingWorld.Toml
