import ThingWorld.Json
namespace ThingWorld.Json

abbrev Reader (α : Type) := List Char → Option (α × List Char)

def isSpace (c : Char) : Bool :=
  c == ' ' || c == '\n' || c == '\t' || c == '\r'

def skipSpace (cs : List Char) : List Char :=
  cs.dropWhile isSpace

def readHex4 : Reader Nat
  | a :: b :: c :: d :: r => do
    let n := ((← Text.hexValue? a) * 16 + (← Text.hexValue? b)) * 256 + (← Text.hexValue? c) * 16 + (← Text.hexValue? d)
    some (n, r)
  | _ => none

def joinSurrogates (high low : Nat) : Nat :=
  0x10000 + (high - 0xD800) * 0x400 + (low - 0xDC00)

def isHighSurrogate (unit : Nat) : Bool := 0xD800 ≤ unit && unit < 0xDC00

def isLowSurrogate (unit : Nat) : Bool := 0xDC00 ≤ unit && unit < 0xE000

def readLowSurrogate : Reader Nat
  | '\\' :: 'u' :: r => (readHex4 r).filter fun (unit, _) => isLowSurrogate unit
  | _ => none

-- A unit that was spelled in hexadecimal: a character, alone or with the half that follows, or none.
def joinUnit (unit : Nat) (r : List Char) : Option Char × List Char :=
  if isHighSurrogate unit then
    match readLowSurrogate r with
    | some (low, r) => (some (Char.ofNat (joinSurrogates unit low)), r)
    | none => (none, r)
  else if isLowSurrogate unit then (none, r)
  else (some (Char.ofNat unit), r)

def readEscape : Reader (Option Char)
  | '"' :: r => some ('"', r)
  | '\\' :: r => some ('\\', r)
  | '/' :: r => some ('/', r)
  | 'b' :: r => some ('\x08', r)
  | 'f' :: r => some ('\x0c', r)
  | 'n' :: r => some ('\n', r)
  | 'r' :: r => some ('\r', r)
  | 't' :: r => some ('\t', r)
  | 'u' :: r => (readHex4 r).map fun (unit, r) => joinUnit unit r
  | _ => none

-- One character more, unless it or the text before it is garbled.
def extend (seen : Option (List Char)) (c : Option Char) : Option (List Char) :=
  match seen, c with
  | some seen, some c => some (c :: seen)
  | _, _ => none

-- `fuel` bounds the characters read; the text read so far is reversed.
def readStringFrom (fuel : Nat) (seen : Option (List Char)) : Reader (Option String) :=
  fun cs =>
    match fuel, cs with
    | 0, _ => none
    | _ + 1, [] => none
    | _ + 1, '"' :: r => some (seen.map fun seen => String.ofList seen.reverse, r)
    | fuel + 1, '\\' :: r => do
      let (c, r) ← readEscape r
      readStringFrom fuel (extend seen c) r
    | fuel + 1, c :: r => if c.toNat < 32 then none else readStringFrom fuel (extend seen (some c)) r

-- A string whose opening quote has been read; it has no content when it is garbled.
def readString : Reader (Option String) := fun cs =>
  readStringFrom (cs.length + 1) (some []) cs

def ofContent : Option String → Json
  | some s => text s
  | none => garbled

def takeDigits (cs : List Char) : List Char × List Char :=
  cs.span Text.isDigit

def readWhole : Reader (List Char)
  | '0' :: r => some (['0'], r)
  | cs =>
    match takeDigits cs with
    | ([], _) => none
    | (digits, r) => some (digits, r)

def readFraction : Reader (List Char)
  | '.' :: r =>
    match takeDigits r with
    | ([], _) => none
    | (digits, r) => some ('.' :: digits, r)
  | cs => some ([], cs)

def readExponentDigits (lead : List Char) : Reader (List Char) := fun cs =>
  match takeDigits cs with
  | ([], _) => none
  | (digits, r) => some (lead ++ digits, r)

def readExponent : Reader (List Char)
  | c :: r =>
    if c == 'e' || c == 'E' then
      match r with
      | '+' :: r => readExponentDigits [c, '+'] r
      | '-' :: r => readExponentDigits [c, '-'] r
      | r => readExponentDigits [c] r
    else some ([], c :: r)
  | [] => some ([], [])

-- A number with a fraction or an exponent, minus zero, and one outside 64 bits are decimals.
def classify (negative : Bool) (whole fraction exponent : List Char) : Json :=
  let n : Int := Nat.ofDigitChars 10 whole 0
  let n := if negative then -n else n
  let sign := if negative then ['-'] else []
  if fraction.isEmpty && exponent.isEmpty && isWord n && !(negative && n == 0) then integer n
  else decimal (String.ofList (sign ++ whole ++ fraction ++ exponent))

def readMagnitude (negative : Bool) : Reader Json := fun cs => do
  let (whole, r) ← readWhole cs
  let (fraction, r) ← readFraction r
  let (exponent, r) ← readExponent r
  some (classify negative whole fraction exponent, r)

def readNumber : Reader Json
  | '-' :: r => readMagnitude true r
  | cs => readMagnitude false cs

def readWord (word : String) (value : Json) : Reader Json := fun cs =>
  if word.toList.isPrefixOf cs then some (value, cs.drop word.length) else none

-- Items up to the closing bracket; the first item has no comma before it.
def readItems (item : Reader Json) (fuel : Nat) (seen : List Json) : Reader (List Json) := fun cs =>
  match fuel with
  | 0 => none
  | fuel + 1 => do
    let (value, r) ← item (skipSpace cs)
    match skipSpace r with
    | ',' :: r => readItems item fuel (value :: seen) r
    | ']' :: r => some ((value :: seen).reverse, r)
    | _ => none

def readArray (item : Reader Json) : Reader Json := fun cs =>
  match skipSpace cs with
  | ']' :: r => some (array [], r)
  | r => (readItems item (r.length + 1) [] r).map fun (items, r) => (array items, r)

def readField (item : Reader Json) : Reader (Option String × Json)
  | '"' :: r => do
    let (name, r) ← readString r
    match skipSpace r with
    | ':' :: r =>
      let (value, r) ← item (skipSpace r)
      some ((name, value), r)
    | _ => none
  | _ => none

def readFields (item : Reader Json) (fuel : Nat) (seen : List (Option String × Json)) :
    Reader (List (Option String × Json)) := fun cs =>
  match fuel with
  | 0 => none
  | fuel + 1 => do
    let (field, r) ← readField item (skipSpace cs)
    match skipSpace r with
    | ',' :: r => readFields item fuel (field :: seen) r
    | '\x7d' :: r => some ((field :: seen).reverse, r)
    | _ => none

def ofFields (fields : List (Option String × Json)) : Json :=
  match fields.mapM fun (name, value) => name.map (·, value) with
  | some fields => object fields
  | none => garbled

def readObject (item : Reader Json) : Reader Json := fun cs =>
  match skipSpace cs with
  | '\x7d' :: r => some (object [], r)
  | r => (readFields item (r.length + 1) [] r).map fun (fields, r) => (ofFields fields, r)

-- One value; `nesting` containers may still be opened.
def readValue (nesting : Nat) : Reader Json := fun cs =>
  match cs with
  | 'n' :: _ => readWord "null" null cs
  | 't' :: _ => readWord "true" (bool true) cs
  | 'f' :: _ => readWord "false" (bool false) cs
  | '"' :: r => (readString r).map fun (s, r) => (ofContent s, r)
  | '[' :: r =>
    match nesting with
    | 0 => none
    | n + 1 => readArray (readValue n) r
  | '\x7b' :: r =>
    match nesting with
    | 0 => none
    | n + 1 => readObject (readValue n) r
  | _ => readNumber cs

def readAll (nesting : Nat) (s : String) : Option Json := do
  let (value, r) ← readValue nesting (skipSpace s.toList)
  if (skipSpace r).isEmpty then some value else none

-- The value of a whole text. Its length bounds how deep it nests.
def parse? (s : String) : Option Json := readAll s.length s

def maxNesting : Nat := 127

-- The value of a text in which nothing is garbled and nothing is nested too deep.
def parseStrictly? (s : String) : Option Json := (readAll maxNesting s).filter isClear

end ThingWorld.Json
