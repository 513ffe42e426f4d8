import ThingWorld.Calendar
import ThingWorld.Toml
namespace ThingWorld.Toml

abbrev Reader (α : Type) := List Char → Option (α × List Char)

def isSpace (c : Char) : Bool := c == ' ' || c == '\t'

def skipSpace (cs : List Char) : List Char := cs.dropWhile isSpace

-- The tab is the only control character that may stand in a line.
def isPlain (c : Char) : Bool :=
  c == '\t' || (32 ≤ c.toNat && c.toNat != 127)

-- What follows the end of a line, when a line ends here.
def newline? : List Char → Option (List Char)
  | '\n' :: r => some r
  | '\r' :: '\n' :: r => some r
  | _ => none

def skipLayout : List Char → List Char
  | '\r' :: '\n' :: r => skipLayout r
  | '\n' :: r => skipLayout r
  | ' ' :: r => skipLayout r
  | '\t' :: r => skipLayout r
  | cs => cs

section Texts

def hexNumber? (digits : List Char) : Option Nat :=
  digits.foldlM (fun n c => (Text.hexValue? c).map fun d => 16 * n + d) 0

def readCodePoint (width : Nat) : Reader Char := fun cs => do
  let n ← if cs.length < width then none else hexNumber? (cs.take width)
  if n.isValidChar then some (Char.ofNat n, cs.drop width) else none

def readEscape : Reader Char
  | 'b' :: r => some ('\x08', r)
  | 'f' :: r => some ('\x0c', r)
  | 'n' :: r => some ('\n', r)
  | 'r' :: r => some ('\r', r)
  | 't' :: r => some ('\t', r)
  | '"' :: r => some ('"', r)
  | '\\' :: r => some ('\\', r)
  | 'u' :: r => readCodePoint 4 r
  | 'U' :: r => readCodePoint 8 r
  | _ => none

-- Up to the closing quote, on one line. `fuel` bounds the characters read.
def readQuoted (fuel : Nat) (seen : List Char) : Reader String := fun cs =>
  match fuel, cs with
  | 0, _ => none
  | _ + 1, [] => none
  | _ + 1, '"' :: r => some (String.ofList seen.reverse, r)
  | fuel + 1, '\\' :: r => do
    let (c, r) ← readEscape r
    readQuoted fuel (c :: seen) r
  | fuel + 1, c :: r => if isPlain c then readQuoted fuel (c :: seen) r else none

def readLiteral (seen : List Char) : Reader String
  | [] => none
  | c :: r =>
    if c = '\x27' then some (String.ofList seen.reverse, r)
    else if isPlain c then readLiteral (c :: seen) r
    else none

-- The end of a text over several lines: three quotes close it, and up to two before them belong to it.
def closing? (quote : Char) (cs : List Char) : Option (List Char × List Char) :=
  let run := cs.takeWhile (· == quote)
  if run.length < 3 then none
  else
    let length := min run.length 5
    some (List.replicate (length - 3) quote, cs.drop length)

-- A backslash at the end of a line swallows all layout up to the next character.
def readLongQuoted (fuel : Nat) (seen : List Char) : Reader String := fun cs =>
  match closing? '"' cs with
  | some (more, r) => some (String.ofList (seen.reverse ++ more), r)
  | none =>
    match fuel, cs with
    | 0, _ => none
    | _ + 1, [] => none
    | fuel + 1, '\\' :: r =>
      match newline? (skipSpace r) with
      | some r => readLongQuoted fuel seen (skipLayout r)
      | none => do
        let (c, r) ← readEscape r
        readLongQuoted fuel (c :: seen) r
    | fuel + 1, c :: r =>
      match newline? (c :: r) with
      | some r => readLongQuoted fuel ('\n' :: seen) r
      | none => if isPlain c then readLongQuoted fuel (c :: seen) r else none

def readLongLiteral (fuel : Nat) (seen : List Char) : Reader String := fun cs =>
  match closing? '\x27' cs with
  | some (more, r) => some (String.ofList (seen.reverse ++ more), r)
  | none =>
    match fuel, cs with
    | 0, _ => none
    | _ + 1, [] => none
    | fuel + 1, c :: r =>
      match newline? (c :: r) with
      | some r => readLongLiteral fuel ('\n' :: seen) r
      | none => if isPlain c then readLongLiteral fuel (c :: seen) r else none

-- The end of the line right after the opening quotes does not count.
def afterOpening (cs : List Char) : List Char := (newline? cs).getD cs

def readText : Reader String
  | '"' :: '"' :: '"' :: r => readLongQuoted (r.length + 1) [] (afterOpening r)
  | '"' :: r => readQuoted (r.length + 1) [] r
  | '\x27' :: '\x27' :: '\x27' :: r => readLongLiteral (r.length + 1) [] (afterOpening r)
  | '\x27' :: r => readLiteral [] r
  | _ => none

end Texts

section Keys

def isKeyChar (c : Char) : Bool :=
  ('a' ≤ c && c ≤ 'z') || ('A' ≤ c && c ≤ 'Z') || Text.isDigit c || c == '-' || c == '_'

def readKeyPart : Reader String
  | '"' :: r => readQuoted (r.length + 1) [] r
  | '\x27' :: r => readLiteral [] r
  | cs =>
    match cs.span isKeyChar with
    | ([], _) => none
    | (name, r) => some (String.ofList name, r)

-- One more part and a key is refused.
def maxKeyParts : Nat := 79

def readKeyParts : Nat → Reader (List String)
  | 0, _ => none
  | parts + 1, cs => do
    let (name, r) ← readKeyPart (skipSpace cs)
    match skipSpace r with
    | '.' :: r => (readKeyParts parts r).map fun (names, r) => (name :: names, r)
    | r => some ([name], r)

def readKey : Reader (List String) := readKeyParts maxKeyParts

end Keys

section Numbers

-- Digits with single underscores between them, which are dropped.
def readRun (isDigit : Char → Bool) : Reader (List Char)
  | [] => none
  | c :: r =>
    if !isDigit c then none
    else
      match r with
      | '_' :: r => (readRun isDigit r).map fun (digits, r) => (c :: digits, r)
      | d :: r =>
        if isDigit d then (readRun isDigit (d :: r)).map fun (digits, r) => (c :: digits, r)
        else some ([c], d :: r)
      | [] => some ([c], [])

def readSign : List Char → Bool × List Char
  | '-' :: r => (true, r)
  | '+' :: r => (false, r)
  | cs => (false, cs)

def readWhole : Reader (List Char)
  | '0' :: r => some (['0'], r)
  | cs => readRun Text.isDigit cs

def readFraction : Reader (List Char)
  | '.' :: r => readRun Text.isDigit r
  | cs => some ([], cs)

def readExponent : Reader Int
  | c :: r =>
    if c = 'e' || c = 'E' then
      let (negative, r) := readSign r
      (readRun Text.isDigit r).map fun (digits, r) =>
        let n : Int := Nat.ofDigitChars 10 digits 0
        (if negative then -n else n, r)
    else some (0, c :: r)
  | [] => some (0, [])

-- The least value that is rounded to infinity.
def floatLimit : Nat := Nat.pow 2 1024 - Nat.pow 2 970

def overflows (mantissa : Nat) (exponent : Int) : Bool :=
  let size : Int := (Nat.toDigits 10 mantissa).length + exponent
  if mantissa = 0 || size < 308 then false
  else if 310 < size then true
  else if 0 ≤ exponent then floatLimit ≤ mantissa * Nat.pow 10 exponent.toNat
  else floatLimit * Nat.pow 10 (-exponent).toNat ≤ mantissa

def startsFloat (cs : List Char) : Bool :=
  match cs with
  | c :: _ => c == '.' || c == 'e' || c == 'E'
  | [] => false

def readFloatTail (negative : Bool) (whole : List Char) : Reader Toml := fun cs => do
  let (fraction, r) ← readFraction cs
  let (exponent, r) ← readExponent r
  let mantissa := Nat.ofDigitChars 10 (whole ++ fraction) 0
  if !negative && overflows mantissa (exponent - fraction.length) then none else some (float, r)

def integer? (n : Int) : Option Toml :=
  if Text.fitsInt64 n then some (integer (Int64.ofInt n)) else none

def readRadix (radix : Nat) : Reader Toml := fun cs => do
  let isDigit (c : Char) := (Text.hexValue? c).any (· < radix)
  let (digits, r) ← readRun isDigit cs
  let n := digits.foldl (fun n c => radix * n + (Text.hexValue? c).getD 0) 0
  (integer? n).map fun n => (n, r)

def readWord (word : String) (value : Toml) : Reader Toml := fun cs =>
  if word.toList.isPrefixOf cs then some (value, cs.drop word.length) else none

def readDecimal : Reader Toml := fun cs => do
  let (negative, r) := readSign cs
  match r with
  | 'i' :: _ => readWord "inf" float r
  | 'n' :: _ => readWord "nan" float r
  | _ =>
    let (whole, r) ← readWhole r
    if startsFloat r then readFloatTail negative whole r
    else
      let n : Int := Nat.ofDigitChars 10 whole 0
      (integer? (if negative then -n else n)).map fun n => (n, r)

def readNumber : Reader Toml
  | '0' :: 'x' :: r => readRadix 16 r
  | '0' :: 'o' :: r => readRadix 8 r
  | '0' :: 'b' :: r => readRadix 2 r
  | cs => readDecimal cs

end Numbers

section Moments

def readWidth (width : Nat) : Reader Nat := fun cs =>
  let digits := cs.take width
  if digits.length < width then none else (Text.digits? digits).map fun n => (n, cs.drop width)

def readMark (mark : Char) : Reader Unit
  | c :: r => if c = mark then some ((), r) else none
  | [] => none

def readDate : Reader Unit := fun cs => do
  let (year, cs) ← readWidth 4 cs
  let (_, cs) ← readMark '-' cs
  let (month, cs) ← readWidth 2 cs
  let (_, cs) ← readMark '-' cs
  let (day, cs) ← readWidth 2 cs
  if Calendar.isDate year month day then some ((), cs) else none

def readSecondFraction : Reader Unit
  | '.' :: r =>
    match r.span Text.isDigit with
    | ([], _) => none
    | (_, r) => some ((), r)
  | cs => some ((), cs)

def readTime : Reader Unit := fun cs => do
  let (hour, cs) ← readWidth 2 cs
  let (_, cs) ← readMark ':' cs
  let (minute, cs) ← readWidth 2 cs
  let (_, cs) ← readMark ':' cs
  let (second, cs) ← readWidth 2 cs
  let (_, cs) ← readSecondFraction cs
  if Calendar.isTime hour minute second then some ((), cs) else none

def readOffset : Reader Unit
  | c :: r =>
    if c = 'Z' || c = 'z' then some ((), r)
    else if c = '+' || c = '-' then do
      let (hour, r) ← readWidth 2 r
      let (_, r) ← readMark ':' r
      let (minute, r) ← readWidth 2 r
      if hour ≤ 23 && minute ≤ 59 then some ((), r) else none
    else some ((), c :: r)
  | [] => some ((), [])

-- A time after a date may be missing; a blank before it then ends the date.
def readTimeAfterDate : Reader Unit
  | c :: r =>
    if c = 'T' || c = 't' || c = ' ' then
      match readTime r with
      | some (_, r) => readOffset r
      | none => some ((), c :: r)
    else some ((), c :: r)
  | [] => some ((), [])

def readMoment (cs : List Char) : Option (Toml × List Char) :=
  match readDate cs with
  | some (_, r) => (readTimeAfterDate r).map fun (_, r) => (moment, r)
  | none => (readTime cs).map fun (_, r) => (moment, r)

end Moments
end ThingWorld.Toml
