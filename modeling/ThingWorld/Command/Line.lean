import ThingWorld.Text.Blank
import ThingWorld.Text.Split
namespace ThingWorld

-- `'text` and `"text` are speech, and a closing quote of that kind is dropped.
def spellOut (first : Char) (rest : List Char) : List Char :=
  let rest' := Text.trim rest
  if first = '\x27' || first = '"' then
    let said := match rest'.reverse with
      | c :: r => if c = first then r.reverse else rest'
      | [] => []
    "say ".toList ++ said
  else if first = ':' then "emote ".toList ++ rest'
  else if first = '!' then "@script ".toList ++ rest'
  else first :: rest

-- The line without blanks at its ends, its shorthand spelled out.
def normalizeLine (line : String) : String :=
  match Text.trim line.toList with
  | [] => ""
  | first :: rest => String.ofList (spellOut first rest)

structure Word where
  -- In bytes from the begin of the line.
  offset : Nat
  text : String
deriving DecidableEq, Repr

-- Where the cutting of a line stands; words in the making are reversed.
inductive WordState where
  | gap
  | bare (start : Nat) (seen : List Char)
  | quoted (quote : Char) (start : Nat) (seen : List Char)

def makeWord (start : Nat) (seen : List Char) : Word :=
  ⟨start, String.ofList seen.reverse⟩

def wordsFrom (offset : Nat) : WordState → List Char → List Word
  | .gap, [] => []
  | .bare start seen, [] => [makeWord start seen]
  | .quoted _ start seen, [] => [makeWord start seen]
  | .gap, c :: r =>
    let next := offset + c.utf8Size
    if Text.isBlank c then wordsFrom next .gap r
    else if c = '\x27' || c = '"' then wordsFrom next (.quoted c offset []) r
    else wordsFrom next (.bare offset [c]) r
  | .bare start seen, c :: r =>
    let next := offset + c.utf8Size
    if Text.isBlank c then makeWord start seen :: wordsFrom next .gap r
    else wordsFrom next (.bare start (c :: seen)) r
  | .quoted quote start seen, c :: r =>
    let next := offset + c.utf8Size
    if c = quote then makeWord start seen :: wordsFrom next .gap r
    else wordsFrom next (.quoted quote start (c :: seen)) r

def wordsOf (line : String) : List Word :=
  wordsFrom 0 .gap line.toList

-- What follows the first `n` bytes.
def dropBytes : Nat → List Char → List Char
  | 0, cs => cs
  | _ + 1, [] => []
  | n + 1, c :: r => dropBytes (n + 1 - c.utf8Size) r

structure Line where
  text : String
  words : List Word
deriving DecidableEq, Repr

namespace Line

def parse (text : String) : Line := ⟨text, wordsOf text⟩

def texts (line : Line) : List String := line.words.map Word.text

def verb? (line : Line) : Option String := line.texts.head?

def args (line : Line) : List String := line.texts.tail

def arg? (line : Line) (n : Nat) : Option String := line.args[n]?

def arg (line : Line) (n : Nat) : String := (line.arg? n).getD ""

-- The raw line from the argument of that index on; a last argument comes without its quotes. The verb is counted in,
-- and the sum is one of machine words.
def rawFrom (line : Line) (index : UInt64) : String :=
  match line.words.drop (index + 1).toNat with
  | [] => ""
  | [last] => last.text
  | word :: _ => String.ofList (Text.trim (dropBytes word.offset line.text.toList))

def restFrom (line : Line) (n : Nat) : String := line.rawFrom (UInt64.ofNat n)

def rest (line : Line) : String := line.restFrom 0

end Line
end ThingWorld
