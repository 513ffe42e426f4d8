namespace ThingWorld.Text

def isBlank (c : Char) : Bool :=
  let n := c.toNat
  (9 ≤ n && n ≤ 13) || n == 32 || n == 0x85 || n == 0xA0 || n == 0x1680
    || (0x2000 ≤ n && n ≤ 0x200A) || n == 0x2028 || n == 0x2029 || n == 0x202F || n == 0x205F
    || n == 0x3000

def mapChars (f : List Char → List Char) (s : String) : String :=
  String.ofList (f s.toList)

def trimStart (cs : List Char) : List Char :=
  cs.dropWhile isBlank

-- Removes the blank tail only: a blank before a visible character stays.
def trimEnd : List Char → List Char
  | [] => []
  | c :: r =>
    match trimEnd r with
    | [] => if isBlank c then [] else [c]
    | kept => c :: kept

def trim (cs : List Char) : List Char :=
  trimEnd (trimStart cs)

-- Maximal runs of visible characters, in order. The pending word is carried reversed.
def wordsFrom (pending : List Char) : List Char → List (List Char)
  | [] => if pending.isEmpty then [] else [pending.reverse]
  | c :: r =>
    if isBlank c then
      if pending.isEmpty then wordsFrom [] r else pending.reverse :: wordsFrom [] r
    else wordsFrom (c :: pending) r

def words (cs : List Char) : List (List Char) :=
  wordsFrom [] cs

-- A line that a line feed ended loses one carriage return; the last line keeps its own.
def endedLine (reversed : List Char) : List Char :=
  match reversed with
  | '\r' :: r => r.reverse
  | _ => reversed.reverse

def linesFrom (pending : List Char) : List Char → List (List Char)
  | [] => if pending.isEmpty then [] else [pending.reverse]
  | c :: r => if c = '\n' then endedLine pending :: linesFrom [] r else linesFrom (c :: pending) r

-- Lines end at LF or CRLF; nothing after the last line end is no line.
def lines (cs : List Char) : List (List Char) :=
  linesFrom [] cs

def isBlankText (s : String) : Bool :=
  s.toList.all isBlank

def trimmed (s : String) : String :=
  mapChars trim s

def withoutBlankLines (s : String) : String :=
  String.ofList
    (List.intercalate ['\n'] ((lines s.toList).filter fun line => !line.all isBlank))

end ThingWorld.Text
