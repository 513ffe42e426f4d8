import ThingWorld.Text.LetterTable
namespace ThingWorld.Text

def inRanges (ranges : List (Nat × Nat)) (n : Nat) : Bool :=
  ranges.any fun (lo, hi) => lo ≤ n && n ≤ hi

def isAsciiUpper (c : Char) : Bool := 'A' ≤ c && c ≤ 'Z'

def isAsciiLower (c : Char) : Bool := 'a' ≤ c && c ≤ 'z'

def isAsciiLetter (c : Char) : Bool := isAsciiUpper c || isAsciiLower c

def byTable (ascii : Char → Bool) (ranges : List (Nat × Nat)) (c : Char) : Bool :=
  if c.toNat < 128 then ascii c else inRanges ranges c.toNat

def isAlphabetic (c : Char) : Bool :=
  byTable isAsciiLetter alphabeticRanges c

def isNumeric (c : Char) : Bool :=
  byTable (fun c => '0' ≤ c && c ≤ '9') numberRanges c

def isAlphanumeric (c : Char) : Bool :=
  isAlphabetic c || isNumeric c

def isCased (c : Char) : Bool :=
  byTable isAsciiLetter casedRanges c

def isCaseIgnorable (c : Char) : Bool :=
  byTable (fun c => ['\'', '.', ':', '^', '\x60'].contains c) caseIgnorableRanges c

-- General category Cc.
def isControl (c : Char) : Bool :=
  c.toNat < 32 || (127 ≤ c.toNat && c.toNat < 160)

end ThingWorld.Text
