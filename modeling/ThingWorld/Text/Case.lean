import ThingWorld.Text.CaseTable
import ThingWorld.Text.Letter
namespace ThingWorld.Text

def ShiftRun.image? (run : ShiftRun) (n : Nat) : Option Nat :=
  if run.first ≤ n && n ≤ run.last && (n - run.first) % run.step == 0 then
    some (n + run.shift).toNat
  else none

-- A character without an entry is its own image.
def caseImage (sequences : List (Nat × List Nat)) (runs : List ShiftRun) (c : Char) : List Char :=
  match sequences.lookup c.toNat with
  | some image => image.map Char.ofNat
  | none => [((runs.findSome? (·.image? c.toNat)).map Char.ofNat).getD c]

def asciiLowerChar (c : Char) : Char :=
  if isAsciiUpper c then Char.ofNat (c.toNat + 32) else c

def asciiUpperChar (c : Char) : Char :=
  if isAsciiLower c then Char.ofNat (c.toNat - 32) else c

def lowerChar (c : Char) : List Char :=
  if c.toNat < 128 then [asciiLowerChar c] else caseImage lowerSequences lowerShifts c

def upperChar (c : Char) : List Char :=
  if c.toNat < 128 then [asciiUpperChar c] else caseImage upperSequences upperShifts c

-- The first character that is not passed over is cased.
def casedNext (cs : List Char) : Bool :=
  match cs.dropWhile isCaseIgnorable with
  | [] => false
  | c :: _ => isCased c

-- `seen` holds the characters before the current one, nearest first.
def lowerFrom (seen : List Char) : List Char → List Char
  | [] => []
  | c :: r =>
    let image := if c = 'Σ' then (if casedNext seen && !casedNext r then ['ς'] else ['σ']) else lowerChar c
    image ++ lowerFrom (c :: seen) r

def lower (s : String) : String :=
  String.ofList (lowerFrom [] s.toList)

-- Lower case of ASCII letters only.
def asciiLower (s : String) : String :=
  String.ofList (s.toList.map asciiLowerChar)

-- The text with its first character in upper case.
def capitalize (s : String) : String :=
  match s.toList with
  | [] => ""
  | c :: r => String.ofList (upperChar c ++ r)

end ThingWorld.Text
