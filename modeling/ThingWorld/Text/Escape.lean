import ThingWorld.Text.Letter
namespace ThingWorld.Text

-- The most characters of a text that one line shows.
def shownLength : Nat := 200

def hexDigits (n : Nat) : List Char :=
  Nat.toDigits 16 n

def escapeControl (c : Char) : List Char :=
  match c with
  | '\n' => ['\\', 'n']
  | '\r' => ['\\', 'r']
  | '\t' => ['\\', 't']
  | '\x00' => ['\\', '0']
  | _ => ['\\', 'u', '\x7b'] ++ hexDigits c.toNat ++ ['\x7d']

def oneLine (s : String) : String :=
  let cs := s.toList
  let shown := (cs.take shownLength).flatMap fun c => if isControl c then escapeControl c else [c]
  String.ofList (if cs.length ≤ shownLength then shown else shown ++ ['.', '.', '.'])

end ThingWorld.Text
