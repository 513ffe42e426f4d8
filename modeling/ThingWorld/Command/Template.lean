import ThingWorld.Failure
import ThingWorld.Text.Blank
import ThingWorld.Text.Split
namespace ThingWorld

inductive Template where
  | lines (text : String)
  | script (source : String)
deriving DecidableEq, Repr

-- The source when the text is a script.
def scriptSource? (text : String) : Option String :=
  match Text.trimStart text.toList with
  | '!' :: r => some (String.ofList (Text.trim r))
  | _ => none

def Template.parse (text : String) : Template :=
  match scriptSource? text with
  | some source => .script source
  | none => .lines text

def lastPosition : Nat := Text.wordSize - 1

-- The digits are reversed.
def positionOf (digits : List Char) : Nat :=
  min (Nat.ofDigitChars 10 digits.reverse 0) lastPosition

inductive FillState where
  | text
  | dollar
  | digits (seen : List Char)

def restOf (args : List String) : List Char :=
  (String.intercalate " " args.tail).toList

def argAt (args : List String) (position : Nat) : Except Failure (List Char) :=
  match args[position]? with
  | some arg => .ok arg.toList
  | none => .error (.notEnoughArguments (args.head?.getD "") position)

-- Fills one line; what an argument brings in is not looked at again.
def fillFrom (args : List String) : FillState → List Char → Except Failure (List Char)
  | .text, [] => .ok []
  | .dollar, [] => .ok ['$']
  | .digits seen, [] => argAt args (positionOf seen)
  | .text, c :: r =>
    if c = '$' then fillFrom args .dollar r else (fillFrom args .text r).map (c :: ·)
  | .dollar, c :: r =>
    if c = '*' then (fillFrom args .text r).map (restOf args ++ ·)
    else if Text.isDigit c then fillFrom args (.digits [c]) r
    else if c = '$' then (fillFrom args .dollar r).map ('$' :: ·)
    else (fillFrom args .text r).map fun out => '$' :: c :: out
  | .digits seen, c :: r =>
    if Text.isDigit c then fillFrom args (.digits (c :: seen)) r
    else do
      let arg ← argAt args (positionOf seen)
      let out ← if c = '$' then fillFrom args .dollar r else (fillFrom args .text r).map (c :: ·)
      .ok (arg ++ out)

def templateLines (template : String) (this : ThingId) : List (List Char) :=
  (((Text.lines template.toList).map Text.trim).filter fun line => !line.isEmpty).map
    (Text.replace "%this".toList (showId this).toList)

-- The command lines that a template stands for; the first position without a word fails.
def substitute (template : String) (args : List String) (this : ThingId) :
    Except Failure (List String) :=
  (templateLines template this).mapM fun line => (fillFrom args .text line).map String.ofList

end ThingWorld
