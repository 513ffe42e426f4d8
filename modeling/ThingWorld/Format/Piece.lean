import ThingWorld.Text.Letter
namespace ThingWorld.Format

inductive Piece where
  | char (c : Char)
  | dollar
  | token (word : List Char) (property : Option (List Char))
deriving DecidableEq, Repr

def Piece.spelling : Piece → List Char
  | char c => [c]
  | dollar => ['$', '$']
  | token word none => '$' :: word
  | token word (some property) => '$' :: word ++ '.' :: property

def spelling (pieces : List Piece) : List Char := pieces.flatMap Piece.spelling

def isWordChar (c : Char) : Bool :=
  Text.isAsciiLetter c || ('0' ≤ c && c ≤ '9') || c == '_'

-- What has been begun; words so far are reversed.
inductive PieceState where
  | text
  | sign
  | word (seen : List Char)
  -- A word and a point, which may begin a property.
  | point (word : List Char)
  | property (word : List Char) (seen : List Char)

def beginAt (c : Char) : List Piece × PieceState :=
  if c = '$' then ([], .sign) else ([.char c], .text)

def endWith (ended : List Piece) (c : Char) : List Piece × PieceState :=
  let (pieces, state) := beginAt c
  (ended ++ pieces, state)

def pieceStep (state : PieceState) (c : Char) : List Piece × PieceState :=
  match state with
  | .text => beginAt c
  | .sign =>
    if isWordChar c then ([], .word [c])
    else if c = '$' then ([.dollar], .text)
    else endWith [.char '$'] c
  | .word seen =>
    if isWordChar c then ([], .word (c :: seen))
    else if c = '.' then ([], .point seen)
    else endWith [.token seen.reverse none] c
  | .point word =>
    if isWordChar c then ([], .property word [c])
    else endWith [.token word.reverse none, .char '.'] c
  | .property word seen =>
    if isWordChar c then ([], .property word (c :: seen))
    else endWith [.token word.reverse (some seen.reverse)] c

def pieceEnd : PieceState → List Piece
  | .text => []
  | .sign => [.char '$']
  | .word seen => [.token seen.reverse none]
  | .point word => [.token word.reverse none, .char '.']
  | .property word seen => [.token word.reverse (some seen.reverse)]

def piecesFrom (state : PieceState) : List Char → List Piece
  | [] => pieceEnd state
  | c :: r =>
    let (pieces, state) := pieceStep state c
    pieces ++ piecesFrom state r

def pieces (template : List Char) : List Piece := piecesFrom .text template

end ThingWorld.Format
