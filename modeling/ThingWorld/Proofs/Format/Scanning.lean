import Mathlib.Data.List.Basic
import ThingWorld.Format.Piece
namespace ThingWorld.Format

variable {c : Char} {cs next rest seen before : List Char} {state : PieceState} {lead more : List Piece} {piece : Piece}

-- The scanner character by character. What ends a word is read again as the first character of a text.
theorem text_plain (plain : c ≠ '$') : piecesFrom .text (c :: cs) = .char c :: piecesFrom .text cs := by
  rw [piecesFrom, pieceStep, beginAt, if_neg plain]
  rfl

theorem text_dollar : piecesFrom .text ('$' :: cs) = piecesFrom .sign cs := rfl

theorem sign_word (word : isWordChar c = true) : piecesFrom .sign (c :: cs) = piecesFrom (.word [c]) cs := by
  rw [piecesFrom, pieceStep, if_pos word]
  rfl

theorem sign_dollar : piecesFrom .sign ('$' :: cs) = .dollar :: piecesFrom .text cs := rfl

theorem sign_other (other : ¬ isWordChar c = true) (plain : c ≠ '$') :
    piecesFrom .sign (c :: cs) = .char '$' :: piecesFrom .text (c :: cs) := by
  rw [piecesFrom, pieceStep, if_neg other, if_neg plain]
  rfl

theorem word_word (word : isWordChar c = true) :
    piecesFrom (.word seen) (c :: cs) = piecesFrom (.word (c :: seen)) cs := by
  rw [piecesFrom, pieceStep, if_pos word]
  rfl

theorem word_point : piecesFrom (.word seen) ('.' :: cs) = piecesFrom (.point seen) cs := rfl

theorem word_other (other : ¬ isWordChar c = true) (plain : c ≠ '.') :
    piecesFrom (.word seen) (c :: cs) = .token seen.reverse none :: piecesFrom .text (c :: cs) := by
  rw [piecesFrom, pieceStep, if_neg other, if_neg plain]
  rfl

theorem point_word (word : isWordChar c = true) :
    piecesFrom (.point seen) (c :: cs) = piecesFrom (.property seen [c]) cs := by
  rw [piecesFrom, pieceStep, if_pos word]
  rfl

theorem point_other (other : ¬ isWordChar c = true) :
    piecesFrom (.point seen) (c :: cs) = .token seen.reverse none :: .char '.' :: piecesFrom .text (c :: cs) := by
  rw [piecesFrom, pieceStep, if_neg other]
  rfl

theorem property_word (word : isWordChar c = true) :
    piecesFrom (.property before seen) (c :: cs) = piecesFrom (.property before (c :: seen)) cs := by
  rw [piecesFrom, pieceStep, if_pos word]
  rfl

theorem property_other (other : ¬ isWordChar c = true) :
    piecesFrom (.property before seen) (c :: cs) =
      .token before.reverse (some seen.reverse) :: piecesFrom .text (c :: cs) := by
  rw [piecesFrom, pieceStep, if_neg other]
  rfl

theorem spelling_append (lead more : List Piece) : spelling (lead ++ more) = spelling lead ++ spelling more :=
  List.flatMap_append

theorem spelling_cons (piece : Piece) (more : List Piece) : spelling (piece :: more) = piece.spelling ++ spelling more :=
  List.flatMap_cons

-- What was read and is not yet a piece.
def PieceState.held : PieceState → List Char
  | .text => []
  | .sign => ['$']
  | .word seen => '$' :: seen.reverse
  | .point seen => '$' :: seen.reverse ++ ['.']
  | .property before seen => '$' :: before.reverse ++ '.' :: seen.reverse

theorem spelling_from (state : PieceState) (cs : List Char) : spelling (piecesFrom state cs) = state.held ++ cs := by
  induction cs generalizing state with
  | nil => cases state <;> simp [piecesFrom, pieceEnd, PieceState.held, spelling, Piece.spelling]
  | cons c cs ih =>
    have fresh : spelling (piecesFrom .text (c :: cs)) = c :: cs := by
      by_cases dollar : c = '$'
      · rw [dollar, text_dollar, ih]
        rfl
      · rw [text_plain dollar, spelling_cons, ih]
        rfl
    by_cases word : isWordChar c = true
    · cases state with
      | text => exact fresh
      | sign => rw [sign_word word, ih]; rfl
      | word seen => rw [word_word word, ih]; simp [PieceState.held]
      | point seen => rw [point_word word, ih]; simp [PieceState.held]
      | property before seen => rw [property_word word, ih]; simp [PieceState.held]
    · cases state with
      | text => exact fresh
      | sign =>
        by_cases dollar : c = '$'
        · rw [dollar, sign_dollar, spelling_cons, ih]
          rfl
        · rw [sign_other word dollar, spelling_cons, fresh]
          rfl
      | word seen =>
        by_cases point : c = '.'
        · rw [point, word_point, ih]; simp [PieceState.held]
        · rw [word_other word point, spelling_cons, fresh]
          rfl
      | point seen => rw [point_other word, spelling_cons, spelling_cons, fresh]; simp [PieceState.held, Piece.spelling]
      | property before seen => rw [property_other word, spelling_cons, fresh]; rfl

theorem spelling_pieces (cs : List Char) : spelling (pieces cs) = cs := spelling_from .text cs

def IsWord (cs : List Char) : Prop := cs ≠ [] ∧ ∀ c ∈ cs, isWordChar c = true

-- A text that does not go on with a word.
def WordStops (next : List Char) : Prop := ∀ c ∈ next.head?, ¬ isWordChar c = true

-- The scanner is done with the piece when `next` follows it.
def Piece.Closes : Piece → List Char → Prop
  | .char c, next => c = '$' → WordStops next ∧ next.head? ≠ some '$'
  | .dollar, _ => True
  | .token name none, next => IsWord name ∧ WordStops next ∧ ∀ rest, next = '.' :: rest → WordStops rest
  | .token name (some property), next => IsWord name ∧ IsWord property ∧ WordStops next

def Apart : List Piece → Prop
  | [] => True
  | piece :: rest => piece.Closes (spelling rest) ∧ Apart rest

theorem wordStops_nil : WordStops [] := nofun

theorem wordStops_cons (stops : ¬ isWordChar c = true) : WordStops (c :: rest) := by
  intro d first
  cases first
  exact stops

theorem wordStops_append (stops : WordStops (next ++ rest)) : WordStops next := by
  cases next with
  | nil => exact wordStops_nil
  | cons c next => exact stops

theorem closes_append (closes : piece.Closes (next ++ rest)) : piece.Closes next := by
  cases piece with
  | char c =>
    intro dollar
    obtain ⟨stops, single⟩ := closes dollar
    refine ⟨wordStops_append stops, ?_⟩
    cases next with
    | nil => nofun
    | cons d next => exact single
  | dollar => trivial
  | token name property =>
    cases property with
    | none =>
      obtain ⟨word, stops, point⟩ := closes
      exact ⟨word, wordStops_append stops, fun after same => wordStops_append (point (after ++ rest) (by rw [same]; rfl))⟩
    | some property =>
      obtain ⟨word, asked, stops⟩ := closes
      exact ⟨word, asked, wordStops_append stops⟩

theorem apart_append (apart : Apart (lead ++ more)) : Apart lead := by
  induction lead with
  | nil => trivial
  | cons piece lead ih =>
    rw [List.cons_append] at apart
    obtain ⟨closes, apart⟩ := apart
    rw [spelling_append] at closes
    exact ⟨closes_append closes, ih apart⟩

-- The words of a state are words.
def PieceState.Begun : PieceState → Prop
  | .text | .sign => True
  | .word seen | .point seen => IsWord seen.reverse
  | .property before seen => IsWord before.reverse ∧ IsWord seen.reverse

theorem isWord_single (word : isWordChar c = true) : IsWord [c].reverse :=
  ⟨List.cons_ne_nil c [], fun d member => by rw [List.mem_singleton.mp member]; exact word⟩

theorem isWord_more (begun : IsWord seen.reverse) (word : isWordChar c = true) : IsWord (c :: seen).reverse := by
  rw [List.reverse_cons]
  refine ⟨List.append_ne_nil_of_right_ne_nil _ (List.cons_ne_nil c []), fun d member => ?_⟩
  rcases List.mem_append.mp member with earlier | last
  · exact begun.2 d earlier
  · rw [List.mem_singleton.mp last]
    exact word

theorem apart_end (begun : state.Begun) : Apart (pieceEnd state) := by
  cases state with
  | text => trivial
  | sign => exact ⟨fun _ => ⟨wordStops_nil, nofun⟩, trivial⟩
  | word seen => exact ⟨⟨begun, wordStops_nil, nofun⟩, trivial⟩
  | point seen =>
    refine ⟨⟨begun, wordStops_cons (by decide), fun rest same => ?_⟩, fun dollar => absurd dollar (by decide), trivial⟩
    rw [← (List.cons.inj same).2]
    exact wordStops_nil
  | property before seen => exact ⟨⟨begun.1, begun.2, wordStops_nil⟩, trivial⟩

theorem apart_from (begun : state.Begun) : Apart (piecesFrom state cs) := by
  induction cs generalizing state with
  | nil => exact apart_end begun
  | cons c cs ih =>
    have fresh : Apart (piecesFrom .text (c :: cs)) := by
      by_cases dollar : c = '$'
      · rw [dollar, text_dollar]
        exact ih trivial
      · rw [text_plain dollar]
        exact ⟨fun same => absurd same dollar, ih trivial⟩
    have onward : spelling (piecesFrom .text (c :: cs)) = c :: cs := spelling_pieces (c :: cs)
    by_cases word : isWordChar c = true
    · cases state with
      | text => exact fresh
      | sign => rw [sign_word word]; exact ih (isWord_single word)
      | word seen => rw [word_word word]; exact ih (isWord_more begun word)
      | point seen => rw [point_word word]; exact ih ⟨begun, isWord_single word⟩
      | property before seen => rw [property_word word]; exact ih ⟨begun.1, isWord_more begun.2 word⟩
    · have stops : WordStops (spelling (piecesFrom .text (c :: cs))) := by
        rw [onward]
        exact wordStops_cons word
      cases state with
      | text => exact fresh
      | sign =>
        by_cases dollar : c = '$'
        · rw [dollar, sign_dollar]
          exact ⟨trivial, ih trivial⟩
        · rw [sign_other word dollar]
          refine ⟨fun _ => ⟨stops, ?_⟩, fresh⟩
          rw [onward]
          exact fun same => dollar (Option.some.inj same)
      | word seen =>
        by_cases point : c = '.'
        · rw [point, word_point]
          exact ih begun
        · rw [word_other word point]
          refine ⟨⟨begun, stops, fun rest same => ?_⟩, fresh⟩
          rw [onward] at same
          exact absurd (List.cons.inj same).1 point
      | point seen =>
        rw [point_other word]
        refine ⟨⟨begun, wordStops_cons (by decide), fun rest same => ?_⟩, fun dollar => absurd dollar (by decide), fresh⟩
        rw [← (List.cons.inj same).2]
        exact stops
      | property before seen =>
        rw [property_other word]
        exact ⟨⟨begun.1, begun.2, stops⟩, fresh⟩

theorem apart_pieces (cs : List Char) : Apart (pieces cs) := apart_from trivial

theorem from_word (word : ∀ c ∈ cs, isWordChar c = true) (seen next : List Char) :
    piecesFrom (.word seen) (cs ++ next) = piecesFrom (.word (cs.reverse ++ seen)) next := by
  induction cs generalizing seen with
  | nil => rfl
  | cons c cs ih =>
    rw [List.cons_append, word_word (word c List.mem_cons_self),
      ih (fun d member => word d (List.mem_cons_of_mem c member)), List.reverse_cons, List.append_assoc]
    rfl

theorem from_property (word : ∀ c ∈ cs, isWordChar c = true) (before seen next : List Char) :
    piecesFrom (.property before seen) (cs ++ next) = piecesFrom (.property before (cs.reverse ++ seen)) next := by
  induction cs generalizing seen with
  | nil => rfl
  | cons c cs ih =>
    rw [List.cons_append, property_word (word c List.mem_cons_self),
      ih (fun d member => word d (List.mem_cons_of_mem c member)), List.reverse_cons, List.append_assoc]
    rfl

theorem from_name (word : IsWord cs) (next : List Char) :
    piecesFrom .sign (cs ++ next) = piecesFrom (.word cs.reverse) next := by
  obtain ⟨nonempty, word⟩ := word
  cases cs with
  | nil => exact absurd rfl nonempty
  | cons c cs =>
    rw [List.cons_append, sign_word (word c List.mem_cons_self),
      from_word (fun d member => word d (List.mem_cons_of_mem c member)), List.reverse_cons]

theorem from_asked (word : IsWord cs) (seen next : List Char) :
    piecesFrom (.point seen) (cs ++ next) = piecesFrom (.property seen cs.reverse) next := by
  obtain ⟨nonempty, word⟩ := word
  cases cs with
  | nil => exact absurd rfl nonempty
  | cons c cs =>
    rw [List.cons_append, point_word (word c List.mem_cons_self),
      from_property (fun d member => word d (List.mem_cons_of_mem c member)), List.reverse_cons]

-- The scanner takes a piece for what it is when it is done with it.
theorem from_closes (closes : piece.Closes next) : pieces (piece.spelling ++ next) = piece :: pieces next := by
  cases piece with
  | char c =>
    by_cases dollar : c = '$'
    · obtain ⟨stops, single⟩ := closes dollar
      rw [dollar]
      cases next with
      | nil => rfl
      | cons d next => exact sign_other (stops d rfl) (fun same => single (congrArg some same))
    · exact text_plain dollar
  | dollar => rfl
  | token name property =>
    cases property with
    | none =>
      obtain ⟨word, stops, point⟩ := closes
      calc pieces ('$' :: (name ++ next))
        _ = piecesFrom (.word name.reverse) next := from_name word next
        _ = .token name none :: pieces next := by
          cases next with
          | nil => simp [piecesFrom, pieceEnd, pieces]
          | cons c next =>
            by_cases dot : c = '.'
            · have after := point next (by rw [dot])
              rw [dot, word_point]
              cases next with
              | nil => simp [piecesFrom, pieceEnd, pieces, pieceStep, beginAt]
              | cons d next =>
                rw [point_other (after d rfl), List.reverse_reverse]
                rfl
            · rw [word_other (stops c rfl) dot, List.reverse_reverse, pieces]
    | some property =>
      obtain ⟨word, asked, stops⟩ := closes
      calc pieces ('$' :: (name ++ '.' :: property) ++ next)
        _ = piecesFrom .sign (name ++ '.' :: (property ++ next)) := by rw [pieces, List.cons_append, List.append_assoc]; rfl
        _ = piecesFrom (.property name.reverse property.reverse) next := by rw [from_name word, word_point, from_asked asked]
        _ = .token name (some property) :: pieces next := by
          cases next with
          | nil => simp [piecesFrom, pieceEnd, pieces]
          | cons c next => rw [property_other (stops c rfl), List.reverse_reverse, List.reverse_reverse, pieces]

theorem pieces_spelling (apart : Apart lead) : pieces (spelling lead) = lead := by
  induction lead with
  | nil => rfl
  | cons piece lead ih =>
    obtain ⟨closes, apart⟩ := apart
    exact (from_closes closes).trans (congrArg (piece :: ·) (ih apart))

theorem pieces_lead (read : pieces cs = lead ++ more) : pieces (spelling lead) = lead :=
  pieces_spelling (apart_append (read ▸ apart_pieces cs))

end ThingWorld.Format
