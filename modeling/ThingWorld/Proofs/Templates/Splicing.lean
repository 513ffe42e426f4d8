import Mathlib.Data.List.Forall2
import ThingWorld.Command.Template
import ThingWorld.Proofs.Text.Trimming
namespace ThingWorld.Template

-- The digits of a place stand for a position.
inductive Part where
  | literal (c : Char)
  | place (digits : List Char)
  | rest
deriving DecidableEq, Repr

-- A position that is too large counts as the last one.
def positionIn (digits : List Char) : Nat := min (Nat.ofDigitChars 10 digits 0) lastPosition

namespace Part

def spelling : Part → List Char
  | literal c => [c]
  | place digits => '$' :: digits
  | rest => ['$', '*']

def position? : Part → Option Nat
  | place digits => some (positionIn digits)
  | _ => none

def isPlace : Part → Bool
  | literal _ => false
  | _ => true

-- What stands there in the end when there is a word for every place.
def fill (args : List String) : Part → List Char
  | literal c => [c]
  | place digits => (args[positionIn digits]?.getD "").toList
  | rest => (String.intercalate " " (args.drop 1)).toList

-- The part is read as such when `next` follows it: digits go as far as they can, and a dollar sign that stands for itself
-- is followed by nothing that would make it a place.
def Closes : Part → List Char → Prop
  | literal c, next => c = '$' → ∀ d ∈ next.head?, d ≠ '*' ∧ Text.isDigit d = false
  | place digits, next => digits ≠ [] ∧ (∀ d ∈ digits, Text.isDigit d = true) ∧ ∀ d ∈ next.head?, Text.isDigit d = false
  | rest, _ => True

end Part

def Apart : List Part → Prop
  | [] => True
  | part :: rest => part.Closes (rest.flatMap Part.spelling) ∧ Apart rest

-- The parts spell the line, and each of them ends where it would be read to end.
structure Parsed (line : List Char) (parts : List Part) : Prop where
  spells : parts.flatMap Part.spelling = line
  apart : Apart parts

def partsFrom : FillState → List Char → List Part
  | .text, [] => []
  | .dollar, [] => [.literal '$']
  | .digits seen, [] => [.place seen.reverse]
  | .text, c :: r => if c = '$' then partsFrom .dollar r else .literal c :: partsFrom .text r
  | .dollar, c :: r =>
    if c = '*' then .rest :: partsFrom .text r
    else if Text.isDigit c then partsFrom (.digits [c]) r
    else .literal '$' :: if c = '$' then partsFrom .dollar r else .literal c :: partsFrom .text r
  | .digits seen, c :: r =>
    if Text.isDigit c then partsFrom (.digits (c :: seen)) r
    else .place seen.reverse :: if c = '$' then partsFrom .dollar r else .literal c :: partsFrom .text r

variable {c : Char} {cs next seen digits : List Char} {state : FillState} {part : Part} {parts more : List Part}
  {args : List String}

section Reading

theorem text_dollar : partsFrom .text ('$' :: cs) = partsFrom .dollar cs := rfl

theorem text_plain (plain : c ≠ '$') : partsFrom .text (c :: cs) = .literal c :: partsFrom .text cs := if_neg plain

theorem dollar_digit (digit : Text.isDigit c = true) : partsFrom .dollar (c :: cs) = partsFrom (.digits [c]) cs := by
  have star : c ≠ '*' := by
    rintro rfl
    cases digit
  simp [partsFrom, star, digit]

theorem dollar_other (star : c ≠ '*') (other : Text.isDigit c = false) :
    partsFrom .dollar (c :: cs) = .literal '$' :: partsFrom .text (c :: cs) := by
  simp [partsFrom, star, other]

theorem digits_digit (digit : Text.isDigit c = true) :
    partsFrom (.digits seen) (c :: cs) = partsFrom (.digits (c :: seen)) cs := by
  simp [partsFrom, digit]

theorem digits_other (other : Text.isDigit c = false) :
    partsFrom (.digits seen) (c :: cs) = .place seen.reverse :: partsFrom .text (c :: cs) := by
  simp [partsFrom, other]

-- What was read and is not yet a part.
def held : FillState → List Char
  | .text => []
  | .dollar => ['$']
  | .digits seen => '$' :: seen.reverse

-- The digits of a state are digits.
def Begun : FillState → Prop
  | .digits seen => seen ≠ [] ∧ ∀ d ∈ seen, Text.isDigit d = true
  | _ => True

theorem parsed_cons (part : Part) (closes : part.Closes cs) (parsed : Parsed cs parts) :
    Parsed (part.spelling ++ cs) (part :: parts) := by
  obtain ⟨rfl, apart⟩ := parsed
  exact ⟨List.flatMap_cons, closes, apart⟩

theorem closes_literal (plain : c ≠ '$') (next : List Char) : (Part.literal c).Closes next :=
  fun dollar => absurd dollar plain

theorem closes_place (begun : Begun (.digits seen)) (stops : ∀ d ∈ next.head?, Text.isDigit d = false) :
    (Part.place seen.reverse).Closes next :=
  ⟨by simpa using begun.1, by simpa using begun.2, stops⟩

theorem parsed_from (state : FillState) (begun : Begun state) : Parsed (held state ++ cs) (partsFrom state cs) := by
  induction cs generalizing state with
  | nil =>
    cases state with
    | text => exact ⟨rfl, trivial⟩
    | dollar => exact ⟨rfl, by simp [Part.Closes], trivial⟩
    | digits seen => exact ⟨by simp [partsFrom, held, Part.spelling], closes_place begun (by simp), trivial⟩
  | cons c cs ih =>
    have fresh : Parsed (c :: cs) (partsFrom .text (c :: cs)) := by
      by_cases dollar : c = '$'
      · subst dollar
        exact ih .dollar trivial
      · rw [text_plain dollar]
        exact parsed_cons (.literal c) (closes_literal dollar cs) (ih .text trivial)
    cases state with
    | text => exact fresh
    | dollar =>
      by_cases star : c = '*'
      · subst star
        exact parsed_cons .rest trivial (ih .text trivial)
      cases digit : Text.isDigit c with
      | true =>
        rw [dollar_digit digit]
        exact ih (.digits [c]) ⟨by simp, by simpa using digit⟩
      | false =>
        rw [dollar_other star digit]
        exact parsed_cons (.literal '$') (by simp [Part.Closes, star, digit]) fresh
    | digits seen =>
      cases digit : Text.isDigit c with
      | true =>
        have parsed := ih (.digits (c :: seen)) ⟨by simp, by simpa using ⟨digit, begun.2⟩⟩
        simpa [digits_digit digit, held] using parsed
      | false =>
        rw [digits_other digit]
        exact parsed_cons (.place seen.reverse) (closes_place begun (by simpa using digit)) fresh

theorem parsed_parts (line : List Char) : Parsed line (partsFrom .text line) :=
  parsed_from .text trivial

theorem partsFrom_digits (all : ∀ d ∈ digits, Text.isDigit d = true) (seen next : List Char) :
    partsFrom (.digits seen) (digits ++ next) = partsFrom (.digits (digits.reverse ++ seen)) next := by
  induction digits generalizing seen with
  | nil => rfl
  | cons d digits ih =>
    rw [List.cons_append, digits_digit (all d List.mem_cons_self), ih fun c member => all c (List.mem_cons_of_mem d member)]
    simp

theorem partsFrom_closed (closes : part.Closes next) :
    partsFrom .text (part.spelling ++ next) = part :: partsFrom .text next := by
  cases part with
  | literal c =>
    by_cases dollar : c = '$'
    · subst dollar
      cases next with
      | nil => rfl
      | cons d next =>
        obtain ⟨star, other⟩ := closes rfl d rfl
        exact dollar_other star other
    · exact text_plain dollar
  | place digits =>
    obtain ⟨some, all, stops⟩ := closes
    cases digits with
    | nil => exact absurd rfl some
    | cons first digits =>
      calc partsFrom .text ('$' :: first :: digits ++ next)
        _ = partsFrom (.digits [first]) (digits ++ next) := dollar_digit (all first List.mem_cons_self)
        _ = partsFrom (.digits (first :: digits).reverse) next := by
          rw [partsFrom_digits fun d member => all d (List.mem_cons_of_mem first member), List.reverse_cons]
        _ = .place (first :: digits) :: partsFrom .text next := by
          cases next with
          | nil => simp [partsFrom]
          | cons d next => rw [digits_other (stops d rfl), List.reverse_reverse]
  | rest => rfl

theorem parsed_unique (parsed : Parsed cs parts) : parts = partsFrom .text cs := by
  obtain ⟨rfl, apart⟩ := parsed
  induction parts with
  | nil => rfl
  | cons part parts ih =>
    obtain ⟨closes, apart⟩ := apart
    rw [List.flatMap_cons, partsFrom_closed closes, ← ih apart]

end Reading

section Filling

variable {α β γ : Type}

-- The result, unless there is a position without a word; the first such position counts.
def unlessMissing (args : List String) (positions : List Nat) (result : α) : Except Failure α :=
  match positions.find? fun position => args.length ≤ position with
  | some position => .error (.notEnoughArguments (args.head?.getD "") position)
  | none => .ok result

theorem unlessMissing_append (args : List String) (before after : List Nat) (a : α) (b : β) (f : α → β → γ) :
    unlessMissing args (before ++ after) (f a b) = do
      let a ← unlessMissing args before a
      let b ← unlessMissing args after b
      return f a b := by
  unfold unlessMissing
  rw [List.find?_append]
  cases before.find? fun position => args.length ≤ position with
  | some position => rfl
  | none => cases after.find? fun position => args.length ≤ position <;> rfl

theorem argAt_place (args : List String) (seen : List Char) :
    argAt args (positionOf seen) =
      unlessMissing args (Part.place seen.reverse).position?.toList ((Part.place seen.reverse).fill args) := by
  unfold argAt unlessMissing
  simp only [Part.position?, Part.fill, positionOf, ← positionIn.eq_def, Option.toList_some, List.find?_singleton]
  generalize positionIn seen.reverse = position
  by_cases short : args.length ≤ position
  · simp [short]
  · simp [short, Nat.lt_of_not_le short]

-- The words are put where the places are.
def filled (args : List String) (parts : List Part) : Except Failure (List Char) :=
  unlessMissing args (parts.filterMap Part.position?) (parts.flatMap (Part.fill args))

theorem filled_cons (args : List String) (part : Part) (parts : List Part) :
    filled args (part :: parts) = do
      let out ← unlessMissing args part.position?.toList (part.fill args)
      let more ← filled args parts
      return out ++ more := by
  have positions : (part :: parts).filterMap Part.position? =
      part.position?.toList ++ parts.filterMap Part.position? := by
    cases found : part.position? <;> simp [found]
  rw [filled, positions, List.flatMap_cons, unlessMissing_append]
  rfl

theorem filled_literal (args : List String) (c : Char) (parts : List Part) :
    filled args (.literal c :: parts) = (filled args parts).map (c :: ·) := by
  rw [filled_cons]
  cases filled args parts <;> rfl

theorem filled_rest (args : List String) (parts : List Part) :
    filled args (.rest :: parts) = (filled args parts).map (restOf args ++ ·) := by
  rw [filled_cons, restOf, ← List.drop_one]
  cases filled args parts <;> rfl

-- Filling a line while reading it comes to the same as reading it first.
theorem fillFrom_parts (args : List String) (state : FillState) (cs : List Char) :
    fillFrom args state cs = filled args (partsFrom state cs) := by
  induction cs generalizing state with
  | nil =>
    cases state with
    | text => rfl
    | dollar => rfl
    | digits seen =>
      rw [fillFrom, partsFrom, filled_cons, argAt_place]
      cases unlessMissing args (Part.place seen.reverse).position?.toList ((Part.place seen.reverse).fill args) with
      | error failure => rfl
      | ok out =>
        show Except.ok out = Except.ok (out ++ [])
        rw [List.append_nil]
  | cons c cs ih =>
    have fresh : (if c = '$' then fillFrom args .dollar cs else (fillFrom args .text cs).map (c :: ·)) =
        filled args (if c = '$' then partsFrom .dollar cs else .literal c :: partsFrom .text cs) := by
      split
      · exact ih .dollar
      · rw [filled_literal, ih]
    cases state with
    | text => exact fresh
    | dollar =>
      unfold fillFrom partsFrom
      by_cases star : c = '*'
      · simp only [star, if_true, filled_rest, ih]
      cases digit : Text.isDigit c with
      | true => simp only [star, if_false, if_true, ih]
      | false =>
        simp only [star, if_false, Bool.false_eq_true, filled_literal, ← fresh]
        by_cases dollar : c = '$'
        · simp only [dollar, if_true]
        · simp only [dollar, if_false]
          cases fillFrom args .text cs <;> rfl
    | digits seen =>
      unfold fillFrom partsFrom
      cases digit : Text.isDigit c with
      | true => simp only [if_true, ih]
      | false =>
        simp only [if_false, Bool.false_eq_true, filled_cons, ← argAt_place, ← fresh]
        split <;> rfl

theorem fillAll_parts (args : List String) (lines : List (List Char)) :
    (lines.mapM fun line => (fillFrom args .text line).map String.ofList) =
      unlessMissing args ((lines.map (partsFrom .text)).flatten.filterMap Part.position?)
        ((lines.map (partsFrom .text)).map fun parts => String.ofList (parts.flatMap (Part.fill args))) := by
  induction lines with
  | nil => rfl
  | cons line lines ih =>
    rw [List.mapM_cons, ih, fillFrom_parts, List.map_cons, List.flatten_cons, List.filterMap_append, List.map_cons,
      unlessMissing_append (f := List.cons)]
    unfold filled unlessMissing
    cases ((partsFrom .text line).filterMap Part.position?).find? fun position => args.length ≤ position <;> rfl

end Filling

section Owners

-- The lines of a template that show something, as they are written.
def shownLines (template : String) : List (List Char) :=
  ((Text.lines template.toList).map Text.trim).filter fun line => !line.isEmpty

def places (parts : List Part) : List Part := parts.filter Part.isPlace

variable {body name : List Char} {first : Char}

theorem replaceFrom_skip (part new : List Char) (skip : Nat) (cs : List Char) :
    Text.replaceFrom part new skip cs = Text.replace part new (cs.drop skip) := by
  induction cs generalizing skip with
  | nil => simp [Text.replace, Text.replaceFrom]
  | cons c cs ih =>
    cases skip with
    | zero => rfl
    | succ skip => simp [Text.replaceFrom, ih]

theorem replace_here (first : Char) (body new cs : List Char) :
    Text.replace (first :: body) new (first :: body ++ cs) = new ++ Text.replace (first :: body) new cs := by
  have replaced : Text.replace (first :: body) new (first :: (body ++ cs)) =
      new ++ Text.replaceFrom (first :: body) new body.length (body ++ cs) := by
    simp [Text.replace, Text.replaceFrom]
  rw [List.cons_append, replaced, replaceFrom_skip, List.drop_left]

theorem replace_on {part new : List Char} (elsewhere : ¬ part <+: c :: cs) :
    Text.replace part new (c :: cs) = c :: Text.replace part new cs := by
  have elsewhere : part.isPrefixOf (c :: cs) = false :=
    Bool.eq_false_iff.mpr fun begins => elsewhere (List.isPrefixOf_iff_prefix.mp begins)
  simp [Text.replace, Text.replaceFrom, elsewhere]

-- What a character adds, and how it leaves the reading, does not depend on what follows it.
theorem partsFrom_step (state : FillState) (c : Char) :
    ∃ lead next, ∀ cs, partsFrom state (c :: cs) = lead ++ partsFrom next cs := by
  have fresh : ∃ lead next, ∀ cs, partsFrom .text (c :: cs) = lead ++ partsFrom next cs := by
    by_cases dollar : c = '$'
    · exact ⟨[], .dollar, fun cs => by subst dollar; rfl⟩
    · exact ⟨[.literal c], .text, fun cs => text_plain dollar⟩
  obtain ⟨lead, next, step⟩ := fresh
  cases state with
  | text => exact ⟨lead, next, step⟩
  | dollar =>
    by_cases star : c = '*'
    · exact ⟨[.rest], .text, fun cs => by subst star; rfl⟩
    cases digit : Text.isDigit c with
    | true => exact ⟨[], .digits [c], fun cs => dollar_digit digit⟩
    | false => exact ⟨.literal '$' :: lead, next, fun cs => by rw [dollar_other star digit, step]; rfl⟩
  | digits seen =>
    cases digit : Text.isDigit c with
    | true => exact ⟨[], .digits (c :: seen), fun cs => digits_digit digit⟩
    | false => exact ⟨.place seen.reverse :: lead, next, fun cs => by rw [digits_other digit, step]; rfl⟩

theorem places_plain (body : List Char) (plain : '$' ∉ body) (cs : List Char) :
    places (partsFrom .text (body ++ cs)) = places (partsFrom .text cs) := by
  induction body with
  | nil => rfl
  | cons c body ih =>
    rw [List.mem_cons, not_or] at plain
    rw [List.cons_append, text_plain (Ne.symm plain.1), ← ih plain.2]
    rfl

-- A text that begins with no digit and no star, and has no dollar sign, ends whatever place came before it.
theorem places_name (first : Text.isDigit c = false ∧ c ≠ '*' ∧ c ≠ '$') (plain : '$' ∉ body) (state : FillState)
    (cs : List Char) : places (partsFrom state (c :: body ++ cs)) =
      places (partsFrom state []) ++ places (partsFrom .text cs) := by
  obtain ⟨digit, star, dollar⟩ := first
  have fresh : places (partsFrom .text (c :: body ++ cs)) = places (partsFrom .text cs) :=
    places_plain (c :: body) (by simp [dollar.symm, plain]) cs
  cases state with
  | text => exact fresh
  | dollar =>
    rw [List.cons_append, dollar_other star digit, ← fresh]
    rfl
  | digits seen =>
    rw [List.cons_append, digits_other digit, ← fresh]
    rfl

theorem places_replace (sign : Text.isDigit first = false ∧ first ≠ '*' ∧ first ≠ '$') (old : '$' ∉ body)
    (new : '$' ∉ name) (state : FillState) (cs : List Char) :
    places (partsFrom state (Text.replace (first :: body) (first :: name) cs)) = places (partsFrom state cs) := by
  induction length : cs.length using Nat.strongRecOn generalizing state cs with
  | ind length ih =>
    subst length
    by_cases begins : first :: body <+: cs
    · obtain ⟨rest, rfl⟩ := begins
      have shorter : rest.length < (first :: body ++ rest).length := by
        rw [List.length_append, List.length_cons]
        omega
      rw [replace_here, places_name sign new, places_name sign old, ih _ shorter .text rest rfl]
    · cases cs with
      | nil => rfl
      | cons c cs =>
        obtain ⟨lead, next, step⟩ := partsFrom_step state c
        rw [replace_on begins, step, step, places, places, List.filter_append, List.filter_append]
        exact congrArg (lead.filter Part.isPlace ++ ·) (ih _ (Nat.lt_succ_self _) next cs rfl)

theorem shown_replace {part new : List Char} (visible : ∃ d ∈ new, Text.isBlank d = false)
    (shown : ∃ d ∈ cs, Text.isBlank d = false) : ∃ d ∈ Text.replace part new cs, Text.isBlank d = false := by
  induction cs with
  | nil => simp at shown
  | cons c cs ih =>
    by_cases begins : part.isPrefixOf (c :: cs) = true
    · obtain ⟨d, member, visible⟩ := visible
      refine ⟨d, ?_, visible⟩
      simp [Text.replace, Text.replaceFrom, begins, member]
    · rw [replace_on fun found => begins (List.isPrefixOf_iff_prefix.mpr found)]
      obtain ⟨d, member, shows⟩ := shown
      rcases List.mem_cons.mp member with rfl | member
      · exact ⟨d, List.mem_cons_self, shows⟩
      · obtain ⟨d, member, shows⟩ := ih ⟨d, member, shows⟩
        exact ⟨d, List.mem_cons_of_mem c member, shows⟩

theorem showId_chars (this : ThingId) : (showId this).toList = '%' :: Nat.toDigits 10 this.toNat := by
  simp [showId, Text.showNat]

theorem not_dollar_digits (n : Nat) : '$' ∉ Nat.toDigits 10 n :=
  fun member => nomatch Nat.isDigit_of_mem_toDigits (by decide) (by decide) member

theorem templateLines_shown {template : String} {this : ThingId} {line : List Char}
    (member : line ∈ templateLines template this) : ∃ c ∈ line, Text.isBlank c = false := by
  obtain ⟨written, kept, rfl⟩ := List.mem_map.mp member
  obtain ⟨among, some⟩ := List.mem_filter.mp kept
  obtain ⟨raw, _, rfl⟩ := List.mem_map.mp among
  refine shown_replace ⟨'%', by simp [showId_chars], rfl⟩ ?_
  rcases List.eq_nil_or_concat (Text.trim raw) with empty | ⟨front, c, ends⟩
  · simp [empty] at some
  · exact ⟨c, by simp [ends], trimEnd_ends (Text.trimStart raw) c (by simp [← Text.trim.eq_def, ends])⟩

end Owners

end ThingWorld.Template
