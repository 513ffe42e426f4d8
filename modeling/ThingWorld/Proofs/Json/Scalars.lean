import Mathlib.Data.List.TakeDrop
import ThingWorld.Json.Printer
import ThingWorld.Json.Reader
namespace ThingWorld.Json

-- What may follow a value: the end, a blank, a comma or the end of a container.
def Closes (rest : List Char) : Prop :=
  ∀ c ∈ rest.head?, isSpace c = true ∨ c = ',' ∨ c = ']' ∨ c = '\x7d'

theorem closes_nil : Closes [] := nofun

theorem closes_cons {c : Char} {rest : List Char} :
    Closes (c :: rest) ↔ isSpace c = true ∨ c = ',' ∨ c = ']' ∨ c = '\x7d' := by
  simp [Closes]

section Numbers

variable {rest : List Char}

theorem closes_head {c : Char} (closes : Closes (c :: rest)) :
    Text.isDigit c = false ∧ c ≠ '.' ∧ c ≠ 'e' ∧ c ≠ 'E' := by
  rcases closes_cons.mp closes with space | rfl | rfl | rfl
  · simp only [isSpace, Bool.or_eq_true, beq_iff_eq] at space
    obtain ((rfl | rfl) | rfl) | rfl := space <;> decide
  all_goals decide

theorem takeDigits_append {digits : List Char} (all : ∀ c ∈ digits, Text.isDigit c = true)
    (closes : Closes rest) : takeDigits (digits ++ rest) = (digits, rest) := by
  have stops : rest.takeWhile Text.isDigit = [] ∧ rest.dropWhile Text.isDigit = rest := by
    cases rest with
    | nil => exact ⟨rfl, rfl⟩
    | cons c more => simp [(closes_head closes).1]
  rw [takeDigits, List.span_eq_takeWhile_dropWhile, List.takeWhile_append_of_pos all, List.dropWhile_append_of_pos all,
    stops.1, stops.2, List.append_nil]

theorem all_digits (n : Nat) : ∀ c ∈ Nat.toDigits 10 n, Text.isDigit c = true :=
  fun _ among => Nat.isDigit_of_mem_toDigits (by decide) (by decide) among

theorem leading_digit {n : Nat} (positive : 0 < n) (more : List Char) : Nat.toDigits 10 n ≠ '0' :: more := by
  induction n using Nat.strongRecOn generalizing more with
  | ind n ih =>
    by_cases small : n < 10
    · rw [Nat.toDigits_of_lt_base small]
      intro same
      have digits : ∀ digit < 10, 0 < digit → Nat.digitChar digit ≠ '0' := by decide
      exact digits n small positive (List.cons.inj same).1
    · have big : 10 ≤ n := Nat.le_of_not_lt small
      rw [Nat.toDigits_of_base_le (by decide) big]
      cases led : Nat.toDigits 10 (n / 10) with
      | nil => exact absurd led Nat.toDigits_ne_nil
      | cons c others =>
        intro same
        obtain ⟨rfl, -⟩ := List.cons.inj same
        exact ih (n / 10) (by omega) (by omega) others led

theorem toDigits_cons (n : Nat) : ∃ c more, Nat.toDigits 10 n = c :: more ∧ Text.isDigit c = true := by
  cases led : Nat.toDigits 10 n with
  | nil => exact absurd led Nat.toDigits_ne_nil
  | cons c more => exact ⟨c, more, rfl, all_digits n c (by rw [led]; exact List.mem_cons_self)⟩

theorem readWhole_toDigits (n : Nat) (closes : Closes rest) :
    readWhole (Nat.toDigits 10 n ++ rest) = some (Nat.toDigits 10 n, rest) := by
  by_cases zero : n = 0
  · subst zero
    rfl
  · have taken := takeDigits_append (all_digits n) closes
    have positive := leading_digit (Nat.pos_of_ne_zero zero)
    obtain ⟨c, more, spelled, _⟩ := toDigits_cons n
    rw [spelled] at taken positive ⊢
    unfold readWhole
    split
    · rename_i same
      obtain ⟨rfl, -⟩ := List.cons.inj same
      exact absurd rfl (positive more)
    · rw [taken]

theorem readFraction_closes (closes : Closes rest) : readFraction rest = some ([], rest) := by
  unfold readFraction
  split
  · exact absurd rfl (closes_head closes).2.1
  · rfl

theorem readExponent_closes (closes : Closes rest) : readExponent rest = some ([], rest) := by
  cases rest with
  | nil => rfl
  | cons c more =>
    obtain ⟨_, _, lower, upper⟩ := closes_head closes
    simp [readExponent, lower, upper]

theorem readMagnitude_toDigits (negative : Bool) (n : Nat) (closes : Closes rest) :
    readMagnitude negative (Nat.toDigits 10 n ++ rest) = some (classify negative (Nat.toDigits 10 n) [] [], rest) := by
  simp only [readMagnitude, readWhole_toDigits n closes, readFraction_closes closes, readExponent_closes closes,
    Option.bind_eq_bind, Option.bind_some]

theorem readNumber_showInt {n : Int} (word : isWord n = true) (closes : Closes rest) :
    readNumber ((Text.showInt n).toList ++ rest) = some (integer n, rest) := by
  unfold Text.showInt
  split
  · rename_i negative
    have spelled : ("-" ++ Text.showNat n.natAbs).toList ++ rest = '-' :: (Nat.toDigits 10 n.natAbs ++ rest) := by
      simp [Text.showNat]
    have back : -(n.natAbs : Int) = n := by omega
    have nonzero : (n == 0) = false := by rw [beq_eq_false_iff_ne]; omega
    rw [spelled, readNumber, readMagnitude_toDigits true _ closes, classify, Nat.ofDigitChars_ten_toDigits]
    simp only [↓reduceIte, back, word, nonzero]
    rfl
  · rename_i positive
    have back : (n.natAbs : Int) = n := by omega
    have read := readMagnitude_toDigits false n.natAbs closes
    obtain ⟨c, more, spelled, digit⟩ := toDigits_cons n.natAbs
    rw [classify, Nat.ofDigitChars_ten_toDigits] at read
    rw [Text.showNat, String.toList_ofList]
    rw [spelled] at read ⊢
    unfold readNumber
    split
    · rename_i same
      obtain ⟨rfl, -⟩ := List.cons.inj same
      exact absurd digit (by decide)
    · rw [read]
      simp [back, word]

end Numbers

section Words

theorem readWord_append (word : String) (value : Json) (rest : List Char) :
    readWord word value (word.toList ++ rest) = some (value, rest) := by
  rw [readWord, if_pos (List.isPrefixOf_iff_prefix.mpr (List.prefix_append _ _)), ← String.length_toList,
    List.drop_left]

end Words

section Texts

variable {seen rest : List Char}

theorem hexValue_hexDigit : ∀ n < 16, Text.hexValue? (hexDigit n) = some n := by
  decide

theorem readEscape_control {c : Char} (low : c.toNat < 32) (rest : List Char) :
    readEscape ('u' :: '0' :: '0' :: hexDigit (c.toNat / 16) :: hexDigit (c.toNat % 16) :: rest) = some (some c, rest) := by
  have zero : Text.hexValue? '0' = some 0 := by decide
  have high := hexValue_hexDigit (c.toNat / 16) (by omega)
  have low' := hexValue_hexDigit (c.toNat % 16) (by omega)
  have whole : (0 * 16 + 0) * 256 + c.toNat / 16 * 16 + c.toNat % 16 = c.toNat := by omega
  have unpaired : isHighSurrogate c.toNat = false ∧ isLowSurrogate c.toNat = false := by
    constructor
    · exact Bool.and_eq_false_imp.mpr fun above => by simp at above; omega
    · exact Bool.and_eq_false_imp.mpr fun above => by simp at above; omega
  simp only [readEscape, readHex4, zero, high, low', Option.bind_eq_bind, Option.bind_some, whole, Option.map_some, joinUnit,
    unpaired.1, unpaired.2, Bool.false_eq_true, if_false, Char.ofNat_toNat]

theorem readStringFrom_escapeChar (c : Char) (fuel : Nat) (rest : List Char) :
    readStringFrom (fuel + 1) (some seen) (escapeChar c ++ rest) = readStringFrom fuel (some (c :: seen)) rest := by
  unfold escapeChar
  split
  any_goals rfl
  rename_i notQuote notSlash _ _ _ _ _
  split
  · rename_i low
    simp only [List.cons_append, List.nil_append, readStringFrom, readEscape_control low, Option.bind_eq_bind,
      Option.bind_some, extend]
  · rename_i visible
    rw [List.singleton_append, readStringFrom, if_neg visible, extend]
    · exact notQuote
    · exact notSlash

theorem readStringFrom_quoted (content : List Char) {fuel : Nat} (enough : content.length < fuel) :
    readStringFrom fuel (some seen) (content.flatMap escapeChar ++ '"' :: rest) =
      some (some (String.ofList (seen.reverse ++ content)), rest) := by
  induction content generalizing fuel seen with
  | nil =>
    obtain ⟨fuel, rfl⟩ := Nat.exists_eq_add_one_of_ne_zero (Nat.ne_of_gt enough)
    simp [readStringFrom]
  | cons c content ih =>
    obtain ⟨fuel, rfl⟩ := Nat.exists_eq_add_one_of_ne_zero (Nat.ne_of_gt (Nat.zero_lt_of_lt enough))
    rw [List.flatMap_cons, List.append_assoc, readStringFrom_escapeChar, ih (Nat.lt_of_succ_lt_succ enough),
      List.reverse_cons, List.append_assoc, List.singleton_append]

theorem length_escapeChar (c : Char) : 0 < (escapeChar c).length := by
  unfold escapeChar
  split
  any_goals decide
  split <;> exact Nat.succ_pos _

theorem length_flatMap_escapeChar (content : List Char) : content.length ≤ (content.flatMap escapeChar).length := by
  induction content with
  | nil => exact Nat.le_refl 0
  | cons c content ih =>
    have written := length_escapeChar c
    rw [List.flatMap_cons, List.length_append, List.length_cons]
    omega

theorem readString_quoteChars (s : String) (rest : List Char) :
    readString (s.toList.flatMap escapeChar ++ '"' :: rest) = some (some s, rest) := by
  have enough := length_flatMap_escapeChar s.toList
  rw [readString, readStringFrom_quoted _ (by simp only [List.length_append]; omega), List.reverse_nil, List.nil_append,
    String.ofList_toList]

end Texts

end ThingWorld.Json
