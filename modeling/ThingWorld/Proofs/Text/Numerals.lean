import Mathlib.Data.List.Induction
import ThingWorld.Proofs.Json.Scalars
import ThingWorld.Text.Blank
import ThingWorld.Text.Numeral
namespace ThingWorld

variable {cs : List Char}

-- The digits of a number behind zeros.
def ledDigits (zeros n : Nat) : List Char := List.replicate zeros '0' ++ Nat.toDigits 10 n

inductive Numeral : Int → List Char → Prop
  | plain (zeros n : Nat) : Numeral n (ledDigits zeros n)
  | plus (zeros n : Nat) : Numeral n ('+' :: ledDigits zeros n)
  | minus (zeros n : Nat) : Numeral (-n) ('-' :: ledDigits zeros n)

theorem all_ledDigits (zeros n : Nat) : ∀ c ∈ ledDigits zeros n, Text.isDigit c = true := by
  intro c member
  rcases List.mem_append.mp member with zero | digit
  · rw [List.eq_of_mem_replicate zero]
    rfl
  · exact Json.all_digits n c digit

theorem digits_ledDigits (zeros n : Nat) : Text.digits? (ledDigits zeros n) = some n := by
  unfold Text.digits?
  rw [if_neg (by simp [ledDigits]), if_pos (List.all_eq_true.mpr (all_ledDigits zeros n))]
  simp [ledDigits, Nat.ofDigitChars_append]

theorem digitChar_of_isDigit {c : Char} (digit : Text.isDigit c = true) : ∃ d < 10, c = Nat.digitChar d := by
  simp only [Text.isDigit, Bool.and_eq_true, decide_eq_true_eq, Char.le_def, UInt32.le_iff_toNat_le] at digit
  have low : 48 ≤ c.toNat := digit.1
  have high : c.toNat ≤ 57 := digit.2
  refine ⟨c.toNat - 48, by omega, ?_⟩
  rw [← Char.toNat_inj, Nat.toNat_digitChar_of_lt_ten (by omega)]
  omega

theorem digit_visible {c : Char} (digit : Text.isDigit c = true) : Text.isBlank c = false := by
  obtain ⟨d, small, rfl⟩ := digitChar_of_isDigit digit
  have visible : ∀ d < 10, Text.isBlank (Nat.digitChar d) = false := by decide
  exact visible d small

-- By induction from the last digit: while only zeros were seen the digit begins the number, and then it goes on with it.
theorem eq_ledDigits (digits : ∀ c ∈ cs, Text.isDigit c = true) (some : cs ≠ []) :
    ∃ zeros, cs = ledDigits zeros (Nat.ofDigitChars 10 cs 0) := by
  induction cs using List.reverseRecOn with
  | nil => exact absurd rfl some
  | append_singleton front c ih =>
    obtain ⟨d, small, rfl⟩ := digitChar_of_isDigit (digits c (by simp))
    have value : Nat.ofDigitChars 10 (front ++ [Nat.digitChar d]) 0 = 10 * Nat.ofDigitChars 10 front 0 + d := by
      rw [Nat.ofDigitChars_append, Nat.ofDigitChars_cons_digitChar_of_lt_ten small, Nat.ofDigitChars_nil]
    rw [value]
    by_cases first : front = []
    · exact ⟨0, by simp [ledDigits, first, Nat.toDigits_of_lt_base small]⟩
    · obtain ⟨zeros, led⟩ := ih (fun other member => digits other (List.mem_append_left _ member)) first
      unfold ledDigits at led
      rcases Nat.eq_zero_or_pos (Nat.ofDigitChars 10 front 0) with nothing | counts
      · rw [nothing, Nat.toDigits_zero, ← List.replicate_succ'] at led
        exact ⟨zeros + 1, by simp [ledDigits, nothing, Nat.toDigits_of_lt_base small, ← led]⟩
      · refine ⟨zeros, ?_⟩
        rw [ledDigits, ← Nat.toDigits_append_toDigits (by decide) counts small, Nat.toDigits_of_lt_base small,
          ← List.append_assoc, ← led]

theorem digits_iff {n : Nat} : Text.digits? cs = some n ↔ ∃ zeros, cs = ledDigits zeros n := by
  constructor
  · intro read
    unfold Text.digits? at read
    split at read
    · cases read
    · rename_i some
      split at read
      · rename_i digits
        cases read
        exact eq_ledDigits (List.all_eq_true.mp digits) (by simpa using some)
      · cases read
  · rintro ⟨zeros, rfl⟩
    exact digits_ledDigits zeros n

-- Where a digit comes first there is no sign.
theorem int_unsigned (unsigned : ∀ c ∈ cs.head?, Text.isDigit c = true) :
    Text.int? cs = (Text.digits? cs).map Int.ofNat := by
  unfold Text.int?
  split
  · cases unsigned '+' rfl
  · cases unsigned '-' rfl
  · rfl

theorem int_iff {i : Int} : Text.int? cs = some i ↔ Numeral i cs := by
  constructor
  · intro read
    unfold Text.int? at read
    split at read
    · obtain ⟨n, digits, rfl⟩ := Option.map_eq_some_iff.mp read
      obtain ⟨zeros, rfl⟩ := digits_iff.mp digits
      exact .plus zeros n
    · obtain ⟨_, positive, rfl⟩ := Option.map_eq_some_iff.mp read
      obtain ⟨n, digits, same⟩ := Option.bind_eq_some_iff.mp positive
      obtain ⟨zeros, rfl⟩ := digits_iff.mp digits
      cases same
      exact .minus zeros n
    · obtain ⟨n, digits, rfl⟩ := Option.map_eq_some_iff.mp read
      obtain ⟨zeros, rfl⟩ := digits_iff.mp digits
      exact .plain zeros n
  · rintro (⟨zeros, n⟩ | ⟨zeros, n⟩ | ⟨zeros, n⟩)
    · have digit : ∀ c ∈ (ledDigits zeros n).head?, Text.isDigit c = true :=
        fun c first => all_ledDigits zeros n c (List.mem_of_mem_head? first)
      rw [int_unsigned digit, digits_ledDigits]
      rfl
    · rw [Text.int?, digits_ledDigits]
      rfl
    · rw [Text.int?, digits_ledDigits]
      rfl

theorem numeral_visible {i : Int} (numeral : Numeral i cs) : ∀ c ∈ cs, Text.isBlank c = false := by
  have digits (zeros n : Nat) (c : Char) (member : c ∈ ledDigits zeros n) : Text.isBlank c = false :=
    digit_visible (all_ledDigits zeros n c member)
  cases numeral with
  | plain zeros n => exact digits zeros n
  | plus zeros n => exact List.forall_mem_cons.mpr ⟨rfl, digits zeros n⟩
  | minus zeros n => exact List.forall_mem_cons.mpr ⟨rfl, digits zeros n⟩

theorem numeral_showInt (n : Int) : Numeral n (Text.showInt n).toList := by
  unfold Text.showInt
  split
  · have spelled : ("-" ++ Text.showNat n.natAbs).toList = '-' :: ledDigits 0 n.natAbs := by
      simp [Text.showNat, ledDigits]
    have back : -(n.natAbs : Int) = n := by omega
    rw [spelled, ← congrArg (Numeral · _) back]
    exact .minus 0 n.natAbs
  · have spelled : (Text.showNat n.natAbs).toList = ledDigits 0 n.natAbs := by simp [Text.showNat, ledDigits]
    have back : (n.natAbs : Int) = n := by omega
    rw [spelled, ← congrArg (Numeral · _) back]
    exact .plain 0 n.natAbs

theorem fits_toInt (n : Int64) : Text.fitsInt64 n.toInt = true := by
  have low := n.le_toInt
  have high := n.toInt_lt
  unfold Text.fitsInt64
  rw [Bool.and_eq_true, decide_eq_true_eq, decide_eq_true_eq, Text.halfSize]
  omega

theorem toInt_of_fits {i : Int} (fits : Text.fitsInt64 i = true) : (Int64.ofInt i).toInt = i := by
  unfold Text.fitsInt64 at fits
  rw [Bool.and_eq_true, decide_eq_true_eq, decide_eq_true_eq, Text.halfSize] at fits
  exact Int64.toInt_ofInt_of_le (by omega) (by omega)

theorem int64_iff {n : Int64} {s : String} : Text.int64? s = some n ↔ Numeral n.toInt s.toList := by
  rw [← int_iff, Text.int64?]
  constructor
  · intro read
    obtain ⟨i, kept, rfl⟩ := Option.map_eq_some_iff.mp read
    obtain ⟨found, fits⟩ := Option.filter_eq_some_iff.mp kept
    rw [found, toInt_of_fits fits]
  · intro read
    rw [read, Option.filter_some, if_pos (fits_toInt n), Option.map_some, Int64.ofInt_toInt]

theorem int64_showInt64 (n : Int64) : Text.int64? (Text.showInt64 n) = some n :=
  int64_iff.mpr (numeral_showInt n.toInt)

theorem numeral_natural {i : Int} (numeral : Numeral i cs) (digits : ∀ c ∈ cs, Text.isDigit c = true) : 0 ≤ i := by
  cases numeral with
  | plain zeros n => exact Int.natCast_nonneg n
  | plus zeros n => exact Int.natCast_nonneg n
  | minus zeros n => cases digits '-' List.mem_cons_self

theorem int64_natural {n : Int64} (digits : ∀ c ∈ cs, Text.isDigit c = true)
    (read : Text.int64? (String.ofList cs) = some n) : 0 ≤ n := by
  have numeral := int64_iff.mp read
  rw [String.toList_ofList] at numeral
  exact Int64.le_iff_toInt_le.mpr (numeral_natural numeral digits)

end ThingWorld
