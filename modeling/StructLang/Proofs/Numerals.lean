import Mathlib.Data.List.TakeWhile
import StructLang.Proofs.Alphabet
import StructLang.Text.Numeral

/-!
# Runs of digits that have a value

A number of a source text is a run of digits, and the digits of a text include more than those of
the decimal scripts. A run of digits has a value exactly if all of them are decimal and there are
not too many.
-/

namespace StructLang

open Alphabet

/-! ## What a digit is not -/

theorem Alphabet.increasing_wideBlankRanges : Increasing wideBlankRanges :=
  increasing_of_isChain (by decide)

theorem Alphabet.areApart_digits_blanks : areApart digitRanges wideBlankRanges = true := by
  decide +kernel

/-- No digit is a blank. -/
theorem Alphabet.surroundsNumeral_eq_false_of_isDigit
    {character : Char} (digit : isDigit character = true) :
    surroundsNumeral character = false := by
  by_cases isAscii : character.toNat < 128
  · simp only [isDigit, isAscii, if_true, Char.isDigit, Bool.and_eq_true,
      decide_eq_true_eq] at digit
    have atLeast : 48 ≤ character.toNat := digit.1
    have noSpace : (character.toNat == 32) = false := by simp; omega
    have noControl : (decide (9 ≤ character.toNat) && decide (character.toNat ≤ 13)) = false := by
      simp
      omega
    rw [surroundsNumeral, if_pos isAscii, noSpace, noControl, Bool.or_false]
  · simp only [isDigit, isAscii, if_false] at digit
    simp only [surroundsNumeral, isAscii, if_false]
    have apart := apart_of_areApart increasing_digitRanges increasing_wideBlankRanges
      areApart_digits_blanks
    exact inRanges_eq_false_of_apart apart digit

namespace Text

/-- A digit is neither a sign nor an underscore. -/
theorem ne_of_isDigit
    {character other : Char} (digit : isDigit character = true) (noDigit : isDigit other = false) :
    character ≠ other := by
  intro same
  rw [same, noDigit] at digit
  cases digit

theorem isNumeralPart_of_isDigit
    {character : Char} (digit : isDigit character = true) :
    isNumeralPart character = (decimalValue? character).isSome := by
  have noUnderscore : (character == '_') = false :=
    beq_eq_false_iff_ne.mpr (ne_of_isDigit digit (by decide))
  rw [isNumeralPart, noUnderscore, Bool.false_or]

/-- Where no underscore stands, none stands in a wrong place. -/
theorem separatorsFit_of_isDigit
    {characters : List Char} (digits : ∀ character ∈ characters, isDigit character = true) :
    separatorsFit characters = true := by
  have noUnderscore : isDigit '_' = false := by decide
  fun_induction separatorsFit characters with
  | case1 => rfl
  | case2 =>
      rw [digits '_' List.mem_cons_self] at noUnderscore
      cases noUnderscore
  | case3 => rfl
  | case4 =>
      rw [digits '_' (.tail _ List.mem_cons_self)] at noUnderscore
      cases noUnderscore
  | case5 _ _ _ _ _ inductionHypothesis =>
      exact inductionHypothesis fun character member => digits character (.tail _ member)

/-- A run of digits is read as it stands, without blanks and signs. -/
theorem readNumeral_of_digits
    {text : String} (notEmpty : text.toList ≠ [])
    (digits : ∀ character ∈ text.toList, isDigit character = true) :
    readNumeral text =
      if greatestDigitCount <
          ((text.toList.takeWhile isNumeralPart).filterMap decimalValue?).length then
        .error (.tooLong
          ((text.toList.takeWhile isNumeralPart).filterMap decimalValue?).length)
      else if ((text.toList.takeWhile isNumeralPart).filterMap decimalValue?).isEmpty ||
          !(text.toList.dropWhile isNumeralPart).all surroundsNumeral then
        .error (.malformed text)
      else
        .ok (valueOfDigits ((text.toList.takeWhile isNumeralPart).filterMap decimalValue?)) := by
  obtain ⟨first, others, isText⟩ := List.exists_cons_of_ne_nil notEmpty
  have digitFirst : isDigit first = true := digits first (isText ▸ List.mem_cons_self)
  have untrimmed : text.toList.dropWhile surroundsNumeral = text.toList := by
    rw [isText, List.dropWhile_cons_of_neg]
    rw [surroundsNumeral_eq_false_of_isDigit digitFirst]
    exact Bool.false_ne_true
  have fits : separatorsFit (text.toList.takeWhile isNumeralPart) = true := by
    apply separatorsFit_of_isDigit
    intro character member
    exact digits character (List.takeWhile_subset _ member)
  have noMinus : first ≠ '-' := ne_of_isDigit digitFirst (by decide)
  have noPlus : first ≠ '+' := ne_of_isDigit digitFirst (by decide)
  simp only [readNumeral, untrimmed]
  split
  case h_1 isMinus =>
    rw [isText] at isMinus
    exact absurd (List.cons.inj isMinus).1 noMinus
  case h_2 isPlus =>
    rw [isText] at isPlus
    exact absurd (List.cons.inj isPlus).1 noPlus
  case h_3 =>
    simp only [fits, Bool.not_true, Bool.false_eq_true, if_false]

/-- A run of digits has a value exactly if all of them are decimal and there are not too many. -/
theorem readNumeral_isOk_iff
    {text : String} (notEmpty : text.toList ≠ [])
    (digits : ∀ character ∈ text.toList, isDigit character = true) :
    (∃ value, readNumeral text = .ok value) ↔
      (∀ character ∈ text.toList, (decimalValue? character).isSome) ∧
        text.toList.length ≤ greatestDigitCount := by
  rw [readNumeral_of_digits notEmpty digits]
  by_cases decimal : ∀ character ∈ text.toList, (decimalValue? character).isSome
  · have areParts : ∀ character ∈ text.toList, isNumeralPart character = true := by
      intro character member
      rw [isNumeralPart_of_isDigit (digits character member)]
      exact decimal character member
    have whole : text.toList.takeWhile isNumeralPart = text.toList :=
      List.takeWhile_eq_self_iff.mpr areParts
    have nothingLeft : text.toList.dropWhile isNumeralPart = [] :=
      List.dropWhile_eq_nil_iff.mpr areParts
    have count : (text.toList.filterMap decimalValue?).length = text.toList.length :=
      List.filterMap_length_eq_length.mpr decimal
    have someDigits : (text.toList.filterMap decimalValue?).isEmpty = false := by
      rw [List.isEmpty_eq_false_iff, ← List.length_pos_iff, count]
      exact List.length_pos_iff.mpr notEmpty
    rw [whole, nothingLeft, count, someDigits]
    by_cases tooLong : greatestDigitCount < text.toList.length
    · simp [tooLong, Nat.not_le_of_lt tooLong]
    · simpa [tooLong, Nat.le_of_not_lt tooLong] using decimal
  · have somethingLeft : (text.toList.dropWhile isNumeralPart).all surroundsNumeral = false := by
      cases isLeft : text.toList.dropWhile isNumeralPart with
      | nil =>
          refine absurd (fun character member => ?_) decimal
          rw [← isNumeralPart_of_isDigit (digits character member)]
          exact List.dropWhile_eq_nil_iff.mp isLeft character member
      | cons next others =>
          have inText : next ∈ text.toList := by
            apply (List.dropWhile_suffix isNumeralPart).subset
            rw [isLeft]
            exact List.mem_cons_self
          rw [List.all_cons, surroundsNumeral_eq_false_of_isDigit (digits next inText),
            Bool.false_and]
    rw [somethingLeft]
    simp only [decimal, false_and, iff_false]
    split <;> simp

end Text

end StructLang
