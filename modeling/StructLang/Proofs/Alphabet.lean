import Mathlib.Data.List.Chain
import StructLang.Alphabet.Word

/-!
# Classes of characters do not meet

No character is a digit and a letter. Beyond ASCII both classes are tables of ranges in increasing
order, so one walk along the two tables shows that no two ranges meet.
-/

namespace StructLang.Alphabet

/-! ## Tables in increasing order -/

/-- Whether ranges stand in increasing order. -/
def Increasing (ranges : List (Nat × Nat)) : Prop :=
  ranges.Pairwise fun earlier later => earlier.1 ≤ later.1

/-- Whether no range of one table meets one of the other. Both tables are walked along once. -/
def areApart : List (Nat × Nat) → List (Nat × Nat) → Bool
  | [], _ => true
  | range :: rest, others =>
      let later := others.dropWhile fun other => other.2 < range.1
      later.head?.all (fun next => range.2 < next.1) && areApart rest later

theorem increasing_of_isChain
    {ranges : List (Nat × Nat)}
    (isChain : ranges.IsChain fun earlier later => earlier.1 ≤ later.1) :
    Increasing ranges := by
  have isTrans : IsTrans (Nat × Nat) fun earlier later => earlier.1 ≤ later.1 :=
    ⟨fun _ _ _ first second => Nat.le_trans first second⟩
  exact List.isChain_iff_pairwise.mp isChain

theorem apart_of_areApart
    {ranges others : List (Nat × Nat)} (sorted : Increasing ranges)
    (othersSorted : Increasing others) (apart : areApart ranges others = true) :
    ∀ range ∈ ranges, ∀ other ∈ others, range.2 < other.1 ∨ other.2 < range.1 := by
  induction ranges generalizing others with
  | nil => simp
  | cons head tail inductionHypothesis =>
      obtain ⟨headFirst, tailSorted⟩ := List.pairwise_cons.mp sorted
      simp only [areApart, Bool.and_eq_true] at apart
      obtain ⟨nextApart, tailApart⟩ := apart
      have laterSorted :
          Increasing (others.dropWhile fun other => other.2 < head.1) :=
        othersSorted.sublist (List.dropWhile_sublist _)
      have splitOther (other : Nat × Nat) (member : other ∈ others) :
          other.2 < head.1 ∨ other ∈ others.dropWhile fun other => other.2 < head.1 := by
        rw [← List.takeWhile_append_dropWhile (p := fun other : Nat × Nat => other.2 < head.1)
          (l := others)] at member
        rcases List.mem_append.mp member with isBefore | isLater
        · have endsBefore := List.all_eq_true.mp List.all_takeWhile other isBefore
          exact Or.inl (of_decide_eq_true endsBefore)
        · exact Or.inr isLater
      intro range isRange other isOther
      rcases List.mem_cons.mp isRange with rfl | inTail
      · rcases splitOther other isOther with isBefore | isLater
        · exact Or.inr isBefore
        · cases walked : others.dropWhile fun other => other.2 < range.1 with
          | nil =>
              rw [walked] at isLater
              cases isLater
          | cons next following =>
              rw [walked] at isLater nextApart laterSorted
              have headApart : range.2 < next.1 := by simpa using nextApart
              have notBefore : next.1 ≤ other.1 := by
                rcases List.mem_cons.mp isLater with rfl | inFollowing
                · exact Nat.le_refl _
                · exact (List.pairwise_cons.mp laterSorted).1 other inFollowing
              exact Or.inl (Nat.lt_of_lt_of_le headApart notBefore)
      · rcases splitOther other isOther with isBefore | isLater
        · exact Or.inr (Nat.lt_of_lt_of_le isBefore (headFirst range inTail))
        · exact inductionHypothesis tailSorted laterSorted tailApart range inTail other isLater

theorem inRanges_eq_false_of_apart
    {ranges others : List (Nat × Nat)}
    (apart : ∀ range ∈ ranges, ∀ other ∈ others, range.2 < other.1 ∨ other.2 < range.1)
    {character : Char} (isInside : inRanges ranges character = true) :
    inRanges others character = false := by
  obtain ⟨range, isRange, inRange⟩ := List.any_eq_true.mp isInside
  rw [inRanges, List.any_eq_false]
  intro other isOther inOther
  have areApart := apart range isRange other isOther
  simp only [Bool.and_eq_true, decide_eq_true_eq] at inRange inOther
  omega

/-! ## Digits and letters -/

theorem increasing_digitRanges : Increasing digitRanges :=
  increasing_of_isChain (by decide +kernel)

theorem increasing_letterRanges : Increasing letterRanges :=
  increasing_of_isChain (by decide +kernel)

theorem areApart_digits_letters : areApart digitRanges letterRanges = true := by
  decide +kernel

/-- No digit is a letter. -/
theorem isLetter_eq_false_of_isDigit
    {character : Char} (isDigit : isDigit character = true) :
    isLetter character = false := by
  by_cases isAscii : character.toNat < 128
  · have apart : ∀ code < 128, (Char.ofNat code).isDigit = true →
        (Char.ofNat code).isAlpha = false := by decide
    have apartHere := apart character.toNat isAscii
    rw [Char.ofNat_toNat] at apartHere
    rw [isLetter, if_pos isAscii]
    rw [Alphabet.isDigit, if_pos isAscii] at isDigit
    exact apartHere isDigit
  · simp only [Alphabet.isDigit, isAscii, if_false] at isDigit
    simp only [isLetter, isAscii, if_false]
    have apart := apart_of_areApart increasing_digitRanges increasing_letterRanges
      areApart_digits_letters
    exact inRanges_eq_false_of_apart apart isDigit

/-- No digit starts a word. -/
theorem startsWord_eq_false_of_isDigit
    {character : Char} (isDigit : isDigit character = true) :
    startsWord character = false := by
  have noLetter := isLetter_eq_false_of_isDigit isDigit
  have noUnderscore : (character == '_') = false := by
    rw [beq_eq_false_iff_ne]
    intro isUnderscore
    rw [isUnderscore] at isDigit
    revert isDigit
    decide
  rw [startsWord, noLetter, noUnderscore, Bool.or_false]

end StructLang.Alphabet
