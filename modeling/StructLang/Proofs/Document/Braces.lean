import StructLang.Document.Braces
import StructLang.Proofs.Token.Inside

/-!
# Counting braces

The search for the brace that closes a declaration counts braces line by line. It is the same as a
count over the characters from the start of the line on, which stops at a brace and tells how many
line feeds were passed. While a text closes no brace that it did not open, the count does not stop
in it; where more braces are closed than are open, it does.

- `closingBraceLine?_eq` : the search as a count over characters.
- `closingBraceLine?_within` : the line on which the search ends, between two bounds.
-/

namespace StructLang

namespace Text

variable {text first second : List Char}

/-- How many braces are opened in a text. -/
def openings (text : List Char) : Nat := text.count '\x7b'

/-- How many braces are closed in a text. -/
def closings (text : List Char) : Nat := text.count '\x7d'

@[simp] theorem openings_nil : openings [] = 0 := rfl

@[simp] theorem closings_nil : closings [] = 0 := rfl

@[simp] theorem openings_append
    (first second : List Char) : openings (first ++ second) = openings first + openings second :=
  List.count_append

@[simp] theorem closings_append
    (first second : List Char) : closings (first ++ second) = closings first + closings second :=
  List.count_append

theorem openings_cons
    (character : Char) (text : List Char) :
    openings (character :: text) = openings text + if character = '\x7b' then 1 else 0 := by
  simp [openings, List.count_cons]

theorem closings_cons
    (character : Char) (text : List Char) :
    closings (character :: text) = closings text + if character = '\x7d' then 1 else 0 := by
  simp [closings, List.count_cons]

@[simp] theorem openings_opening
    (text : List Char) : openings ('\x7b' :: text) = openings text + 1 := openings_cons _ _

@[simp] theorem closings_opening
    (text : List Char) : closings ('\x7b' :: text) = closings text := closings_cons _ _

@[simp] theorem openings_closing
    (text : List Char) : openings ('\x7d' :: text) = openings text := openings_cons _ _

@[simp] theorem closings_closing
    (text : List Char) : closings ('\x7d' :: text) = closings text + 1 := closings_cons _ _

/-- No brace stands in a text. -/
def BraceFree (text : List Char) : Prop := openings text = 0 ∧ closings text = 0

/-- A text closes no brace that it did not open. -/
def Covered (text : List Char) : Prop :=
  ∀ front back, text = front ++ back → closings front ≤ openings front

/-- A text closes all braces that it opens and no others. -/
structure Balanced (text : List Char) : Prop where
  covered : Covered text
  ends : closings text = openings text

theorem BraceFree.of_append
    (isFree : BraceFree (first ++ second)) : BraceFree first ∧ BraceFree second := by
  obtain ⟨noOpening, noClosing⟩ := isFree
  simp only [openings_append, closings_append] at noOpening noClosing
  exact ⟨⟨by omega, by omega⟩, by omega, by omega⟩

theorem BraceFree.append
    (isFirst : BraceFree first) (isSecond : BraceFree second) : BraceFree (first ++ second) := by
  simp [BraceFree, isFirst.1, isFirst.2, isSecond.1, isSecond.2]

theorem Covered.of_append
    (isCovered : Covered (first ++ second)) : Covered first := by
  rintro front back rfl
  exact isCovered front (back ++ second) (List.append_assoc _ _ _)

theorem Covered.le
    (isCovered : Covered text) : closings text ≤ openings text :=
  isCovered text [] (List.append_nil text).symm

theorem Covered.append
    (isFirst : Covered first) (isSecond : Covered second) : Covered (first ++ second) := by
  intro front back shape
  rcases List.append_eq_append_iff.mp shape with ⟨middle, rfl, rfl⟩ | ⟨middle, rfl, rfl⟩
  · have before := isFirst.le
    have after := isSecond _ _ rfl
    simp only [openings_append, closings_append]
    omega
  · exact isFirst _ _ rfl

theorem Covered.of_braceFree
    (isFree : BraceFree text) : Covered text := by
  rintro front back rfl
  rw [isFree.of_append.1.2]
  exact Nat.zero_le _

theorem Covered.opening : Covered ['\x7b'] := by
  intro front back shape
  rcases List.singleton_eq_append_iff.mp shape with ⟨rfl, -⟩ | ⟨rfl, -⟩ <;> simp

theorem Balanced.of_braceFree
    (isFree : BraceFree text) : Balanced text :=
  ⟨.of_braceFree isFree, by rw [isFree.1, isFree.2]⟩

theorem Balanced.nil : Balanced [] := .of_braceFree ⟨rfl, rfl⟩

theorem Balanced.append
    (isFirst : Balanced first) (isSecond : Balanced second) : Balanced (first ++ second) :=
  ⟨isFirst.covered.append isSecond.covered, by simp [isFirst.ends, isSecond.ends]⟩

theorem Balanced.enclose
    (isBalanced : Balanced text) : Balanced ('\x7b' :: (text ++ ['\x7d'])) := by
  have ends := isBalanced.ends
  refine ⟨?_, by simp [ends]⟩
  rintro (_ | ⟨character, front⟩) back shape
  · simp
  obtain ⟨rfl, inner⟩ := List.cons.inj shape
  rcases List.append_eq_append_iff.mp inner with ⟨middle, rfl, last⟩ | ⟨middle, rfl, -⟩
  · rcases List.singleton_eq_append_iff.mp last with ⟨rfl, -⟩ | ⟨rfl, -⟩ <;> simp [ends]
  · have inside := isBalanced.covered _ _ rfl
    simp only [closings_opening, openings_opening]
    omega

/-- Characters without braces, and braces around balanced characters. -/
theorem Balanced.braced
    (freeHead : BraceFree first) (isInner : Balanced second) :
    Balanced (first ++ '\x7b' :: (second ++ ['\x7d'])) :=
  (Balanced.of_braceFree freeHead).append isInner.enclose

end Text

namespace BraceCount

open Text

variable {text first second : List Char}

/-! ## Counting over characters -/

theorem line_append
    (count : BraceCount) (first second : List Char) :
    count.line (first ++ second) = (count.line first).bind fun after => after.line second := by
  induction first generalizing count with
  | nil => rfl
  | cons character rest inductionHypothesis =>
      simp only [List.cons_append, line]
      split
      · exact inductionHypothesis _
      · split
        · split
          · rfl
          · exact inductionHypothesis _
        · exact inductionHypothesis _

theorem line_of_braceFree
    (count : BraceCount) (isFree : BraceFree text) : count.line text = some count := by
  induction text with
  | nil => rfl
  | cons character rest inductionHypothesis =>
      obtain ⟨noOpening, noClosing⟩ := isFree
      rw [openings_cons] at noOpening
      rw [closings_cons] at noClosing
      have notOpening : character ≠ '\x7b' := by
        rintro rfl
        simp at noOpening
      have notClosing : character ≠ '\x7d' := by
        rintro rfl
        simp at noClosing
      rw [line, if_neg notOpening, if_neg notClosing]
      exact inductionHypothesis ⟨by omega, by omega⟩

/-- A count from an open brace on ends behind characters that close as many braces as are open, or
it goes on with at least one. -/
theorem line_opened
    {depth : Nat} (isOpen : 1 ≤ depth) (text : List Char) :
    (line ⟨depth, true⟩ text = none ∧
      ∃ front back, text = front ++ back ∧ openings front + depth = closings front) ∨
    ∃ left : Nat, line ⟨depth, true⟩ text = some ⟨left, true⟩ ∧ 1 ≤ left ∧
      left + closings text = depth + openings text := by
  induction text generalizing depth with
  | nil => exact .inr ⟨depth, rfl, isOpen, rfl⟩
  | cons character rest inductionHypothesis =>
      by_cases isOpening : character = '\x7b'
      · subst isOpening
        have isOne : ((depth : Nat) : Int) + 1 = ((depth + 1 : Nat) : Int) := rfl
        simp only [line, if_true, openings_opening, closings_opening, isOne]
        rcases inductionHypothesis (Nat.le_succ_of_le isOpen) with
          ⟨ends, front, back, rfl, same⟩ | ⟨left, goesOn, holds⟩
        · refine .inl ⟨ends, '\x7b' :: front, back, rfl, ?_⟩
          simp only [openings_opening, closings_opening]
          omega
        · exact .inr ⟨left, goesOn, by omega⟩
      · by_cases isClosing : character = '\x7d'
        · subst isClosing
          rw [line, if_neg isOpening, if_pos rfl]
          split
          case isTrue isLast =>
            refine .inl ⟨rfl, ['\x7d'], rest, rfl, ?_⟩
            simpa using Int.ofNat_inj.mp isLast.2
          case isFalse notLast =>
            obtain ⟨further, rfl⟩ : ∃ further, depth = further + 1 := ⟨depth - 1, by omega⟩
            have isFurther : 1 ≤ further := by
              simp at notLast
              omega
            have isLess : ((further + 1 : Nat) : Int) - 1 = (further : Nat) := by omega
            simp only [isLess, openings_closing, closings_closing]
            rcases inductionHypothesis isFurther with
              ⟨ends, front, back, rfl, same⟩ | ⟨left, goesOn, holds⟩
            · refine .inl ⟨ends, '\x7d' :: front, back, rfl, ?_⟩
              simp only [openings_closing, closings_closing]
              omega
            · exact .inr ⟨left, goesOn, by omega⟩
        · have openings (text : List Char) : openings (character :: text) = openings text := by
            rw [openings_cons, if_neg isOpening, Nat.add_zero]
          have closings (text : List Char) : closings (character :: text) = closings text := by
            rw [closings_cons, if_neg isClosing, Nat.add_zero]
          rw [line, if_neg isOpening, if_neg isClosing, openings, closings]
          rcases inductionHypothesis isOpen with ⟨ends, front, back, rfl, same⟩ | goesOn
          · refine .inl ⟨ends, character :: front, back, rfl, ?_⟩
            rw [openings, closings, same]
          · exact .inr goesOn

/-- A count ends where all open braces are closed. -/
theorem line_ends
    {depth : Nat} (isOpen : 1 ≤ depth) (closes : openings text + depth ≤ closings text) :
    line ⟨depth, true⟩ text = none := by
  rcases line_opened isOpen text with ⟨ends, -⟩ | ⟨left, -, isLeft, same⟩
  · exact ends
  · omega

/-- A count does not end while a text closes no brace that it did not open. -/
theorem line_of_covered
    {depth : Nat} (isOpen : 1 ≤ depth) (isCovered : Covered text) :
    ∃ left : Nat, line ⟨depth, true⟩ text = some ⟨left, true⟩ ∧ 1 ≤ left ∧
      left + closings text = depth + openings text := by
  refine (line_opened isOpen text).resolve_left ?_
  rintro ⟨-, front, back, shape, same⟩
  have notMore := isCovered front back shape
  omega

/-- A count ends only at a brace that is closed. -/
theorem closings_ne_zero
    {count : BraceCount} (ends : count.line text = none) : closings text ≠ 0 := by
  induction text generalizing count with
  | nil => cases ends
  | cons character rest inductionHypothesis =>
      rw [line] at ends
      rw [closings_cons]
      split at ends
      · exact Nat.ne_of_gt (Nat.add_pos_left (Nat.pos_of_ne_zero (inductionHypothesis ends)) _)
      · split at ends
        case isTrue isClosing => simp [isClosing]
        case isFalse =>
          exact Nat.ne_of_gt (Nat.add_pos_left (Nat.pos_of_ne_zero (inductionHypothesis ends)) _)

theorem line_of_balanced
    {depth : Nat} (isOpen : 1 ≤ depth) (isBalanced : Balanced text) :
    line ⟨depth, true⟩ text = some ⟨depth, true⟩ := by
  obtain ⟨left, goesOn, -, same⟩ := line_of_covered isOpen isBalanced.covered
  obtain rfl : left = depth := by
    have ends := isBalanced.ends
    omega
  exact goesOn

/-- A count from the start of a text that closes no brace that it did not open: it ends there, or
there is no brace, or some are left open. -/
theorem line_initial
    (isCovered : Covered text) :
    initial.line text = none ∨ BraceFree text ∨
      ∃ depth : Nat, initial.line text = some ⟨depth, true⟩ ∧ 1 ≤ depth ∧
        depth + closings text = openings text := by
  by_cases isThere : '\x7b' ∈ text
  · obtain ⟨front, back, rfl, notBefore⟩ := List.eq_append_cons_of_mem isThere
    have noOpening : openings front = 0 := List.count_eq_zero.mpr notBefore
    have isFree : BraceFree front :=
      ⟨noOpening, Nat.le_zero.mp (noOpening ▸ isCovered.of_append.le)⟩
    rw [line_append, line_of_braceFree _ isFree]
    rcases line_opened (Nat.le_refl 1) back with ⟨ends, -⟩ | ⟨depth, goesOn, isOpen, same⟩
    · exact .inl ends
    · refine .inr (.inr ⟨depth, goesOn, isOpen, ?_⟩)
      simp only [openings_append, closings_append, openings_opening, closings_opening, isFree.1,
        isFree.2]
      omega
  · have noOpening : openings text = 0 := List.count_eq_zero.mpr isThere
    exact .inr (.inl ⟨noOpening, Nat.le_zero.mp (noOpening ▸ isCovered.le)⟩)

/-- A count goes on behind an opening brace without others in front of it. -/
theorem line_braced
    (freeFirst : BraceFree first) (isBalanced : Balanced second) :
    initial.line (first ++ '\x7b' :: second) = some ⟨1, true⟩ := by
  rw [line_append, line_of_braceFree _ freeFirst]
  exact line_of_balanced (Nat.le_refl 1) isBalanced

/-! ## Searching over characters -/

/-- How many line feeds are passed before the brace at which a count ends. -/
def feeds? (count : BraceCount) : List Char → Option Nat
  | [] => none
  | character :: rest =>
      if character = '\n' then (count.feeds? rest).map (· + 1)
      else
        match count.line [character] with
        | none => some 0
        | some after => after.feeds? rest

theorem line_cons
    (count : BraceCount) (character : Char) (rest : List Char) :
    count.line (character :: rest) =
      (count.line [character]).bind fun after => after.line rest :=
  count.line_append [character] rest

theorem feeds?_of_goesOn
    {count after : BraceCount} {first : List Char} (goesOn : count.line first = some after)
    (second : List Char) :
    count.feeds? (first ++ second) = (after.feeds? second).map (first.count '\n' + ·) := by
  induction first generalizing count with
  | nil =>
      obtain rfl := Option.some.inj goesOn
      simp
  | cons character rest inductionHypothesis =>
      rw [line_cons] at goesOn
      rw [List.cons_append, feeds?]
      split
      case isTrue isFeed =>
        subst isFeed
        rw [inductionHypothesis goesOn, Option.map_map, List.count_cons_self]
        refine congrArg (Option.map · _) (funext fun feeds => ?_)
        simp only [Function.comp]
        omega
      case isFalse notFeed =>
        rw [List.count_cons_of_ne notFeed]
        cases isNext : count.line [character] with
        | none =>
            rw [isNext] at goesOn
            cases goesOn
        | some next =>
            rw [isNext] at goesOn
            exact inductionHypothesis goesOn

theorem feeds?_of_ends
    {count : BraceCount} {first : List Char} (ends : count.line first = none) :
    ∃ feeds, feeds ≤ first.count '\n' ∧ ∀ second, count.feeds? (first ++ second) = some feeds := by
  induction first generalizing count with
  | nil => cases ends
  | cons character rest inductionHypothesis =>
      rw [line_cons] at ends
      by_cases isFeed : character = '\n'
      · subst isFeed
        obtain ⟨feeds, notMore, isFound⟩ := inductionHypothesis ends
        refine ⟨feeds + 1, ?_, fun second => ?_⟩
        · rw [List.count_cons_self]
          exact Nat.succ_le_succ notMore
        · rw [List.cons_append, feeds?, if_pos rfl, isFound]
          rfl
      · cases isNext : count.line [character] with
        | none =>
            refine ⟨0, Nat.zero_le _, fun second => ?_⟩
            rw [List.cons_append, feeds?, if_neg isFeed, isNext]
        | some next =>
            rw [isNext] at ends
            obtain ⟨feeds, notMore, isFound⟩ := inductionHypothesis ends
            refine ⟨feeds, notMore.trans List.count_le_count_cons, fun second => ?_⟩
            rw [List.cons_append, feeds?, if_neg isFeed, isNext]
            exact isFound second

/-- Lines with their numbers from a first one on. -/
def numbered (first : Nat) : List String → List (Int × String)
  | [] => []
  | head :: tail => (first, head) :: numbered (first + 1) tail

theorem search_numbered
    (count : BraceCount) (first : Nat) (text : List Char) :
    count.search (numbered first ((parts '\n' text).map String.ofList)) =
      (count.feeds? text).map fun feeds => ((first + feeds : Nat) : Int) := by
  induction text generalizing count first with
  | nil => rfl
  | cons character rest inductionHypothesis =>
      by_cases isFeed : character = '\n'
      · subst isFeed
        rw [feeds?, if_pos rfl, Option.map_map]
        simp only [parts, if_true, List.map_cons, numbered, search, String.toList_ofList, line]
        rw [inductionHypothesis]
        refine congrArg (Option.map · _) (funext fun feeds => ?_)
        simp only [Function.comp]
        omega
      · obtain ⟨part, others, isCut, isCutToo⟩ := parts_cons_of_ne isFeed rest
        rw [feeds?, if_neg isFeed, isCutToo]
        simp only [isCut, List.map_cons, numbered, search, String.toList_ofList]
          at inductionHypothesis ⊢
        rw [line_cons]
        cases count.line [character] with
        | none => simp
        | some next => exact inductionHypothesis next first

end BraceCount

/-! ## Searching from the line of a place on -/

namespace Text

/-- The characters behind the last line feed. -/
def lineFront (before : List Char) : List Char :=
  (before.reverse.takeWhile (· ≠ '\n')).reverse

theorem exists_append_lineFront
    (before : List Char) : ∃ upto, before = upto ++ lineFront before := by
  refine ⟨(before.reverse.dropWhile (· ≠ '\n')).reverse, ?_⟩
  rw [lineFront, ← List.reverse_append, List.takeWhile_append_dropWhile, List.reverse_reverse]

theorem count_lineFront
    (before : List Char) : (lineFront before).count '\n' = 0 := by
  refine List.count_eq_zero.mpr fun isThere => ?_
  have passes := List.mem_takeWhile_imp (List.mem_reverse.mp isThere)
  exact of_decide_eq_true passes rfl

end Text

open BraceCount Text

theorem numbered_ge
    (first : Nat) (lines : List String) :
    ∀ entry ∈ numbered first lines, (first : Int) ≤ entry.1 := by
  induction lines generalizing first with
  | nil => exact List.forall_mem_nil _
  | cons head tail inductionHypothesis =>
      refine List.forall_mem_cons.mpr ⟨Int.le_refl _, fun entry isThere => ?_⟩
      have notBefore := inductionHypothesis (first + 1) entry isThere
      omega

theorem map_zipIdx_eq_numbered
    (lines : List String) (first : Nat) :
    ((lines.zipIdx first).map fun (text, index) => ((index : Int), text)) =
      numbered first lines := by
  induction lines generalizing first with
  | nil => rfl
  | cons head tail inductionHypothesis =>
      simp only [List.zipIdx_cons, List.map_cons, numbered, inductionHypothesis]

theorem filter_numbered
    (lines : List String) {first start : Nat} (notBefore : first ≤ start) :
    ((numbered first lines).filter fun entry => (start : Int) ≤ entry.1) =
      numbered start (lines.drop (start - first)) := by
  induction lines generalizing first with
  | nil => simp [numbered]
  | cons head tail inductionHypothesis =>
      rcases Nat.eq_or_lt_of_le notBefore with rfl | isBefore
      · rw [Nat.sub_self, List.drop_zero]
        exact List.filter_eq_self.mpr fun entry isThere =>
          decide_eq_true (numbered_ge _ _ entry isThere)
      · have isLater : start - first = (start - (first + 1)) + 1 := by omega
        have isDropped : ¬ (start : Int) ≤ first := by omega
        rw [isLater, List.drop_succ_cons, ← inductionHypothesis isBefore, numbered,
          List.filter_cons_of_neg (by simpa using isDropped)]

theorem linesFrom_eq
    (lines : List String) (start : Nat) :
    linesFrom lines start = numbered start (lines.drop start) := by
  rw [linesFrom, if_neg (by omega), map_zipIdx_eq_numbered]
  exact filter_numbered lines (Nat.zero_le start)

/-- The search from the line that some characters reach is a count over the characters from the
start of that line on. -/
theorem closingBraceLine?_eq
    (before after : List Char) :
    closingBraceLine? (lines (String.ofList (before ++ after))) (before.count '\n' : Nat) =
      .ok ((initial.feeds? (lineFront before ++ after)).map
        fun feeds => ((before.count '\n' + feeds : Nat) : Int)) := by
  have canStart : ¬ ((before.count '\n' : Nat) : Int) <
      -(lines (String.ofList (before ++ after))).length := by omega
  rw [closingBraceLine?, if_neg canStart, linesFrom_eq, lines, String.toList_ofList,
    ← List.map_drop, drop_parts, search_numbered]
  rfl

/-- A search ends on the line of the brace that ends the count, so between two lines if the count
goes on before the one and ends before the other. -/
theorem closingBraceLine?_within
    {before quiet ending : List Char} {count : BraceCount}
    (goesOn : initial.line (lineFront before ++ quiet) = some count)
    (ends : count.line ending = none) (after : List Char) :
    ∃ number : Nat,
      closingBraceLine? (lines (String.ofList (before ++ (quiet ++ (ending ++ after)))))
        (before.count '\n' : Nat) = .ok (some (number : Int)) ∧
      (before ++ quiet).count '\n' ≤ number ∧ number ≤ (before ++ quiet ++ ending).count '\n' := by
  obtain ⟨feeds, notMore, isFound⟩ := feeds?_of_ends ends
  refine ⟨before.count '\n' + (quiet.count '\n' + feeds), ?_, ?_, ?_⟩
  · rw [closingBraceLine?_eq, ← List.append_assoc, feeds?_of_goesOn goesOn, isFound,
      List.count_append, count_lineFront, Nat.zero_add]
    rfl
  · rw [List.count_append]
    omega
  · rw [List.count_append, List.count_append]
    omega

/-- A search that ends on the line on which it starts. -/
theorem closingBraceLine?_here
    {before : List Char} (ends : initial.line (lineFront before) = none) (after : List Char) :
    closingBraceLine? (lines (String.ofList (before ++ after))) (before.count '\n' : Nat) =
      .ok (some ((before.count '\n' : Nat) : Int)) := by
  obtain ⟨feeds, notMore, isFound⟩ := feeds?_of_ends ends
  obtain rfl : feeds = 0 := Nat.le_zero.mp (count_lineFront before ▸ notMore)
  rw [closingBraceLine?_eq, isFound]
  rfl

end StructLang
