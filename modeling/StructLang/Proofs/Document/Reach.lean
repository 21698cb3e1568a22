import StructLang.Proofs.Document.Entries
import StructLang.Proofs.Document.Extents

/-!
# How far declarations reach

Places of a document are ordered by lines and then by columns, so a place behind more characters is
not before one behind fewer, and a name ends on its line. The search for the closing brace of
something in braces ends on the line of that brace if no brace stands in front of it on its first
line. A brace that was opened in front of it makes the search go on to the brace that closes that
one.

- `Outline.lastLine_of_braceFree` : the line of the closing brace.
- `Outline.lastLine_of_laidOut` : the bounds for an accessor among the members of a struct.
-/

namespace StructLang

open Text

/-! ## The order of places -/

namespace DocumentPlace

/-- A place is not behind another one: it is on an earlier line, or on the same line at no later
column. -/
instance : LE DocumentPlace where
  le first second :=
    first.line < second.line ∨ first.line = second.line ∧ first.column ≤ second.column

instance (first second : DocumentPlace) : Decidable (first ≤ second) :=
  inferInstanceAs (Decidable (_ ∨ _))

theorem le_refl (place : DocumentPlace) : place ≤ place := Or.inr ⟨rfl, Int.le_refl _⟩

theorem le_trans
    {first second third : DocumentPlace} (isFirst : first ≤ second) (isSecond : second ≤ third) :
    first ≤ third := by
  rcases isFirst with isBefore | ⟨sameLine, notBehind⟩
  · rcases isSecond with isBeforeToo | ⟨sameLineToo, -⟩
    · exact Or.inl (Int.lt_trans isBefore isBeforeToo)
    · exact Or.inl (sameLineToo ▸ isBefore)
  · rcases isSecond with isBeforeToo | ⟨sameLineToo, notBehindToo⟩
    · exact Or.inl (sameLine ▸ isBeforeToo)
    · exact Or.inr ⟨sameLine.trans sameLineToo, Int.le_trans notBehind notBehindToo⟩

end DocumentPlace

/-- A range lies inside another one. -/
structure DocumentRange.Within (inner outer : DocumentRange) : Prop where
  start : outer.start ≤ inner.start
  finish : inner.finish ≤ outer.finish

/-! ## Places behind characters -/

namespace Text

variable {before after : List Char}

theorem lineFront_append_of_oneLine
    {more : List Char} (oneLine : '\n' ∉ more) :
    lineFront (before ++ more) = lineFront before ++ more := by
  have allPass := forall_ne_of_notMem fun isThere => oneLine (List.mem_reverse.mp isThere)
  rw [lineFront, List.reverse_append, List.takeWhile_append_of_pos allPass, List.reverse_append,
    List.reverse_reverse]
  rfl

end Text

namespace Outline

variable {source : String} {before head inner piece back after : List Char} {position : Position}

theorem startOf_behind
    (before : List Char) :
    startOf (.behind before) = ⟨(before.count '\n' : Nat), ((lineFront before).length : Nat)⟩ := by
  simp only [startOf, Position.behind, lineFront, List.length_reverse, DocumentPlace.mk.injEq]
  omega

theorem line_behind (before : List Char) :
    (Position.behind before).line - 1 = (before.count '\n' : Nat) := by
  simp only [Position.behind]
  omega

/-- A place behind more characters is not before the one behind fewer. -/
theorem startOf_le
    (before more : List Char) :
    startOf (.behind before) ≤ startOf (.behind (before ++ more)) := by
  rw [startOf_behind, startOf_behind, List.count_append]
  by_cases oneLine : '\n' ∈ more
  · refine Or.inl ?_
    have isFurther : 0 < more.count '\n' := List.count_pos_iff.mpr oneLine
    change (before.count '\n' : Int) < (before.count '\n' + more.count '\n' : Nat)
    omega
  · refine Or.inr ⟨?_, ?_⟩
    · rw [List.count_eq_zero.mpr oneLine, Nat.add_zero]
    · rw [lineFront_append_of_oneLine oneLine, List.length_append]
      exact Int.ofNat_le.mpr (Nat.le_add_right _ _)

theorem lineLength_of_getElem?
    {lines : List String} {number : Nat} {line : String} (isLine : lines[number]? = some line) :
    lineLength lines number = line.length := by
  have notBack : ¬ (number : Int) < 0 := Int.not_lt.mpr (Int.natCast_nonneg _)
  rw [lineLength, if_neg notBack, Int.toNat_natCast, isLine]
  rfl

theorem lineLength_count
    (isText : source.toList = before ++ after) :
    lineLength (lines source) (before.count '\n' : Nat) =
      ((lineFront before).length + (after.takeWhile (· ≠ '\n')).length : Nat) := by
  have reached := lines_getElem?_count before after
  rw [← isText, String.ofList_toList] at reached
  rw [lineLength_of_getElem? reached]
  simp [lineFront]

/-- A piece of a line ends before its end. -/
theorem length_le_lineLength
    (isText : source.toList = before ++ (piece ++ after)) (oneLine : '\n' ∉ piece) :
    (((lineFront before).length + piece.length : Nat) : Int) ≤
      lineLength (lines source) (before.count '\n' : Nat) := by
  rw [lineLength_count isText, List.takeWhile_append_of_pos (forall_ne_of_notMem oneLine),
    List.length_append]
  omega

theorem endOfLine_le
    {first last : Int} (notBehind : first ≤ last) :
    endOfLine (lines source) first ≤ endOfLine (lines source) last := by
  rcases Int.lt_or_eq_of_le notBehind with isBefore | rfl
  · exact Or.inl isBefore
  · exact DocumentPlace.le_refl _

/-- A range up to a line lies inside another one that starts no later and ends on no earlier
line. -/
theorem rangeTo_within
    {start : Position} {first last : Int} (notBefore : startOf start ≤ startOf position)
    (notBehind : first ≤ last) :
    (rangeTo (lines source) position first).Within (rangeTo (lines source) start last) :=
  ⟨notBefore, endOfLine_le notBehind⟩

/-- A name lies inside a range that starts no later and ends on no earlier line, if its columns are
on the line on which the range ends. -/
theorem rangeOver_within
    {start : Position} {name : String} {last : Int} (notBefore : startOf start ≤ startOf position)
    (notBehind : position.line - 1 ≤ last)
    (fits : position.line - 1 = last →
      position.column - 1 + name.length ≤ lineLength (lines source) last) :
    (rangeOver position name).Within (rangeTo (lines source) start last) := by
  refine ⟨notBefore, ?_⟩
  rcases Int.lt_or_eq_of_le notBehind with isBefore | isSame
  · exact Or.inl isBefore
  · exact Or.inr ⟨isSame, fits isSame⟩

/-! ## Last lines -/

theorem lastLine_of_found
    {number : Nat} (isText : source.toList = before ++ after)
    (isFound : closingBraceLine? (lines (String.ofList (before ++ after)))
      (before.count '\n' : Nat) = .ok (some (number : Int))) :
    lastLine (lines source) (.behind before) = number := by
  rw [← isText, String.ofList_toList] at isFound
  rw [lastLine, line_behind, isFound]

/-- Without braces in front of it on its first line, something in braces reaches to the line of its
closing brace. -/
theorem lastLine_of_braceFree
    (isText : source.toList = before ++ (head ++ '\x7b' :: (inner ++ '\x7d' :: after)))
    (freeFront : BraceFree (lineFront before)) (freeHead : BraceFree head)
    (isInner : Balanced inner) :
    lastLine (lines source) (.behind before) =
      ((before ++ (head ++ '\x7b' :: inner)).count '\n' : Nat) := by
  have goesOn : BraceCount.initial.line (lineFront before ++ (head ++ '\x7b' :: inner)) =
      some ⟨1, true⟩ := by
    rw [← List.append_assoc]
    exact BraceCount.line_braced (freeFront.append freeHead) isInner
  have ends : BraceCount.line ⟨1, true⟩ ['\x7d'] = none := rfl
  obtain ⟨number, isFound, notBefore, notBehind⟩ := closingBraceLine?_within goesOn ends after
  have isParts : source.toList = before ++ (head ++ '\x7b' :: inner ++ (['\x7d'] ++ after)) := by
    rw [isText]
    simp
  rw [lastLine_of_found isParts isFound]
  have noFeed : ['\x7d'].count '\n' = 0 := rfl
  rw [List.count_append, noFeed] at notBehind
  omega

/-- Behind one open brace, with no brace on its first line closed that was not opened there, an
accessor reaches to its first line, if one is closed there, or else at least to the line of its
closing brace, and at most to that of the brace that closes the open one. -/
theorem lastLine_of_laidOut
    (isText : source.toList =
      before ++ (head ++ '\x7b' :: (inner ++ ['\x7d']) ++ (back ++ '\x7d' :: after)))
    (isCovered : Covered before) (isOpen : openings before = closings before + 1)
    (coveredFront : Covered (lineFront before)) (freeHead : BraceFree head)
    (isInner : Balanced inner) (isBack : Balanced back) :
    (lastLine (lines source) (.behind before) = (before.count '\n' : Nat) ∧
      closings (lineFront before) ≠ 0) ∨
    (((before ++ (head ++ '\x7b' :: (inner ++ ['\x7d']))).count '\n' : Nat) ≤
        lastLine (lines source) (.behind before) ∧
      lastLine (lines source) (.behind before) ≤
        ((before ++ (head ++ '\x7b' :: (inner ++ ['\x7d'])) ++ back).count '\n' : Nat)) := by
  rcases BraceCount.line_initial coveredFront with ends | freeFront | ⟨depth, goesOn, isDeep, same⟩
  · -- the search ends in front of the accessor
    exact Or.inl ⟨lastLine_of_found isText (closingBraceLine?_here ends _),
      BraceCount.closings_ne_zero ends⟩
  · -- the search ends at its own closing brace
    refine Or.inr ?_
    have isOwn : source.toList =
        before ++ (head ++ '\x7b' :: (inner ++ '\x7d' :: (back ++ '\x7d' :: after))) := by
      rw [isText]
      simp
    have noFeed : ['\x7d'].count '\n' = 0 := rfl
    have sameCount : (before ++ (head ++ '\x7b' :: (inner ++ ['\x7d']))).count '\n' =
        (before ++ (head ++ '\x7b' :: inner)).count '\n' := by
      simp only [List.count_append, List.count_cons, noFeed, Nat.add_zero]
    rw [lastLine_of_braceFree isOwn freeFront freeHead isInner, ← sameCount]
    exact ⟨Int.le_refl _, Int.ofNat_le.mpr ((List.sublist_append_left _ back).count_le _)⟩
  · -- one brace is left open in front of it, which the search closes
    refine Or.inr ?_
    obtain ⟨upto, isFront⟩ := exists_append_lineFront before
    have isUpto : closings upto ≤ openings upto := by
      rw [isFront] at isCovered
      exact isCovered.of_append.le
    obtain rfl : depth = 1 := by
      have opened := congrArg openings isFront
      have closed := congrArg closings isFront
      rw [openings_append] at opened
      rw [closings_append] at closed
      omega
    have goesOnBehind : BraceCount.initial.line
        (lineFront before ++ (head ++ '\x7b' :: (inner ++ ['\x7d']))) = some ⟨1, true⟩ := by
      rw [BraceCount.line_append, goesOn]
      exact BraceCount.line_of_balanced (Nat.le_refl 1) (.braced freeHead isInner)
    have ends : BraceCount.line ⟨1, true⟩ (back ++ ['\x7d']) = none := by
      refine BraceCount.line_ends (Nat.le_refl 1) ?_
      simp [isBack.ends]
    obtain ⟨number, isFound, notBefore, notBehind⟩ :=
      closingBraceLine?_within goesOnBehind ends after
    have isParts : source.toList =
        before ++ (head ++ '\x7b' :: (inner ++ ['\x7d']) ++ (back ++ ['\x7d'] ++ after)) := by
      rw [isText]
      simp
    rw [lastLine_of_found isParts isFound]
    have noFeed : ['\x7d'].count '\n' = 0 := rfl
    rw [← List.append_assoc, List.count_append, noFeed] at notBehind
    omega

end Outline

/-! ## Names -/

namespace Scan.HoldsName

open Outline

variable {source name : String} {before piece after : List Char} {position : Position}

theorem startOf_le
    (holds : HoldsName before piece name position) :
    startOf (.behind before) ≤ startOf position := by
  obtain ⟨-, front, back, -, rfl⟩ := holds
  exact Outline.startOf_le before front

theorem line_le
    (holds : HoldsName before piece name position) :
    position.line - 1 ≤ ((before ++ piece).count '\n' : Nat) := by
  obtain ⟨-, front, back, rfl, rfl⟩ := holds
  rw [line_behind]
  simp only [List.count_append]
  omega

/-- A name ends on its line. -/
theorem fits
    (holds : HoldsName before piece name position)
    (isText : source.toList = before ++ (piece ++ after)) :
    position.column - 1 + name.length ≤ lineLength (lines source) (position.line - 1) := by
  obtain ⟨oneLine, front, back, rfl, rfl⟩ := holds
  have isTextToo : source.toList = before ++ front ++ (name.toList ++ (back ++ after)) := by
    rw [isText]
    simp
  have fits := length_le_lineLength isTextToo oneLine
  rw [line_behind]
  have isColumn : (Position.behind (before ++ front)).column - 1 =
      ((lineFront (before ++ front)).length : Nat) :=
    congrArg DocumentPlace.column (startOf_behind (before ++ front))
  rw [isColumn, ← String.length_toList]
  omega

end Scan.HoldsName

end StructLang
