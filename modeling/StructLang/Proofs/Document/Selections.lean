import StructLang.Proofs.Document.Reach

/-!
# The text that a range covers

An editor shows the part of a document between two places, which it finds by lines and columns. A
place that a position of the text is shown at is found behind the characters in front of that
position. So a range that starts there and is as wide as a name covers what the line goes on with,
as far as the name is long.

- `DocumentRange.covered` : the characters of a text in a range.
- `Outline.covered_rangeOver` : what a range over a name covers.
-/

namespace StructLang

open Text

/-- How many characters of a text stand in front of a place. A column behind the end of its line
stands for that end. -/
def DocumentPlace.offset (lines : List String) (place : DocumentPlace) : Nat :=
  ((lines.take place.line.toNat).flatMap (·.toList ++ ['\n'])).length +
    min place.column.toNat (((lines[place.line.toNat]?).map (·.length)).getD 0)

/-- The characters of a text in a range. -/
def DocumentRange.covered (source : String) (range : DocumentRange) : List Char :=
  (source.toList.take (range.finish.offset (lines source))).drop
    (range.start.offset (lines source))

namespace Text

/-- With a separator behind each of them, the parts of a text are the text again, with one separator
behind it. -/
theorem flatMap_parts
    (separator : Char) (text : List Char) :
    (parts separator text).flatMap (· ++ [separator]) = text ++ [separator] := by
  induction text with
  | nil => rfl
  | cons character rest inductionHypothesis =>
      by_cases isSeparator : character = separator
      · rw [parts, if_pos isSeparator, List.flatMap_cons, inductionHypothesis, isSeparator]
        rfl
      · obtain ⟨part, others, isCut, isCutToo⟩ := parts_cons_of_ne isSeparator rest
        rw [isCut, List.flatMap_cons] at inductionHypothesis
        rw [isCutToo, List.flatMap_cons, List.cons_append, List.cons_append, inductionHypothesis,
          List.cons_append]

/-- The lines in front of the one that some characters reach are these characters but for the last
ones, which stand on that line. -/
theorem flatMap_take_lines
    (before after : List Char) :
    ((lines (String.ofList (before ++ after))).take (before.count '\n')).flatMap
        (·.toList ++ ['\n']) ++ lineFront before = before := by
  have isParts : ((lines (String.ofList (before ++ after))).take (before.count '\n')).flatMap
      (·.toList ++ ['\n']) =
        ((parts '\n' (before ++ after)).take (before.count '\n')).flatMap (· ++ ['\n']) := by
    simp [lines, ← List.map_take, List.flatMap_map]
  have isAll := flatMap_parts '\n' (before ++ after)
  have isRest := flatMap_parts '\n' (lineFront before ++ after)
  rw [lineFront, ← drop_parts] at isRest
  rw [← List.take_append_drop (before.count '\n') (parts '\n' (before ++ after)),
    List.flatMap_append, isRest] at isAll
  rw [isParts, lineFront, ← List.append_left_inj (after ++ ['\n'])]
  simpa only [List.append_assoc] using isAll

end Text

namespace Outline

variable {source : String} {before after : List Char}

/-- The places on the line that some characters reach stand behind those characters and as many of
the line behind them as are left of it. -/
theorem offset_behind
    (isText : source.toList = before ++ after) (width : Nat) :
    DocumentPlace.offset (lines source)
        ⟨(Position.behind before).line - 1, (Position.behind before).column - 1 + width⟩ =
      before.length + min width (after.takeWhile (· ≠ '\n')).length := by
  have reached := lines_getElem?_count before after
  have isFront := congrArg List.length (flatMap_take_lines before after)
  rw [← isText, String.ofList_toList] at reached isFront
  rw [List.length_append] at isFront
  have isColumn : ((Position.behind before).column - 1 + width).toNat =
      (lineFront before).length + width := by
    simp only [Position.behind, lineFront, List.length_reverse]
    omega
  rw [DocumentPlace.offset]
  simp only [line_behind, isColumn, Int.toNat_natCast, reached]
  simp only [Option.map_some, Option.getD_some, String.length_ofList, List.length_append]
  rw [← lineFront]
  omega

/-- A range over a name covers what stands behind its start, as far as the name is long and the
line goes on. -/
theorem covered_rangeOver
    (isText : source.toList = before ++ after) (name : String) :
    (rangeOver (.behind before) name).covered source =
      (after.takeWhile (· ≠ '\n')).take name.length := by
  have isStart := offset_behind isText 0
  have isFinish := offset_behind isText name.length
  have isFront : after.takeWhile (· ≠ '\n') <+: after := List.takeWhile_prefix _
  have isTaken : (after.takeWhile (· ≠ '\n')).take name.length =
      after.take (min name.length (after.takeWhile (· ≠ '\n')).length) := by
    rw [← List.take_take, ← List.prefix_iff_eq_take.mp isFront]
  rw [Int.natCast_zero, Int.add_zero, Nat.zero_min, Nat.add_zero] at isStart
  rw [DocumentRange.covered, rangeOver, startOf, isStart, isFinish, isText,
    List.take_length_add_append, List.drop_left, isTaken]

/-- A range over a name that stands there covers the name. -/
theorem covered_rangeOver_name
    {name : String} (isText : source.toList = before ++ (name.toList ++ after))
    (oneLine : '\n' ∉ name.toList) :
    (rangeOver (.behind before) name).covered source = name.toList := by
  rw [covered_rangeOver isText, List.takeWhile_append_of_pos (forall_ne_of_notMem oneLine),
    ← String.length_toList, List.take_left]

/-- A range over a name that starts at a word covers the name exactly if the word starts with it,
for the text behind a word goes on with no character of a name. -/
theorem covered_rangeOver_word
    {name : String} {word : List Char} (isText : source.toList = before ++ (word ++ after))
    (oneLine : '\n' ∉ word) (stops : ∀ next ∈ after.head?, ¬ Alphabet.continuesWord next)
    (continues : ∀ character ∈ name.toList, Alphabet.continuesWord character) :
    (rangeOver (.behind before) name).covered source = name.toList ↔ name.toList <+: word := by
  rw [covered_rangeOver isText, List.takeWhile_append_of_pos (forall_ne_of_notMem oneLine),
    ← String.length_toList, eq_comm, ← List.prefix_iff_eq_take]
  refine ⟨fun isPrefix => ?_, fun isPrefix => isPrefix.trans (List.prefix_append _ _)⟩
  rcases List.prefix_or_prefix_of_prefix isPrefix (List.prefix_append word _) with isShort | isLong
  · exact isShort
  · obtain ⟨rest, isName⟩ := isLong
    rw [← isName, List.prefix_append_right_inj] at isPrefix
    cases rest with
    | nil =>
        rw [List.append_nil] at isName
        exact isName ▸ List.prefix_rfl
    | cons next others =>
        obtain ⟨further, isLine⟩ := isPrefix.trans (List.takeWhile_prefix _)
        have isNext : next ∈ after.head? := by rw [← isLine]; rfl
        have isPart : next ∈ name.toList := isName ▸ List.mem_append_right _ List.mem_cons_self
        exact absurd (continues next isPart) (stops next isNext)

end Outline

end StructLang
