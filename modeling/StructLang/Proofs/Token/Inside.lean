import Mathlib.Data.List.TakeWhile
import StructLang.Proofs.Token.Splits
import StructLang.Text.Lines

/-!
# Places inside a text

A scan counts lines and columns as it goes along, while a text is cut into lines at its line feeds.
Both come to the same: the place behind some characters of a text is on the line that those
characters reach, at one of its characters or right behind the last one. So every token and every
fault of a scan stands inside the text.

- `Position.behind_isIn` : places behind the characters at the front of a text are inside it.
- `Scan.token_isIn`, `Scan.fault_isIn` : tokens and faults stand at such places.
-/

namespace StructLang

/-- A position is on one of the lines of a text, at one of its characters or right behind the
last. -/
structure Position.IsIn (source : String) (position : Position) : Prop where
  line_pos : 1 ≤ position.line
  line_le : position.line ≤ (Text.lines source).length
  column_pos : 1 ≤ position.column
  column_le : ∀ line, (Text.lines source)[(position.line - 1).toNat]? = some line →
    position.column ≤ line.length + 1

/-! ## Lines -/

namespace Text

variable {separator : Char}

theorem parts_ne_nil
    (text : List Char) : parts separator text ≠ [] := by
  cases text with
  | nil => exact List.cons_ne_nil _ _
  | cons character rest =>
      rw [parts]
      split
      · exact List.cons_ne_nil _ _
      · split <;> exact List.cons_ne_nil _ _

theorem parts_cons_of_ne
    {character : Char} (different : character ≠ separator) (rest : List Char) :
    ∃ part others, parts separator rest = part :: others ∧
      parts separator (character :: rest) = (character :: part) :: others := by
  have notEmpty : parts separator rest ≠ [] := parts_ne_nil rest
  obtain ⟨part, others, isCut⟩ := List.exists_cons_of_ne_nil notEmpty
  exact ⟨part, others, isCut, by rw [parts, if_neg different, isCut]⟩

theorem head?_parts
    (text : List Char) :
    (parts separator text)[0]? = some (text.takeWhile (· ≠ separator)) := by
  induction text with
  | nil => rfl
  | cons character rest inductionHypothesis =>
      by_cases isSeparator : character = separator
      · simp [parts, isSeparator]
      · obtain ⟨part, others, isCut, isCutToo⟩ := parts_cons_of_ne isSeparator rest
        rw [isCut] at inductionHypothesis
        rw [isCutToo, List.takeWhile_cons_of_pos (by simpa using isSeparator)]
        simpa using inductionHypothesis

theorem forall_ne_of_notMem
    {text : List Char} (isFree : separator ∉ text) :
    ∀ character ∈ text, decide (character ≠ separator) = true := by
  refine fun character isThere => decide_eq_true ?_
  rintro rfl
  exact isFree isThere

theorem takeWhile_reverse_of_notMem
    {text : List Char} (isFree : separator ∉ text) :
    text.reverse.takeWhile (· ≠ separator) = text.reverse :=
  List.takeWhile_eq_self_iff.mpr fun character isThere =>
    forall_ne_of_notMem isFree character (List.mem_reverse.mp isThere)

/-- Behind a last separator it does not matter what stands in front of it. -/
theorem takeWhile_reverse_cons_of_mem
    {character : Char} {rest : List Char} (isThere : separator ∈ character :: rest) :
    (character :: rest).reverse.takeWhile (· ≠ separator) =
      rest.reverse.takeWhile (· ≠ separator) := by
  rw [List.reverse_cons, List.takeWhile_append]
  by_cases isFurther : separator ∈ rest
  · refine if_neg fun sameLength => ?_
    have allPass := (List.takeWhile_prefix _).eq_of_length sameLength
    have passes := List.takeWhile_eq_self_iff.mp allPass separator (List.mem_reverse.mpr isFurther)
    exact of_decide_eq_true passes rfl
  · obtain rfl : separator = character := (List.mem_cons.mp isThere).resolve_right isFurther
    rw [takeWhile_reverse_of_notMem isFurther, if_pos rfl]
    simp

/-- The parts from the one on that some characters reach. -/
theorem drop_parts
    (before after : List Char) :
    (parts separator (before ++ after)).drop (before.count separator) =
      parts separator ((before.reverse.takeWhile (· ≠ separator)).reverse ++ after) := by
  induction before with
  | nil => rfl
  | cons character rest inductionHypothesis =>
      rw [List.cons_append]
      by_cases isSeparator : character = separator
      · subst isSeparator
        rw [takeWhile_reverse_cons_of_mem List.mem_cons_self, ← inductionHypothesis, parts,
          if_pos rfl, List.count_cons_self, List.drop_succ_cons]
      · rw [List.count_cons_of_ne isSeparator]
        by_cases isFurther : separator ∈ rest
        · obtain ⟨part, others, isCut, isCutToo⟩ := parts_cons_of_ne isSeparator (rest ++ after)
          obtain ⟨count, isCount⟩ := Nat.exists_eq_succ_of_ne_zero
            (Nat.ne_of_gt (List.count_pos_iff.mpr isFurther))
          rw [takeWhile_reverse_cons_of_mem (List.mem_cons_of_mem _ isFurther),
            ← inductionHypothesis, isCut, isCutToo, isCount, List.drop_succ_cons,
            List.drop_succ_cons]
        · have isFree : separator ∉ character :: rest :=
            List.not_mem_cons_of_ne_of_not_mem (Ne.symm isSeparator) isFurther
          rw [List.count_eq_zero.mpr isFurther, takeWhile_reverse_of_notMem isFree,
            List.reverse_reverse]
          rfl

/-- The part that some characters reach is made of those behind their last separator and of those
before the next one. -/
theorem parts_getElem?_count
    (before after : List Char) :
    (parts separator (before ++ after))[before.count separator]? =
      some ((before.reverse.takeWhile (· ≠ separator)).reverse ++
        after.takeWhile (· ≠ separator)) := by
  have allPass : ∀ character ∈ (before.reverse.takeWhile (· ≠ separator)).reverse,
      decide (character ≠ separator) = true :=
    fun character isThere =>
      List.mem_takeWhile_imp (p := (· ≠ separator)) (List.mem_reverse.mp isThere)
  rw [← List.head?_drop, drop_parts, List.head?_eq_getElem?, head?_parts,
    List.takeWhile_append_of_pos allPass]

theorem lines_getElem?_count
    (before after : List Char) :
    (lines (String.ofList (before ++ after)))[before.count '\n']? =
      some (String.ofList ((before.reverse.takeWhile (· ≠ '\n')).reverse ++
        after.takeWhile (· ≠ '\n'))) := by
  rw [lines, String.toList_ofList, List.getElem?_map, parts_getElem?_count, Option.map_some]

end Text

/-! ## Places behind characters -/

/-- The place behind the characters at the front of a text is inside the text. -/
theorem Position.behind_isIn
    {source : String} {before : List Char} (isFront : before <+: source.toList) :
    (Position.behind before).IsIn source := by
  obtain ⟨after, isWhole⟩ := isFront
  have reached := Text.lines_getElem?_count before after
  rw [isWhole, String.ofList_toList] at reached
  have lineNumber : ((Position.behind before).line - 1).toNat = before.count '\n' := by
    simp only [behind]
    omega
  refine ⟨?_, ?_, ?_, fun line isLine => ?_⟩
  · simp only [behind]
    omega
  · have isBelow := (List.getElem?_eq_some_iff.mp reached).1
    simp only [behind]
    omega
  · simp only [behind]
    omega
  · rw [lineNumber, reached, Option.some.injEq] at isLine
    subst isLine
    simp only [behind, String.length_ofList, List.length_append, List.length_reverse]
    omega

namespace Scan

variable {before text : List Char} {source : String}

theorem Splits.exists_front
    {tokens : List Token} (splits : Splits before text tokens) :
    ∀ token ∈ tokens, ∃ front, front <+: before ++ text ∧ token.position = .behind front := by
  induction splits with
  | finish => exact List.forall_mem_singleton.mpr ⟨_, List.prefix_rfl, rfl⟩
  | @lexeme before gap characters rest kind tokens isGap isLexeme _ inductionHypothesis =>
      have isWhole : before ++ (gap ++ (characters ++ rest)) =
          before ++ gap ++ characters ++ rest := by simp
      rw [isWhole]
      refine List.forall_mem_cons.mpr ⟨⟨before ++ gap, ?_, rfl⟩, inductionHypothesis⟩
      exact (List.prefix_append _ _).trans (List.prefix_append _ _)

theorem Breaks.exists_front
    {fault : LexFault} (breaks : Breaks before text fault) :
    ∃ front, front <+: before ++ text ∧ fault.position = .behind front := by
  induction breaks with
  | @here before gap rest fault isGap offends =>
      refine ⟨before ++ gap, ?_, ?_⟩
      · rw [← List.append_assoc]
        exact List.prefix_append _ _
      · cases offends <;> rfl
  | @later before gap characters rest kind fault isGap isLexeme _ inductionHypothesis =>
      have isWhole : before ++ (gap ++ (characters ++ rest)) =
          before ++ gap ++ characters ++ rest := by simp
      rw [isWhole]
      exact inductionHypothesis

/-- Every token of a text stands inside it, the one that marks its end included. -/
theorem token_isIn
    {tokens : List Token} (scanned : scan source = .ok tokens) :
    ∀ token ∈ tokens, token.position.IsIn source := by
  intro token isThere
  obtain ⟨front, isFront, isPlace⟩ := (splits_of_scan scanned).exists_front token isThere
  rw [isPlace]
  exact Position.behind_isIn isFront

/-- A text that does not split is at fault at a place inside it. -/
theorem fault_isIn
    {fault : LexFault} (failed : scan source = .error fault) : fault.position.IsIn source := by
  obtain ⟨front, isFront, isPlace⟩ := (breaks_of_scan failed).exists_front
  rw [isPlace]
  exact Position.behind_isIn isFront

end Scan

end StructLang
