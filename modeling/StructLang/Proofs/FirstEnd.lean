import StructLang.Proofs.Cursor.Bounds
import StructLang.Proofs.FromSource

/-!
# Nothing behind the first end matters

Tokens behind the first one that marks an end are never looked at, so reading gives the same without
them. A text that was scanned several times has more marks of its end than one that was scanned
once, and both are read alike.

- `Cursor.parse_upTo_firstEnd` : reading tokens with others behind their end.
-/

namespace StructLang

/-- Each further scan of a text adds the mark of its end once more. -/
theorem scanRepeatedly_succ
    {source : String} {tokens : List Token} {finish : Token}
    (scanned : scan source = .ok (tokens ++ [finish])) (times : Nat) :
    scanRepeatedly source (times + 1) =
      .ok (tokens ++ [finish] ++ List.replicate times finish) := by
  simp only [scanRepeatedly, scanned, bind, Except.bind, List.getLast?_concat]
  rfl

namespace Cursor

variable {tokens : List Token}

theorem HasEnd.firstEnd_append
    (hasEnd : HasEnd tokens) (further : List Token) :
    firstEnd (tokens ++ further) = firstEnd tokens := by
  rw [firstEnd, List.findIdx_append, if_pos, firstEnd]
  obtain ⟨token, isThere, isEnd⟩ := hasEnd
  exact List.findIdx_lt_length_of_exists ⟨token, isThere, by rw [isEnd, beq_self_eq_true]⟩

theorem HasEnd.ofTokens_append
    (hasEnd : HasEnd tokens) (further : List Token) :
    Program.ofTokens (tokens ++ further) = Program.ofTokens tokens := by
  obtain ⟨tape, rfl⟩ := hasEnd.exists_tape
  rw [Tape.tokens, List.append_assoc, List.cons_append,
    Grammar.ofTokens_append_cons tape.noEnd tape.isEnd,
    Grammar.ofTokens_append_cons tape.noEnd tape.isEnd]

theorem HasEnd.parse_append
    (hasEnd : HasEnd tokens) (further : List Token) :
    parse (tokens ++ further) = parse tokens := by
  rw [(hasEnd.append further).parse_eq, hasEnd.ofTokens_append further, hasEnd.parse_eq]

/-- What is read from the tokens of a text that was scanned several times, for any reading to which
tokens behind the first end do not matter. -/
theorem map_scanRepeatedly
    {alpha : Type} {read : List Token → alpha}
    (isSame : ∀ tokens further, HasEnd tokens → read (tokens ++ further) = read tokens)
    (source : String) (times : Nat) :
    (scanRepeatedly source (times + 1)).map read = (scan source).map read := by
  cases scanned : scan source with
  | error fault =>
      rw [scanRepeatedly, scanned]
      rfl
  | ok tokens =>
      obtain ⟨front, finish, rfl, isFinish, -⟩ := (Scan.splits_of_scan scanned).exists_append_finish
      rw [scanRepeatedly_succ scanned]
      exact congrArg Except.ok (isSame _ _ ⟨finish, List.mem_concat_self, isFinish⟩)

/-- Behind the first end there may be anything: what is read is the same, and the cursor comes by no
place behind that end. So a text that was scanned several times is read like one that was scanned
once. -/
theorem parse_upTo_firstEnd :
    (∀ tokens further : List Token, HasEnd tokens →
      parse (tokens ++ further) = parse tokens ∧
        Program.ofTokens (tokens ++ further) = Program.ofTokens tokens ∧
        ∀ asked later, Task.program.plan.Visits (tokens ++ further) 0 asked later →
          later ≤ firstEnd tokens) ∧
    ∀ source times,
      (scanRepeatedly source (times + 1)).map parse = (scan source).map parse ∧
        (scanRepeatedly source (times + 1)).map Program.ofTokens =
          (scan source).map Program.ofTokens := by
  refine ⟨fun tokens further hasEnd => ⟨hasEnd.parse_append further,
    hasEnd.ofTokens_append further, fun asked later visits => ?_⟩, fun source times =>
    ⟨map_scanRepeatedly (fun _ further hasEnd => hasEnd.parse_append further) source times,
      map_scanRepeatedly (fun _ further hasEnd => hasEnd.ofTokens_append further) source times⟩⟩
  rw [← hasEnd.firstEnd_append further]
  exact (((hasEnd.append further).isBounded .program (Nat.zero_le _)).stays asked later visits).2

/-- The tokens of a struct and a main body with a closing brace behind their end, and the text of
those tokens after three scans. -/
theorem parse_upTo_firstEnd_selfContained :
    HasEnd (selfContainedTokens ++ [⟨.finish, "", ⟨1, 21⟩⟩]) ∧
      parse (selfContainedTokens ++ [⟨.finish, "", ⟨1, 21⟩⟩] ++
        [⟨.rightBrace, "\x7d", ⟨1, 22⟩⟩, ⟨.finish, "", ⟨1, 23⟩⟩]) = some (.ok selfContained) ∧
      (scanRepeatedly "struct A\x7bA a;\x7dmain\x7b\x7d" 3).map parse =
        .ok (some (.ok selfContained)) := by
  have hasEnd : HasEnd (selfContainedTokens ++ [⟨.finish, "", ⟨1, 21⟩⟩]) :=
    ⟨_, List.mem_concat_self, rfl⟩
  have isRead : parse (selfContainedTokens ++ [⟨.finish, "", ⟨1, 21⟩⟩]) =
      some (.ok selfContained) :=
    hasEnd.parse_eq.trans (congrArg some Program.ofTokens_selfContained)
  refine ⟨hasEnd, (parse_upTo_firstEnd.1 _ _ hasEnd).1.trans isRead, ?_⟩
  rw [(parse_upTo_firstEnd.2 _ 2).1, scan_selfContained]
  exact congrArg Except.ok isRead

end Cursor

end StructLang
