import StructLang.Proofs.Relabeling.Nodes
import StructLang.Proofs.Relabeling.Outcomes
import StructLang.Proofs.Relabeling.ReadingPrograms
import StructLang.Proofs.Resolution
import StructLang.Proofs.Token.Fillers

/-!
# Reformatting

Blanks and comments between lexemes say nothing. A text that writes the tokens of another one with
other fillers has the same tokens at other places, and no reader and no rule of a check asks for a
place. So the two texts are the same program up to lines and columns, or fail to be one in the same
way, and their checks come to the same.

- `check_reformatted` : reformatting changes nothing but lines and columns.
-/

namespace StructLang

/-! ## Places left out -/

/-- The relabeling that leaves out lines and columns. -/
def Relabeling.placeless : Relabeling :=
  ⟨id, fun _ => 0, fun _ => 0, [], []⟩

namespace Relabeling

theorem keepsReading_placeless : placeless.KeepsReading where
  append _ := Iff.rfl
  size _ := Iff.rfl
  nowhere := rfl

theorem faithful_placeless : placeless.Faithful where
  injective := Function.injective_id
  numbered _ := rfl
  suffixed _ _ _ := rfl

theorem inPlace_placeless : placeless.InPlace := ⟨rfl, rfl⟩

end Relabeling

open Relabeling (placeless)

theorem Token.relabel_placeless
    (token : Token) : token.relabel placeless = ⟨token.kind, token.text, .none⟩ := by
  have sameText : (if token.kind = .identifier then placeless.name token.text else token.text) =
      token.text := ite_self _
  rw [relabel, sameText]
  rfl

/-- The message of a fault speaks of no place. -/
theorem ReadFault.message_relabel_placeless
    (fault : ReadFault) : (fault.relabel placeless).message = fault.message := by
  have shown (token : Token) : (token.relabel placeless).shown = token.shown := by
    rw [Token.relabel_placeless, Token.shown, Token.shown]
  cases fault with
  | expected wanted found =>
      exact congrArg (fun text => s!"Expected {wanted.text}, got {text}") (shown found)
  | unexpected found => exact congrArg (fun text => s!"Unexpected token {text}") (shown found)
  | afterMain found => exact congrArg (fun text => s!"Unexpected {text} after 'main'") (shown found)
  | missingMain | missingPart | plainValue => rfl

theorem Scan.SameTokens.map_placeless
    {tokens others : List Token} (same : SameTokens tokens others) :
    others.map (Token.relabel placeless) = tokens.map (Token.relabel placeless) := by
  have isShown : Token.relabel placeless =
      (fun pair : TokenKind × String => (⟨pair.1, pair.2, .none⟩ : Token)) ∘
        fun token => (token.kind, token.text) :=
    funext Token.relabel_placeless
  rw [isShown, ← List.map_map, ← List.map_map, same]

/-! ## The same up to places -/

namespace Program

/-- Two outcomes of the reading of a text are the same up to lines and columns: the same tree, or
the same fault with the same message. -/
def SameReading : Except SourceFault Program → Except SourceFault Program → Prop
  | .ok program, .ok other => other.relabel placeless = program.relabel placeless
  | .error (.read (.grammar fault)), .error (.read (.grammar other)) =>
      other.relabel placeless = fault.relabel placeless ∧ other.message = fault.message
  | .error fault, .error other => other = fault
  | _, _ => False

/-- Two checks come to the same up to lines: the same types, names and lost results at each node,
and the same kinds and names of diagnostics about the same nodes in the same order. -/
structure SameVerdict (state other : CheckState) : Prop where
  types : other.types = state.types
  names : other.names = state.names
  withoutResult : other.withoutResult = state.withoutResult
  reports :
    other.reports.map (fun report =>
        (report.address?, report.diagnostic.kind, report.diagnostic.names)) =
      state.reports.map fun report =>
        (report.address?, report.diagnostic.kind, report.diagnostic.names)

theorem sameReading_of_relabelOutcome
    {outcome other : Except ReadFailure Program}
    (same : relabelOutcome placeless other = relabelOutcome placeless outcome) :
    SameReading (outcome.mapError .read) (other.mapError .read) := by
  cases outcome with
  | ok program =>
      cases other with
      | ok otherProgram => exact Except.ok.inj same
      | error otherFailure => cases same
  | error failure =>
      cases other with
      | ok otherProgram => cases same
      | error otherFailure =>
          have sameFailure := Except.error.inj same
          cases failure with
          | grammar fault =>
              cases otherFailure with
              | grammar otherFault =>
                  have sameFault := ReadFailure.grammar.inj sameFailure
                  refine ⟨sameFault, ?_⟩
                  rw [← otherFault.message_relabel_placeless, sameFault,
                    fault.message_relabel_placeless]
              | numeral | noTokens => cases sameFailure
          | numeral fault =>
              cases otherFailure with
              | numeral otherFault => exact congrArg _ sameFailure
              | grammar | noTokens => cases sameFailure
          | noTokens =>
              cases otherFailure with
              | noTokens => rfl
              | grammar | numeral => cases sameFailure

variable {program otherProgram : Program} {state other : CheckState}

theorem SameVerdict.symm
    (same : SameVerdict state other) : SameVerdict other state :=
  ⟨same.types.symm, same.names.symm, same.withoutResult.symm, same.reports.symm⟩

theorem SameVerdict.trans
    {further : CheckState} (same : SameVerdict state other) (sameToo : SameVerdict other further) :
    SameVerdict state further :=
  ⟨sameToo.types.trans same.types, sameToo.names.trans same.names,
    sameToo.withoutResult.trans same.withoutResult, sameToo.reports.trans same.reports⟩

theorem sameVerdict_of_relabels
    (relabels : state.Relabels placeless other) : SameVerdict state other where
  types := by
    refine relabels.types.trans ((List.map_congr_left fun pair _ => ?_).trans (List.map_id _))
    exact Prod.ext rfl (Ty.rename_id pair.2)
  names := relabels.names.trans (List.map_id _)
  withoutResult := relabels.withoutResult
  reports := by
    rw [relabels.reports, List.map_map]
    refine List.map_congr_left fun report _ => ?_
    obtain ⟨address?, diagnostic⟩ := report
    have sameAddress : address?.map placeless.address = address? := by
      cases address? with
      | none => rfl
      | some address => exact congrArg some (Relabeling.inPlace_placeless.address_eq address)
    have sameNames := diagnostic.kind.rename_id diagnostic.names
    simp only [Function.comp_apply, Report.relabel, sameAddress]
    exact Prod.ext rfl (Prod.ext rfl sameNames)

/-- The check of a program comes to the same as that of the program without places. -/
theorem sameVerdict_placeless
    (written : program.Written) :
    ∃ state other, program.checked = .ok () state ∧
      (program.relabel placeless).checked = .ok () other ∧ SameVerdict state other := by
  have writtenToo : (program.relabel placeless).Written := written.relabel fun _ plain => plain
  obtain ⟨state, isChecked⟩ := checked_of_written written
  obtain ⟨other, isCheckedToo⟩ := checked_of_written writtenToo
  have relabels := (outcome_of_checked isChecked).relabels (outcome_of_checked isCheckedToo)
    Relabeling.faithful_placeless Relabeling.inPlace_placeless written.structs
  exact ⟨state, other, isChecked, isCheckedToo, sameVerdict_of_relabels relabels⟩

/-- Programs that are the same up to places are checked alike. -/
theorem sameVerdict_of_relabel_eq
    (written : program.Written) (writtenToo : otherProgram.Written)
    (same : otherProgram.relabel placeless = program.relabel placeless) :
    ∃ state other, program.checked = .ok () state ∧ otherProgram.checked = .ok () other ∧
      SameVerdict state other := by
  obtain ⟨state, bare, isChecked, isBare, sameBare⟩ := sameVerdict_placeless written
  obtain ⟨other, otherBare, isCheckedToo, isOtherBare, sameOtherBare⟩ :=
    sameVerdict_placeless writtenToo
  rw [same, isBare] at isOtherBare
  cases isOtherBare
  exact ⟨state, other, isChecked, isCheckedToo, sameBare.trans sameOtherBare.symm⟩

theorem nodes_of_relabel_eq
    (same : otherProgram.relabel placeless = program.relabel placeless) :
    otherProgram.nodes.map (Node.relabel placeless) =
      program.nodes.map (Node.relabel placeless) := by
  rw [← nodes_relabel Relabeling.inPlace_placeless, ← nodes_relabel Relabeling.inPlace_placeless,
    same]

/-! ## Reformatted texts -/

/-- A text that writes the tokens of a text with other fillers between them has the same tokens, is
the same program or has the same fault up to lines and columns, and its check comes to the same at
each node. -/
theorem check_reformatted
    {source other : String} {tokens : List Token} (isScanned : scan source = .ok tokens)
    (writes : Scan.Writes (Scan.texts tokens) other.toList) :
    ∃ others, scan other = .ok others ∧ Scan.SameTokens tokens others ∧
      SameReading (ofSource source) (ofSource other) ∧
      ∀ program otherProgram,
        ofSource source = .ok program → ofSource other = .ok otherProgram →
          otherProgram.nodes.map (Node.relabel placeless) =
              program.nodes.map (Node.relabel placeless) ∧
            ∃ state otherState, program.checked = .ok () state ∧
              otherProgram.checked = .ok () otherState ∧ SameVerdict state otherState := by
  have splits := ((Scan.scan_iff_splits source).1 tokens).mp isScanned
  obtain ⟨others, splitsToo, same⟩ := Scan.exists_splits_of_writes splits writes []
  have isScannedToo := ((Scan.scan_iff_splits other).1 others).mpr splitsToo
  have sameReading : SameReading (ofSource source) (ofSource other) := by
    rw [ofSource, isScanned, ofSource, isScannedToo]
    refine sameReading_of_relabelOutcome ?_
    rw [← ofTokens_relabel Relabeling.keepsReading_placeless, same.map_placeless,
      ofTokens_relabel Relabeling.keepsReading_placeless]
  refine ⟨others, isScannedToo, same, sameReading, ?_⟩
  intro program otherProgram isRead isReadToo
  rw [isRead, isReadToo] at sameReading
  exact ⟨nodes_of_relabel_eq sameReading, sameVerdict_of_relabel_eq (written_of_ofSource isRead)
    (written_of_ofSource isReadToo) sameReading⟩

/-- The text of `givesBackParameter` behind a comment, with blanks between its tokens. -/
def spacedParameter : String :=
  "//a\nfunc f ( int a ) int \x7b return a ; \x7d main \x7b int b ; display ( f ( b ) ) ; \x7d"

theorem writes_spacedParameter :
    Scan.Writes (Scan.texts (givesBackParameterTokens ++ [⟨.finish, "", ⟨1, 54⟩⟩]))
      spacedParameter.toList := by
  have line : Scan.FillerPiece ('/' :: '/' :: (['a'] ++ ['\n'])) := .lineComment (by decide)
  exact .texts (.more line .none) (Scan.continues_spaced _)

/-- The parameter that a function gives back is missing in the reformatted text, too. -/
theorem check_reformatted_spacedParameter :
    scan "func f(int a)int\x7breturn a;\x7dmain\x7bint b;display(f(b));\x7d" =
        .ok (givesBackParameterTokens ++ [⟨.finish, "", ⟨1, 54⟩⟩]) ∧
      Scan.Writes (Scan.texts (givesBackParameterTokens ++ [⟨.finish, "", ⟨1, 54⟩⟩]))
        spacedParameter.toList ∧
      ∃ program state, ofSource spacedParameter = .ok program ∧
        program.checked = .ok () state ∧
        state.reports.map (fun report =>
            (report.address?, report.diagnostic.kind, report.diagnostic.names)) =
          [(some [0, 0, 1, 0, 1], .variableNotDeclared, ["a"])] := by
  obtain ⟨-, -, -, sameReading, sameCheck⟩ :=
    check_reformatted scan_givesBackParameter writes_spacedParameter
  refine ⟨scan_givesBackParameter, writes_spacedParameter, ?_⟩
  cases isRead : ofSource spacedParameter with
  | error fault =>
      rw [ofSource_givesBackParameter, isRead] at sameReading
      exact sameReading.elim
  | ok program =>
      obtain ⟨-, state, other, isChecked, isCheckedToo, same⟩ :=
        sameCheck _ _ ofSource_givesBackParameter isRead
      refine ⟨program, other, rfl, isCheckedToo, same.reports.trans ?_⟩
      rw [reports_givesBackParameter isChecked]
      rfl

end Program

end StructLang
