import StructLang.Proofs.Check.Moves
import StructLang.Proofs.Check.Outcome
import StructLang.Proofs.FromSource

/-!
# Checks that come to an end

The check of a program that was read from a text comes to an end: nothing in the tree stops it, and
every made-up name is free when it is given. Each diagnostic that it leaves can be rendered, since
every rule that complains names all that its message speaks of. While the check runs, scopes are
asked and filled only when there is one.
-/

namespace StructLang

open Check

theorem Finding.ComplainsIn.message_isOk
    {kinds : List DiagnosticKind} {finding : Finding} {report : Report}
    (complains : finding.ComplainsIn kinds) (isReport : finding.report? = some report) :
    ∃ text, report.diagnostic.message = .ok text := by
  cases finding with
  | reported other =>
      obtain rfl := Option.some.inj isReport
      exact (Diagnostic.message_isOk_iff other.diagnostic).mpr complains.2
  | _ => cases isReport

namespace Program

variable {program : Program} {state : CheckState}

/-- Whatever is found, a complaint has the names that its message needs. -/
theorem complainsIn_findings
    {finding : Finding} (isFound : finding ∈ program.findings) :
    ∃ kinds, finding.ComplainsIn kinds := by
  rcases List.mem_append.mp isFound with isDeclared | isLater
  · exact ⟨_, complainsIn_declareFindings finding isDeclared⟩
  · rcases List.mem_append.mp isLater with ofMember | isLater
    · exact ⟨_, complainsIn_memberFindings finding ofMember⟩
    · rcases List.mem_append.mp isLater with ofCycle | inBody
      · exact ⟨_, complainsIn_cycleFindings finding ofCycle⟩
      · exact ⟨_, complainsIn_bodyFindings finding inBody⟩

/-- Every diagnostic of a check that completed can be rendered. -/
theorem Outcome.message_isOk
    (outcome : program.Outcome state) {diagnostic : Diagnostic}
    (isThere : diagnostic ∈ state.diagnostics) :
    ∃ text, diagnostic.message = .ok text := by
  rw [CheckState.diagnostics, outcome.reports_eq] at isThere
  obtain ⟨report, isReport, rfl⟩ := List.mem_map.mp isThere
  obtain ⟨finding, isFound, isThis⟩ := List.mem_filterMap.mp isReport
  obtain ⟨kinds, complains⟩ := complainsIn_findings isFound
  exact complains.message_isOk isThis

/-- The check of a program that was read from a source text completes, with diagnostics whose
messages can all be rendered. It begins and ends outside of all scopes, and on its way nothing is
looked up and nothing is put in where there is no scope. -/
theorem check_completes_of_ofSource
    {source : String} (isRead : Program.ofSource source = .ok program) :
    (∃ state, program.checked = .ok () state ∧
      ∀ diagnostic ∈ state.diagnostics, ∃ text, diagnostic.message = .ok text) ∧
    Moves [] program.check [] := by
  obtain ⟨state, isChecked⟩ := checked_of_written (written_of_ofSource isRead)
  have outcome : program.Outcome state := outcome_of_checked isChecked
  have render : ∀ diagnostic ∈ state.diagnostics, ∃ text, diagnostic.message = .ok text :=
    fun diagnostic isThere => outcome.message_isOk isThere
  exact ⟨⟨state, isChecked, render⟩, program.moves_check⟩

theorem check_completes_selfContained :
    Program.ofSource "struct A\x7bA a;\x7dmain\x7b\x7d" = .ok selfContained ∧
      (∃ state, selfContained.checked = .ok () state ∧
        ∀ diagnostic ∈ state.diagnostics, ∃ text, diagnostic.message = .ok text) ∧
      Moves [] selfContained.check [] :=
  ⟨ofSource_selfContained, check_completes_of_ofSource ofSource_selfContained⟩

end Program

end StructLang
