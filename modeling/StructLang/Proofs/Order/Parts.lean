import StructLang.Proofs.Check.Tables
import StructLang.Proofs.Relabeling.Moving

/-!
# What is found declaration by declaration

Declarations of one kind are looked at one after the other, and what is found in each of them is
about nodes below it. So if the declarations stand in another order and in each of them the same is
found, then all that is found is the same in another order, and below each declaration in the same
order.
-/

namespace StructLang

open Relabeling (moving)

/-! ## Parts -/

section

variable {alpha beta : Type} {part : Nat → alpha → List beta} {items : List alpha}

/-- What is in the parts of items, which are numbered from zero on, one part after the other. -/
def inParts (part : Nat → alpha → List beta) (items : List alpha) : List beta :=
  (items.mapIdx part).flatten

theorem inParts_cons
    (head : alpha) (tail : List alpha) :
    inParts part (head :: tail) = part 0 head ++ inParts (fun index => part (index + 1)) tail := by
  rw [inParts, List.mapIdx_cons, List.flatten_cons]
  rfl

theorem inParts_append
    (earlier later : List alpha) :
    inParts part (earlier ++ later) =
      inParts part earlier ++ inParts (fun index => part (index + earlier.length)) later := by
  rw [inParts, List.mapIdx_append, List.flatten_append]
  rfl

theorem inParts_map
    {gamma : Type} (change : gamma → alpha) (items : List gamma) :
    inParts part (items.map change) =
      inParts (fun index item => part index (change item)) items := by
  induction items generalizing part with
  | nil => rfl
  | cons head tail inductionHypothesis =>
      rw [List.map_cons, inParts_cons, inductionHypothesis, inParts_cons]

/-- Parts that do not depend on numbers. -/
theorem inParts_eq_flatMap
    {alone : alpha → List beta} (same : ∀ item ∈ items, ∀ index, part index item = alone item) :
    inParts part items = items.flatMap alone := by
  induction items generalizing part with
  | nil => rfl
  | cons head tail inductionHypothesis =>
      rw [List.forall_mem_cons] at same
      rw [inParts_cons, List.flatMap_cons, same.1, inductionHypothesis fun item isThere index =>
        same.2 item isThere (index + 1)]

theorem filterMap_inParts
    {gamma : Type} (shown : beta → Option gamma) :
    (inParts part items).filterMap shown =
      inParts (fun index item => (part index item).filterMap shown) items := by
  induction items generalizing part with
  | nil => rfl
  | cons head tail inductionHypothesis =>
      rw [inParts_cons, List.filterMap_append, inductionHypothesis, inParts_cons]

end

namespace Finding

/-- The diagnostic that a finding reports. -/
def diagnostic? (finding : Finding) : Option Diagnostic :=
  finding.report?.map (·.diagnostic)

/-- The findings that give a type or make a complaint. -/
def notes (findings : List Finding) : List Finding :=
  findings.filter isNote

theorem notes_append
    (earlier later : List Finding) : notes (earlier ++ later) = notes earlier ++ notes later :=
  List.filter_append _ _

theorem notes_of_notes
    {findings : List Finding} (areNotes : ∀ finding ∈ findings, finding.isNote) :
    notes findings = findings :=
  List.filter_eq_self.mpr areNotes

theorem allAbout_notes
    (address : Address) (findings : List Finding) :
    allAbout address (notes findings) = allAbout address findings := by
  rw [allAbout, notes, List.filter_filter, allAbout]
  refine List.filter_congr fun finding _ => ?_
  cases finding <;> simp [about?]

theorem filterMap_diagnostic?_notes
    (findings : List Finding) :
    (notes findings).filterMap diagnostic? = findings.filterMap diagnostic? := by
  rw [notes, List.filterMap_filter]
  refine List.filterMap_congr fun finding _ => ?_
  cases finding <;> simp [diagnostic?]

/-! ## Moved findings -/

variable {source target : Address}

theorem notes_relabel
    (relabeling : Relabeling) (findings : List Finding) :
    notes (findings.map (relabel relabeling)) = (notes findings).map (relabel relabeling) := by
  have sameNote : isNote ∘ relabel relabeling = isNote := by
    funext finding
    cases finding <;> rfl
  rw [notes, List.filter_map, sameNote, notes]

theorem filterMap_diagnostic?_moving
    (findings : List Finding) :
    (findings.map (relabel (moving source target))).filterMap diagnostic? =
      findings.filterMap diagnostic? := by
  rw [List.filterMap_map]
  refine List.filterMap_congr fun finding _ => ?_
  cases finding with
  | reported report => exact congrArg some report.diagnostic.relabel_moving
  | _ => rfl

theorem map_diagnostic_reportsOf
    (findings : List Finding) :
    (findings.filterMap report?).map (·.diagnostic) = findings.filterMap diagnostic? :=
  List.map_filterMap

theorem map_type_moving
    (findings : List Finding) :
    ((findings.map (relabel (moving source target))).filterMap typing?).map (·.2) =
      (findings.filterMap typing?).map (·.2) := by
  rw [List.filterMap_map, List.map_filterMap, List.map_filterMap]
  refine List.filterMap_congr fun finding _ => ?_
  cases finding with
  | typed address type => exact congrArg some type.rename_id
  | _ => rfl

theorem about?_relabel
    (relabeling : Relabeling) (finding : Finding) :
    (finding.relabel relabeling).about? = finding.about?.map relabeling.address := by
  cases finding <;> rfl

/-- What is found about a node that moves is what was found about it. -/
theorem allAbout_moving
    {findings : List Finding}
    (below : ∀ finding ∈ findings, ∀ place, finding.about? = some place → source <:+ place)
    (way : Address) :
    allAbout (way ++ target) (findings.map (relabel (moving source target))) =
      (allAbout (way ++ source) findings).map (relabel (moving source target)) := by
  rw [allAbout, List.filter_map, allAbout]
  refine congrArg (List.map _) (List.filter_congr fun finding isThere => ?_)
  rw [Function.comp_apply, about?_relabel, decide_eq_decide]
  cases isPlace : finding.about? with
  | none => simp
  | some place =>
      obtain ⟨start, rfl⟩ := below finding isThere place isPlace
      simp [Relabeling.address_moving]

/-! ## Findings in parts -/

section

variable {alpha : Type} {items others : List alpha} {side : Address}
  {part otherPart : Nat → alpha → List Finding}

/-- What is found in an item is about nodes below the item, which is numbered below some place. -/
def StaysBelow (side : Address) (part : Nat → alpha → List Finding) : Prop :=
  ∀ index item, ∀ finding ∈ part index item, ∀ place, finding.about? = some place →
    index :: side <:+ place

/-- What is found in an item with one number is found there with any other number, too. -/
def MovesWith (side : Address) (items : List alpha) (part otherPart : Nat → alpha → List Finding) :
    Prop :=
  ∀ item ∈ items, ∀ index otherIndex, otherPart otherIndex item =
    (part index item).map (relabel (moving (index :: side) (otherIndex :: side)))

theorem allAbout_inParts_eq_nil
    {address : Address} (elsewhere : ∀ index < items.length, ∀ item, ∀ finding ∈ part index item,
      finding.about? ≠ some address) :
    allAbout address (inParts part items) = [] := by
  refine allAbout_eq_nil fun finding isFound => ?_
  obtain ⟨found, isPart, isThere⟩ := List.mem_flatten.mp isFound
  obtain ⟨index, isBelow, rfl⟩ := List.mem_mapIdx.mp isPart
  exact elsewhere index isBelow _ finding isThere

/-- Nothing is found in the items about nodes that are not below their place. -/
theorem StaysBelow.allAbout_eq_nil
    (staysBelow : StaysBelow side part) {address : Address} (notBelow : ¬ side <:+ address) :
    allAbout address (inParts part items) = [] :=
  allAbout_inParts_eq_nil fun index _ item finding isFound isAbout =>
    notBelow ((List.suffix_cons index side).trans
      (staysBelow index item finding isFound address isAbout))

/-- What is found about a node below an item is found in that item. -/
theorem StaysBelow.allAbout_inParts
    (staysBelow : StaysBelow side part) {index : Nat} {item : alpha}
    (isThere : items[index]? = some item) (way : Address) :
    allAbout (way ++ index :: side) (inParts part items) =
      allAbout (way ++ index :: side) (part index item) := by
  obtain ⟨isBelow, rfl⟩ := List.getElem?_eq_some_iff.mp isThere
  have isSplit : items = items.take index ++ items[index] :: items.drop (index + 1) := by
    rw [List.getElem_cons_drop, List.take_append_drop]
  have sameLength : (items.take index).length = index :=
    List.length_take_of_le (Nat.le_of_lt isBelow)
  have isElsewhere (number : Nat) (different : number ≠ index) (other : alpha) :
      ∀ finding ∈ part number other, finding.about? ≠ some (way ++ index :: side) :=
    fun finding isFound isAbout => not_below_other different
      (staysBelow number other finding isFound _ isAbout) (List.suffix_append way _)
  have noneBefore : allAbout (way ++ index :: side) (inParts part (items.take index)) = [] :=
    allAbout_inParts_eq_nil fun number isBefore other =>
      isElsewhere number (Nat.ne_of_lt (sameLength ▸ isBefore)) other
  have noneAfter : allAbout (way ++ index :: side)
      (inParts (fun number => part (number + 1 + index)) (items.drop (index + 1))) = [] :=
    allAbout_inParts_eq_nil fun number _ other =>
      isElsewhere (number + 1 + index) (by omega) other
  have isFound :=
    congrArg (fun items => allAbout (way ++ index :: side) (inParts part items)) isSplit
  refine isFound.trans ?_
  rw [inParts_append, inParts_cons, allAbout_append, allAbout_append, sameLength, noneBefore,
    noneAfter, List.nil_append, List.append_nil, Nat.zero_add]

/-- What is found about a node below an item that stands elsewhere is what was found about it. -/
theorem MovesWith.allAbout_eq
    (moves : MovesWith side items part otherPart) (staysBelow : StaysBelow side part)
    (staysBelowToo : StaysBelow side otherPart) {index otherIndex : Nat} {item : alpha}
    (isThere : items[index]? = some item) (isThereToo : others[otherIndex]? = some item)
    (way : Address) :
    allAbout (way ++ otherIndex :: side) (inParts otherPart others) =
      (allAbout (way ++ index :: side) (inParts part items)).map
        (relabel (moving (index :: side) (otherIndex :: side))) := by
  rw [staysBelowToo.allAbout_inParts isThereToo, staysBelow.allAbout_inParts isThere,
    moves item (List.mem_of_getElem? isThere) index otherIndex]
  exact allAbout_moving (staysBelow index item) way

/-- In items that stand in another order the same is reported, in another order. -/
theorem MovesWith.perm_diagnostics
    (moves : MovesWith side items part otherPart) (permutes : others.Perm items) :
    ((inParts otherPart others).filterMap diagnostic?).Perm
      ((inParts part items).filterMap diagnostic?) := by
  have sameShown (item : alpha) (isThere : item ∈ items) (index otherIndex : Nat) :
      (otherPart otherIndex item).filterMap diagnostic? =
        (part index item).filterMap diagnostic? := by
    rw [moves item isThere index otherIndex, filterMap_diagnostic?_moving]
  have ofItems : (inParts part items).filterMap diagnostic? =
      items.flatMap fun item => (part 0 item).filterMap diagnostic? := by
    rw [filterMap_inParts]
    exact inParts_eq_flatMap fun item isThere index =>
      (sameShown item isThere index 0).symm.trans (sameShown item isThere 0 0)
  have ofOthers : (inParts otherPart others).filterMap diagnostic? =
      others.flatMap fun item => (part 0 item).filterMap diagnostic? := by
    rw [filterMap_inParts]
    exact inParts_eq_flatMap fun item isThere index =>
      sameShown item (permutes.mem_iff.mp isThere) 0 index
  rw [ofItems, ofOthers]
  exact permutes.flatMap_right _

end

end Finding

end StructLang
