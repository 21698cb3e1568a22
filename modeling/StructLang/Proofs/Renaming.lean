import StructLang.Proofs.Check.Hereditary
import StructLang.Proofs.Relabeling.Composition
import StructLang.Proofs.Relabeling.Nodes
import StructLang.Proofs.Relabeling.Outcomes
import StructLang.Proofs.Resolution

/-!
# Checks follow renamings

Nothing in a check depends on what names are, only on which of them are the same. So if all names of
a program are changed alike and stay apart, then the check of the renamed program leaves what the
check of the program leaves, renamed. Made-up names follow: a number and a sign stay as they are,
and in the name of an accessor what stands before the sign is renamed.

- `check_equivariant` : the check of a renamed program leaves the renamed tables.
-/

namespace StructLang

/-! ## Made-up names -/

/-- What becomes of the part of a name before its first sign: it is renamed if anything follows. -/
def renamedBefore (change : String → String) (before after : List Char) : List Char :=
  if after = [] then before else (change (String.ofList before)).toList

/-- What becomes of a name under which a declaration is known if all plain names are changed. -/
def installed (change : String → String) (name : String) : String :=
  match name.toList.dropWhile (· != '@') with
  | [] => change name
  | sign :: after =>
      String.ofList
        (renamedBefore change (name.toList.takeWhile (· != '@')) after ++ sign :: after)

section

variable {change : String → String} {name : String} {before after : List Char}

theorem dropWhile_sign
    (noSign : '@' ∉ before) (after : List Char) :
    (before ++ after).dropWhile (· != '@') = after.dropWhile (· != '@') ∧
      (before ++ after).takeWhile (· != '@') = before ++ after.takeWhile (· != '@') := by
  have others : ∀ character ∈ before, (character != '@') = true := fun character isThere =>
    bne_iff_ne.mpr fun same => noSign (same ▸ isThere)
  exact ⟨List.dropWhile_append_of_pos others, List.takeWhile_append_of_pos others⟩

/-- A plain name is changed as it is. -/
theorem installed_of_plain
    (plain : PlainName name) : installed change name = change name := by
  have noSign := (dropWhile_sign plain []).1
  rw [List.append_nil] at noSign
  rw [installed, noSign]
  rfl

theorem installed_of_sign
    (noSign : '@' ∉ before) :
    installed change (String.ofList (before ++ '@' :: after)) =
      String.ofList (renamedBefore change before after ++ '@' :: after) := by
  obtain ⟨isRest, isBefore⟩ := dropWhile_sign noSign ('@' :: after)
  rw [installed, String.toList_ofList, isRest, isBefore]
  simp

/-- A number with a sign stays as it is. -/
theorem installed_numbered
    (count : Nat) : installed change (numbered count) = numbered count := by
  have isName : numbered count = String.ofList ((Nat.repr count).toList ++ ['@']) := by
    rw [← toList_numbered, String.ofList_toList]
  rw [isName, installed_of_sign (plainName_repr count), renamedBefore, if_pos rfl]

/-- A name with a sign and a number is changed before its sign. -/
theorem installed_suffixed
    (plain : PlainName name) (count : Nat) :
    installed change (suffixed name count) = suffixed (change name) count := by
  have isName (name : String) :
      suffixed name count = String.ofList (name.toList ++ '@' :: (Nat.repr count).toList) := by
    rw [← toList_suffixed, String.ofList_toList]
  have notEmpty : (Nat.repr count).toList ≠ [] :=
    fun isEmpty => Nat.repr_ne_empty (String.toList_eq_nil_iff.mp isEmpty)
  rw [isName, installed_of_sign plain, renamedBefore, if_neg notEmpty, String.ofList_toList,
    ← isName]

theorem plain_or_exists_sign
    (name : String) :
    PlainName name ∨
      ∃ before after, '@' ∉ before ∧ name = String.ofList (before ++ '@' :: after) := by
  by_cases isSign : '@' ∈ name.toList
  · obtain ⟨before, after, isName, noSign⟩ := List.eq_append_cons_of_mem isSign
    exact .inr ⟨before, after, noSign, by rw [← isName, String.ofList_toList]⟩
  · exact .inl isSign

/-- Renamed names stay apart. -/
theorem injective_installed
    (injective : Function.Injective change)
    (plain : ∀ name, PlainName name → PlainName (change name)) :
    Function.Injective (installed change) := by
  have noSignBefore {before : List Char} (noSign : '@' ∉ before) (after : List Char) :
      '@' ∉ renamedBefore change before after := by
    rw [renamedBefore]
    split
    case isTrue => exact noSign
    case isFalse => exact plain _ (by rwa [PlainName, String.toList_ofList])
  have plainOnly {name : String} {before after : List Char} (isPlain : PlainName name)
      (same : change name = String.ofList (before ++ '@' :: after)) : False := by
    refine plain name isPlain ?_
    rw [same, String.toList_ofList]
    exact List.mem_append_right _ List.mem_cons_self
  intro name other same
  rcases plain_or_exists_sign name with isPlain | ⟨before, after, noSign, rfl⟩
  · rw [installed_of_plain isPlain] at same
    rcases plain_or_exists_sign other with isPlainToo | ⟨before, after, noSign, rfl⟩
    · exact injective (same.trans (installed_of_plain isPlainToo))
    · exact (plainOnly isPlain (same.trans (installed_of_sign noSign))).elim
  · rw [installed_of_sign noSign] at same
    rcases plain_or_exists_sign other with isPlain | ⟨otherBefore, otherAfter, noSignToo, rfl⟩
    · exact (plainOnly isPlain ((installed_of_plain isPlain).symm.trans same.symm)).elim
    · rw [installed_of_sign noSignToo] at same
      obtain ⟨sameBefore, rfl⟩ := append_sign_inj (noSignBefore noSign after)
        (noSignBefore noSignToo otherAfter) (String.ofList_injective same)
      rw [renamedBefore, renamedBefore] at sameBefore
      split at sameBefore
      case isTrue => rw [sameBefore]
      case isFalse =>
        have sameName := injective (String.toList_injective sameBefore)
        rw [String.ofList_injective sameName]

end

/-! ## Renamed programs -/

namespace Program

/-- A program in which all names are changed. -/
def rename (change : String → String) (program : Program) : Program :=
  program.relabel (.ofNames change)

/-- The tables of a check after the names in them have followed a renaming. -/
structure FollowsRenaming (change : String → String) (state other : CheckState) : Prop where
  types : other.types = state.types.map fun pair => (pair.1, pair.2.rename change)
  names : other.names = state.names.map fun pair => (pair.1, installed change pair.2)
  withoutResult : other.withoutResult = state.withoutResult
  reports : other.reports = state.reports.map fun report =>
    ⟨report.address?, report.diagnostic.kind, report.diagnostic.line,
      report.diagnostic.kind.rename (installed change) report.diagnostic.names⟩

variable {change : String → String} {program : Program} {state other : CheckState}

/-! ## Types of the text hold plain names only -/

/-- Whether a type is changed alike by a renaming of plain names and by that of all names. -/
def RenamedAlike (change : String → String) (type : Ty) : Prop :=
  type.rename (installed change) = type.rename change

theorem hereditary_renamedAlike : Ty.Hereditary (RenamedAlike change) where
  int := rfl
  bool := rfl
  void := rfl
  struct _ plain := congrArg Ty.struct (installed_of_plain plain)
  list element := by simp only [RenamedAlike, Ty.rename, Ty.list.injEq]
  fptr parameters result := by
    simp only [RenamedAlike, Ty.rename, Ty.fptr.injEq, Ty.renameAll_eq, List.map_inj_left]

theorem Outcome.renamedAlike_of_mem_types
    (outcome : program.Outcome state) (written : program.Written) :
    ∀ pair ∈ state.types, RenamedAlike change pair.2 := by
  rintro ⟨address, type⟩ isRecorded
  obtain ⟨store, -, finished⟩ := outcome.finished
  by_contra lacks
  have typed := outcome.typed_of_mem_types isRecorded
  exact (typed.exists_origin finished written hereditary_renamedAlike lacks).1 rfl

theorem renamedAlike_resultAt
    {declaration : FunctionDecl} (written : declaration.Written) (address : Address) :
    RenamedAlike change (state.resultAt address declaration.result) := by
  rw [CheckState.resultAt]
  split
  case isTrue => rfl
  case isFalse => exact hereditary_renamedAlike.of_written _ written.result

/-! ## Checks of renamed programs -/

theorem faithful_installed
    (injective : Function.Injective change)
    (plain : ∀ name, PlainName name → PlainName (change name)) :
    (Relabeling.ofNames (installed change)).Faithful where
  injective := injective_installed injective plain
  numbered := installed_numbered
  suffixed name count isPlain := by
    change installed change (suffixed name count) = suffixed (installed change name) count
    rw [installed_suffixed isPlain, installed_of_plain isPlain]

theorem inPlace_ofNames : (Relabeling.ofNames change).InPlace := ⟨rfl, rfl⟩

theorem followsRenaming_of_relabels
    (relabels : state.Relabels (.ofNames (installed change)) other)
    (alike : ∀ pair ∈ state.types, RenamedAlike change pair.2) :
    FollowsRenaming change state other where
  types := relabels.types.trans
    (List.map_congr_left fun pair isRecorded => Prod.ext rfl (alike pair isRecorded))
  names := relabels.names
  withoutResult := relabels.withoutResult
  reports := by
    have inPlace : (Relabeling.ofNames (installed change)).InPlace := inPlace_ofNames
    refine relabels.reports.trans (List.map_congr_left fun report _ => ?_)
    obtain ⟨address?, diagnostic⟩ := report
    cases address? with
    | none => rfl
    | some address =>
        rw [Report.relabel, Option.map_some, inPlace.address_eq]
        rfl

section

variable (relabels : state.Relabels (.ofNames (installed change)) other)

include relabels

theorem structNames_rename :
    (program.relabel (.ofNames (installed change))).structNames other =
      (program.structNames state).map (installed change) := by
  refine List.ext_getElem? fun index => ?_
  simp only [structNames, relabel, List.getElem?_mapIdx, List.getElem?_map, Option.map_map]
  cases program.structs[index]? with
  | none => rfl
  | some declaration => exact congrArg some (relabels.nameAt_eq _ _)

theorem functionResults_rename
    (written : program.Written) :
    (program.relabel (.ofNames (installed change))).functionResults other =
      (program.functionResults state).map
        fun pair => (installed change pair.1, pair.2.rename change) := by
  refine List.ext_getElem? fun index => ?_
  simp only [functionResults, relabel, List.getElem?_mapIdx, List.getElem?_map, Option.map_map]
  cases isThere : program.functions[index]? with
  | none => rfl
  | some declaration =>
      have isWritten := written.functions declaration (List.mem_of_getElem? isThere)
      refine congrArg some (Prod.ext (relabels.nameAt_eq _ _) ?_)
      exact (relabels.resultAt_eq _ _).trans (renamedAlike_resultAt isWritten _)

theorem accessorNames_rename :
    (program.relabel (.ofNames (installed change))).accessorNames other =
      (program.accessorNames state).map (installed change) := by
  have inPlace : (Relabeling.ofNames (installed change)).InPlace := inPlace_ofNames
  simp only [accessorNames, nodes_relabel inPlace, List.filter_map, List.map_map]
  refine List.map_congr_left fun node isAccessor => ?_
  have isKind : node.kind = .accessorDecl := beq_iff_eq.mp (List.mem_filter.mp isAccessor).2
  have isName : node.relabel (.ofNames (installed change)) =
      ⟨node.address, node.kind, installed change node.name, node.position⟩ := by
    rw [Node.relabel, inPlace.address_eq, isKind]
    rfl
  simp only [Function.comp_apply, isName]
  exact relabels.nameAt_eq _ _

end

/-- The check of a program from a source text completes, and so does that of the program in which
all names are changed by a renaming that keeps them apart and plain names plain. The nodes of the
renamed program are those of the program with other names, and all that the one check leaves is what
the other one leaves, renamed. -/
theorem check_equivariant
    {source : String} {program : Program} (isRead : Program.ofSource source = .ok program)
    {change : String → String} (injective : Function.Injective change)
    (plain : ∀ name, PlainName name → PlainName (change name)) :
    ∃ state other, program.checked = .ok () state ∧
      (program.rename change).checked = .ok () other ∧
      (program.rename change).nodes = program.nodes.map (Node.relabel (.ofNames change)) ∧
      FollowsRenaming change state other ∧
      (program.rename change).structNames other =
        (program.structNames state).map (installed change) ∧
      (program.rename change).functionResults other =
        (program.functionResults state).map
          (fun pair => (installed change pair.1, pair.2.rename change)) ∧
      (program.rename change).accessorNames other =
        (program.accessorNames state).map (installed change) := by
  have written := written_of_ofSource isRead
  have isRenamed : program.rename change = program.relabel (.ofNames (installed change)) :=
    relabel_congr isRead fun name isPlain => (installed_of_plain isPlain).symm
  obtain ⟨state, isChecked⟩ := checked_of_written written
  have writtenToo : (program.rename change).Written := written.relabel plain
  obtain ⟨other, isCheckedToo⟩ := checked_of_written writtenToo
  have outcome := outcome_of_checked isChecked
  have otherOutcome := outcome_of_checked isCheckedToo
  rw [isRenamed] at otherOutcome
  have relabels := outcome.relabels otherOutcome (faithful_installed injective plain)
    inPlace_ofNames written.structs
  refine ⟨state, other, isChecked, isCheckedToo, nodes_relabel inPlace_ofNames program, ?_⟩
  rw [isRenamed]
  exact ⟨followsRenaming_of_relabels relabels (outcome.renamedAlike_of_mem_types written),
    structNames_rename relabels, functionResults_rename relabels written,
    accessorNames_rename relabels⟩

theorem injective_append_left
    (first : String) : Function.Injective (first ++ ·) := by
  intro name other same
  have sameTexts := congrArg String.toList same
  simp only [String.toList_append, List.append_cancel_left_eq] at sameTexts
  exact String.toList_injective sameTexts

theorem plainName_append
    {first name : String} (plainFirst : PlainName first) (plain : PlainName name) :
    PlainName (first ++ name) := by
  rw [PlainName, String.toList_append, List.mem_append, not_or]
  exact ⟨plainFirst, plain⟩

/-- The parameter that a function gives back is missing in its body under the new name, too. -/
theorem check_equivariant_givesBackParameter :
    Program.ofSource "func f(int a)int\x7breturn a;\x7dmain\x7bint b;display(f(b));\x7d" =
        .ok givesBackParameter ∧
      Function.Injective ("x" ++ ·) ∧ (∀ name, PlainName name → PlainName ("x" ++ name)) ∧
      ∃ other, (givesBackParameter.rename ("x" ++ ·)).checked = .ok () other ∧
        other.reports = [⟨some [0, 0, 1, 0, 1], .variableNotDeclared, 1, ["xa"]⟩] := by
  have plain (name : String) (isPlain : PlainName name) : PlainName ("x" ++ name) :=
    plainName_append (by simp [PlainName]) isPlain
  obtain ⟨state, other, isChecked, isCheckedToo, -, follows, -⟩ :=
    check_equivariant ofSource_givesBackParameter (injective_append_left "x") plain
  refine ⟨ofSource_givesBackParameter, injective_append_left "x", plain, other, isCheckedToo, ?_⟩
  rw [follows.reports, reports_givesBackParameter isChecked]
  have isName : installed ("x" ++ ·) "a" = "xa" := installed_of_plain (by simp [PlainName])
  simp only [List.map_cons, List.map_nil, DiagnosticKind.rename, isName]

end Program

end StructLang
