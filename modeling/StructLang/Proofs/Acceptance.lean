import StructLang.Proofs.Check.Admission
import StructLang.Proofs.FromSource

/-!
# Well-formed programs are accepted

The check of a program is one walk that fills tables and absorbs what was complained about before.
Whether it complains at all can still be said without it: the rules of well-formed programs are
those by which nothing is complained about.

- `accepted_iff_wellFormed` : a program has no complaint exactly if it is well-formed.
-/

namespace StructLang.Program

/-- The check of a program from a source text completes, and it complains about nothing exactly if
the program is well-formed. -/
theorem accepted_iff_wellFormed
    {source : String} {program : Program} (isRead : Program.ofSource source = .ok program) :
    ∃ state, program.checked = .ok () state ∧ (state.reports = [] ↔ program.WellFormed) := by
  have written := written_of_ofSource isRead
  obtain ⟨state, isChecked⟩ := checked_of_written written
  refine ⟨state, isChecked, ?_⟩
  rw [(outcome_of_checked isChecked).reports_eq_nil_iff]
  exact quiet_findings_iff written

/-! ## A program of each kind -/

/-- A program with a struct whose field a condition compares. -/
def comparedField : Program :=
  let condition : Expr := .binary (.member (.name "p" ⟨1, 29⟩) "x" ⟨1, 29⟩) (.binary .less)
    (.integer 1 ⟨1, 33⟩) ⟨1, 29⟩
  ⟨[⟨"P", [.declare [⟨"x", .int, ⟨1, 14⟩⟩] ⟨1, 10⟩], ⟨1, 9⟩, ⟨1, 1⟩⟩], [],
    some ⟨.block [.declare [⟨"p", .struct "P", ⟨1, 24⟩⟩] ⟨1, 22⟩,
      .branch condition (.block [.declare [⟨"y", .int, ⟨1, 40⟩⟩] ⟨1, 36⟩] ⟨1, 35⟩) .absent
        ⟨1, 26⟩] ⟨1, 21⟩, ⟨1, 17⟩⟩, ⟨1, 1⟩⟩

/-- The tokens of that program, without the one that marks their end. -/
def comparedFieldTokens : List Token :=
  [⟨.structWord, "struct", ⟨1, 1⟩⟩, ⟨.identifier, "P", ⟨1, 8⟩⟩, ⟨.leftBrace, "\x7b", ⟨1, 9⟩⟩,
    ⟨.intWord, "int", ⟨1, 10⟩⟩, ⟨.identifier, "x", ⟨1, 14⟩⟩, ⟨.semicolon, ";", ⟨1, 15⟩⟩,
    ⟨.rightBrace, "\x7d", ⟨1, 16⟩⟩, ⟨.mainWord, "main", ⟨1, 17⟩⟩, ⟨.leftBrace, "\x7b", ⟨1, 21⟩⟩,
    ⟨.identifier, "P", ⟨1, 22⟩⟩, ⟨.identifier, "p", ⟨1, 24⟩⟩, ⟨.semicolon, ";", ⟨1, 25⟩⟩,
    ⟨.ifWord, "if", ⟨1, 26⟩⟩, ⟨.leftParen, "(", ⟨1, 28⟩⟩, ⟨.identifier, "p", ⟨1, 29⟩⟩,
    ⟨.dot, ".", ⟨1, 30⟩⟩, ⟨.identifier, "x", ⟨1, 31⟩⟩, ⟨.less, "<", ⟨1, 32⟩⟩,
    ⟨.integer, "1", ⟨1, 33⟩⟩, ⟨.rightParen, ")", ⟨1, 34⟩⟩, ⟨.leftBrace, "\x7b", ⟨1, 35⟩⟩,
    ⟨.intWord, "int", ⟨1, 36⟩⟩, ⟨.identifier, "y", ⟨1, 40⟩⟩, ⟨.semicolon, ";", ⟨1, 41⟩⟩,
    ⟨.rightBrace, "\x7d", ⟨1, 42⟩⟩, ⟨.rightBrace, "\x7d", ⟨1, 43⟩⟩]

theorem scan_comparedField :
    scan "struct P\x7bint x;\x7dmain\x7bP p;if(p.x<1)\x7bint y;\x7d\x7d" =
      .ok (comparedFieldTokens ++ [⟨.finish, "", ⟨1, 44⟩⟩]) :=
  Scan.scan_of_scansTo rfl (by decide +kernel)

theorem derives_comparedField :
    Grammar.DerivesProgram comparedFieldTokens comparedField := by
  have field : Grammar.DerivesVariables (comparedFieldTokens.drop 3)
      [⟨"x", .int, ⟨1, 14⟩⟩] (comparedFieldTokens.drop 6) :=
    .ofNames (.int rfl) (.last ⟨rfl, rfl⟩) rfl
  have struct : Grammar.DerivesStruct comparedFieldTokens _ (comparedFieldTokens.drop 7) :=
    .struct rfl rfl rfl (.more (.fields field) .none) rfl
  have declared : Grammar.DerivesVariables (comparedFieldTokens.drop 9)
      [⟨"p", .struct "P", ⟨1, 24⟩⟩] (comparedFieldTokens.drop 12) :=
    .ofNames (.struct rfl) (.last ⟨rfl, rfl⟩) rfl
  have member : Grammar.DerivesExpr .chained (comparedFieldTokens.drop 14)
      (.member (.name "p" ⟨1, 29⟩) "x" ⟨1, 29⟩) (comparedFieldTokens.drop 17) :=
    .member (.primary (.name rfl)) rfl rfl
  have one : Grammar.DerivesExpr .chained (comparedFieldTokens.drop 18) (.integer 1 ⟨1, 33⟩)
      (comparedFieldTokens.drop 19) :=
    .primary (.integer rfl rfl)
  have compared : Grammar.DerivesExpr .whole (comparedFieldTokens.drop 14) _
      (comparedFieldTokens.drop 19) :=
    .operand (.operand (.operand (.operation
      (.operand (.operand (.operand (.unsigned member)))) rfl
      (.operand (.operand (.unsigned one))))))
  have inner : Grammar.DerivesVariables (comparedFieldTokens.drop 21)
      [⟨"y", .int, ⟨1, 40⟩⟩] (comparedFieldTokens.drop 24) :=
    .ofNames (.int rfl) (.last ⟨rfl, rfl⟩) rfl
  have branch : Grammar.DerivesStmt (comparedFieldTokens.drop 12) _
      (comparedFieldTokens.drop 25) :=
    .branch rfl (.condition rfl compared rfl)
      (.block (.block rfl (.more (.declare inner) .none) rfl))
  exact .program (.struct struct .none) rfl
    (.block rfl (.more (.declare declared) (.more branch .none)) rfl)

theorem ofSource_comparedField :
    Program.ofSource "struct P\x7bint x;\x7dmain\x7bP p;if(p.x<1)\x7bint y;\x7d\x7d" =
      .ok comparedField :=
  ofSource_of_derives scan_comparedField (by decide) rfl derives_comparedField

theorem wellFormed_comparedField : comparedField.WellFormed where
  names := by decide
  structs := by decide
  finite := by
    intro name onCycle
    obtain ⟨part, -, declaration, isThere, -, field, isField, isStruct⟩ :=
      Relation.TransGen.tail'_iff.mp onCycle
    obtain rfl := List.mem_singleton.mp isThere
    obtain rfl := List.mem_singleton.mp isField
    cases isStruct
  functions := List.forall_mem_nil _
  main := by
    intro declaration isMain
    obtain rfl := Option.some.inj isMain
    refine ⟨by decide, trivial, ⟨?_, ⟨trivial, trivial⟩, trivial⟩, trivial⟩
    have isNearest : Region.nearest? [[], [⟨"p", .struct "P", ⟨1, 24⟩⟩]] "p" =
        some ⟨"p", .struct "P", ⟨1, 24⟩⟩ := rfl
    have isField : Region.declarationOf? [⟨"x", .int, ⟨1, 14⟩⟩] "x" =
        some ⟨"x", .int, ⟨1, 14⟩⟩ := rfl
    have isStruct : ⟨"P", [.declare [⟨"x", .int, ⟨1, 14⟩⟩] ⟨1, 10⟩], ⟨1, 9⟩, ⟨1, 1⟩⟩ ∈
        comparedField.structs := List.mem_cons_self
    exact .comparison (by decide) (.field (.ofVariable isNearest) isStruct isField) .integer

theorem accepted_comparedField :
    Program.ofSource "struct P\x7bint x;\x7dmain\x7bP p;if(p.x<1)\x7bint y;\x7d\x7d" =
        .ok comparedField ∧
      ∃ state, comparedField.checked = .ok () state ∧ state.reports = [] := by
  obtain ⟨state, isChecked, isAccepted⟩ := accepted_iff_wellFormed ofSource_comparedField
  exact ⟨ofSource_comparedField, state, isChecked, isAccepted.mpr wellFormed_comparedField⟩

end StructLang.Program
