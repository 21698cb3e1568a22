import StructLang.Proofs.Absorption

/-!
# Calls of functions that have lost their results

A function whose result is a struct that nothing declares loses this result when its own check ends,
and that is reported at the function. From then on a call of it is of unknown type, and what is done
with the call is not complained about again. A call that was checked before, in the body of an
earlier function or in the function's own, still has the struct as its type.

- `lost_results_absorbed` : calls in later bodies are of unknown type, and nothing around them is
  complained about.
-/

namespace StructLang.Program

variable {program : Program} {state : CheckState} {number : Nat} {address : Address}
  {called : String} {declaration : FunctionDecl} {index : Nat} {name : String}

/-- In the body with a number an expression calls a function by its name, which no variable around
it has, and the types of the arguments fit the parameters of the function. -/
inductive Calls (program : Program) (state : CheckState) (number : Nat) (address : Address)
    (called : String) (declaration : FunctionDecl) : Prop
  | intro {regions : List Region} {arguments : List Expr} {place position : Position}
      {types : List Ty}
      (sees : program.Sees number address regions (.call (.name called place) arguments position))
      (noVariable : Region.nearest? regions called = none)
      (areTypes : state.typesAt? (1 :: address) 0 arguments = some types)
      (fits : Rule.argumentsFit types (declaration.parameters.map (·.type)))

/-- An expression of unknown type is not complained about, nor is an expression or a statement that
it is an operand of. An element that is added to a list and an argument of a call are left out: the
expression around them may be complained about for other reasons. -/
structure Absorbs (program : Program) (state : CheckState) (address : Address) : Prop where
  type : state.typeAt? address = some .unknown
  here : state.diagnosticsAt address = []
  expression : ∀ place expression, program.HasExpr place expression →
    ∀ operand ∈ expression.operands, operand.1 ++ place = address →
      operand.1 = [0] ∨ expression.kind ∉ [.appendExpr, .callExpr] →
        state.diagnosticsAt place = []
  statement : ∀ place statement, program.HasStmt place statement →
    ∀ operand ∈ statement.operands, operand.1 ++ place = address →
      state.diagnosticsAt place = []

theorem resultFor_struct
    (isMissing : name ∉ program.structs.map (·.name)) (number index : Nat) :
    program.resultFor number index (.struct name) =
      if index < number then .unknown else .struct name := by
  by_cases isEarlier : index < number
  · rw [if_pos isEarlier]
    exact if_pos ⟨isEarlier, isMissing⟩
  · rw [if_neg isEarlier]
    exact if_neg fun isLost => isEarlier isLost.1

namespace Outcome

variable (outcome : program.Outcome state)

include outcome

/-- A call whose arguments fit has the result of its function, as its body sees that. -/
theorem bears_call
    (written : program.Written)
    (isFirst : program.functionNamed? called = some (declaration, index))
    (calls : program.Calls state number address called declaration) :
    state.typeAt? address = some (program.resultFor number index declaration.result) ∧
      state.diagnosticsAt address = [] := by
  obtain ⟨sees, noVariable, areTypes, fits⟩ := calls
  have isCallee := outcome.resolvesTo written (.ofExpr sees List.mem_cons_self)
  rw [meaning?, noVariable] at isCallee
  dsimp only at isCallee
  rw [isFirst, Option.map_some] at isCallee
  obtain ⟨verdict, isRule, bears⟩ :=
    outcome.consistent.expression address _ ⟨_, _, sees⟩ fun _ _ same => Expr.noConfusion same
  have isVerdict : verdict = .type (program.resultFor number index declaration.result) := by
    have isCalleeType : state.typeAt? (0 :: address) = some (.fptr _ _) := isCallee.1
    rw [CheckState.ruleAt?, isCalleeType, areTypes] at isRule
    have isResult := (Option.some.inj isRule).symm
    exact isResult.trans (if_pos fits)
  rw [isVerdict] at bears
  exact bears

theorem absorbs_of_unknown
    (isUnknown : state.typeAt? address = some .unknown)
    (isQuiet : state.diagnosticsAt address = []) : program.Absorbs state address where
  type := isUnknown
  here := isQuiet
  expression place expression hasExpr operand isOperand isHere isAbsorbed := by
    rw [← isHere] at isUnknown
    exact outcome.diagnosticsAt_expression_of_unknown hasExpr isOperand isUnknown isAbsorbed
  statement place statement hasStmt operand isOperand isHere := by
    rw [← isHere] at isUnknown
    exact outcome.diagnosticsAt_statement_of_unknown hasStmt isOperand isUnknown

end Outcome

/-- The check of a program from a source text completes. Every call that is a node of one of its
bodies is seen there by a number of a body and nested regions. If the first function of a name
gives back a struct that nothing declares, that is reported at the function. In each later body a
call of it whose arguments fit is of unknown type, and then neither the call nor what it is an
operand of is complained about. In the function's own body and in earlier ones such a call has the
struct as its type. -/
theorem lost_results_absorbed
    {source : String} {program : Program} (isRead : Program.ofSource source = .ok program) :
    ∃ state, program.checked = .ok () state ∧
      (∀ node ∈ program.nodes, node.kind = .callExpr → ¬ [0] <:+ node.address →
        ∃ number regions callee arguments,
          program.Sees number node.address regions (.call callee arguments node.position)) ∧
      ∀ called declaration index name,
        program.functionNamed? called = some (declaration, index) →
          declaration.result = .struct name → name ∉ program.structs.map (·.name) →
            ⟨.structNotDeclared, declaration.position.line, [name]⟩ ∈
                state.diagnosticsAt (functionAddress index) ∧
              ∀ number address, program.Calls state number address called declaration →
                state.typeAt? address =
                    some (if index < number then .unknown else .struct name) ∧
                  (index < number → program.Absorbs state address) := by
  have written := written_of_ofSource isRead
  obtain ⟨state, isChecked⟩ := checked_of_written written
  have outcome := outcome_of_checked isChecked
  refine ⟨state, isChecked, ?_, ?_⟩
  · intro node isNode isCall notInStruct
    exact exists_sees_of_call written isNode isCall notInStruct
  · intro called declaration index name isFirst isResult isMissing
    have isThere := (functionNamed?_eq_some isFirst).1
    refine ⟨outcome.reported_of_missing written isThere isResult isMissing, ?_⟩
    intro number address calls
    obtain ⟨isType, isQuiet⟩ := outcome.bears_call written isFirst calls
    rw [isResult, resultFor_struct isMissing] at isType
    refine ⟨isType, ?_⟩
    intro isEarlier
    rw [if_pos isEarlier] at isType
    exact outcome.absorbs_of_unknown isType isQuiet

/-! ## A function that is called before and after its check -/

/-- A function whose result is a struct that nothing declares. -/
def lostFunction : FunctionDecl := ⟨"f", .struct "Q", [], .block [] ⟨1, 36⟩, ⟨1, 27⟩⟩

/-- A program that calls that function in the body of an earlier function and in the main body. -/
def callsLost : Program :=
  let call : Expr := .call (.name "f" ⟨1, 21⟩) [] ⟨1, 21⟩
  let callInMain : Expr := .call (.name "f" ⟨1, 51⟩) [] ⟨1, 51⟩
  ⟨[], [⟨"g", .int, [], .block [.display call ⟨1, 13⟩] ⟨1, 12⟩, ⟨1, 1⟩⟩, lostFunction],
    some ⟨.block [.display callInMain ⟨1, 43⟩] ⟨1, 42⟩, ⟨1, 38⟩⟩, ⟨1, 1⟩⟩

/-- The tokens of that program, without the one that marks their end. -/
def callsLostTokens : List Token :=
  [⟨.funcWord, "func", ⟨1, 1⟩⟩, ⟨.identifier, "g", ⟨1, 6⟩⟩, ⟨.leftParen, "(", ⟨1, 7⟩⟩,
    ⟨.rightParen, ")", ⟨1, 8⟩⟩, ⟨.intWord, "int", ⟨1, 9⟩⟩, ⟨.leftBrace, "\x7b", ⟨1, 12⟩⟩,
    ⟨.displayWord, "display", ⟨1, 13⟩⟩, ⟨.leftParen, "(", ⟨1, 20⟩⟩, ⟨.identifier, "f", ⟨1, 21⟩⟩,
    ⟨.leftParen, "(", ⟨1, 22⟩⟩, ⟨.rightParen, ")", ⟨1, 23⟩⟩, ⟨.rightParen, ")", ⟨1, 24⟩⟩,
    ⟨.semicolon, ";", ⟨1, 25⟩⟩, ⟨.rightBrace, "\x7d", ⟨1, 26⟩⟩, ⟨.funcWord, "func", ⟨1, 27⟩⟩,
    ⟨.identifier, "f", ⟨1, 32⟩⟩, ⟨.leftParen, "(", ⟨1, 33⟩⟩, ⟨.rightParen, ")", ⟨1, 34⟩⟩,
    ⟨.identifier, "Q", ⟨1, 35⟩⟩, ⟨.leftBrace, "\x7b", ⟨1, 36⟩⟩, ⟨.rightBrace, "\x7d", ⟨1, 37⟩⟩,
    ⟨.mainWord, "main", ⟨1, 38⟩⟩, ⟨.leftBrace, "\x7b", ⟨1, 42⟩⟩, ⟨.displayWord, "display", ⟨1, 43⟩⟩,
    ⟨.leftParen, "(", ⟨1, 50⟩⟩, ⟨.identifier, "f", ⟨1, 51⟩⟩, ⟨.leftParen, "(", ⟨1, 52⟩⟩,
    ⟨.rightParen, ")", ⟨1, 53⟩⟩, ⟨.rightParen, ")", ⟨1, 54⟩⟩, ⟨.semicolon, ";", ⟨1, 55⟩⟩,
    ⟨.rightBrace, "\x7d", ⟨1, 56⟩⟩]

theorem scan_callsLost :
    scan "func g()int\x7bdisplay(f());\x7dfunc f()Q\x7b\x7dmain\x7bdisplay(f());\x7d" =
      .ok (callsLostTokens ++ [⟨.finish, "", ⟨1, 57⟩⟩]) :=
  Scan.scan_of_scansTo rfl (by decide +kernel)

theorem derives_callsLost : Grammar.DerivesProgram callsLostTokens callsLost := by
  have call : Grammar.DerivesExpr .chained (callsLostTokens.drop 8)
      (.call (.name "f" ⟨1, 21⟩) [] ⟨1, 21⟩) (callsLostTokens.drop 11) :=
    .call (.primary (.name rfl)) nofun rfl .none rfl
  have display : Grammar.DerivesStmt (callsLostTokens.drop 6) _ (callsLostTokens.drop 13) :=
    .display rfl (.condition rfl (.ofChained call) rfl) rfl
  have function : Grammar.DerivesFunction callsLostTokens _ (callsLostTokens.drop 14) :=
    .function rfl rfl (.none rfl rfl) (.int rfl) (.block rfl (.more display .none) rfl)
  have lost : Grammar.DerivesFunction (callsLostTokens.drop 14) lostFunction
      (callsLostTokens.drop 21) :=
    .function rfl rfl (.none rfl rfl) (.struct rfl) (.block rfl .none rfl)
  have callInMain : Grammar.DerivesExpr .chained (callsLostTokens.drop 25)
      (.call (.name "f" ⟨1, 51⟩) [] ⟨1, 51⟩) (callsLostTokens.drop 28) :=
    .call (.primary (.name rfl)) nofun rfl .none rfl
  have displayInMain : Grammar.DerivesStmt (callsLostTokens.drop 23) _
      (callsLostTokens.drop 30) :=
    .display rfl (.condition rfl (.ofChained callInMain) rfl) rfl
  exact .program (.function function (.function lost .none)) rfl
    (.block rfl (.more displayInMain .none) rfl)

theorem ofSource_callsLost :
    Program.ofSource "func g()int\x7bdisplay(f());\x7dfunc f()Q\x7b\x7dmain\x7bdisplay(f());\x7d" =
      .ok callsLost :=
  ofSource_of_derives scan_callsLost (by decide) rfl derives_callsLost

theorem calls_before
    (state : CheckState) : callsLost.Calls state 0 [0, 0, 1, 0, 1] "f" lostFunction := by
  have body := Stands.function (rfl : callsLost.functions[0]? = some _)
  have display := body.ofBlock (rfl : [Stmt.display (.call (.name "f" ⟨1, 21⟩) [] ⟨1, 21⟩)
    ⟨1, 13⟩][0]? = some _)
  exact .intro (.ofStmt display List.mem_cons_self) rfl rfl rfl

theorem calls_after
    (state : CheckState) : callsLost.Calls state 2 [0, 0, 0, 2] "f" lostFunction := by
  have body := Stands.main (rfl : callsLost.main? = some _)
  have display := body.ofBlock (rfl : [Stmt.display (.call (.name "f" ⟨1, 51⟩) [] ⟨1, 51⟩)
    ⟨1, 43⟩][0]? = some _)
  exact .intro (.ofStmt display List.mem_cons_self) rfl rfl rfl

/-- The call in the main body comes after the result is lost, and displaying it is not complained
about. -/
theorem lost_results_absorbed_callsLost :
    Program.ofSource "func g()int\x7bdisplay(f());\x7dfunc f()Q\x7b\x7dmain\x7bdisplay(f());\x7d" =
        .ok callsLost ∧
      callsLost.functionNamed? "f" = some (lostFunction, 1) ∧
      "Q" ∉ callsLost.structs.map (·.name) ∧
      ∃ state, callsLost.checked = .ok () state ∧
        callsLost.Calls state 2 [0, 0, 0, 2] "f" lostFunction ∧
        ⟨.structNotDeclared, 1, ["Q"]⟩ ∈ state.diagnosticsAt (functionAddress 1) ∧
        state.typeAt? [0, 0, 0, 2] = some .unknown ∧ callsLost.Absorbs state [0, 0, 0, 2] := by
  obtain ⟨state, isChecked, -, absorbed⟩ := lost_results_absorbed ofSource_callsLost
  have isFirst : callsLost.functionNamed? "f" = some (lostFunction, 1) := rfl
  have isMissing : "Q" ∉ callsLost.structs.map (·.name) := List.not_mem_nil
  obtain ⟨isReported, ofCalls⟩ := absorbed "f" lostFunction 1 "Q" isFirst rfl isMissing
  have inMain := calls_after state
  obtain ⟨isType, absorbs⟩ := ofCalls 2 [0, 0, 0, 2] inMain
  exact ⟨ofSource_callsLost, isFirst, isMissing, state, isChecked, inMain, isReported, isType,
    absorbs (by decide)⟩

/-- The call in the earlier function comes before the result is lost. It has the struct as its type,
and displaying it is complained about besides. -/
theorem early_call_cascades :
    Program.ofSource "func g()int\x7bdisplay(f());\x7dfunc f()Q\x7b\x7dmain\x7bdisplay(f());\x7d" =
        .ok callsLost ∧
      callsLost.functionNamed? "f" = some (lostFunction, 1) ∧
      lostFunction.result = .struct "Q" ∧ "Q" ∉ callsLost.structs.map (·.name) ∧
      ∃ state, callsLost.checked = .ok () state ∧
        callsLost.Calls state 0 [0, 0, 1, 0, 1] "f" lostFunction ∧
        state.typeAt? [0, 0, 1, 0, 1] ≠ some .unknown ∧
        state.typeAt? [0, 0, 1, 0, 1] = some (.struct "Q") ∧
        state.diagnosticsAt [0, 1, 0, 1] = [⟨.unsupportedDisplay, 1, []⟩] ∧
        state.diagnostics = [⟨.unsupportedDisplay, 1, []⟩, ⟨.structNotDeclared, 1, ["Q"]⟩] := by
  obtain ⟨state, isChecked⟩ := checked_of_written (written_of_ofSource ofSource_callsLost)
  have isFound : state.typeAt? [0, 0, 1, 0, 1] = some (.struct "Q") ∧
      state.diagnosticsAt [0, 1, 0, 1] = [⟨.unsupportedDisplay, 1, []⟩] ∧
      state.diagnostics = [⟨.unsupportedDisplay, 1, []⟩, ⟨.structNotDeclared, 1, ["Q"]⟩] := by
    apply holds_of_checked isChecked
    decide +kernel
  have notUnknown : state.typeAt? [0, 0, 1, 0, 1] ≠ some .unknown := by
    rw [isFound.1]
    decide
  exact ⟨ofSource_callsLost, rfl, rfl, List.not_mem_nil, state, isChecked, calls_before state,
    notUnknown, isFound⟩

end StructLang.Program
