import StructLang.Proofs.Check.Meanings
import StructLang.Proofs.Check.Seen
import StructLang.Proofs.Consistency
import StructLang.Proofs.FromSource

/-!
# Names resolve as they do in the text

The scopes of a check are made, entered, left and filled while it goes on. What a name means in it
can still be read off the text alone: the nearest region that declares the name before it decides,
and behind all regions the first function of that name. Neither the parameters of a function, nor
the variables of other bodies and branches, nor the fields of structs are in any of these regions.

- `names_resolve` : each name of a body has the type of what it means, or is complained about once.
-/

namespace StructLang

/-- The tables have for a name just what it means: its type, or, if it means nothing, no type and
one complaint. -/
def CheckState.ResolvesTo (state : CheckState) (address : Address) (called : String)
    (position : Position) : Option Ty → Prop
  | some type => state.typeAt? address = some type ∧ state.diagnosticsAt address = []
  | none =>
      state.typeAt? address = some .unknown ∧
        state.diagnosticsAt address = [⟨.variableNotDeclared, position.line, [called]⟩]

namespace Program

theorem Outcome.resolvesTo
    {program : Program} {state : CheckState} (outcome : program.Outcome state)
    (written : program.Written) {number : Nat} {address : Address} {regions : List Region}
    {called : String} {position : Position}
    (sees : program.Sees number address regions (.name called position)) :
    state.ResolvesTo address called position (program.meaning? number regions called) := by
  obtain ⟨store, -, finished⟩ := outcome.finished
  have plain : PlainName called := sees.written written
  obtain ⟨-, -, bears, -⟩ := outcome.seen_of_sees sees
  change state.Bears address position ((program.signatureFor number).name _ called) at bears
  rw [finished.name_eq written number regions plain] at bears
  cases isMeaning : program.meaning? number regions called with
  | some type =>
      rw [isMeaning] at bears
      exact bears
  | none =>
      rw [isMeaning] at bears
      exact bears

/-- The check of a program from a source text completes. Every name that is a node of one of its
bodies is seen there by a number of a body and nested regions, and has in the tables the type of
what it means in them, or a single complaint that it means nothing. -/
theorem names_resolve
    {source : String} {program : Program} (isRead : Program.ofSource source = .ok program) :
    ∃ state, program.checked = .ok () state ∧
      (∀ node ∈ program.nodes, node.kind = .nameExpr → ¬ [0] <:+ node.address →
        ∃ number regions,
          program.Sees number node.address regions (.name node.name node.position)) ∧
      ∀ number address regions called position,
        program.Sees number address regions (.name called position) →
          state.ResolvesTo address called position (program.meaning? number regions called) := by
  have written := written_of_ofSource isRead
  obtain ⟨state, isChecked⟩ := checked_of_written written
  refine ⟨state, isChecked, ?_, ?_⟩
  · intro node isNode isName notInStruct
    exact exists_sees_of_name written isNode isName notInStruct
  · intro number address regions called position sees
    exact (outcome_of_checked isChecked).resolvesTo written sees

/-- A program with a function that gives back its parameter and a main body that calls it. -/
def givesBackParameter : Program :=
  let call : Expr := .call (.name "f" ⟨1, 47⟩) [.name "b" ⟨1, 49⟩] ⟨1, 47⟩
  ⟨[], [⟨"f", .int, [⟨"a", .int, ⟨1, 8⟩⟩],
      .block [.giveBack (some (.name "a" ⟨1, 25⟩)) ⟨1, 18⟩] ⟨1, 17⟩, ⟨1, 1⟩⟩],
    some ⟨.block [.declare [⟨"b", .int, ⟨1, 37⟩⟩] ⟨1, 33⟩, .display call ⟨1, 39⟩] ⟨1, 32⟩,
      ⟨1, 28⟩⟩, ⟨1, 1⟩⟩

/-- The tokens of that program, without the one that marks their end. -/
def givesBackParameterTokens : List Token :=
  [⟨.funcWord, "func", ⟨1, 1⟩⟩, ⟨.identifier, "f", ⟨1, 6⟩⟩, ⟨.leftParen, "(", ⟨1, 7⟩⟩,
    ⟨.intWord, "int", ⟨1, 8⟩⟩, ⟨.identifier, "a", ⟨1, 12⟩⟩, ⟨.rightParen, ")", ⟨1, 13⟩⟩,
    ⟨.intWord, "int", ⟨1, 14⟩⟩, ⟨.leftBrace, "\x7b", ⟨1, 17⟩⟩, ⟨.returnWord, "return", ⟨1, 18⟩⟩,
    ⟨.identifier, "a", ⟨1, 25⟩⟩, ⟨.semicolon, ";", ⟨1, 26⟩⟩, ⟨.rightBrace, "\x7d", ⟨1, 27⟩⟩,
    ⟨.mainWord, "main", ⟨1, 28⟩⟩, ⟨.leftBrace, "\x7b", ⟨1, 32⟩⟩, ⟨.intWord, "int", ⟨1, 33⟩⟩,
    ⟨.identifier, "b", ⟨1, 37⟩⟩, ⟨.semicolon, ";", ⟨1, 38⟩⟩, ⟨.displayWord, "display", ⟨1, 39⟩⟩,
    ⟨.leftParen, "(", ⟨1, 46⟩⟩, ⟨.identifier, "f", ⟨1, 47⟩⟩, ⟨.leftParen, "(", ⟨1, 48⟩⟩,
    ⟨.identifier, "b", ⟨1, 49⟩⟩, ⟨.rightParen, ")", ⟨1, 50⟩⟩, ⟨.rightParen, ")", ⟨1, 51⟩⟩,
    ⟨.semicolon, ";", ⟨1, 52⟩⟩, ⟨.rightBrace, "\x7d", ⟨1, 53⟩⟩]

theorem scan_givesBackParameter :
    scan "func f(int a)int\x7breturn a;\x7dmain\x7bint b;display(f(b));\x7d" =
      .ok (givesBackParameterTokens ++ [⟨.finish, "", ⟨1, 54⟩⟩]) :=
  Scan.scan_of_scansTo rfl (by decide +kernel)

theorem derives_givesBackParameter :
    Grammar.DerivesProgram givesBackParameterTokens givesBackParameter := by
  have parameters : Grammar.DerivesParameters (givesBackParameterTokens.drop 2)
      [⟨"a", .int, ⟨1, 8⟩⟩] (givesBackParameterTokens.drop 6) :=
    .some rfl (.last (.parameter (.int rfl) rfl)) rfl
  have result : Grammar.DerivesStmt (givesBackParameterTokens.drop 8)
      (.giveBack (some (.name "a" ⟨1, 25⟩)) ⟨1, 18⟩) (givesBackParameterTokens.drop 11) :=
    .giveBack rfl (.ofChained (.primary (.name rfl))) rfl
  have function : Grammar.DerivesFunction givesBackParameterTokens _
      (givesBackParameterTokens.drop 12) :=
    .function rfl rfl parameters (.int rfl) (.block rfl (.more result .none) rfl)
  have declared : Grammar.DerivesVariables (givesBackParameterTokens.drop 14)
      [⟨"b", .int, ⟨1, 37⟩⟩] (givesBackParameterTokens.drop 17) :=
    .ofNames (.int rfl) (.last ⟨rfl, rfl⟩) rfl
  have call : Grammar.DerivesExpr .chained (givesBackParameterTokens.drop 19)
      (.call (.name "f" ⟨1, 47⟩) [.name "b" ⟨1, 49⟩] ⟨1, 47⟩)
      (givesBackParameterTokens.drop 23) :=
    .call (.primary (.name rfl)) nofun rfl
      (.some (.last (.ofChained (.primary (.name rfl))))) rfl
  have display : Grammar.DerivesStmt (givesBackParameterTokens.drop 17) _
      (givesBackParameterTokens.drop 25) :=
    .display rfl (.condition rfl (.ofChained call) rfl) rfl
  exact .program (.function function .none) rfl
    (.block rfl (.more (.declare declared) (.more display .none)) rfl)

theorem ofSource_givesBackParameter :
    Program.ofSource "func f(int a)int\x7breturn a;\x7dmain\x7bint b;display(f(b));\x7d" =
      .ok givesBackParameter :=
  ofSource_of_derives scan_givesBackParameter (by decide) rfl derives_givesBackParameter

theorem reports_givesBackParameter
    {state : CheckState} (isChecked : givesBackParameter.checked = .ok () state) :
    state.reports = [⟨some [0, 0, 1, 0, 1], .variableNotDeclared, 1, ["a"]⟩] := by
  apply holds_of_checked isChecked
  decide +kernel

theorem names_resolve_givesBackParameter :
    Program.ofSource "func f(int a)int\x7breturn a;\x7dmain\x7bint b;display(f(b));\x7d" =
        .ok givesBackParameter ∧
      ∃ state, givesBackParameter.checked = .ok () state ∧
        state.typeAt? [0, 0, 1, 0, 1] = some .unknown ∧
        state.diagnosticsAt [0, 0, 1, 0, 1] = [⟨.variableNotDeclared, 1, ["a"]⟩] ∧
        state.typeAt? [0, 0, 1, 0, 2] = some (.fptr [.int] .int) ∧
        state.typeAt? [0, 1, 0, 1, 0, 2] = some .int := by
  obtain ⟨state, isChecked, -, resolve⟩ := names_resolve ofSource_givesBackParameter
  have function := Stands.function (rfl : givesBackParameter.functions[0]? = some _)
  have main := Stands.main (rfl : givesBackParameter.main? = some _)
  have isGiven : [Stmt.giveBack (some (.name "a" ⟨1, 25⟩)) ⟨1, 18⟩][0]? = some _ := rfl
  have isShown : [Stmt.declare [⟨"b", .int, ⟨1, 37⟩⟩] ⟨1, 33⟩,
      .display (.call (.name "f" ⟨1, 47⟩) [.name "b" ⟨1, 49⟩] ⟨1, 47⟩) ⟨1, 39⟩][1]? =
        some _ := rfl
  have inFunction := Sees.ofStmt (function.ofBlock isGiven) List.mem_cons_self
  have inMain := Sees.ofStmt (main.ofBlock isShown) List.mem_cons_self
  have ofParameter := resolve _ _ _ _ _ inFunction
  have ofCallee := resolve _ _ _ _ _ (.ofExpr inMain List.mem_cons_self)
  have ofArgument := resolve _ _ _ _ _ (.ofExpr inMain (.tail _ List.mem_cons_self))
  exact ⟨ofSource_givesBackParameter, state, isChecked, ofParameter.1, ofParameter.2, ofCallee.1,
    ofArgument.1⟩

end Program

end StructLang
