import StructLang.Proofs.Check.Admission
import StructLang.Proofs.Check.Origins

/-!
# Properties that types hand down

Rules make up no types but the plainest ones: what they give is the type of an operand or was taken
out of one. So a property that types hand down to what can be taken out of them, and that all types
in a text have, is lost only where a rule complains or where a function gives back a struct that
nothing declares.
-/

namespace StructLang

/-! ## Taking types apart -/

/-- What a rule can take out of a type. -/
inductive Ty.Yields : Ty → Ty → Prop
  | self (type : Ty) : Yields type type
  | element (element : Ty) : Yields (.list element) element
  | result (parameters : List Ty) (result : Ty) : Yields (.fptr parameters result) result

/-- A property that all types in a text have and that types hand down. -/
structure Ty.Hereditary (holds : Ty → Prop) : Prop where
  int : holds .int
  bool : holds .bool
  void : holds .void
  struct : ∀ name, PlainName name → holds (.struct name)
  list : ∀ element, holds (.list element) ↔ holds element
  fptr : ∀ parameters result,
    holds (.fptr parameters result) ↔ (∀ parameter ∈ parameters, holds parameter) ∧ holds result

namespace Ty.Hereditary

variable {holds : Ty → Prop}

theorem of_yields
    (hereditary : Hereditary holds) {type taken : Ty} (yields : type.Yields taken)
    (isSo : holds type) : holds taken := by
  cases yields with
  | self => exact isSo
  | element => exact (hereditary.list taken).mp isSo
  | result parameters => exact ((hereditary.fptr parameters taken).mp isSo).2

mutual

theorem of_written
    (hereditary : Hereditary holds) : (type : Ty) → type.Written → holds type
  | .int, _ => hereditary.int
  | .bool, _ => hereditary.bool
  | .void, _ => hereditary.void
  | .struct name, written => hereditary.struct name written
  | .list element, written =>
      (hereditary.list element).mpr (of_written hereditary element written)
  | .fptr parameters result, written =>
      (hereditary.fptr parameters result).mpr
        ⟨of_writtenAll hereditary parameters written.1, of_written hereditary result written.2⟩
  | .unknown, written | .generic, written => written.elim

theorem of_writtenAll
    (hereditary : Hereditary holds) :
    (types : List Ty) → WrittenAll types → ∀ type ∈ types, holds type
  | [], _ => List.forall_mem_nil _
  | head :: tail, written =>
      List.forall_mem_cons.mpr
        ⟨of_written hereditary head written.1, of_writtenAll hereditary tail written.2⟩

end

end Ty.Hereditary

/-! ## What rules give -/

namespace Rule

variable {type : Ty}

theorem yields_binaryOp
    {operator : BinaryOp} {left right : Ty}
    (isType : binaryOp operator left right = .type type) :
    type = .int ∨ type = .bool ∨ left.Yields type ∨ right.Yields type := by
  have isPlainOrSame : type = .int ∨ type = .bool ∨ type = left ∨ type = right := by
    rw [binaryOp] at isType
    split at isType
    case isTrue bothUnknown =>
      cases left with
      | unknown => exact .inr (.inr (.inl (Verdict.type.inj isType).symm))
      | _ => cases bothUnknown.1
    case isFalse =>
      rw [Verdict.ofOption_eq_type] at isType
      cases operator <;> simp only [binaryType?] at isType <;> grind
  rcases isPlainOrSame with isInt | isBool | rfl | rfl
  · exact .inl isInt
  · exact .inr (.inl isBool)
  · exact .inr (.inr (.inl (.self _)))
  · exact .inr (.inr (.inr (.self _)))

theorem yields_unary?
    {operator : UnaryOp} {operand : Ty}
    (isType : (unary? (.unary operator) operand).getD (.type .unknown) = .type type) :
    type = .int ∨ type = .bool ∨ operand.Yields type := by
  cases operand with
  | unknown => exact .inr (.inr (Verdict.type.inj isType ▸ .self _))
  | _ => cases operator <;> simp [unary?, Ty.isUnknown] at isType <;> simp [isType]

theorem yields_index
    {list place : Ty} (isType : index list place = .type type) :
    list.Yields type ∨ place.Yields type := by
  cases list with
  | list element =>
      have isElement : element = type := by
        simp only [index] at isType
        grind [elementOf]
      exact .inl (isElement ▸ .element element)
  | unknown => exact .inl (Verdict.type.inj isType ▸ .self _)
  | _ =>
      cases place with
      | unknown => exact .inr (Verdict.type.inj isType ▸ .self _)
      | _ => simp [index, Ty.isUnknown] at isType

theorem yields_size
    {list : Ty} (isType : size list = .type type) : type = .int := by
  cases list <;> simp [size] at isType <;> exact isType.symm

theorem yields_append
    {list element : Ty} (isType : append list element = .type type) :
    type = .void ∨ list.Yields type := by
  cases list with
  | list stored =>
      have isVoidOrStored : type = .void ∨ type = stored := by
        cases stored <;> simp only [append] at isType <;> grind [Ty.isUnknown]
      rcases isVoidOrStored with isVoid | rfl
      · exact .inl isVoid
      · exact .inr (.element _)
  | unknown => exact .inr (Verdict.type.inj isType ▸ .self _)
  | _ => cases isType

theorem yields_call
    {callee : Ty} {arguments : List Ty} (isType : call callee arguments = .type type) :
    callee.Yields type := by
  cases callee with
  | unknown => exact Verdict.type.inj isType ▸ .self _
  | fptr parameters result =>
      have isResult : result = type := by
        simp only [call] at isType
        grind
      exact isResult ▸ .result parameters result
  | _ => cases isType

end Rule

/-! ## What expressions give -/

namespace Expr

variable {around : Surroundings}

/-- What is neither a name nor a member and has a type at all has a plain one, or one that was taken
out of the type of an operand. -/
theorem exists_yields_of_verdict
    {expression : Expr} {type : Ty} (written : expression.Written)
    (noName : ∀ called position, expression ≠ .name called position)
    (noMember : ∀ owner called position, expression ≠ .member owner called position)
    (isType : expression.verdict around = .type type) :
    type = .int ∨ type = .bool ∨ type = .void ∨
      ∃ operand ∈ expression.operands, (operand.2.typeIn around).Yields type := by
  cases expression with
  | integer => exact .inl (Verdict.type.inj isType).symm
  | boolean => exact .inr (.inl (Verdict.type.inj isType).symm)
  | name called position => exact absurd rfl (noName called position)
  | member owner called position => exact absurd rfl (noMember owner called position)
  | stray | absent => exact written.elim
  | group items =>
      cases items with
      | nil => exact absurd rfl written.1
      | cons head tail =>
          obtain rfl : head.typeIn around = type := Verdict.type.inj isType
          exact .inr (.inr (.inr ⟨([0], head), by simp [operands], .self _⟩))
  | binary left operator right =>
      obtain ⟨-, -, plain, rfl, -⟩ := written
      rcases Rule.yields_binaryOp isType with isInt | isBool | ofLeft | ofRight
      · exact .inl isInt
      · exact .inr (.inl isBool)
      · exact .inr (.inr (.inr ⟨_, List.mem_cons_self, ofLeft⟩))
      · exact .inr (.inr (.inr ⟨_, .tail _ List.mem_cons_self, ofRight⟩))
  | unary operator operand =>
      obtain ⟨-, plain, rfl⟩ := written
      rcases Rule.yields_unary? isType with isInt | isBool | ofOperand
      · exact .inl isInt
      · exact .inr (.inl isBool)
      · exact .inr (.inr (.inr ⟨_, List.mem_cons_self, ofOperand⟩))
  | index list place =>
      refine .inr (.inr (.inr ?_))
      rcases Rule.yields_index isType with ofList | ofPlace
      · exact ⟨_, List.mem_cons_self, ofList⟩
      · exact ⟨_, .tail _ List.mem_cons_self, ofPlace⟩
  | size list => exact .inl (Rule.yields_size isType)
  | append list element =>
      rcases Rule.yields_append isType with isVoid | ofList
      · exact .inr (.inr (.inl isVoid))
      · exact .inr (.inr (.inr ⟨_, List.mem_cons_self, ofList⟩))
  | call callee arguments =>
      exact .inr (.inr (.inr ⟨_, List.mem_cons_self, Rule.yields_call isType⟩))

end Expr

/-! ## What names and members give -/

namespace Program

variable {program : Program} {number : Nat} {address : Address} {here : Region}
  {outer regions : List Region} {statement : Stmt} {expression : Expr}

/-- Members that anything has are those of structs. -/
theorem member_yields_or_written
    (written : program.Written) {owner type : Ty} {called : String}
    (isType : program.signature.member owner called = .type type) :
    owner.Yields type ∨ type.Written := by
  cases owner with
  | unknown => exact .inl (Verdict.type.inj isType ▸ .self _)
  | struct name =>
      rw [Signature.member] at isType
      split at isType
      case h_1 shown scope _ =>
        cases isField : (program.signature.fields scope).declarationOf? called with
        | none =>
            rw [isField] at isType
            cases isType
        | some field =>
            rw [isField] at isType
            obtain rfl := Verdict.type.inj isType
            have isMember : field ∈ (program.structs[scope - 1]?.map StructDecl.fields).getD [] :=
              List.mem_of_find?_eq_some isField
            cases isStruct : program.structs[scope - 1]? with
            | none => simp [isStruct] at isMember
            | some declaration =>
                rw [isStruct] at isMember
                have isWritten := written.structs declaration (List.mem_of_getElem? isStruct)
                exact .inr (isWritten.fields field isMember)
      case h_2 => cases isType
  | _ => cases isType

/-- All that is declared before a statement of a body is as it is written. -/
theorem Stands.allWritten
    (stands : program.Stands number address here outer statement) (written : program.Written) :
    Region.AllWritten (here :: outer) := by
  induction stands with
  | function | main => simp [Region.AllWritten]
  | @ofBlock number index address here outer statements statement position stands _
      inductionHypothesis =>
      obtain ⟨writtenHere, writtenOuter⟩ := List.forall_mem_cons.mp inductionHypothesis
      refine .cons (List.forall_mem_append.mpr ⟨writtenHere, ?_⟩) writtenOuter
      rcases stands.written written with isAbsent | areWritten
      · cases isAbsent
      · refine writtenDeclaresAll _ (Stmt.writtenAll_iff.mpr fun inner isThere => ?_)
        exact Stmt.writtenAll_iff.mp areWritten inner (List.mem_of_mem_take isThere)
  | ofThen _ inductionHypothesis | ofElse _ inductionHypothesis =>
      exact .cons (List.forall_mem_nil _) inductionHypothesis
  | ofLoop _ inductionHypothesis => exact inductionHypothesis

/-- All that an expression of a body sees is as it is written. -/
theorem Sees.allWritten
    (sees : program.Sees number address regions expression) (written : program.Written) :
    Region.AllWritten regions := by
  induction sees with
  | @ofStmt address way here outer statement operand stands _ =>
      have allWritten := stands.allWritten written
      cases statement with
      | branch => exact .cons (List.forall_mem_nil _) allWritten
      | _ => exact allWritten
  | ofExpr _ _ inductionHypothesis => exact inductionHypothesis

/-- A name means a function that was checked before and gives back a struct that nothing declares.
-/
def LosesResult (program : Program) (number : Nat) (regions : List Region) (called : String) :
    Prop :=
  Region.nearest? regions called = none ∧
    ∃ declaration index name, program.functionNamed? called = some (declaration, index) ∧
      index < number ∧ declaration.result = .struct name ∧
        name ∉ program.structs.map (·.name)

variable {holds : Ty → Prop}

/-- What a name means has a property that types hand down, unless the unknown type lacks it and the
name means a function that lost its result. -/
theorem holds_of_meaning?
    (hereditary : Ty.Hereditary holds) (written : program.Written)
    (allWritten : Region.AllWritten regions) {called : String} {type : Ty}
    (isMeaning : program.meaning? number regions called = some type) :
    holds type ∨ ¬ holds .unknown ∧ program.LosesResult number regions called := by
  rw [meaning?] at isMeaning
  cases isNearest : Region.nearest? regions called with
  | some declaration =>
      rw [isNearest] at isMeaning
      obtain rfl := Option.some.inj isMeaning
      exact .inl (hereditary.of_written _ (allWritten.nearest isNearest))
  | none =>
      rw [isNearest] at isMeaning
      obtain ⟨⟨declaration, index⟩, isFirst, rfl⟩ := Option.map_eq_some_iff.mp isMeaning
      have isWritten := written.functions declaration
        (List.mem_of_getElem? (functionNamed?_eq_some isFirst).1)
      have ofParameters : ∀ type ∈ declaration.parameters.map (·.type), holds type :=
        List.forall_mem_map.mpr fun parameter isParameter =>
          hereditary.of_written _ (isWritten.parameters parameter isParameter)
      have ofResult : holds (program.resultFor number index declaration.result) ∨
          ¬ holds .unknown ∧ program.LosesResult number regions called := by
        have isDeclared := hereditary.of_written _ isWritten.result
        cases isResult : declaration.result with
        | struct name =>
            rw [isResult] at isDeclared
            rw [resultFor]
            split
            case isTrue isLost =>
              refine or_iff_not_imp_left.mpr fun lacks => ⟨lacks, isNearest, ?_⟩
              exact ⟨declaration, index, name, isFirst, isLost.1, isResult, isLost.2⟩
            case isFalse => exact .inl isDeclared
        | _ =>
            rw [isResult] at isDeclared
            exact .inl isDeclared
      exact ofResult.imp (fun isSo => (hereditary.fptr _ _).mpr ⟨ofParameters, isSo⟩) id

/-! ## Where properties are lost -/

/-- A place where the type of an expression may lack a property that types hand down: some rule
complains there, or a name stands there that means a function without its result. -/
inductive Origin (program : Program) : Address → Prop
  | fault {number : Nat} {address : Address} {regions : List Region} {expression : Expr}
      {kind : DiagnosticKind} {names : List String}
      (sees : program.Sees number address regions expression)
      (isFault : expression.verdict (program.seenFrom number regions) = .fault kind names) :
      Origin program address
  | name {number : Nat} {address : Address} {regions : List Region} {called : String}
      {position : Position} (sees : program.Sees number address regions (.name called position))
      (loses : program.LosesResult number regions called) :
      Origin program address

theorem typeIn_of_verdict
    {around : Surroundings} {verdict : Verdict} (isVerdict : expression.verdict around = verdict) :
    expression.typeIn around = verdict.ty :=
  congrArg Verdict.ty isVerdict

/-- If the type of an expression lacks a property that types hand down, so does the unknown type,
and there is a reason for it at the expression or below it. -/
theorem Sees.exists_origin
    {store : ScopeStore} (finished : program.Finished store) (written : program.Written)
    (hereditary : Ty.Hereditary holds) {address : Address} {expression : Expr}
    (sees : program.Sees number address regions expression)
    (lacks : ¬ holds (expression.typeIn (program.seenFrom number regions))) :
    ¬ holds .unknown ∧ ∃ place, address <:+ place ∧ program.Origin place := by
  cases isVerdict : expression.verdict (program.seenFrom number regions) with
  | fault kind names =>
      rw [typeIn_of_verdict isVerdict] at lacks
      exact ⟨lacks, address, List.suffix_rfl, .fault sees isVerdict⟩
  | type type =>
      rw [typeIn_of_verdict isVerdict] at lacks
      have ofOperand {way : Address} {operand : Expr}
          (isOperand : (way, operand) ∈ expression.operands)
          (yields : (operand.typeIn (program.seenFrom number regions)).Yields type) :
          ¬ holds .unknown ∧ ∃ place, address <:+ place ∧ program.Origin place := by
        have smaller := Expr.sizeOf_lt_of_operand isOperand
        obtain ⟨lacksUnknown, place, isBelow, origin⟩ :=
          (Sees.ofExpr sees isOperand).exists_origin finished written hereditary
            (lacks ∘ hereditary.of_yields yields)
        exact ⟨lacksUnknown, place, (List.suffix_append way address).trans isBelow, origin⟩
      by_cases isName : ∃ called position, expression = .name called position
      · obtain ⟨called, position, rfl⟩ := isName
        have isMeaning : Verdict.ofOption (program.meaning? number regions called)
            .variableNotDeclared [called] = .type type :=
          (finished.name_eq written number regions (sees.written written)).symm.trans isVerdict
        rw [Verdict.ofOption_eq_type] at isMeaning
        obtain ⟨lacksUnknown, loses⟩ := (holds_of_meaning? hereditary written
          (sees.allWritten written) isMeaning).resolve_left lacks
        exact ⟨lacksUnknown, address, List.suffix_rfl, .name sees loses⟩
      by_cases isMember : ∃ owner called position, expression = .member owner called position
      · obtain ⟨owner, called, position, rfl⟩ := isMember
        rcases member_yields_or_written written isVerdict with yields | isWritten
        · exact ofOperand List.mem_cons_self yields
        · exact absurd (hereditary.of_written type isWritten) lacks
      push Not at isName isMember
      rcases Expr.exists_yields_of_verdict (sees.written written) isName isMember isVerdict with
        rfl | rfl | rfl | ⟨operand, isOperand, yields⟩
      · exact absurd hereditary.int lacks
      · exact absurd hereditary.bool lacks
      · exact absurd hereditary.void lacks
      · exact ofOperand isOperand yields
termination_by sizeOf expression

/-- The parts of an assignment do not fit. -/
def Misfit (program : Program) (address : Address) : Prop :=
  ∃ number here outer target value position kind names,
    program.Stands number address here outer (.assign target value position) ∧
      Rule.binaryOp .assign (target.typeIn (program.seenFrom number (here :: outer)))
        (value.typeIn (program.seenFrom number (here :: outer))) = .fault kind names

/-- If a type in the table lacks a property that types hand down, so does the unknown type, and
there is a reason for it where the type is or below. -/
theorem Typed.exists_origin
    {store : ScopeStore} (finished : program.Finished store) (written : program.Written)
    (hereditary : Ty.Hereditary holds) {address : Address} {type : Ty}
    (typed : program.Typed address type) (lacks : ¬ holds type) :
    ¬ holds .unknown ∧
      (program.Misfit address ∨ ∃ place, address <:+ place ∧ program.Origin place) := by
  cases typed with
  | expression sees =>
      obtain ⟨lacksUnknown, origin⟩ := sees.exists_origin finished written hereditary lacks
      exact ⟨lacksUnknown, .inr origin⟩
  | @assignment number address here outer target value position stands =>
      have ofOperand {way : Address} {operand : Expr}
          (isOperand : (way, operand) ∈ (Stmt.assign target value position).operands)
          (lacksToo : ¬ holds (operand.typeIn (program.seenFrom number (here :: outer)))) :
          ¬ holds .unknown ∧
            (program.Misfit address ∨ ∃ place, address <:+ place ∧ program.Origin place) := by
        obtain ⟨lacksUnknown, place, isBelow, origin⟩ :=
          (Sees.ofStmt stands isOperand).exists_origin finished written hereditary lacksToo
        exact ⟨lacksUnknown, .inr ⟨place, (List.suffix_append way address).trans isBelow, origin⟩⟩
      cases isVerdict : Rule.binaryOp .assign
          (target.typeIn (program.seenFrom number (here :: outer)))
          (value.typeIn (program.seenFrom number (here :: outer))) with
      | fault kind names =>
          rw [isVerdict] at lacks
          exact ⟨lacks, .inl ⟨_, _, _, _, _, _, _, _, stands, isVerdict⟩⟩
      | type type =>
          rw [isVerdict] at lacks
          change ¬ holds type at lacks
          rcases Rule.yields_binaryOp isVerdict with rfl | rfl | ofTarget | ofValue
          · exact absurd hereditary.int lacks
          · exact absurd hereditary.bool lacks
          · exact ofOperand List.mem_cons_self (lacks ∘ hereditary.of_yields ofTarget)
          · exact ofOperand (.tail _ List.mem_cons_self) (lacks ∘ hereditary.of_yields ofValue)

end Program

end StructLang
