import StructLang.Proofs.Check.Meanings
import StructLang.Proofs.Check.Quiet

/-!
# Expressions and statements without complaints

Nothing is complained about at an expression exactly if it has a type by the rules of well-formed
programs, and then the check gives it this type. No such type is unknown, so no rule absorbs
anything. Nothing is complained about at a statement exactly if all its expressions have the types
that it asks for and all regions inside it are clear.
-/

namespace StructLang

open Finding

/-! ## Types that can be written down -/

theorem Ty.writtenAll_iff
    {types : List Ty} : WrittenAll types ↔ ∀ type ∈ types, type.Written := by
  induction types with
  | nil => simp [WrittenAll]
  | cons head tail inductionHypothesis => simp [WrittenAll, inductionHypothesis]

theorem Ty.Written.isUnknown
    {type : Ty} (written : type.Written) : type.isUnknown = false := by
  cases type with
  | unknown => exact written.elim
  | _ => rfl

/-- Regions in which every type can be written down. -/
def Region.AllWritten (regions : List Region) : Prop :=
  ∀ region ∈ regions, ∀ declaration ∈ region, declaration.Written

theorem Region.AllWritten.cons
    {region : Region} {regions : List Region}
    (written : ∀ declaration ∈ region, declaration.Written) (allWritten : AllWritten regions) :
    AllWritten (region :: regions) :=
  List.forall_mem_cons.mpr ⟨written, allWritten⟩

theorem Region.AllWritten.nearest
    {regions : List Region} {called : String} {declaration : VariableDecl}
    (allWritten : AllWritten regions) (isNearest : nearest? regions called = some declaration) :
    declaration.Written := by
  obtain ⟨region, isRegion, isFound⟩ := List.exists_of_findSome?_eq_some isNearest
  exact allWritten region isRegion declaration (List.mem_of_find?_eq_some isFound)

theorem Stmt.WrittenMember.fields
    {member : Stmt} (written : member.WrittenMember) :
    ∀ declaration ∈ member.fields, declaration.Written := by
  cases member with
  | declare fields position => exact written
  | accessor name type parameters field setBody getBody position =>
      obtain ⟨-, writtenType, -, -, isType⟩ := written
      rw [← isType] at writtenType
      exact List.forall_mem_singleton.mpr writtenType
  | _ => exact List.forall_mem_nil _

theorem StructDecl.Written.fields
    {declaration : StructDecl} (written : declaration.Written) :
    ∀ field ∈ declaration.fields, field.Written := by
  intro field isField
  obtain ⟨member, isMember, isHere⟩ := List.mem_flatMap.mp isField
  exact (written.members member isMember).fields field isHere

namespace Program

variable {program : Program} {regions : List Region}

mutual

/-- Types of expressions can be written down. -/
theorem HasType.written
    {expression : Expr} {type : Ty} (written : program.Written)
    (allWritten : Region.AllWritten regions) :
    program.HasType regions expression type → type.Written
  | .integer | .boolean | .arithmetic .. | .comparison .. | .equality .. | .connection ..
  | .negation .. | .inversion .. | .size .. | .append .. => trivial
  | .ofVariable isNearest => allWritten.nearest isNearest
  | .ofFunction _ isThere =>
      ⟨Ty.writtenAll_iff.mpr (List.forall_mem_map.mpr (written.functions _ isThere).parameters),
        (written.functions _ isThere).result⟩
  | .group haveTypes => (haveTypes.written written allWritten).1
  | .element ofList _ => by
      have writtenList := ofList.written written allWritten
      exact writtenList
  | .field _ isThere isField =>
      (written.structs _ isThere).fields _ (List.mem_of_find?_eq_some isField)
  | .call ofCallee _ => (ofCallee.written written allWritten).2

theorem HaveTypes.written
    {expressions : List Expr} {types : List Ty} (written : program.Written)
    (allWritten : Region.AllWritten regions) :
    program.HaveTypes regions expressions types → Ty.WrittenAll types
  | .nil => trivial
  | .cons ofHead ofTail =>
      ⟨ofHead.written written allWritten, ofTail.written written allWritten⟩

end

/-! ## What names and members mean in a well-formed program -/

variable {number : Nat} {called : String} {position : Position} {type : Ty}

/-- A name has the type that the check gives it. -/
theorem NamesApart.name_eq_iff
    (names : program.NamesApart) :
    program.signature.name (regions ++ program.beyond number) called = .type type ↔
      program.HasType regions (.name called position) type := by
  have sameNearest : Region.nearest? (regions ++ program.beyond number) called =
      Region.nearest? regions called := nearest?_append_beyond number regions
  cases isNearest : Region.nearest? regions called with
  | some declaration =>
      rw [Signature.name, sameNearest, isNearest]
      constructor
      · intro isType
        cases isType
        exact .ofVariable isNearest
      · intro hasType
        cases hasType with
        | ofVariable isNearestToo =>
            cases isNearest.symm.trans isNearestToo
            rfl
        | ofFunction noVariable _ => cases isNearest.symm.trans noVariable
  | none =>
      rw [isNearest] at sameNearest
      by_cases isFunction : called ∈ program.functions.map (·.name)
      · obtain ⟨declaration, isThere, rfl⟩ := List.mem_map.mp isFunction
        rw [names.distinct.name_eq_of_function isThere sameNearest]
        constructor
        · intro isType
          cases isType
          exact .ofFunction isNearest isThere
        · intro hasType
          generalize isName : declaration.name = called at hasType
          cases hasType with
          | ofVariable isNearestToo => cases isNearest.symm.trans (isName ▸ isNearestToo)
          | ofFunction _ isThereToo =>
              rw [List.inj_on_of_nodup_map names.functions isThere isThereToo isName]
      · rw [names.distinct.name_eq_of_missing isFunction sameNearest]
        refine iff_of_false ?_ ?_
        · intro isType
          cases isType
        · intro hasType
          cases hasType with
          | ofVariable isNearestToo => cases isNearest.symm.trans isNearestToo
          | ofFunction _ isThere => exact isFunction (List.mem_map_of_mem isThere)

/-- A field of a declared struct has the type that the check gives it, and other members have
none. -/
theorem NamesApart.member_eq_iff
    (names : program.NamesApart) {owner : Ty} (known : owner.isUnknown = false) :
    program.signature.member owner called = .type type ↔
      ∃ declaration ∈ program.structs, owner = .struct declaration.name ∧
        ∃ field, declaration.fields.declarationOf? called = some field ∧ field.type = type := by
  cases owner with
  | unknown => cases known
  | struct struct =>
      by_cases isStruct : struct ∈ program.structs.map (·.name)
      · obtain ⟨declaration, isThere, rfl⟩ := List.mem_map.mp isStruct
        rw [names.distinct.member_eq_of_struct isThere]
        constructor
        · intro isType
          cases isField : declaration.fields.declarationOf? called with
          | none =>
              rw [isField] at isType
              cases isType
          | some field =>
              rw [isField] at isType
              exact ⟨declaration, isThere, rfl, field, isField, Verdict.type.inj isType⟩
        · rintro ⟨other, isThereToo, same, field, isField, rfl⟩
          obtain rfl :=
            List.inj_on_of_nodup_map names.structs isThere isThereToo (Ty.struct.inj same)
          rw [isField]
      · rw [names.distinct.member_eq_of_missing isStruct]
        refine iff_of_false ?_ ?_
        · intro isType
          cases isType
        · rintro ⟨declaration, isThere, same, -⟩
          exact isStruct (Ty.struct.inj same ▸ List.mem_map_of_mem isThere)
  | _ =>
      refine iff_of_false ?_ ?_
      · intro isType
        cases isType
      · rintro ⟨declaration, isThere, same, -⟩
        cases same

end Program

/-! ## Rules for known types -/

theorem Verdict.ofOption_eq_type
    {type? : Option Ty} {kind : DiagnosticKind} {names : List String} {type : Ty} :
    ofOption type? kind names = .type type ↔ type? = some type := by
  cases type? <;> simp [ofOption]

namespace Rule

variable {left right type : Ty}

/-- The types that a binary operator takes and gives. -/
theorem binaryOp_eq_type
    {operator : BinaryOp} (leftKnown : left.isUnknown = false)
    (rightKnown : right.isUnknown = false) :
    binaryOp operator left right = .type type ↔
      (operator ∈ [.add, .subtract, .multiply, .divide] ∧ left = .int ∧ right = .int ∧
          type = .int) ∨
        (operator ∈ [.less, .greater] ∧ left = .int ∧ right = .int ∧ type = .bool) ∨
        (operator = .equal ∧ left ∈ [.int, .bool] ∧ right = left ∧ type = .bool) ∨
        (operator ∈ [.both, .either] ∧ left = .bool ∧ right = .bool ∧ type = .bool) ∨
        (operator = .assign ∧ right = left ∧ type = left) := by
  rw [binaryOp, if_neg (by simp [leftKnown]), Verdict.ofOption_eq_type]
  cases operator <;>
    · simp [binaryType?, leftKnown, rightKnown]
      grind

theorem unary_eq_type
    {operator : UnaryOp} {operand : Ty} (known : operand.isUnknown = false) :
    (unary? (.unary operator) operand).getD (.type .unknown) = .type type ↔
      (operator = .negate ∧ operand = .int ∧ type = .int) ∨
        (operator = .invert ∧ operand = .bool ∧ type = .bool) := by
  cases operand with
  | unknown => cases known
  | _ => cases operator <;> simp [unary?, Ty.isUnknown, eq_comm]

theorem index_eq_type
    {list place : Ty} (listKnown : list.isUnknown = false) (placeKnown : place.isUnknown = false) :
    index list place = .type type ↔ list = .list type ∧ place = .int := by
  by_cases isInt : place = .int
  · cases list <;> simp [index, isInt, Ty.isUnknown]
    exact absurd listKnown (by decide)
  · simp [index, listKnown, placeKnown, isInt]

theorem size_eq_type
    {list : Ty} (known : list.isUnknown = false) :
    size list = .type type ↔ ∃ stored, list = .list stored ∧ type = .int := by
  cases list with
  | unknown => cases known
  | _ => simp [size, eq_comm]

theorem append_eq_type
    {list element : Ty} (writtenList : list.Written) (elementKnown : element.isUnknown = false) :
    append list element = .type type ↔
      ∃ stored, list = .list stored ∧ element.sameKind stored ∧ type = .void := by
  cases list with
  | list stored =>
      have storedKnown : stored.isUnknown = false := Ty.Written.isUnknown writtenList
      by_cases isAlike : element.sameKind stored = true
      · have isVerdict : append (.list stored) element = .type .void := by
          simp [append, storedKnown, isAlike]
        rw [isVerdict]
        constructor
        · intro isType
          exact ⟨stored, rfl, isAlike, (Verdict.type.inj isType).symm⟩
        · rintro ⟨-, -, -, rfl⟩
          rfl
      · simp [append, storedKnown, elementKnown, isAlike]
  | unknown => exact writtenList.elim
  | _ => simp [append]

theorem argumentsFit_iff
    {arguments parameters : List Ty} (written : Ty.WrittenAll arguments)
    (writtenToo : Ty.WrittenAll parameters) :
    argumentsFit arguments parameters = true ↔ arguments = parameters := by
  induction arguments generalizing parameters with
  | nil => cases parameters <;> simp [argumentsFit]
  | cons head tail inductionHypothesis =>
      cases parameters with
      | nil => simp [argumentsFit]
      | cons parameter others =>
          have tailFits := inductionHypothesis written.2 writtenToo.2
          simp only [argumentsFit, List.zip_cons_cons, List.all_cons, List.length_cons,
            written.1.isUnknown, writtenToo.1.isUnknown, Bool.or_false, List.cons.injEq,
            ← tailFits]
          simp
          tauto

theorem call_eq_type
    {callee : Ty} {arguments : List Ty} (writtenCallee : callee.Written)
    (written : Ty.WrittenAll arguments) :
    call callee arguments = .type type ↔ callee = .fptr arguments type := by
  cases callee with
  | fptr parameters result =>
      have fits := argumentsFit_iff written writtenCallee.1
      by_cases isSame : arguments = parameters
      · rw [call, if_pos (fits.mpr isSame)]
        simp [isSame]
      · rw [call, if_neg (isSame ∘ fits.mp)]
        simp [Ne.symm isSame]
  | unknown => exact writtenCallee.elim
  | _ => simp [call]

end Rule

/-! ## Expressions -/

namespace Expr

variable {around : Surroundings} {address : Address} {index : Nat} {expression : Expr} {type : Ty}
  {position : Position}

/-- An expression gets a type, and nothing is complained about at it or below it. -/
structure Clean (around : Surroundings) (address : Address) (expression : Expr) (type : Ty) :
    Prop where
  verdict : expression.verdict around = .type type
  quiet : Quiet (expression.findings around address)

/-- Several expressions get types, and nothing is complained about at them or below them. -/
structure CleanAll (around : Surroundings) (address : Address) (index : Nat)
    (expressions : List Expr) (types : List Ty) : Prop where
  types : typesOf around expressions = types
  quiet : Quiet (findingsOf around address index expressions)

theorem quiet_own
    (isVerdict : expression.verdict around = .type type) :
    Quiet (expression.ownFindings around address) := by
  rw [ownFindings, isVerdict]
  rfl

theorem Clean.typeIn
    (clean : expression.Clean around address type) : expression.typeIn around = type := by
  rw [Expr.typeIn, clean.verdict]
  rfl

/-- Where nothing is complained about the type is as the check gives it. -/
theorem clean_of_quiet
    (isQuiet : Quiet (expression.findings around address)) :
    expression.Clean around address (expression.typeIn around) := by
  by_cases proper : expression.IsProper
  · have isOwn : expression.ownFindings around address ⊆ expression.findings around address := by
      rw [findings_eq]
      exact fun finding isFound => List.mem_flatMap.mpr ⟨_, mem_parts_self proper, isFound⟩
    exact ⟨quiet_settled.mp (isQuiet.of_subset isOwn), isQuiet⟩
  · refine ⟨?_, isQuiet⟩
    cases expression with
    | stray | absent => rfl
    | _ => exact absurd trivial proper

theorem cleanAll_of_quiet
    {expressions : List Expr} (isQuiet : Quiet (findingsOf around address index expressions)) :
    CleanAll around address index expressions (typesOf around expressions) :=
  ⟨rfl, isQuiet⟩

/-! ### Clean expressions have clean parts -/

theorem clean_group
    {items : List Expr} :
    (group items position).Clean around address type ↔
      ∃ types, CleanAll around address 0 items types ∧ types.head?.getD .unknown = type := by
  constructor
  · rintro ⟨isVerdict, isQuiet⟩
    exact ⟨_, cleanAll_of_quiet (quiet_append.mp isQuiet).1, Verdict.type.inj isVerdict⟩
  · rintro ⟨types, cleanItems, rfl⟩
    have isVerdict : (group items position).verdict around = Rule.group types := by
      rw [verdict, cleanItems.types]
    exact ⟨isVerdict, quiet_append.mpr ⟨cleanItems.quiet, quiet_own isVerdict⟩⟩

/-- An expression with one operand, whose type decides the verdict. -/
theorem clean_iff_of_operand
    {operand : Expr} {rule : Ty → Verdict}
    (isFindings : expression.findings around address =
      operand.findings around (0 :: address) ++ expression.ownFindings around address)
    (isVerdict : expression.verdict around = rule (operand.verdict around).ty) :
    expression.Clean around address type ↔
      ∃ operandType, operand.Clean around (0 :: address) operandType ∧
        rule operandType = .type type := by
  constructor
  · intro clean
    have isQuiet := clean.quiet
    rw [isFindings, quiet_append] at isQuiet
    exact ⟨_, clean_of_quiet isQuiet.1, isVerdict ▸ clean.verdict⟩
  · rintro ⟨operandType, cleanOperand, isRule⟩
    have isType : expression.verdict around = .type type := by
      rw [isVerdict, cleanOperand.verdict]
      exact isRule
    refine ⟨isType, ?_⟩
    rw [isFindings, quiet_append]
    exact ⟨cleanOperand.quiet, quiet_own isType⟩

/-- An expression with two operands, whose types decide the verdict. -/
theorem clean_iff_of_operands
    {left right : Expr} {rule : Ty → Ty → Verdict}
    (isFindings : expression.findings around address =
      left.findings around (0 :: address) ++
        (right.findings around (1 :: address) ++ expression.ownFindings around address))
    (isVerdict : expression.verdict around =
      rule (left.verdict around).ty (right.verdict around).ty) :
    expression.Clean around address type ↔
      ∃ leftType rightType, left.Clean around (0 :: address) leftType ∧
        right.Clean around (1 :: address) rightType ∧ rule leftType rightType = .type type := by
  constructor
  · intro clean
    have isQuiet := clean.quiet
    rw [isFindings, quiet_append, quiet_append] at isQuiet
    exact ⟨_, _, clean_of_quiet isQuiet.1, clean_of_quiet isQuiet.2.1,
      isVerdict ▸ clean.verdict⟩
  · rintro ⟨leftType, rightType, cleanLeft, cleanRight, isRule⟩
    have isType : expression.verdict around = .type type := by
      rw [isVerdict, cleanLeft.verdict, cleanRight.verdict]
      exact isRule
    refine ⟨isType, ?_⟩
    rw [isFindings, quiet_append, quiet_append]
    exact ⟨cleanLeft.quiet, cleanRight.quiet, quiet_own isType⟩

theorem clean_binary
    {left right : Expr} {operator : BinaryOp} :
    (binary left (.binary operator) right position).Clean around address type ↔
      ∃ leftType rightType, left.Clean around (0 :: address) leftType ∧
        right.Clean around (1 :: address) rightType ∧
        Rule.binaryOp operator leftType rightType = .type type :=
  clean_iff_of_operands rfl rfl

theorem clean_unary
    {operand : Expr} {operator : UnaryOp} :
    (unary (.unary operator) operand position).Clean around address type ↔
      ∃ operandType, operand.Clean around (0 :: address) operandType ∧
        (Rule.unary? (.unary operator) operandType).getD (.type .unknown) = .type type :=
  clean_iff_of_operand rfl rfl

theorem clean_index
    {list place : Expr} :
    (Expr.index list place position).Clean around address type ↔
      ∃ listType placeType, list.Clean around (0 :: address) listType ∧
        place.Clean around (1 :: address) placeType ∧
        Rule.index listType placeType = .type type :=
  clean_iff_of_operands rfl rfl

theorem clean_member
    {owner : Expr} {called : String} :
    (member owner called position).Clean around address type ↔
      ∃ ownerType, owner.Clean around (0 :: address) ownerType ∧
        around.member ownerType called = .type type :=
  clean_iff_of_operand rfl rfl

theorem clean_size
    {list : Expr} :
    (size list position).Clean around address type ↔
      ∃ listType, list.Clean around (0 :: address) listType ∧ Rule.size listType = .type type :=
  clean_iff_of_operand rfl rfl

theorem clean_append
    {list element : Expr} :
    (append list element position).Clean around address type ↔
      ∃ listType elementType, list.Clean around (0 :: address) listType ∧
        element.Clean around (1 :: address) elementType ∧
        Rule.append listType elementType = .type type :=
  clean_iff_of_operands rfl rfl

theorem clean_call
    {callee : Expr} {arguments : List Expr} :
    (call callee arguments position).Clean around address type ↔
      ∃ calleeType types, callee.Clean around (0 :: address) calleeType ∧
        CleanAll around (1 :: address) 0 arguments types ∧
        Rule.call calleeType types = .type type := by
  constructor
  · rintro ⟨isVerdict, isQuiet⟩
    obtain ⟨calleeQuiet, othersQuiet⟩ := quiet_append.mp isQuiet
    exact ⟨_, _, clean_of_quiet calleeQuiet, cleanAll_of_quiet (quiet_append.mp othersQuiet).1,
      isVerdict⟩
  · rintro ⟨calleeType, types, cleanCallee, cleanArguments, isRule⟩
    have isVerdict : (call callee arguments position).verdict around = .type type := by
      rw [verdict, cleanCallee.verdict, cleanArguments.types]
      exact isRule
    exact ⟨isVerdict, quiet_append.mpr
      ⟨cleanCallee.quiet, quiet_append.mpr ⟨cleanArguments.quiet, quiet_own isVerdict⟩⟩⟩

theorem cleanAll_cons
    {head : Expr} {tail : List Expr} {types : List Ty} :
    CleanAll around address index (head :: tail) types ↔
      ∃ headType tailTypes, head.Clean around (index :: address) headType ∧
        CleanAll around address (index + 1) tail tailTypes ∧ types = headType :: tailTypes := by
  constructor
  · rintro ⟨rfl, isQuiet⟩
    obtain ⟨headQuiet, tailQuiet⟩ := quiet_append.mp isQuiet
    exact ⟨_, _, clean_of_quiet headQuiet, cleanAll_of_quiet tailQuiet, rfl⟩
  · rintro ⟨headType, tailTypes, cleanHead, cleanTail, rfl⟩
    refine ⟨?_, quiet_append.mpr ⟨cleanHead.quiet, cleanTail.quiet⟩⟩
    rw [typesOf, cleanHead.verdict, cleanTail.types]
    rfl

end Expr

namespace Program

variable {program : Program} {regions : List Region} {number : Nat}

/-- What expressions of a body see inside nested regions. -/
def surroundings (program : Program) (number : Nat) (regions : List Region) : Surroundings :=
  program.signature.around (regions ++ program.beyond number)

/-! ### Types of expressions from the types of their parts

In a well-formed program each constructor of the typing relation says what the rule of the check
says for the same expression. -/

variable {position : Position} {type : Ty}

theorem hasType_group_iff
    {items : List Expr} (notEmpty : items ≠ []) :
    program.HasType regions (.group items position) type ↔
      ∃ types, program.HaveTypes regions items types ∧ types.head?.getD .unknown = type := by
  constructor
  · intro hasType
    cases hasType with
    | group haveTypes => exact ⟨_, haveTypes, rfl⟩
  · rintro ⟨types, haveTypes, rfl⟩
    cases haveTypes with
    | nil => exact absurd rfl notEmpty
    | cons ofHead ofTail => exact .group (.cons ofHead ofTail)

theorem haveTypes_cons_iff
    {head : Expr} {tail : List Expr} {types : List Ty} :
    program.HaveTypes regions (head :: tail) types ↔
      ∃ headType tailTypes, program.HasType regions head headType ∧
        program.HaveTypes regions tail tailTypes ∧ types = headType :: tailTypes := by
  constructor
  · intro haveTypes
    cases haveTypes with
    | cons ofHead ofTail => exact ⟨_, _, ofHead, ofTail, rfl⟩
  · rintro ⟨headType, tailTypes, ofHead, ofTail, rfl⟩
    exact .cons ofHead ofTail

/-- What a binary operator gives is what its rule gives for the types of its operands. -/
theorem HasType.binary
    {left right : Expr} {operator : BinaryOp}
    (hasType : program.HasType regions (.binary left (.binary operator) right position) type) :
    ∃ leftType rightType, program.HasType regions left leftType ∧
      program.HasType regions right rightType ∧
      Rule.binaryOp operator leftType rightType = .type type := by
  cases hasType with
  | arithmetic isOperator ofLeft ofRight =>
      refine ⟨.int, .int, ofLeft, ofRight, (Rule.binaryOp_eq_type rfl rfl).mpr ?_⟩
      exact .inl ⟨isOperator, rfl, rfl, rfl⟩
  | comparison isOperator ofLeft ofRight =>
      refine ⟨.int, .int, ofLeft, ofRight, (Rule.binaryOp_eq_type rfl rfl).mpr ?_⟩
      exact .inr (.inl ⟨isOperator, rfl, rfl, rfl⟩)
  | @equality _ _ plain _ isPlain ofLeft ofRight =>
      have known : plain.isUnknown = false := by
        cases plain with
        | int | bool => rfl
        | _ => simp at isPlain
      refine ⟨plain, plain, ofLeft, ofRight, (Rule.binaryOp_eq_type known known).mpr ?_⟩
      exact .inr (.inr (.inl ⟨rfl, isPlain, rfl, rfl⟩))
  | connection isOperator ofLeft ofRight =>
      refine ⟨.bool, .bool, ofLeft, ofRight, (Rule.binaryOp_eq_type rfl rfl).mpr ?_⟩
      exact .inr (.inr (.inr (.inl ⟨isOperator, rfl, rfl, rfl⟩)))

section

variable (written : program.Written) (allWritten : Region.AllWritten regions)

include written allWritten

theorem hasType_binary_iff
    {left right : Expr} {operator : BinaryOp} (notAssign : operator ≠ .assign) :
    program.HasType regions (.binary left (.binary operator) right position) type ↔
      ∃ leftType rightType, program.HasType regions left leftType ∧
        program.HasType regions right rightType ∧
        Rule.binaryOp operator leftType rightType = .type type := by
  refine ⟨HasType.binary, ?_⟩
  rintro ⟨leftType, rightType, ofLeft, ofRight, isRule⟩
  rw [Rule.binaryOp_eq_type (ofLeft.written written allWritten).isUnknown
    (ofRight.written written allWritten).isUnknown] at isRule
  rcases isRule with ⟨isOperator, rfl, rfl, rfl⟩ | ⟨isOperator, rfl, rfl, rfl⟩ |
    ⟨rfl, isPlain, rfl, rfl⟩ | ⟨isOperator, rfl, rfl, rfl⟩ | ⟨isAssign, -⟩
  · exact .arithmetic isOperator ofLeft ofRight
  · exact .comparison isOperator ofLeft ofRight
  · exact .equality isPlain ofLeft ofRight
  · exact .connection isOperator ofLeft ofRight
  · exact absurd isAssign notAssign

theorem hasType_unary_iff
    {operand : Expr} {operator : UnaryOp} :
    program.HasType regions (.unary (.unary operator) operand position) type ↔
      ∃ operandType, program.HasType regions operand operandType ∧
        (Rule.unary? (.unary operator) operandType).getD (.type .unknown) = .type type := by
  constructor
  · intro hasType
    cases hasType with
    | negation ofOperand => exact ⟨.int, ofOperand, rfl⟩
    | inversion ofOperand => exact ⟨.bool, ofOperand, rfl⟩
  · rintro ⟨operandType, ofOperand, isRule⟩
    rw [Rule.unary_eq_type (ofOperand.written written allWritten).isUnknown] at isRule
    rcases isRule with ⟨rfl, rfl, rfl⟩ | ⟨rfl, rfl, rfl⟩
    · exact .negation ofOperand
    · exact .inversion ofOperand

theorem hasType_index_iff
    {list place : Expr} :
    program.HasType regions (.index list place position) type ↔
      ∃ listType placeType, program.HasType regions list listType ∧
        program.HasType regions place placeType ∧ Rule.index listType placeType = .type type := by
  constructor
  · intro hasType
    cases hasType with
    | element ofList ofPlace => exact ⟨_, _, ofList, ofPlace, rfl⟩
  · rintro ⟨listType, placeType, ofList, ofPlace, isRule⟩
    rw [Rule.index_eq_type (ofList.written written allWritten).isUnknown
      (ofPlace.written written allWritten).isUnknown] at isRule
    obtain ⟨rfl, rfl⟩ := isRule
    exact .element ofList ofPlace

theorem hasType_member_iff
    {owner : Expr} {called : String} (names : program.NamesApart) :
    program.HasType regions (.member owner called position) type ↔
      ∃ ownerType, program.HasType regions owner ownerType ∧
        program.signature.member ownerType called = .type type := by
  constructor
  · intro hasType
    cases hasType with
    | field ofOwner isThere isField =>
        exact ⟨_, ofOwner, (names.member_eq_iff rfl).mpr ⟨_, isThere, rfl, _, isField, rfl⟩⟩
  · rintro ⟨ownerType, ofOwner, isRule⟩
    obtain ⟨declaration, isThere, rfl, field, isField, rfl⟩ :=
      (names.member_eq_iff (ofOwner.written written allWritten).isUnknown).mp isRule
    exact .field ofOwner isThere isField

theorem hasType_size_iff
    {list : Expr} :
    program.HasType regions (.size list position) type ↔
      ∃ listType, program.HasType regions list listType ∧ Rule.size listType = .type type := by
  constructor
  · intro hasType
    cases hasType with
    | size ofList => exact ⟨_, ofList, rfl⟩
  · rintro ⟨listType, ofList, isRule⟩
    rw [Rule.size_eq_type (ofList.written written allWritten).isUnknown] at isRule
    obtain ⟨stored, rfl, rfl⟩ := isRule
    exact .size ofList

theorem hasType_append_iff
    {list element : Expr} :
    program.HasType regions (.append list element position) type ↔
      ∃ listType elementType, program.HasType regions list listType ∧
        program.HasType regions element elementType ∧
        Rule.append listType elementType = .type type := by
  constructor
  · intro hasType
    cases hasType with
    | append ofList ofElement isAlike =>
        refine ⟨_, _, ofList, ofElement, ?_⟩
        rw [Rule.append_eq_type (ofList.written written allWritten)
          (ofElement.written written allWritten).isUnknown]
        exact ⟨_, rfl, isAlike, rfl⟩
  · rintro ⟨listType, elementType, ofList, ofElement, isRule⟩
    rw [Rule.append_eq_type (ofList.written written allWritten)
      (ofElement.written written allWritten).isUnknown] at isRule
    obtain ⟨stored, rfl, isAlike, rfl⟩ := isRule
    exact .append ofList ofElement isAlike

theorem hasType_call_iff
    {callee : Expr} {arguments : List Expr} :
    program.HasType regions (.call callee arguments position) type ↔
      ∃ calleeType types, program.HasType regions callee calleeType ∧
        program.HaveTypes regions arguments types ∧ Rule.call calleeType types = .type type := by
  constructor
  · intro hasType
    cases hasType with
    | call ofCallee ofArguments =>
        refine ⟨_, _, ofCallee, ofArguments, ?_⟩
        rw [Rule.call_eq_type (ofCallee.written written allWritten)
          (ofArguments.written written allWritten)]
  · rintro ⟨calleeType, types, ofCallee, ofArguments, isRule⟩
    rw [Rule.call_eq_type (ofCallee.written written allWritten)
      (ofArguments.written written allWritten)] at isRule
    obtain rfl := isRule
    exact .call ofCallee ofArguments

end

section

variable (names : program.NamesApart) (written : program.Written)
  (allWritten : Region.AllWritten regions)

include names written allWritten

-- The second theorem of the pair uses the assumptions only through the first one.
set_option linter.unusedSectionVars false in
mutual

/-- The types of an expression are those with which nothing is complained about. -/
theorem hasType_iff_clean
    {type : Ty} (address : Address) :
    (expression : Expr) → expression.Written →
      (program.HasType regions expression type ↔
        expression.Clean (program.surroundings number regions) address type)
  | .integer .., _ | .boolean .., _ => by
      constructor
      · intro hasType
        cases hasType
        exact ⟨rfl, quiet_nil⟩
      · intro clean
        cases clean.verdict
        constructor
  | .name called position, _ => by
      constructor
      · intro hasType
        have isVerdict : (Expr.name called position).verdict (program.surroundings number regions) =
            .type type := names.name_eq_iff.mpr hasType
        exact ⟨isVerdict, Expr.quiet_own isVerdict⟩
      · intro clean
        exact names.name_eq_iff.mp clean.verdict
  | .group items position, ⟨notEmpty, writtenItems⟩ => by
      rw [hasType_group_iff notEmpty, Expr.clean_group]
      simp only [haveTypes_iff_cleanAll address 0 items writtenItems]
  | .binary left _ right position, ⟨writtenLeft, writtenRight, operator, rfl, notAssign⟩ => by
      rw [hasType_binary_iff written allWritten notAssign, Expr.clean_binary]
      simp only [hasType_iff_clean (0 :: address) left writtenLeft,
        hasType_iff_clean (1 :: address) right writtenRight]
  | .unary _ operand position, ⟨writtenOperand, operator, rfl⟩ => by
      rw [hasType_unary_iff written allWritten, Expr.clean_unary]
      simp only [hasType_iff_clean (0 :: address) operand writtenOperand]
  | .index list place position, ⟨writtenList, writtenPlace⟩ => by
      rw [hasType_index_iff written allWritten, Expr.clean_index]
      simp only [hasType_iff_clean (0 :: address) list writtenList,
        hasType_iff_clean (1 :: address) place writtenPlace]
  | .member owner called position, writtenOwner => by
      rw [hasType_member_iff written allWritten names, Expr.clean_member]
      simp only [hasType_iff_clean (0 :: address) owner writtenOwner]
      rfl
  | .size list position, writtenList => by
      rw [hasType_size_iff written allWritten, Expr.clean_size]
      simp only [hasType_iff_clean (0 :: address) list writtenList]
  | .append list element position, ⟨writtenList, writtenElement⟩ => by
      rw [hasType_append_iff written allWritten, Expr.clean_append]
      simp only [hasType_iff_clean (0 :: address) list writtenList,
        hasType_iff_clean (1 :: address) element writtenElement]
  | .call callee arguments position, ⟨writtenCallee, writtenArguments⟩ => by
      rw [hasType_call_iff written allWritten, Expr.clean_call]
      simp only [hasType_iff_clean (0 :: address) callee writtenCallee,
        haveTypes_iff_cleanAll (1 :: address) 0 arguments writtenArguments]
  | .stray _, isWritten | .absent, isWritten => isWritten.elim

theorem haveTypes_iff_cleanAll
    {types : List Ty} (address : Address) (index : Nat) :
    (expressions : List Expr) → Expr.WrittenAll expressions →
      (program.HaveTypes regions expressions types ↔
        Expr.CleanAll (program.surroundings number regions) address index expressions types)
  | [], _ => by
      constructor
      · intro haveTypes
        cases haveTypes
        exact ⟨rfl, quiet_nil⟩
      · intro clean
        cases clean.types
        exact .nil
  | head :: tail, ⟨writtenHead, writtenTail⟩ => by
      rw [haveTypes_cons_iff, Expr.cleanAll_cons]
      simp only [hasType_iff_clean (index :: address) head writtenHead,
        haveTypes_iff_cleanAll address (index + 1) tail writtenTail]

end

variable {expression : Expr}

theorem HasType.clean
    {type : Ty} (number : Nat) (address : Address) (isWritten : expression.Written)
    (hasType : program.HasType regions expression type) :
    expression.Clean (program.surroundings number regions) address type :=
  (hasType_iff_clean names written allWritten address expression isWritten).mp hasType

theorem hasType_of_quiet
    {address : Address} (isWritten : expression.Written)
    (isQuiet : Quiet (expression.findings (program.surroundings number regions) address)) :
    program.HasType regions expression (expression.typeIn (program.surroundings number regions)) :=
  (hasType_iff_clean names written allWritten address expression isWritten).mpr
    (Expr.clean_of_quiet isQuiet)

end

end Program

end StructLang
