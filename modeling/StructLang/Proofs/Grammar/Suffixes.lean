import StructLang.Proofs.Grammar.Programs

/-!
# What derivations leave

A derivation takes tokens from the front: what it leaves stands at the end of what it was given. So
all tokens that its parts are made of are among the tokens of the whole.
-/

namespace StructLang.Grammar

theorem suffix_of_cons
    {first : Token} {others rest tokens : List Token} (isRest : rest <:+ others)
    (suffix : first :: others <:+ tokens) : rest <:+ tokens :=
  isRest.trans ((List.suffix_cons first others).trans suffix)

mutual

theorem DerivesType.suffix
    {tokens rest : List Token} {type : Ty} : DerivesType tokens type rest → rest <:+ tokens
  | .int _ | .bool _ | .void _ | .struct _ => List.suffix_cons _ _
  | .list _ _ derives _ =>
      suffix_of_cons (List.suffix_refl _) (derives.suffix.trans (List.suffix_append [_, _] _))
  | .fptr _ _ derivesParameters _ derivesResult _ =>
      suffix_of_cons (List.suffix_refl _)
        (derivesResult.suffix.trans (suffix_of_cons (List.suffix_refl _)
          (derivesParameters.suffix.trans (List.suffix_append [_, _] _))))

theorem DerivesParameterTypes.suffix
    {tokens rest : List Token} {types : List Ty} :
    DerivesParameterTypes tokens types rest → rest <:+ tokens
  | .none _ => List.suffix_cons _ _
  | .some derives _ => derives.suffix

theorem DerivesTypes.suffix
    {tokens rest : List Token} {types : List Ty} :
    DerivesTypes tokens types rest → rest <:+ tokens
  | .last derives => derives.suffix
  | .more derives _ derivesMore => suffix_of_cons derivesMore.suffix derives.suffix

end

mutual

theorem DerivesExpr.suffix
    {form : ExprForm} {tokens rest : List Token} {expression : Expr} :
    DerivesExpr form tokens expression rest → rest <:+ tokens
  | .operand derives | .unsigned derives | .primary derives => derives.suffix
  | .operation derivesLeft _ derivesRight =>
      suffix_of_cons derivesRight.suffix derivesLeft.suffix
  | .invert _ derives | .negate _ derives => derives.suffix.trans (List.suffix_cons _ _)
  | .call derives _ _ derivesArguments _ =>
      suffix_of_cons (suffix_of_cons (List.suffix_refl _) derivesArguments.suffix)
        derives.suffix
  | .index derives _ derivesPlace _ =>
      suffix_of_cons (suffix_of_cons (List.suffix_refl _) derivesPlace.suffix) derives.suffix
  | .append derives _ _ _ _ derivesElement _ =>
      (suffix_of_cons (List.suffix_refl _) derivesElement.suffix).trans
        ((List.suffix_append [_, _, _] _).trans derives.suffix)
  | .size derives _ _ _ _ _ => (List.suffix_append [_, _, _, _] _).trans derives.suffix
  | .member derives _ _ => (List.suffix_append [_, _] _).trans derives.suffix
  | .integer _ _ | .true _ | .false _ | .name _ => List.suffix_cons _ _
  | .group _ derives _ =>
      suffix_of_cons (List.suffix_refl _) (derives.suffix.trans (List.suffix_cons _ _))

theorem DerivesArguments.suffix
    {tokens rest : List Token} {arguments : List Expr} :
    DerivesArguments tokens arguments rest → rest <:+ tokens
  | .none => List.suffix_refl _
  | .some derives => derives.suffix

theorem DerivesItems.suffix
    {tokens rest : List Token} {items : List Expr} :
    DerivesItems tokens items rest → rest <:+ tokens
  | .last derives => derives.suffix
  | .more derives _ derivesMore => suffix_of_cons derivesMore.suffix derives.suffix

end

theorem DerivesSeries.suffix
    {alpha : Type} {item : List Token → alpha → List Token → Prop} {tokens rest : List Token}
    {items : List alpha} (derives : DerivesSeries item tokens items rest)
    (each : ∀ tokens found rest, item tokens found rest → rest <:+ tokens) : rest <:+ tokens := by
  induction derives with
  | last derives => exact each _ _ _ derives
  | more derives _ _ inductionHypothesis =>
      exact suffix_of_cons inductionHypothesis (each _ _ _ derives)

theorem DerivesParameter.suffix
    {tokens rest : List Token} {parameter : VariableDecl}
    (derives : DerivesParameter tokens parameter rest) : rest <:+ tokens := by
  cases derives with
  | parameter derives => exact suffix_of_cons (List.suffix_refl _) derives.suffix

theorem DerivesParameters.suffix
    {tokens rest : List Token} {parameters : List VariableDecl}
    (derives : DerivesParameters tokens parameters rest) : rest <:+ tokens := by
  cases derives with
  | none => exact List.suffix_append [_, _] _
  | some _ derives =>
      have inside := derives.suffix fun _ _ _ => DerivesParameter.suffix
      exact suffix_of_cons (List.suffix_refl _) (inside.trans (List.suffix_cons _ _))

theorem DerivesVariables.suffix
    {tokens rest : List Token} {declared : List VariableDecl}
    (derives : DerivesVariables tokens declared rest) : rest <:+ tokens := by
  cases derives with
  | ofNames derives derivesNames =>
      have inside := derivesNames.suffix fun _ _ _ isName => isName.1 ▸ List.suffix_cons _ _
      exact suffix_of_cons (List.suffix_refl _) (inside.trans derives.suffix)

theorem DerivesCondition.suffix
    {tokens rest : List Token} {condition : Expr}
    (derives : DerivesCondition tokens condition rest) : rest <:+ tokens := by
  cases derives with
  | condition _ derives =>
      exact suffix_of_cons (List.suffix_refl _) (derives.suffix.trans (List.suffix_cons _ _))

mutual

theorem DerivesStmt.suffix
    {tokens rest : List Token} {statement : Stmt} :
    DerivesStmt tokens statement rest → rest <:+ tokens
  | .block derives => derives.suffix
  | .declare derives => derives.suffix
  | .assign derivesTarget _ derivesValue _ =>
      suffix_of_cons (suffix_of_cons (List.suffix_refl _) derivesValue.suffix)
        derivesTarget.suffix
  | .call derives _ | .append derives _ | .size derives _ =>
      suffix_of_cons (List.suffix_refl _) derives.suffix
  | .branch _ derivesCondition derivesThen =>
      derivesThen.suffix.trans (derivesCondition.suffix.trans (List.suffix_cons _ _))
  | .branchElse _ derivesCondition derivesThen _ _ derivesElse =>
      suffix_of_cons derivesElse.suffix
        (derivesThen.suffix.trans (derivesCondition.suffix.trans (List.suffix_cons _ _)))
  | .loop _ derivesCondition derivesBody =>
      derivesBody.suffix.trans (derivesCondition.suffix.trans (List.suffix_cons _ _))
  | .display _ derives _ =>
      suffix_of_cons (List.suffix_refl _) (derives.suffix.trans (List.suffix_cons _ _))
  | .giveBackNothing _ _ => List.suffix_append [_, _] _
  | .giveBack _ derives _ =>
      suffix_of_cons (List.suffix_refl _) (derives.suffix.trans (List.suffix_cons _ _))

theorem DerivesBlock.suffix
    {tokens rest : List Token} {statement : Stmt} :
    DerivesBlock tokens statement rest → rest <:+ tokens
  | .block _ derives _ =>
      suffix_of_cons (List.suffix_refl _) (derives.suffix.trans (List.suffix_cons _ _))

theorem DerivesStmts.suffix
    {tokens rest : List Token} {statements : List Stmt} :
    DerivesStmts tokens statements rest → rest <:+ tokens
  | .none => List.suffix_refl _
  | .more derives derivesMore => derivesMore.suffix.trans derives.suffix

end

theorem DerivesAccessorBlocks.suffix
    {tokens rest : List Token} {setBody getBody : Stmt}
    (derives : DerivesAccessorBlocks tokens setBody getBody rest) : rest <:+ tokens := by
  cases derives with
  | setFirst _ derivesFirst _ derivesSecond | getFirst _ derivesFirst _ derivesSecond =>
      exact suffix_of_cons derivesSecond.suffix
        (derivesFirst.suffix.trans (List.suffix_cons _ _))

theorem DerivesMember.suffix
    {tokens rest : List Token} {member : Stmt} (derives : DerivesMember tokens member rest) :
    rest <:+ tokens := by
  cases derives with
  | fields derives => exact derives.suffix
  | accessor derivesType _ derivesParameters _ derivesBlocks =>
      have inside := suffix_of_cons (List.suffix_refl _) derivesBlocks.suffix
      exact suffix_of_cons (suffix_of_cons inside derivesParameters.suffix) derivesType.suffix

theorem DerivesMembers.suffix
    {tokens rest : List Token} {members : List Stmt}
    (derives : DerivesMembers tokens members rest) : rest <:+ tokens := by
  induction derives with
  | none => exact List.suffix_refl _
  | more derivesHead _ inductionHypothesis =>
      exact inductionHypothesis.trans derivesHead.suffix

theorem DerivesStruct.suffix
    {tokens rest : List Token} {declaration : StructDecl}
    (derives : DerivesStruct tokens declaration rest) : rest <:+ tokens := by
  cases derives with
  | struct _ _ _ derives =>
      exact suffix_of_cons (List.suffix_refl _)
        (derives.suffix.trans (List.suffix_append [_, _, _] _))

theorem DerivesFunction.suffix
    {tokens rest : List Token} {declaration : FunctionDecl}
    (derives : DerivesFunction tokens declaration rest) : rest <:+ tokens := by
  cases derives with
  | function _ _ derivesParameters derivesResult derivesBody =>
      exact derivesBody.suffix.trans (derivesResult.suffix.trans
        (derivesParameters.suffix.trans (List.suffix_append [_, _] _)))

theorem DerivesDeclarations.suffix
    {tokens rest : List Token} {structs : List StructDecl} {functions : List FunctionDecl}
    (derives : DerivesDeclarations tokens structs functions rest) : rest <:+ tokens := by
  induction derives with
  | none => exact List.suffix_refl _
  | struct derivesHead _ inductionHypothesis | function derivesHead _ inductionHypothesis =>
      exact inductionHypothesis.trans derivesHead.suffix

end StructLang.Grammar
