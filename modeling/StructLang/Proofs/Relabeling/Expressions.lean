import StructLang.Proofs.Check.Expressions
import StructLang.Proofs.Relabeling.Trees

/-!
# Relabeled expressions

No rule looks at a name but to compare it with another one. So if surroundings speak of changed
names as others speak of the old ones, then what is found at a relabeled expression is what was
found at the expression, relabeled.
-/

namespace StructLang

/-! ## Rules -/

namespace Rule

variable {change : String → String}

theorem binaryType?_rename
    (injective : Function.Injective change) (operator : BinaryOp) (left right : Ty) :
    binaryType? operator (left.rename change) (right.rename change) =
      (binaryType? operator left right).map (Ty.rename change) := by
  have isOther : (if left.isUnknown then right.rename change else left.rename change) =
      (if left.isUnknown then right else left).rename change :=
    (apply_ite (Ty.rename change) _ _ _).symm
  have isKept (other : Ty) : (if other = .int then Ty.int else .bool).rename change =
      if other = .int then .int else .bool := by
    split <;> rfl
  cases operator <;>
    simp only [binaryType?, Ty.isUnknown_rename, isOther, isKept, Ty.rename_eq_int,
      Ty.rename_eq_bool, Ty.rename_inj injective, apply_ite (Option.map (Ty.rename change)),
      Option.map_some, Option.map_none, Ty.rename]

theorem binaryOp_rename
    (injective : Function.Injective change) (operator : BinaryOp) (left right : Ty) :
    binaryOp operator (left.rename change) (right.rename change) =
      (binaryOp operator left right).rename change := by
  simp only [binaryOp, Ty.isUnknown_rename, binaryType?_rename injective]
  split
  · rfl
  · cases binaryType? operator left right <;> rfl

theorem binary?_rename
    (injective : Function.Injective change) (operator : Operator) (left right : Ty) :
    binary? operator (left.rename change) (right.rename change) =
      (binary? operator left right).map (Verdict.rename change) := by
  cases operator with
  | binary plain => exact congrArg some (binaryOp_rename injective plain left right)
  | unary | absent =>
      simp only [binary?, Ty.isUnknown_rename]
      split <;> rfl

theorem unary?_rename
    (operator : Operator) (operand : Ty) :
    unary? operator (operand.rename change) =
      (unary? operator operand).map (Verdict.rename change) := by
  cases operand <;> rcases operator with plain | plain | - <;> first | rfl | (cases plain <;> rfl)

theorem group_rename
    (items : List Ty) :
    group (items.map (Ty.rename change)) = (group items).rename change := by
  cases items <;> rfl

theorem elementOf_rename
    (list : Ty) : elementOf (list.rename change) = (elementOf list).rename change := by
  cases list <;> rfl

theorem index_rename
    (list place : Ty) :
    index (list.rename change) (place.rename change) = (index list place).rename change := by
  simp only [index, Ty.isUnknown_rename, elementOf_rename, ne_eq, Ty.rename_eq_int]
  split
  · rfl
  · split
    · rfl
    · cases list <;> rfl

theorem size_rename
    (list : Ty) : size (list.rename change) = (size list).rename change := by
  cases list <;> rfl

theorem append_rename
    (list element : Ty) :
    append (list.rename change) (element.rename change) =
      (append list element).rename change := by
  cases list with
  | list stored =>
      simp only [Ty.rename, append, Ty.isUnknown_rename, Ty.sameKind_rename,
        apply_ite (Verdict.rename change)]
      rfl
  | _ => rfl

theorem argumentsFit_rename
    (injective : Function.Injective change) (arguments parameters : List Ty) :
    argumentsFit (arguments.map (Ty.rename change)) (parameters.map (Ty.rename change)) =
      argumentsFit arguments parameters := by
  simp only [argumentsFit, List.length_map, List.zip_map, List.all_map, Function.comp_def,
    Prod.map_fst, Prod.map_snd, Ty.rename_inj injective, Ty.isUnknown_rename]

theorem call_rename
    (injective : Function.Injective change) (callee : Ty) (arguments : List Ty) :
    call (callee.rename change) (arguments.map (Ty.rename change)) =
      (call callee arguments).rename change := by
  cases callee with
  | fptr parameters result =>
      simp only [Ty.rename, call, Ty.renameAll_eq, argumentsFit_rename injective]
      split <;> rfl
  | _ => rfl

theorem condition?_rename
    (type : Ty) : condition? (type.rename change) = condition? type := by
  cases type <;> rfl

theorem display?_rename
    (type : Ty) : display? (type.rename change) = display? type := by
  cases type <;> rfl

end Rule

/-! ## What is found at expressions -/

/-- Some surroundings say of changed names what others say of the names as they were. -/
structure Surroundings.Follows (change : String → String) (around other : Surroundings) :
    Prop where
  name : ∀ called, other.name (change called) = (around.name called).rename change
  member : ∀ owner called,
    other.member (owner.rename change) (change called) = (around.member owner called).rename change

namespace Expr

variable {relabeling : Relabeling} {around other : Surroundings}

mutual

theorem verdict_relabel
    (injective : Function.Injective relabeling.name)
    (follows : around.Follows relabeling.name other) :
    (expression : Expr) →
      (expression.relabel relabeling).verdict other =
        (expression.verdict around).rename relabeling.name
  | .integer .. | .boolean .. | .stray _ | .absent => rfl
  | .name called _ => follows.name called
  | .group items _ => by
      rw [relabel, verdict, typesOf_relabel injective follows items, Rule.group_rename]
      rfl
  | .binary left operator right _ => by
      rw [relabel, verdict, verdict_relabel injective follows left,
        verdict_relabel injective follows right, Verdict.ty_rename, Verdict.ty_rename,
        Rule.binary?_rename injective, verdict]
      cases Rule.binary? operator (left.verdict around).ty (right.verdict around).ty <;> rfl
  | .unary operator operand _ => by
      rw [relabel, verdict, verdict_relabel injective follows operand, Verdict.ty_rename,
        Rule.unary?_rename, verdict]
      cases Rule.unary? operator (operand.verdict around).ty <;> rfl
  | .index list place _ => by
      rw [relabel, verdict, verdict_relabel injective follows list,
        verdict_relabel injective follows place, Verdict.ty_rename, Verdict.ty_rename,
        Rule.index_rename]
      rfl
  | .member owner called _ => by
      rw [relabel, verdict, verdict_relabel injective follows owner, Verdict.ty_rename,
        follows.member]
      rfl
  | .size list _ => by
      rw [relabel, verdict, verdict_relabel injective follows list, Verdict.ty_rename,
        Rule.size_rename]
      rfl
  | .append list element _ => by
      rw [relabel, verdict, verdict_relabel injective follows list,
        verdict_relabel injective follows element, Verdict.ty_rename, Verdict.ty_rename,
        Rule.append_rename]
      rfl
  | .call callee arguments _ => by
      rw [relabel, verdict, verdict_relabel injective follows callee,
        typesOf_relabel injective follows arguments, Verdict.ty_rename,
        Rule.call_rename injective]
      rfl

theorem typesOf_relabel
    (injective : Function.Injective relabeling.name)
    (follows : around.Follows relabeling.name other) :
    (expressions : List Expr) →
      typesOf other (relabelAll relabeling expressions) =
        (typesOf around expressions).map (Ty.rename relabeling.name)
  | [] => rfl
  | head :: tail => by
      rw [relabelAll, typesOf, verdict_relabel injective follows head,
        typesOf_relabel injective follows tail, Verdict.ty_rename]
      rfl

end

theorem typeIn_relabel
    (injective : Function.Injective relabeling.name)
    (follows : around.Follows relabeling.name other)
    (expression : Expr) :
    (expression.relabel relabeling).typeIn other =
      (expression.typeIn around).rename relabeling.name := by
  rw [typeIn, verdict_relabel injective follows, Verdict.ty_rename, typeIn]

/-- What a relabeled expression finds at itself. A missing expression has no place to change. -/
theorem ownFindings_relabel
    (injective : Function.Injective relabeling.name)
    (follows : around.Follows relabeling.name other)
    (way : Address) (expression : Expr) (proper : expression.IsProper) :
    (expression.relabel relabeling).ownFindings other (way ++ relabeling.target) =
      (expression.ownFindings around (way ++ relabeling.source)).map
        (Finding.relabel relabeling) := by
  have isPosition : (expression.relabel relabeling).position =
      relabeling.position expression.position := by
    cases expression with
    | stray | absent => exact proper.elim
    | _ => rfl
  rw [ownFindings, ownFindings, isPosition, verdict_relabel injective follows,
    Finding.settled_rename]

mutual

theorem findings_relabel
    (injective : Function.Injective relabeling.name)
    (follows : around.Follows relabeling.name other)
    (way : Address) :
    (expression : Expr) →
      (expression.relabel relabeling).findings other (way ++ relabeling.target) =
        (expression.findings around (way ++ relabeling.source)).map (Finding.relabel relabeling)
  | .integer value position =>
      ownFindings_relabel injective follows way (.integer value position) trivial
  | .boolean value position =>
      ownFindings_relabel injective follows way (.boolean value position) trivial
  | .name called position =>
      ownFindings_relabel injective follows way (.name called position) trivial
  | .group items position => by
      have own := ownFindings_relabel injective follows way
        (.group items position) trivial
      have ofItems := findingsOf_relabel injective follows way 0 items
      simp only [relabel, findings, List.map_append] at own ⊢
      rw [own, ofItems]
  | .binary left operator right position => by
      have own := ownFindings_relabel injective follows way
        (.binary left operator right position) trivial
      have ofLeft := findings_relabel injective follows (0 :: way) left
      have ofRight := findings_relabel injective follows (1 :: way) right
      simp only [relabel, findings, List.map_append, List.cons_append] at own ofLeft ofRight ⊢
      rw [own, ofLeft, ofRight]
  | .unary operator operand position => by
      have own := ownFindings_relabel injective follows way
        (.unary operator operand position) trivial
      have ofOperand := findings_relabel injective follows (0 :: way) operand
      simp only [relabel, findings, List.map_append, List.cons_append] at own ofOperand ⊢
      rw [own, ofOperand]
  | .index list place position => by
      have own := ownFindings_relabel injective follows way
        (.index list place position) trivial
      have ofList := findings_relabel injective follows (0 :: way) list
      have ofPlace := findings_relabel injective follows (1 :: way) place
      simp only [relabel, findings, List.map_append, List.cons_append] at own ofList ofPlace ⊢
      rw [own, ofList, ofPlace]
  | .member owner called position => by
      have own := ownFindings_relabel injective follows way
        (.member owner called position) trivial
      have ofOwner := findings_relabel injective follows (0 :: way) owner
      simp only [relabel, findings, List.map_append, List.cons_append] at own ofOwner ⊢
      rw [own, ofOwner]
  | .size list position => by
      have own := ownFindings_relabel injective follows way
        (.size list position) trivial
      have ofList := findings_relabel injective follows (0 :: way) list
      simp only [relabel, findings, List.map_append, List.cons_append] at own ofList ⊢
      rw [own, ofList]
  | .append list element position => by
      have own := ownFindings_relabel injective follows way
        (.append list element position) trivial
      have ofList := findings_relabel injective follows (0 :: way) list
      have ofElement := findings_relabel injective follows (1 :: way) element
      simp only [relabel, findings, List.map_append, List.cons_append] at own ofList ofElement ⊢
      rw [own, ofList, ofElement]
  | .call callee arguments position => by
      have own := ownFindings_relabel injective follows way
        (.call callee arguments position) trivial
      have ofCallee := findings_relabel injective follows (0 :: way) callee
      have ofArguments := findingsOf_relabel injective follows (1 :: way) 0 arguments
      simp only [List.cons_append] at ofCallee ofArguments
      simp only [relabel, findings, List.map_append] at own ⊢
      rw [own, ofCallee, ofArguments]
  | .stray _ | .absent => rfl

theorem findingsOf_relabel
    (injective : Function.Injective relabeling.name)
    (follows : around.Follows relabeling.name other)
    (way : Address) (index : Nat) :
    (expressions : List Expr) →
      findingsOf other (way ++ relabeling.target) index (relabelAll relabeling expressions) =
        (findingsOf around (way ++ relabeling.source) index expressions).map
          (Finding.relabel relabeling)
  | [] => rfl
  | head :: tail => by
      have ofHead := findings_relabel injective follows (index :: way) head
      have ofTail := findingsOf_relabel injective follows way (index + 1) tail
      simp only [relabelAll, findingsOf, List.map_append, List.cons_append] at ofHead ⊢
      rw [ofHead, ofTail]

end

end Expr

end StructLang
