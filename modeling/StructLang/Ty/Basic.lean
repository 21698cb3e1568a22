/-!
# Types

The types of the language. `unknown` is the type of a value whose fault was already reported:
every rule absorbs it. `generic` is a bare type without any form of its own.
-/

namespace StructLang

/-- A type of the language. -/
inductive Ty
  | int
  | bool
  | void
  | unknown
  | generic
  | list (element : Ty)
  | fptr (parameters : List Ty) (result : Ty)
  | struct (name : String)
  deriving Repr

namespace Ty

/-! ## Equality -/

mutual

/-- Whether two types are the same in all their components. -/
def same : Ty → Ty → Bool
  | int, int => true
  | bool, bool => true
  | void, void => true
  | unknown, unknown => true
  | generic, generic => true
  | list left, list right => same left right
  | fptr leftParameters leftResult, fptr rightParameters rightResult =>
      sameAll leftParameters rightParameters && same leftResult rightResult
  | struct left, struct right => left == right
  | _, _ => false

/-- Whether two lists of types are the same, place by place. -/
def sameAll : List Ty → List Ty → Bool
  | [], [] => true
  | leftHead :: leftTail, rightHead :: rightTail =>
      same leftHead rightHead && sameAll leftTail rightTail
  | _, _ => false

end

mutual

theorem same_self : (type : Ty) → same type type = true
  | int | bool | void | unknown | generic => by simp [same]
  | list element => by simp [same, same_self element]
  | fptr parameters result => by
      simp [same, sameAll_self parameters, same_self result]
  | struct _ => by simp [same]

theorem sameAll_self : (types : List Ty) → sameAll types types = true
  | [] => by simp [sameAll]
  | head :: tail => by simp [sameAll, same_self head, sameAll_self tail]

end

mutual

theorem eq_of_same : {left right : Ty} → same left right = true → left = right
  | int, right, equal => by cases right <;> simp_all [same]
  | bool, right, equal => by cases right <;> simp_all [same]
  | void, right, equal => by cases right <;> simp_all [same]
  | unknown, right, equal => by cases right <;> simp_all [same]
  | generic, right, equal => by cases right <;> simp_all [same]
  | list element, right, equal => by
      cases right <;> simp only [same, Bool.false_eq_true] at equal
      rw [eq_of_same equal]
  | fptr parameters result, right, equal => by
      cases right <;> simp only [same, Bool.false_eq_true, Bool.and_eq_true] at equal
      rw [eq_of_sameAll equal.1, eq_of_same equal.2]
  | struct name, right, equal => by cases right <;> simp_all [same]

theorem eq_of_sameAll : {left right : List Ty} → sameAll left right = true → left = right
  | [], right, equal => by cases right <;> simp_all [sameAll]
  | head :: tail, right, equal => by
      cases right <;> simp only [sameAll, Bool.false_eq_true, Bool.and_eq_true] at equal
      rw [eq_of_same equal.1, eq_of_sameAll equal.2]

end

theorem same_iff
    {left right : Ty} :
    same left right = true ↔ left = right :=
  ⟨eq_of_same, fun equal => equal ▸ same_self left⟩

instance : DecidableEq Ty := fun _ _ => decidable_of_iff _ same_iff

/-- Whether two types are built alike, whatever their components are. -/
def sameKind : Ty → Ty → Bool
  | int, int => true
  | bool, bool => true
  | void, void => true
  | unknown, unknown => true
  | generic, generic => true
  | list _, list _ => true
  | fptr .., fptr .. => true
  | struct _, struct _ => true
  | _, _ => false

/-- Whether the fault behind a type was already reported. -/
def isUnknown : Ty → Bool
  | unknown => true
  | _ => false

@[simp] theorem isUnknown_iff
    {type : Ty} :
    type.isUnknown = true ↔ type = unknown := by
  cases type <;> simp [isUnknown]

/-! ## Text -/

mutual

/-- The text of a type. A function pointer without parameters shows `void` for them. -/
def render : Ty → String
  | int => "int"
  | bool => "bool"
  | void => "void"
  | unknown => "notype"
  | generic => "type"
  | list element => s!"list[{element.render}]"
  | fptr parameters result =>
      let joined := ", ".intercalate (renderAll parameters)
      let shown := if joined.isEmpty then "void" else joined
      s!"fptr<{shown} -> {result.render}>"
  | struct name => name

/-- The texts of several types. -/
def renderAll : List Ty → List String
  | [] => []
  | head :: tail => head.render :: renderAll tail

end

end Ty

end StructLang
