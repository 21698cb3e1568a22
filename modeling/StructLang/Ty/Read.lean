import StructLang.Reader.Basic
import StructLang.Ty.Basic

/-!
# Types from tokens

A type is a type word, the name of a struct, `list[T]`, or `fptr<T, ... -> R>`. In the last a lone
`void` before the arrow means that there are no parameters.
-/

namespace StructLang.Ty

open Reader

/-- Takes a `void` that stands directly before an arrow. -/
def withoutParameters? (tokens : List Token) : Option (Parsed Token tokens.length) :=
  match tokens with
  | first :: second :: rest =>
      if first.kind = .voidWord ∧ second.kind = .arrow then
        some ⟨first, second :: rest, Nat.lt_add_one _⟩
      else none
  | _ => none

mutual

/-- Reads a type. -/
def read (finish : Token) (tokens : List Token) : Reading Ty tokens.length :=
  match tokens with
  | [] => refuse finish (.expected .type) tokens
  | first :: rest =>
      match first.kind with
      | .intWord => .ok ⟨.int, rest, Nat.lt_succ_self _⟩
      | .boolWord => .ok ⟨.bool, rest, Nat.lt_succ_self _⟩
      | .voidWord => .ok ⟨.void, rest, Nat.lt_succ_self _⟩
      | .identifier => .ok ⟨.struct first.text, rest, Nat.lt_succ_self _⟩
      | .listWord => do
          let ⟨_, rest, _⟩ ← expect finish (.tokenAfter .leftBracket .listWord) .leftBracket rest
          let ⟨element, rest, _⟩ ← read finish rest
          let ⟨_, rest, _⟩ ← expectMark finish .rightBracket rest
          return ⟨.list element, rest, by simp only [List.length_cons]; omega⟩
      | .fptrWord => do
          let ⟨_, rest, _⟩ ← expect finish (.tokenAfter .less .fptrWord) .less rest
          let ⟨parameters, rest, _⟩ ← readParameters finish rest
          let ⟨_, rest, _⟩ ← expectMark finish .arrow rest
          let ⟨result, rest, _⟩ ← read finish rest
          let ⟨_, rest, _⟩ ← expectMark finish .greater rest
          return ⟨.fptr parameters result, rest, by simp only [List.length_cons]; omega⟩
      | _ => refuse finish (.expected .type) tokens
termination_by (tokens.length, 0)

/-- Reads the parameter types of a function pointer, up to the arrow. -/
def readParameters (finish : Token) (tokens : List Token) : Reading (List Ty) tokens.length :=
  match withoutParameters? tokens with
  | some ⟨_, rest, shorter⟩ => .ok ⟨[], rest, shorter⟩
  | none => do
      let ⟨head, rest, _⟩ ← read finish tokens
      let ⟨tail, rest, _⟩ ← readMore finish rest
      return ⟨head :: tail, rest, by omega⟩
termination_by (tokens.length, 1)

/-- Reads further types, each after a comma. -/
def readMore (finish : Token) (tokens : List Token) : Reading (List Ty) (tokens.length + 1) :=
  match accept .comma tokens with
  | none => .ok ⟨[], tokens, Nat.lt_succ_self _⟩
  | some ⟨_, rest, _⟩ => do
      let ⟨head, rest, _⟩ ← read finish rest
      let ⟨tail, rest, _⟩ ← readMore finish rest
      return ⟨head :: tail, rest, by omega⟩
termination_by (tokens.length, 0)

end

end StructLang.Ty
