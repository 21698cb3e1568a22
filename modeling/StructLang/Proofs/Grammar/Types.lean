import StructLang.Proofs.Grammar.Reading
import StructLang.Ty.Read

/-!
# The grammar of types

`DerivesType tokens type rest` says that the tokens before `rest` are the text of a type. No rule
looks into the rest. The reader of types gives exactly what the grammar derives.
-/

namespace StructLang.Grammar

open Reader

mutual

/-- The tokens up to a rest are the text of a type. -/
inductive DerivesType : List Token → Ty → List Token → Prop
  | int {word : Token} {rest : List Token} :
      word.kind = .intWord →
      DerivesType (word :: rest) .int rest
  | bool {word : Token} {rest : List Token} :
      word.kind = .boolWord →
      DerivesType (word :: rest) .bool rest
  | void {word : Token} {rest : List Token} :
      word.kind = .voidWord →
      DerivesType (word :: rest) .void rest
  | struct {name : Token} {rest : List Token} :
      name.kind = .identifier →
      DerivesType (name :: rest) (.struct name.text) rest
  | list {word opening closing : Token} {tokens rest : List Token} {element : Ty} :
      word.kind = .listWord →
      opening.kind = .leftBracket →
      DerivesType tokens element (closing :: rest) →
      closing.kind = .rightBracket →
      DerivesType (word :: opening :: tokens) (.list element) rest
  | fptr {word opening arrow closing : Token} {tokens middle rest : List Token}
      {parameters : List Ty} {result : Ty} :
      word.kind = .fptrWord →
      opening.kind = .less →
      DerivesParameterTypes tokens parameters (arrow :: middle) →
      arrow.kind = .arrow →
      DerivesType middle result (closing :: rest) →
      closing.kind = .greater →
      DerivesType (word :: opening :: tokens) (.fptr parameters result) rest

/-- The tokens up to a rest are the parameter types of a function pointer. A lone `void` says that
there are none. -/
inductive DerivesParameterTypes : List Token → List Ty → List Token → Prop
  | none {word : Token} {rest : List Token} :
      word.kind = .voidWord →
      DerivesParameterTypes (word :: rest) [] rest
  | some {tokens rest : List Token} {types : List Ty} :
      DerivesTypes tokens types rest →
      types ≠ [.void] →
      DerivesParameterTypes tokens types rest

/-- The tokens up to a rest are types with commas between them. -/
inductive DerivesTypes : List Token → List Ty → List Token → Prop
  | last {tokens rest : List Token} {type : Ty} :
      DerivesType tokens type rest →
      DerivesTypes tokens [type] rest
  | more {comma : Token} {tokens middle rest : List Token} {head : Ty} {tail : List Ty} :
      DerivesType tokens head (comma :: middle) →
      comma.kind = .comma →
      DerivesTypes middle tail rest →
      DerivesTypes tokens (head :: tail) rest

end

/-! ## Readings are derivations -/

theorem withoutParameters?_eq_some
    {tokens : List Token} {parsed : Parsed Token tokens.length}
    (found : Ty.withoutParameters? tokens = some parsed) :
    tokens = parsed.value :: parsed.rest ∧ parsed.value.kind = .voidWord ∧
      startsWith .arrow parsed.rest = true := by
  match tokens, parsed, found with
  | first :: second :: rest, parsed, found =>
      simp only [Ty.withoutParameters?] at found
      split at found
      · rename_i kinds
        cases found
        exact ⟨rfl, kinds.1, by simp [startsWith, kinds.2]⟩
      · cases found

theorem withoutParameters?_cons
    {word : Token} {rest : List Token}
    (isVoid : word.kind = .voidWord) (beforeArrow : startsWith .arrow rest = true) :
    Ty.withoutParameters? (word :: rest) = some ⟨word, rest, Nat.lt_succ_self _⟩ := by
  cases rest with
  | nil => cases beforeArrow
  | cons second others =>
      have isArrow : second.kind = .arrow := by simpa [startsWith] using beforeArrow
      simp [Ty.withoutParameters?, isVoid, isArrow]

mutual

theorem sound_readType
    (finish : Token) (tokens : List Token) :
    Sound tokens (DerivesType tokens) (Ty.read finish tokens) := by
  rw [Ty.read.eq_def]
  match tokens with
  | [] => exact Sound.refuse _ _
  | first :: rest =>
      have suffix : rest <:+ first :: rest := List.suffix_cons _ _
      dsimp only
      split
      case h_1 isInt => exact Sound.value (.int isInt) suffix
      case h_2 isBool => exact Sound.value (.bool isBool) suffix
      case h_3 isVoid => exact Sound.value (.void isVoid) suffix
      case h_4 isName => exact Sound.value (.struct isName) suffix
      case h_5 isList =>
        refine Sound.of_suffix rest ?_ suffix
        refine (sound_expect finish _ _ rest).bind
          fun opening inner shorter ⟨openingShape, openingKind⟩ => ?_
        refine (sound_readType finish inner).bind fun element closed _ derives => ?_
        refine (sound_expect finish _ _ closed).bind
          fun closing final _ ⟨closingShape, closingKind⟩ => ?_
        subst openingShape closingShape
        exact Sound.value (.list isList openingKind derives closingKind) (List.suffix_refl _)
      case h_6 isFptr =>
        refine Sound.of_suffix rest ?_ suffix
        refine (sound_expect finish _ _ rest).bind
          fun opening inner shorter ⟨openingShape, openingKind⟩ => ?_
        refine (sound_readParameterTypes finish inner).bind
          fun parameters beforeArrow _ derivesParameters => ?_
        refine (sound_expect finish _ _ beforeArrow).bind
          fun arrow afterArrow _ ⟨arrowShape, arrowKind⟩ => ?_
        refine (sound_readType finish afterArrow).bind fun result closed _ derivesResult => ?_
        refine (sound_expect finish _ _ closed).bind
          fun closing final _ ⟨closingShape, closingKind⟩ => ?_
        subst openingShape arrowShape closingShape
        have derived := derivesParameters (by simp [startsWith, arrowKind])
        exact Sound.value
          (.fptr isFptr openingKind derived arrowKind derivesResult closingKind)
          (List.suffix_refl _)
      case h_7 => exact Sound.refuse _ _
termination_by (tokens.length, 0)

/-- The reader looks for the arrow behind a `void`, so it decides for the right rule only if the
arrow follows. -/
theorem sound_readParameterTypes
    (finish : Token) (tokens : List Token) :
    Sound tokens
      (fun types rest => startsWith .arrow rest = true → DerivesParameterTypes tokens types rest)
      (Ty.readParameters finish tokens) := by
  rw [Ty.readParameters.eq_def]
  split
  case h_1 word rest shorter found =>
    obtain ⟨shape, isVoid, _⟩ := withoutParameters?_eq_some found
    dsimp only at shape
    exact Sound.value (fun _ => shape ▸ .none isVoid) (shape ▸ List.suffix_cons _ _)
  case h_2 notFound =>
    refine (sound_readType finish tokens).bind fun head middle _ derivesHead => ?_
    refine (sound_readMoreTypes finish middle).bind fun tail rest _ derivesTail => ?_
    refine Sound.value (fun beforeArrow => ?_) (List.suffix_refl _)
    refine .some (derivesTail tokens head derivesHead) fun loneVoid => ?_
    injection loneVoid with isVoid isEmpty
    subst isVoid isEmpty
    cases derivesTail tokens .void derivesHead with
    | last derives =>
        cases derives with
        | void kind =>
            rw [withoutParameters?_cons kind beforeArrow] at notFound
            cases notFound
    | more _ _ derivesMore => cases derivesMore
termination_by (tokens.length, 1)

theorem sound_readMoreTypes
    (finish : Token) (tokens : List Token) :
    Sound tokens
      (fun types rest => ∀ start head, DerivesType start head tokens →
        DerivesTypes start (head :: types) rest)
      (Ty.readMore finish tokens) := by
  rw [Ty.readMore_eq]
  exact sound_more tokens .last .more (fun rest _ => sound_readType finish rest)
    fun others _ => sound_readMoreTypes finish others
termination_by (tokens.length, 0)

end

/-! ## Derivations are read -/

theorem withoutParameters?_eq_none
    {tokens rest : List Token} {types : List Ty}
    (derives : DerivesTypes tokens types rest)
    (several : types ≠ [.void]) :
    Ty.withoutParameters? tokens = none := by
  cases found : Ty.withoutParameters? tokens with
  | none => rfl
  | some parsed =>
      exfalso
      obtain ⟨word, others, shorter⟩ := parsed
      obtain ⟨shape, isVoid, beforeArrow⟩ := withoutParameters?_eq_some found
      dsimp only at shape isVoid beforeArrow
      rw [shape] at derives
      cases derives with
      | last derives =>
          cases derives <;> simp_all
      | more derives isComma derivesMore =>
          cases derives <;> simp_all [startsWith]

mutual

theorem yields_readType
    (finish : Token) {tokens rest : List Token} {type : Ty} :
    DerivesType tokens type rest → Yields (Ty.read finish tokens) type rest
  | .int kind => by
      rw [Ty.read.eq_def]
      simp only [kind]
      rfl
  | .bool kind => by
      rw [Ty.read.eq_def]
      simp only [kind]
      rfl
  | .void kind => by
      rw [Ty.read.eq_def]
      simp only [kind]
      rfl
  | .struct kind => by
      rw [Ty.read.eq_def]
      simp only [kind]
      rfl
  | .list kind openingKind derives closingKind => by
      obtain ⟨_, equality⟩ := (yields_readType finish derives).exists_eq
      rw [Ty.read.eq_def]
      simp only [kind, expect_cons _ _ _ openingKind, bind, Except.bind, equality,
        expectMark, expect_cons _ _ _ closingKind]
      rfl
  | .fptr kind openingKind derivesParameters arrowKind derivesResult closingKind => by
      obtain ⟨_, parametersEquality⟩ :=
        (yields_readParameterTypes finish derivesParameters
          (by simp [startsWith, arrowKind])).exists_eq
      obtain ⟨_, resultEquality⟩ := (yields_readType finish derivesResult).exists_eq
      rw [Ty.read.eq_def]
      simp only [kind, expect_cons _ _ _ openingKind, bind, Except.bind, parametersEquality,
        expectMark, expect_cons _ _ _ arrowKind, resultEquality, expect_cons _ _ _ closingKind]
      rfl

theorem yields_readParameterTypes
    (finish : Token) {tokens rest : List Token} {types : List Ty} :
    DerivesParameterTypes tokens types rest → startsWith .arrow rest = true →
      Yields (Ty.readParameters finish tokens) types rest
  | .none isVoid, beforeArrow => by
      rw [Ty.readParameters.eq_def, withoutParameters?_cons isVoid beforeArrow]
      rfl
  | .some derives several, beforeArrow => by
      have noComma : startsWith .comma rest = false := by
        cases rest with
        | nil => rfl
        | cons first others =>
            exact startsWith_cons others (by simpa [startsWith] using beforeArrow) (by decide)
      obtain ⟨head, tail, middle, rfl, headYields, tailYields⟩ :=
        yields_readTypes finish derives noComma
      obtain ⟨_, headEquality⟩ := headYields.exists_eq
      obtain ⟨_, tailEquality⟩ := tailYields.exists_eq
      rw [Ty.readParameters.eq_def, withoutParameters?_eq_none derives several]
      simp only [bind, Except.bind, headEquality, tailEquality]
      rfl

theorem yields_readTypes
    (finish : Token) {tokens rest : List Token} {types : List Ty} :
    DerivesTypes tokens types rest → startsWith .comma rest = false →
      ∃ head tail middle, types = head :: tail ∧
        Yields (Ty.read finish tokens) head middle ∧
        Yields (Ty.readMore finish middle) tail rest
  | .last derives, noComma => by
      refine ⟨_, _, _, rfl, yields_readType finish derives, ?_⟩
      rw [Ty.readMore_eq]
      exact yields_more_nil noComma
  | .more derives isComma derivesMore, noComma => by
      obtain ⟨head, tail, middle, rfl, headYields, tailYields⟩ :=
        yields_readTypes finish derivesMore noComma
      refine ⟨_, _, _, rfl, yields_readType finish derives, ?_⟩
      rw [Ty.readMore_eq]
      exact yields_more_cons isComma headYields tailYields

end

end StructLang.Grammar
