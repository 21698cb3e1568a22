import StructLang.Proofs.Grammar.Braces
import StructLang.Proofs.Grammar.Suffixes

/-!
# Where derivations close

The tokens of a struct, of a function, of an accessor and of a block end with a closing brace. No
brace stands in front of the one that it closes, and the braces between the two are balanced. So
the braces of the tokens alone tell the closing brace that was read as the end of a declaration.

- `EndsInBraces` : tokens that end in this way.
- `DerivesWithin` : each declaration and member is derived from some of the tokens of the whole.
-/

namespace StructLang.Grammar

open Text

variable {tokens middle rest : List Token} {closing : Token}

/-- The tokens up to a rest end with a closing brace, which closes the first brace among them. -/
inductive EndsInBraces (tokens : List Token) (closing : Token) (rest : List Token) : Prop
  | enclosed {opening : Token} {inner : List Token} :
      PassesNone tokens (opening :: inner) →
      opening.kind = .leftBrace →
      PassesBalanced inner (closing :: rest) →
      closing.kind = .rightBrace →
      EndsInBraces tokens closing rest

namespace EndsInBraces

theorem prepend
    (passes : PassesNone tokens middle) (ends : EndsInBraces middle closing rest) :
    EndsInBraces tokens closing rest := by
  cases ends with
  | enclosed noBraces isOpening isInner isClosing =>
      exact .enclosed (passes.trans noBraces) isOpening isInner isClosing

theorem passesBalanced (ends : EndsInBraces tokens closing rest) : PassesBalanced tokens rest := by
  cases ends with
  | enclosed noBraces isOpening isInner isClosing =>
      exact noBraces.balanced.trans (.enclose isOpening isInner isClosing)

theorem isClosing (ends : EndsInBraces tokens closing rest) : closing.kind = .rightBrace := by
  cases ends with
  | enclosed _ _ _ isClosing => exact isClosing

/-- The closing brace is the last token in front of the rest. -/
theorem exists_append
    (ends : EndsInBraces tokens closing rest) : ∃ piece, tokens = piece ++ closing :: rest := by
  cases ends with
  | @enclosed opening _ noBraces _ isInner _ =>
      obtain ⟨front, rfl, -⟩ := noBraces
      obtain ⟨inside, rfl, -⟩ := isInner
      exact ⟨front ++ opening :: inside, by simp⟩

theorem closing_eq
    {piece : List Token} {last : Token} (ends : EndsInBraces (piece ++ last :: rest) closing rest) :
    closing = last := by
  obtain ⟨front, sameTokens⟩ := ends.exists_append
  rw [List.append_cons, List.append_cons front] at sameTokens
  have sameLast := (List.append_inj' (List.append_cancel_right sameTokens) rfl).2
  exact (List.head_eq_of_cons_eq sameLast).symm

/-- Tokens that end with a closing brace stand in characters that do. -/
theorem pass
    {before text : List Char} (ends : EndsInBraces tokens closing rest)
    (clear : Scan.ClearSplits before text tokens) :
    ∃ start head inner left, text = start ++ (head ++ '\x7b' :: (inner ++ '\x7d' :: left)) ∧
      BraceFree head ∧ Balanced inner ∧ placeOf tokens = .behind (before ++ start) ∧
      closing.position = .behind (before ++ start ++ (head ++ '\x7b' :: inner)) := by
  cases ends with
  | @enclosed opening inner noBraces isOpening isInner isClosing =>
      obtain ⟨first, others, rfl⟩ : ∃ first others, tokens = first :: others := by
        obtain ⟨front, rfl, -⟩ := noBraces
        cases front <;> exact ⟨_, _, rfl⟩
      obtain ⟨start, left, rfl, -, isStart, clear⟩ := clear.skip_gap
      obtain ⟨front, left, rfl, freeFront, clear⟩ := noBraces.pass clear
      obtain ⟨gap, left, rfl, freeGap, -, clear⟩ := clear.cons_brace isOpening rfl
      obtain ⟨inside, left, rfl, isInside, clear⟩ := isInner.pass clear
      obtain ⟨last, left, rfl, freeLast, isEnd, -⟩ := clear.cons_brace isClosing rfl
      refine ⟨start, front ++ gap, inside ++ last, left, by simp, freeFront.append freeGap,
        isInside.append (.of_braceFree freeLast), isStart, ?_⟩
      simpa using isEnd

end EndsInBraces

/-! ## Blocks, members and declarations -/

theorem DerivesBlock.endsInBraces
    {statement : Stmt} (derives : DerivesBlock tokens statement rest) :
    ∃ closing, EndsInBraces tokens closing rest := by
  cases derives with
  | block isOpening derives isClosing =>
      exact ⟨_, .enclosed .refl isOpening derives.passesBalanced isClosing⟩

theorem DerivesMember.endsInBraces
    {name : String} {type : Ty} {parameters : List VariableDecl} {field : VariableDecl}
    {setBody getBody : Stmt} {position : Position}
    (derives : DerivesMember tokens
      (.accessor name type parameters field setBody getBody position) rest) :
    position = placeOf tokens ∧ ∃ closing, EndsInBraces tokens closing rest := by
  cases derives with
  | accessor derivesType isName derivesParameters isOpening derivesBlocks isClosing =>
      have passes := derivesType.passesNone.trans
        (.cons isName rfl derivesParameters.passesNone)
      exact ⟨rfl, _, .enclosed passes isOpening derivesBlocks.passesBalanced isClosing⟩

theorem DerivesMember.passesBalanced
    {member : Stmt} (derives : DerivesMember tokens member rest) : PassesBalanced tokens rest := by
  cases derives with
  | fields derives => exact derives.passesNone.balanced
  | accessor derivesType isName derivesParameters isOpening derivesBlocks isClosing =>
      have accessor := DerivesMember.accessor derivesType isName derivesParameters isOpening
        derivesBlocks isClosing
      obtain ⟨-, closing, ends⟩ := accessor.endsInBraces
      exact ends.passesBalanced

theorem DerivesMembers.passesBalanced
    {members : List Stmt} (derives : DerivesMembers tokens members rest) :
    PassesBalanced tokens rest := by
  induction derives with
  | none => exact PassesNone.refl.balanced
  | more derives _ inductionHypothesis => exact derives.passesBalanced.trans inductionHypothesis

theorem DerivesStruct.endsInBraces
    {declaration : StructDecl} (derives : DerivesStruct tokens declaration rest) :
    declaration.position = placeOf tokens ∧ ∃ closing, EndsInBraces tokens closing rest := by
  cases derives with
  | struct isWord isName isOpening derives isClosing =>
      exact ⟨rfl, _, .enclosed (.cons isWord rfl (.token isName rfl)) isOpening
        derives.passesBalanced isClosing⟩

theorem DerivesFunction.endsInBraces
    {declaration : FunctionDecl} (derives : DerivesFunction tokens declaration rest) :
    declaration.position = placeOf tokens ∧ ∃ closing, EndsInBraces tokens closing rest := by
  cases derives with
  | function isWord isName derivesParameters derivesType derives =>
      obtain ⟨closing, ends⟩ := derives.endsInBraces
      have passes := PassesNone.cons isWord rfl (.cons isName rfl
        (derivesParameters.passesNone.trans derivesType.passesNone))
      exact ⟨rfl, closing, ends.prepend passes⟩

/-! ## The tokens of a part -/

/-- Something is derived from the tokens from one of them on, up to a later one. -/
def DerivesWithin
    {alpha : Type} (derives : List Token → alpha → List Token → Prop) (tokens : List Token)
    (part : alpha) : Prop :=
  ∃ start after, start <:+ tokens ∧ derives start part after

namespace DerivesWithin

variable {alpha : Type} {derives : List Token → alpha → List Token → Prop} {part : alpha}

theorem first (isFirst : derives tokens part rest) : DerivesWithin derives tokens part :=
  ⟨tokens, rest, List.suffix_refl _, isFirst⟩

theorem of_suffix
    (within : DerivesWithin derives middle part) (isSuffix : middle <:+ tokens) :
    DerivesWithin derives tokens part := by
  obtain ⟨start, after, isStart, isPart⟩ := within
  exact ⟨start, after, isStart.trans isSuffix, isPart⟩

end DerivesWithin

theorem DerivesMembers.derivesEach
    {members : List Stmt} (derives : DerivesMembers tokens members rest) :
    ∀ member ∈ members, DerivesWithin DerivesMember tokens member := by
  induction derives with
  | none => exact List.forall_mem_nil _
  | more derives _ inductionHypothesis =>
      exact List.forall_mem_cons.mpr ⟨.first derives, fun member isMember =>
        (inductionHypothesis member isMember).of_suffix derives.suffix⟩

theorem DerivesStruct.derivesMembers
    {declaration : StructDecl} (derives : DerivesStruct tokens declaration rest) :
    ∀ member ∈ declaration.members, DerivesWithin DerivesMember tokens member := by
  cases derives with
  | struct _ _ _ derives _ =>
      exact fun member isMember =>
        (derives.derivesEach member isMember).of_suffix (List.suffix_append [_, _, _] _)

theorem DerivesDeclarations.derivesStructs
    {structs : List StructDecl} {functions : List FunctionDecl}
    (derives : DerivesDeclarations tokens structs functions rest) :
    ∀ declaration ∈ structs, DerivesWithin DerivesStruct tokens declaration := by
  induction derives with
  | none => exact List.forall_mem_nil _
  | struct derives _ inductionHypothesis =>
      exact List.forall_mem_cons.mpr ⟨.first derives, fun declaration isThere =>
        (inductionHypothesis declaration isThere).of_suffix derives.suffix⟩
  | function derives _ inductionHypothesis =>
      exact fun declaration isThere =>
        (inductionHypothesis declaration isThere).of_suffix derives.suffix

theorem DerivesDeclarations.derivesFunctions
    {structs : List StructDecl} {functions : List FunctionDecl}
    (derives : DerivesDeclarations tokens structs functions rest) :
    ∀ declaration ∈ functions, DerivesWithin DerivesFunction tokens declaration := by
  induction derives with
  | none => exact List.forall_mem_nil _
  | struct derives _ inductionHypothesis =>
      exact fun declaration isThere =>
        (inductionHypothesis declaration isThere).of_suffix derives.suffix
  | function derives _ inductionHypothesis =>
      exact List.forall_mem_cons.mpr ⟨.first derives, fun declaration isThere =>
        (inductionHypothesis declaration isThere).of_suffix derives.suffix⟩

end StructLang.Grammar
