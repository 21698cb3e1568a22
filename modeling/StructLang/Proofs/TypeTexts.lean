import StructLang.Proofs.FromSource
import StructLang.Proofs.Token.Composed

/-!
# Types are read as they are shown

The text that shows a type is the text of that type: it splits into tokens, and reading these as a
type gives the type back and leaves nothing. So two types that can be read from a text differ as
soon as they are shown differently.

- `Ty.IsReadFrom` : the types that are read anywhere in the tokens of a text.
- `Ty.Spelled` : what these types have in common.
- `readsAs_render` : the text that shows a type splits into tokens of which the type is derived.
- `render_read_inverse` : showing a type and reading it are inverse.
-/

namespace StructLang

open Grammar Reader

/-! ## Types that can be read -/

namespace Ty

/-- A type is read somewhere in the tokens of a source text. -/
def IsReadFrom (source : String) (type : Ty) : Prop :=
  ∃ (tokens : List Token) (finish : Token) (start : List Token)
    (parsed : Parsed Ty start.length), scan source = .ok (tokens ++ [finish]) ∧
      start <:+ tokens ∧ Ty.read finish start = .ok parsed ∧ parsed.value = type

/-- A whole text is the text of a type: it splits into tokens, and a type is read from these that
leaves none of them. -/
def IsTextOf (text : String) (type : Ty) : Prop :=
  ∃ (tokens : List Token) (finish : Token) (parsed : Parsed Ty tokens.length),
    scan text = .ok (tokens ++ [finish]) ∧ Ty.read finish tokens = .ok parsed ∧
      parsed.value = type ∧ parsed.rest = []

/-- The name of a struct as it can be written: a word that is not reserved. -/
def IsName (name : String) : Prop :=
  Scan.IsWord name.toList ∧ TokenKind.ofWord name = .identifier

mutual

/-- A type as it can be written. No function pointer has a lone `void` as its parameters, for that
says that there are none. -/
def Spelled : Ty → Prop
  | int | bool | void => True
  | unknown | generic => False
  | list element => Spelled element
  | fptr parameters result => SpelledAll parameters ∧ parameters ≠ [.void] ∧ Spelled result
  | struct name => IsName name

/-- Types as they can be written. -/
def SpelledAll : List Ty → Prop
  | [] => True
  | head :: tail => Spelled head ∧ SpelledAll tail

end

end Ty

namespace Grammar

/-- All identifiers among some tokens are names. -/
def NamesOnly (tokens : List Token) : Prop :=
  ∀ token ∈ tokens, token.kind = .identifier → Ty.IsName token.text

theorem NamesOnly.of_suffix
    {tokens rest : List Token} (names : NamesOnly tokens) (suffix : rest <:+ tokens) :
    NamesOnly rest :=
  fun token member => names token (suffix.subset member)

theorem NamesOnly.tail
    {first : Token} {rest : List Token} (names : NamesOnly (first :: rest)) : NamesOnly rest :=
  names.of_suffix (List.suffix_cons _ _)

mutual

theorem DerivesType.spelled
    {tokens rest : List Token} {type : Ty} :
    DerivesType tokens type rest → NamesOnly tokens → type.Spelled
  | .int _, _ | .bool _, _ | .void _, _ => trivial
  | .struct isName, names => names _ List.mem_cons_self isName
  | .list _ _ derives _, names => derives.spelled names.tail.tail
  | .fptr _ _ derivesParameters _ derivesResult _, names =>
      have parameters := derivesParameters.spelled names.tail.tail
      ⟨parameters.1, parameters.2,
        derivesResult.spelled (names.tail.tail.of_suffix derivesParameters.suffix).tail⟩

theorem DerivesParameterTypes.spelled
    {tokens rest : List Token} {types : List Ty} :
    DerivesParameterTypes tokens types rest → NamesOnly tokens →
      Ty.SpelledAll types ∧ types ≠ [.void]
  | .none _, _ => ⟨trivial, nofun⟩
  | .some derives several, names => ⟨derives.spelled names, several⟩

theorem DerivesTypes.spelled
    {tokens rest : List Token} {types : List Ty} :
    DerivesTypes tokens types rest → NamesOnly tokens → Ty.SpelledAll types
  | .last derives, names => ⟨derives.spelled names, trivial⟩
  | .more derives _ derivesMore, names =>
      ⟨derives.spelled names, derivesMore.spelled (names.of_suffix derives.suffix).tail⟩

end

end Grammar

namespace Scan

theorem isName_of_isLexeme
    {kind : TokenKind} {characters rest : List Char} (isLexeme : IsLexeme kind characters rest)
    (isIdentifier : kind = .identifier) : Ty.IsName (String.ofList characters) := by
  cases isLexeme with
  | number => cases isIdentifier
  | word starts continues =>
      exact ⟨⟨_, _, String.toList_ofList, starts, continues⟩, isIdentifier⟩
  | mark isMark =>
      have noIdentifier : ∀ mark ∈ TokenKind.marks, mark.2 ≠ .identifier := by decide
      exact absurd isIdentifier (noIdentifier _ isMark)

theorem namesOnly_of_splits
    {before text : List Char} {tokens : List Token} (splits : Splits before text tokens) :
    NamesOnly tokens := by
  induction splits with
  | finish => simp [NamesOnly]
  | lexeme _ isLexeme _ inductionHypothesis =>
      exact List.forall_mem_cons.mpr ⟨isName_of_isLexeme isLexeme, inductionHypothesis⟩

end Scan

namespace Ty

/-- What is read from a text can be written. -/
theorem IsReadFrom.spelled
    {source : String} {type : Ty} (isRead : IsReadFrom source type) : type.Spelled := by
  obtain ⟨tokens, finish, start, parsed, scanned, suffix, isParsed, rfl⟩ := isRead
  have names := Scan.namesOnly_of_splits (Scan.splits_of_scan scanned)
  have sound := sound_readType finish start
  rw [isParsed] at sound
  refine sound.1.spelled fun token member => names token ?_
  exact List.mem_append_left _ (suffix.subset member)

/-! ## How a type is shown -/

theorem render_list
    (element : Ty) : (list element).render = "list" ++ "[" ++ element.render ++ "]" := by
  rw [render]
  rfl

theorem render_fptr_eq
    (parameters : List Ty) (result : Ty) :
    (fptr parameters result).render =
      "fptr" ++ "<" ++ (if (", ".intercalate (renderAll parameters)).isEmpty then "void"
        else ", ".intercalate (renderAll parameters)) ++ " -> " ++ result.render ++ ">" := by
  rw [render]
  rfl

theorem Spelled.render_ne_empty
    {type : Ty} (spelled : type.Spelled) : type.render ≠ "" := by
  cases type with
  | unknown | generic => exact spelled.elim
  | struct name =>
      obtain ⟨⟨first, others, isCons, -⟩, -⟩ := spelled
      rintro isEmpty
      rw [render] at isEmpty
      rw [isEmpty] at isCons
      cases isCons
  | int | bool | void => simp [render]
  | list element => simp [render_list]
  | fptr parameters result => simp [render_fptr_eq]

/-- A function pointer without parameters is shown as one that has `void` for them. -/
theorem render_fptr_nil
    (result : Ty) :
    (fptr [] result).render = "fptr" ++ "<" ++ "void" ++ " -> " ++ result.render ++ ">" := by
  rw [render_fptr_eq, renderAll, String.intercalate_nil]
  rfl

theorem render_fptr_cons
    {head : Ty} (spelled : head.Spelled) (tail : List Ty) (result : Ty) :
    (fptr (head :: tail) result).render =
      "fptr" ++ "<" ++ ", ".intercalate (renderAll (head :: tail)) ++ " -> " ++ result.render ++
        ">" := by
  have notEmpty : ", ".intercalate (renderAll (head :: tail)) ≠ "" := by
    cases tail with
    | nil => simpa [renderAll] using spelled.render_ne_empty
    | cons => simp [renderAll]
  rw [render_fptr_eq, if_neg (by simpa using notEmpty)]

end Ty

/-! ## How the text of a type splits -/

namespace Scan

theorem isWord_of_typeWord
    {word : String} (isTypeWord : word ∈ ["int", "bool", "void", "list", "fptr"]) :
    IsWord word.toList := by
  have areWords : ∀ word ∈ ["int", "bool", "void", "list", "fptr"], ∃ first others,
      word.toList = first :: others ∧ Alphabet.startsWord first ∧
        others.all Alphabet.continuesWord := by
    simp only [List.forall_mem_cons]
    refine ⟨?_, ?_, ?_, ?_, ?_, List.forall_mem_nil _⟩ <;>
      exact ⟨_, _, rfl, by decide +kernel, by decide +kernel⟩
  obtain ⟨first, others, isCons, starts, continues⟩ := areWords word isTypeWord
  exact ⟨first, others, isCons, startsWord_iff.mp starts, List.all_eq_true.mp continues⟩

/-- The text of a type that is a single word. -/
theorem readsAs_typeWord
    {type : Ty} (isTypeWord : type.render ∈ ["int", "bool", "void", "list", "fptr"])
    (derives : ∀ (token : Token) (rest : List Token), token.kind = .ofWord type.render →
      DerivesType (token :: rest) type rest) :
    ReadsAs type.render.toList fun tokens rest => DerivesType tokens type rest := by
  refine (ReadsAs.word (isWord_of_typeWord isTypeWord)).imp ?_
  rintro _ rest ⟨token, rfl, isKind, -⟩
  exact derives token rest isKind

theorem readsAs_list
    {element : Ty}
    (reads : ReadsAs element.render.toList fun tokens rest => DerivesType tokens element rest) :
    ReadsAs (Ty.list element).render.toList fun tokens rest =>
      DerivesType tokens (.list element) rest := by
  have closing : ReadsAs "]".toList (IsToken .rightBracket) := .lastMark (by decide) (by decide)
  have ofElement := reads.append closing (stopsWord_append ⟨_, _, rfl, by decide +kernel⟩)
  have opening : ReadsAs ("[".toList ++ _) fun tokens rest =>
      ∃ middle, IsToken .leftBracket tokens middle ∧ _ :=
    ofElement.mark (by decide) (by decide)
  have isWord : IsWord "list".toList := isWord_of_typeWord (by simp)
  have whole := (ReadsAs.word isWord).append opening
    (stopsWord_append ⟨_, _, rfl, by decide +kernel⟩)
  have isText : (Ty.list element).render.toList =
      "list".toList ++ ("[".toList ++ (element.render.toList ++ "]".toList)) := by
    simp [Ty.render_list]
  rw [isText]
  refine whole.imp ?_
  rintro _ rest ⟨_, ⟨word, rfl, isList, -⟩, _, ⟨opening, rfl, isOpening⟩, _, derives, closing, rfl,
    isClosing⟩
  exact .list isList isOpening derives isClosing

theorem readsAs_fptr
    {shown : String} {parameters : List Ty} {result : Ty}
    (isText : (Ty.fptr parameters result).render =
      "fptr" ++ "<" ++ shown ++ " -> " ++ result.render ++ ">")
    (readsParameters : ReadsAs shown.toList fun tokens rest =>
      DerivesParameterTypes tokens parameters rest)
    (reads : ReadsAs result.render.toList fun tokens rest => DerivesType tokens result rest) :
    ReadsAs (Ty.fptr parameters result).render.toList fun tokens rest =>
      DerivesType tokens (.fptr parameters result) rest := by
  have closing : ReadsAs ">".toList (IsToken .greater) := .lastMark (by decide) (by decide)
  have ofResult := reads.append closing (stopsWord_append ⟨_, _, rfl, by decide +kernel⟩)
  have arrow : ReadsAs ("->".toList ++ _) fun tokens rest =>
      ∃ middle, IsToken .arrow tokens middle ∧ _ :=
    ofResult.space.mark (by decide) (by decide)
  have ofParameters := readsParameters.append arrow.space
    (stopsWord_append ⟨_, _, rfl, by decide +kernel⟩)
  have opening : ReadsAs ("<".toList ++ _) fun tokens rest =>
      ∃ middle, IsToken .less tokens middle ∧ _ :=
    ofParameters.mark (by decide) (by decide)
  have isWord : IsWord "fptr".toList := isWord_of_typeWord (by simp)
  have whole := (ReadsAs.word isWord).append opening
    (stopsWord_append ⟨_, _, rfl, by decide +kernel⟩)
  have isTextToo : (Ty.fptr parameters result).render.toList =
      "fptr".toList ++ ("<".toList ++ (shown.toList ++ (' ' :: ("->".toList ++
        (' ' :: (result.render.toList ++ ">".toList)))))) := by
    simp [isText]
  rw [isTextToo]
  refine whole.imp ?_
  rintro _ rest ⟨_, ⟨word, rfl, isFptr, -⟩, _, ⟨opening, rfl, isOpening⟩, _, derivesParameters, _,
    ⟨arrow, rfl, isArrow⟩, _, derivesResult, closing, rfl, isClosing⟩
  exact .fptr isFptr isOpening derivesParameters isArrow derivesResult isClosing

/-- No parameters are shown as a lone `void`. -/
theorem readsAs_noParameters :
    ReadsAs "void".toList fun tokens rest => DerivesParameterTypes tokens [] rest := by
  refine (ReadsAs.word (isWord_of_typeWord (by simp))).imp ?_
  rintro _ rest ⟨token, rfl, isVoid, -⟩
  exact .none isVoid

theorem readsAs_types
    {head second : Ty} {tail : List Ty}
    (reads : ReadsAs head.render.toList fun tokens rest => DerivesType tokens head rest)
    (readsTail : ReadsAs (", ".intercalate (Ty.renderAll (second :: tail))).toList
      fun tokens rest => DerivesTypes tokens (second :: tail) rest) :
    ReadsAs (", ".intercalate (Ty.renderAll (head :: second :: tail))).toList
      fun tokens rest => DerivesTypes tokens (head :: second :: tail) rest := by
  have comma : ReadsAs (",".toList ++ _) fun tokens rest =>
      ∃ middle, IsToken .comma tokens middle ∧ _ :=
    readsTail.space.mark (by decide) (by decide)
  have whole := reads.append comma (stopsWord_append ⟨_, _, rfl, by decide +kernel⟩)
  have isText : (", ".intercalate (Ty.renderAll (head :: second :: tail))).toList =
      head.render.toList ++ (",".toList ++
        (' ' :: (", ".intercalate (Ty.renderAll (second :: tail))).toList)) := by
    simp [Ty.renderAll]
  rw [isText]
  refine whole.imp ?_
  rintro _ rest ⟨_, derives, _, ⟨comma, rfl, isComma⟩, derivesTail⟩
  exact .more derives isComma derivesTail

mutual

/-- The text that shows a type splits into tokens of which the type is derived. -/
theorem readsAs_render :
    (type : Ty) → type.Spelled →
      ReadsAs type.render.toList fun tokens rest => DerivesType tokens type rest
  | .int, _ => readsAs_typeWord (by simp [Ty.render]) fun _ _ isInt => .int isInt
  | .bool, _ => readsAs_typeWord (by simp [Ty.render]) fun _ _ isBool => .bool isBool
  | .void, _ => readsAs_typeWord (by simp [Ty.render]) fun _ _ isVoid => .void isVoid
  | .unknown, spelled | .generic, spelled => spelled.elim
  | .struct name, ⟨isWord, isIdentifier⟩ => by
      refine (ReadsAs.word isWord).imp ?_
      rintro _ rest ⟨token, rfl, isKind, rfl⟩
      exact .struct (isKind.trans isIdentifier)
  | .list element, spelled => readsAs_list (readsAs_render element spelled)
  | .fptr [] result, ⟨_, _, spelled⟩ =>
      readsAs_fptr (Ty.render_fptr_nil result) readsAs_noParameters (readsAs_render result spelled)
  | .fptr (head :: tail) result, ⟨areSpelled, several, spelled⟩ =>
      readsAs_fptr (Ty.render_fptr_cons areSpelled.1 tail result)
        ((readsAs_renderAll (head :: tail) areSpelled (List.cons_ne_nil _ _)).imp
          fun _ _ derives => .some derives several)
        (readsAs_render result spelled)

theorem readsAs_renderAll :
    (types : List Ty) → Ty.SpelledAll types → types ≠ [] →
      ReadsAs (", ".intercalate (Ty.renderAll types)).toList
        fun tokens rest => DerivesTypes tokens types rest
  | [], _, notEmpty => absurd rfl notEmpty
  | [last], ⟨spelled, _⟩, _ => by
      rw [Ty.renderAll, Ty.renderAll, String.intercalate_singleton]
      exact (readsAs_render last spelled).imp fun _ _ derives => .last derives
  | head :: second :: tail, ⟨spelled, areSpelled⟩, _ =>
      readsAs_types (readsAs_render head spelled)
        (readsAs_renderAll (second :: tail) areSpelled (List.cons_ne_nil _ _))

end

end Scan

/-! ## Types are read as they are shown -/

namespace Ty

/-- The text of a type that can be written is a text of that type. -/
theorem isTextOf_render
    {type : Ty} (spelled : type.Spelled) : IsTextOf type.render type := by
  have atEnd : Scan.Splits ([] ++ type.render.toList) [] [⟨.finish, "", _⟩] := .finish .none
  obtain ⟨tokens, splits, derives⟩ := Scan.readsAs_render type spelled [] [] _ nofun atEnd
  rw [List.append_nil] at splits
  have derivesAll := derives []
  rw [List.append_nil] at derivesAll
  obtain ⟨shorter, isRead⟩ := (yields_readType ⟨.finish, "", _⟩ derivesAll).exists_eq
  exact ⟨tokens, _, ⟨type, [], shorter⟩, Scan.scanFrom_of_splits splits, isRead, rfl, rfl⟩

/-- The types that are read from texts are those that can be written. -/
theorem exists_isReadFrom_iff
    {type : Ty} : (∃ source, IsReadFrom source type) ↔ type.Spelled := by
  constructor
  · rintro ⟨source, isRead⟩
    exact isRead.spelled
  · intro spelled
    obtain ⟨tokens, finish, parsed, scanned, isRead, same, -⟩ := isTextOf_render spelled
    exact ⟨type.render, tokens, finish, tokens, parsed, scanned, List.suffix_rfl, isRead, same⟩

/-- A text is the text of one type at most. -/
theorem IsTextOf.eq
    {text : String} {type other : Ty} (isText : IsTextOf text type)
    (isTextToo : IsTextOf text other) : type = other := by
  obtain ⟨tokens, finish, parsed, scanned, isRead, rfl, -⟩ := isText
  obtain ⟨otherTokens, otherFinish, otherParsed, otherScanned, otherRead, rfl, -⟩ := isTextToo
  obtain ⟨rfl, same⟩ := List.append_inj' (Except.ok.inj (scanned.symm.trans otherScanned)) rfl
  obtain rfl := List.head_eq_of_cons_eq same
  rw [Except.ok.inj (isRead.symm.trans otherRead)]

/-- A type that is read anywhere in the tokens of a text is shown as a text of which it is the type,
and no other type that is read from a text is shown so. -/
theorem render_read_inverse
    {source : String} {type : Ty} (isRead : IsReadFrom source type) :
    IsTextOf type.render type ∧
      ∀ otherSource other, IsReadFrom otherSource other → other.render = type.render →
        other = type := by
  refine ⟨isTextOf_render isRead.spelled, fun otherSource other isReadToo sameText => ?_⟩
  have isText := isTextOf_render isReadToo.spelled
  rw [sameText] at isText
  exact isText.eq (isTextOf_render isRead.spelled)

/-- A function pointer with a lone `void` as its parameters is never read: it would be shown as one
without parameters. -/
example : (fptr [.void] .int).render = (fptr [] .int).render := by decide

/-- The tokens of a nested type, with a name behind it. -/
def nestedTokens : List Token :=
  [⟨.fptrWord, "fptr", ⟨1, 1⟩⟩, ⟨.less, "<", ⟨1, 5⟩⟩, ⟨.fptrWord, "fptr", ⟨1, 6⟩⟩,
    ⟨.less, "<", ⟨1, 10⟩⟩, ⟨.voidWord, "void", ⟨1, 11⟩⟩, ⟨.arrow, "->", ⟨1, 15⟩⟩,
    ⟨.listWord, "list", ⟨1, 17⟩⟩, ⟨.leftBracket, "[", ⟨1, 21⟩⟩, ⟨.identifier, "P", ⟨1, 22⟩⟩,
    ⟨.rightBracket, "]", ⟨1, 23⟩⟩, ⟨.greater, ">", ⟨1, 24⟩⟩, ⟨.comma, ",", ⟨1, 25⟩⟩,
    ⟨.boolWord, "bool", ⟨1, 26⟩⟩, ⟨.arrow, "->", ⟨1, 30⟩⟩, ⟨.intWord, "int", ⟨1, 32⟩⟩,
    ⟨.greater, ">", ⟨1, 35⟩⟩, ⟨.identifier, "f", ⟨1, 36⟩⟩]

theorem isReadFrom_nested :
    IsReadFrom "fptr<fptr<void->list[P]>,bool->int>f"
      (.fptr [.fptr [] (.list (.struct "P")), .bool] .int) := by
  have scanned : scan "fptr<fptr<void->list[P]>,bool->int>f" =
      .ok (nestedTokens ++ [⟨.finish, "", ⟨1, 37⟩⟩]) :=
    Scan.scan_of_scansTo rfl (by decide +kernel)
  have inner : DerivesType (nestedTokens.drop 2) (.fptr [] (.list (.struct "P")))
      (nestedTokens.drop 11) :=
    .fptr rfl rfl (.none rfl) rfl (.list rfl rfl (.struct rfl) rfl) rfl
  have derives : DerivesType nestedTokens (.fptr [.fptr [] (.list (.struct "P")), .bool] .int)
      (nestedTokens.drop 16) :=
    .fptr rfl rfl (.some (.more inner rfl (.last (.bool rfl))) nofun) rfl (.int rfl) rfl
  obtain ⟨shorter, isRead⟩ := (yields_readType ⟨.finish, "", ⟨1, 37⟩⟩ derives).exists_eq
  exact ⟨nestedTokens, _, nestedTokens, _, scanned, List.suffix_rfl, isRead, rfl⟩

/-- A nested type with and without parameters is shown with spaces, and read from that again. -/
theorem render_read_inverse_nested :
    IsReadFrom "fptr<fptr<void->list[P]>,bool->int>f"
        (.fptr [.fptr [] (.list (.struct "P")), .bool] .int) ∧
      IsTextOf "fptr<fptr<void -> list[P]>, bool -> int>"
        (.fptr [.fptr [] (.list (.struct "P")), .bool] .int) := by
  obtain ⟨isText, -⟩ := render_read_inverse isReadFrom_nested
  have isShown : (fptr [.fptr [] (.list (.struct "P")), .bool] .int).render =
      "fptr<fptr<void -> list[P]>, bool -> int>" := by decide
  rw [isShown] at isText
  exact ⟨isReadFrom_nested, isText⟩

end Ty

end StructLang
