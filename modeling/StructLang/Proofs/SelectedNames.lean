import StructLang.Proofs.Document.Selections
import StructLang.Proofs.Grammar.Closings
import StructLang.Proofs.NestedOutlines

/-!
# Selections cover names

What an editor selects for an item of an outline is as wide as the name of the item. It covers the
name of a field, of an accessor and of the main body, for it starts there. The selection of a struct
or a function starts at the word that declares it, and so covers the name only if the name is a
beginning of that word.

- `Program.selectsName_iff` : when the selection of an item covers its name.
- `selects_word_of_struct` : the selection of a struct that covers the start of the word `struct`.
-/

namespace StructLang

open Text Scan Grammar

/-! ## Tokens in a text -/

/-- A token stands in a text as a lexeme at its position. -/
def Token.StandsIn (source : String) (token : Token) : Prop :=
  ∃ before after, source.toList = before ++ (token.text.toList ++ after) ∧
    token.position = .behind before ∧ IsLexeme token.kind token.text.toList after

/-- Each token but the last one is a lexeme of the text. -/
theorem Scan.Splits.exists_place
    {before text : List Char} {tokens : List Token} (splits : Splits before text tokens) :
    ∀ token ∈ tokens.dropLast, ∃ front after,
      before ++ text = front ++ (token.text.toList ++ after) ∧
        token.position = .behind front ∧ IsLexeme token.kind token.text.toList after := by
  induction splits with
  | finish => exact List.forall_mem_nil _
  | @lexeme before gap characters rest kind tokens isGap isLexeme splits inductionHypothesis =>
      rw [List.dropLast_cons_of_ne_nil splits.ne_nil]
      refine List.forall_mem_cons.mpr ⟨⟨before ++ gap, rest, ?_⟩, fun token isThere => ?_⟩
      · rw [String.toList_ofList]
        exact ⟨by simp, rfl, isLexeme⟩
      · have isWhole : before ++ (gap ++ (characters ++ rest)) =
            before ++ gap ++ characters ++ rest := by simp
        rw [isWhole]
        exact inductionHypothesis token isThere

theorem Token.standsIn_of_scan
    {source : String} {tokens : List Token} {finish : Token}
    (scanned : scan source = .ok (tokens ++ [finish])) :
    ∀ token ∈ tokens, token.StandsIn source := by
  intro token isThere
  have isInFront : token ∈ (tokens ++ [finish]).dropLast := by rwa [List.dropLast_concat]
  exact (splits_of_scan scanned).exists_place token isInFront

/-! ## What is selected -/

/-- The selection of an item covers its name. -/
def OutlineItem.SelectsName (source : String) (item : OutlineItem) : Prop :=
  item.selection.covered source = item.name.toList

/-- The word at which the selection of an item starts, if that is not its name. -/
def OutlineItem.startingWord? (item : OutlineItem) : Option String :=
  match item.kind with
  | .struct => some "struct"
  | .function => if item.name = Outline.mainName then none else some "func"
  | .field | .property => none

/-- The selection of an item covers its name, or it starts at a word and covers the name only if
the word starts with it. -/
def OutlineItem.SelectsAsItStarts (source : String) (item : OutlineItem) : Prop :=
  item.SelectsName source ↔ ∀ word ∈ item.startingWord?, item.name.toList <+: word.toList

theorem OutlineItem.selectsAsItStarts_iff
    {source word : String} {item : OutlineItem} (isWord : item.startingWord? = some word) :
    item.SelectsAsItStarts source ↔
      (item.SelectsName source ↔ item.name.toList <+: word.toList) := by
  simp [SelectsAsItStarts, isWord]

namespace Outline

variable {source : String} {tokens rest : List Token} {word name : Token}

theorem covered_of_standsIn
    (stands : name.StandsIn source) :
    (rangeOver name.position name.text).covered source = name.text.toList := by
  obtain ⟨before, after, isText, isPlace, isLexeme⟩ := stands
  rw [isPlace]
  exact covered_rangeOver_name isText isLexeme.oneLine.2

/-- A selection that starts at a word in front of a name covers the name only if the word starts
with it. -/
theorem covered_of_word
    {spelling : String} (stands : word.StandsIn source)
    (isWord : (spelling, word.kind) ∈ TokenKind.words) (standsName : name.StandsIn source)
    (isName : name.kind = .identifier) :
    (rangeOver word.position name.text).covered source = name.text.toList ↔
      name.text.toList <+: spelling.toList := by
  obtain ⟨before, after, isText, isPlace, isLexeme⟩ := stands
  obtain ⟨_, _, -, -, isNameLexeme⟩ := standsName
  obtain ⟨-, continues, -⟩ := isNameLexeme.of_wordKind (isName ▸ List.mem_cons_self)
  obtain ⟨-, -, stops⟩ := isLexeme.of_wordKind
    (List.mem_cons_of_mem _ (List.mem_map_of_mem isWord))
  obtain rfl : word.text = spelling := String.ofList_toList.symm.trans (isLexeme.eq_word isWord)
  rw [isPlace]
  exact covered_rangeOver_word isText isLexeme.oneLine.2 stops continues

/-! ## Items -/

theorem memberItems_selectNames
    {member : Stmt} (lines : List String) (stand : ∀ token ∈ tokens, token.StandsIn source)
    (derives : DerivesMember tokens member rest) :
    ∀ item ∈ memberItems lines member, item.SelectsAsItStarts source := by
  cases derives with
  | fields derives =>
      obtain ⟨piece, rfl, -, areNames⟩ := derives.exists_names
      intro item isItem
      obtain ⟨field, isField, rfl⟩ := List.mem_map.mp isItem
      obtain ⟨token, isToken, isName, isPlace⟩ := areNames field isField
      have selects := covered_of_standsIn (stand token (List.mem_append_left _ isToken))
      rw [← isName, ← isPlace] at selects
      exact iff_of_true selects nofun
  | @accessor name _ _ _ middle _ _ _ _ _ _ derivesType =>
      have isThere : name ∈ tokens := derivesType.suffix.subset List.mem_cons_self
      refine List.forall_mem_singleton.mpr (iff_of_true ?_ nofun)
      exact covered_of_standsIn (stand name isThere)

theorem structEntry_selectNames
    {declaration : StructDecl} (lines : List String)
    (stand : ∀ token ∈ tokens, token.StandsIn source)
    (derives : DerivesStruct tokens declaration rest) :
    ∀ item ∈ (structEntry lines declaration).items, item.SelectsAsItStarts source := by
  refine List.forall_mem_cons.mpr ⟨?_, fun item isItem => ?_⟩
  · cases derives with
    | @struct word name _ _ _ _ _ isStruct isName =>
        have isWord : ("struct", word.kind) ∈ TokenKind.words := by
          rw [isStruct]
          decide
        have selects := covered_of_word (stand word (by simp)) isWord (stand name (by simp)) isName
        exact (OutlineItem.selectsAsItStarts_iff rfl).mpr selects
  · obtain ⟨member, isMember, isThere⟩ := List.mem_flatMap.mp isItem
    obtain ⟨start, after, isSuffix, derivesMember⟩ := derives.derivesMembers member isMember
    exact memberItems_selectNames lines (fun token isToken => stand token (isSuffix.subset isToken))
      derivesMember item isThere

theorem functionEntry_selectsName
    {declaration : FunctionDecl} (lines : List String)
    (stand : ∀ token ∈ tokens, token.StandsIn source)
    (derives : DerivesFunction tokens declaration rest) :
    (functionEntry lines declaration).item.SelectsAsItStarts source := by
  cases derives with
  | @function word name _ _ _ _ _ _ _ isFunc isName =>
      have isWord : ("func", word.kind) ∈ TokenKind.words := by
        rw [isFunc]
        decide
      have standsName := stand name (by simp)
      have selects := covered_of_word (stand word (by simp)) isWord standsName isName
      have notMain : name.text ≠ mainName := by
        rintro isMain
        obtain ⟨_, _, -, -, isLexeme⟩ := standsName
        obtain ⟨isKind, -⟩ := isLexeme.of_wordKind (isName ▸ List.mem_cons_self)
        rw [isName, String.ofList_toList, isMain] at isKind
        exact absurd isKind (by decide)
      refine (OutlineItem.selectsAsItStarts_iff ?_).mpr selects
      exact if_neg notMain

theorem mainEntry_selectsName
    {body : Stmt} (lines : List String) (stands : word.StandsIn source)
    (isMain : word.kind = .mainWord) :
    (mainEntry lines ⟨body, word.position⟩).item.SelectsAsItStarts source := by
  have selects := covered_of_standsIn stands
  have isName : word.text = mainName := by
    obtain ⟨_, _, -, -, isLexeme⟩ := stands
    rw [isMain] at isLexeme
    exact String.ofList_toList.symm.trans (isLexeme.eq_word (by decide))
  rw [isName] at selects
  exact iff_of_true selects nofun

end Outline

/-! ## The whole -/

/-- The outline of a program that was read from a text, unless a place is beyond the limits: the
selection of a field, of an accessor and of the main body covers the name. That of a struct and of a
function starts at the word that declares it, and covers the name exactly if the word starts with
the name. -/
theorem Program.selectsName_iff
    {source : String} {program : Program} (isRead : ofSource source = .ok program) :
    Outline.Fits
      (fun entries => ∀ entry ∈ entries, ∀ item ∈ entry.items,
        (item.SelectsName source ↔ ∀ word ∈ item.startingWord?, item.name.toList <+: word.toList))
      (program.outline source) := by
  obtain ⟨tokens, finish, scanned, derives⟩ := exists_derives isRead
  have stand := Token.standsIn_of_scan scanned
  refine (fits_outline isRead).mono ?_
  rintro _ rfl
  cases derives with
  | @program word middle _ _ _ _ derives isMain derivesBody =>
      intro entry isEntry
      rcases List.mem_append.mp isEntry with isDeclared | isLast
      · rcases List.mem_append.mp isDeclared with isStruct | isFunction
        · obtain ⟨declaration, isThere, rfl⟩ := List.mem_map.mp isStruct
          obtain ⟨start, after, isSuffix, derivesStruct⟩ :=
            derives.derivesStructs declaration isThere
          exact Outline.structEntry_selectNames _
            (fun token isToken => stand token (isSuffix.subset isToken)) derivesStruct
        · obtain ⟨declaration, isThere, rfl⟩ := List.mem_map.mp isFunction
          obtain ⟨start, after, isSuffix, derivesFunction⟩ :=
            derives.derivesFunctions declaration isThere
          exact List.forall_mem_singleton.mpr (Outline.functionEntry_selectsName _
            (fun token isToken => stand token (isSuffix.subset isToken)) derivesFunction)
      · obtain rfl := List.mem_singleton.mp isLast
        exact List.forall_mem_singleton.mpr (Outline.mainEntry_selectsName _
          (stand word (derives.suffix.subset List.mem_cons_self)) isMain)

/-- A struct with a field and an accessor, in front of a main body. -/
theorem selectsName_iff_linedStruct :
    Program.ofSource linedStructText = .ok linedStruct ∧
      ∃ entries, linedStruct.outline linedStructText = .ok entries ∧
        entries.flatMap (fun entry => entry.items.map OutlineItem.kind) =
          [.struct, .field, .property, .function] ∧
        ∀ entry ∈ entries, ∀ item ∈ entry.items, (item.SelectsName linedStructText ↔
          ∀ word ∈ item.startingWord?, item.name.toList <+: word.toList) := by
  have isMade : linedStruct.outline linedStructText =
      .ok (linedStruct.outlined (lines linedStructText)) := by decide +kernel
  have selects := @Program.selectsName_iff linedStructText linedStruct ofSource_linedStruct
  rw [isMade] at selects
  exact ⟨ofSource_linedStruct, _, isMade, by decide +kernel, selects⟩

/-- The selection of a struct with a name of one letter covers the first letter of the word. -/
theorem selects_word_of_struct :
    Program.ofSource "struct A\x7bA a;\x7dmain\x7b\x7d" = .ok selfContained ∧
      ∃ entries, selfContained.outline "struct A\x7bA a;\x7dmain\x7b\x7d" = .ok entries ∧
        ∃ entry ∈ entries, entry.item.name = "A" ∧
          entry.item.selection.covered "struct A\x7bA a;\x7dmain\x7b\x7d" = ['s'] ∧
          ¬ entry.item.SelectsName "struct A\x7bA a;\x7dmain\x7b\x7d" := by
  have isMade : selfContained.outline "struct A\x7bA a;\x7dmain\x7b\x7d" =
      .ok (selfContained.outlined (lines "struct A\x7bA a;\x7dmain\x7b\x7d")) := by decide +kernel
  refine ⟨Program.ofSource_selfContained, _, isMade, _, List.mem_cons_self, rfl, ?_, ?_⟩
  · decide +kernel
  · unfold OutlineItem.SelectsName
    decide +kernel

end StructLang
