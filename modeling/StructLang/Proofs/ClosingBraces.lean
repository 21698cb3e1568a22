import StructLang.Proofs.Grammar.Closings
import StructLang.Proofs.NestedOutlines

/-!
# Ranges end at closing braces

The end of what has braces is found twice. The readers match each opening brace with a closing one
as they read nested blocks, and an outline counts braces on raw lines. Where all braces of a text
are tokens, the two agree on every declaration and accessor without a brace in front of it on its
first line: its range ends with the line of the brace that its reader took last.

- `Program.outline_reaches_closings` : the ranges of the outline of a program.
-/

namespace StructLang

open Text Scan Grammar Reader

/-! ## What the readers match -/

/-- Some tokens start with a word of a kind, and a reader that starts behind the word takes
something from them, up to a rest. -/
def TakesBehind
    {alpha : Type} (kind : TokenKind)
    (reader : (finish : Token) → Position → (tokens : List Token) → Reading alpha tokens.length)
    (finish : Token) (tokens : List Token) (found : alpha) (rest : List Token) : Prop :=
  ∃ word others, tokens = word :: others ∧ word.kind = kind ∧
    Yields (reader finish word.position others) found rest

/-- Among the tokens of a text, a closing brace is the last one that a reader takes for
something. -/
def ClosedBy
    {alpha : Type} (takes : Token → List Token → alpha → List Token → Prop)
    (source : String) (found : alpha) (closing : Token) : Prop :=
  closing.kind = .rightBrace ∧ ∃ tokens finish piece rest,
    scan source = .ok (tokens ++ [finish]) ∧ piece ++ closing :: rest <:+ tokens ∧
      takes finish (piece ++ closing :: rest) found rest

/-- The closing brace of a struct. -/
abbrev StructDecl.ClosedBy : String → StructDecl → Token → Prop :=
  StructLang.ClosedBy (TakesBehind .structWord readStruct)

/-- The closing brace of a function. -/
abbrev FunctionDecl.ClosedBy : String → FunctionDecl → Token → Prop :=
  StructLang.ClosedBy (TakesBehind .funcWord readFunction)

/-- The closing brace of a main body. -/
abbrev MainDecl.ClosedBy : String → MainDecl → Token → Prop :=
  StructLang.ClosedBy (TakesBehind .mainWord readMain)

/-- The closing brace of a member of a struct. -/
abbrev Stmt.ClosedBy : String → Stmt → Token → Prop :=
  StructLang.ClosedBy fun finish tokens => Yields (readMember finish tokens)

/-! ## Where ranges end -/

/-- A range over a text ends with the line of a token. -/
def DocumentRange.EndsWithLineOf (source : String) (token : Token) (range : DocumentRange) : Prop :=
  ∃ line, (lines source)[(token.position.line - 1).toNat]? = some line ∧
    range.finish = ⟨token.position.line - 1, line.length⟩

/-- Something at a position has a closing brace. If no brace stands in front of it on its first
line then its range ends with the line of the closing brace. -/
structure OutlineItem.ReachesClosing
    (source : String) (position : Position) (isClosing : Token → Prop) (item : OutlineItem) :
    Prop where
  exists_closing : ∃ closing, isClosing closing
  ends : BraceFree (position.lineFront source) → ∀ closing, isClosing closing →
    item.range.EndsWithLineOf source closing

/-- There is an item for each field that a member declares, and one for an accessor, which reaches
its closing brace. -/
def Stmt.ItemsReachClosing (source : String) : Stmt → List OutlineItem → Prop
  | .declare fields _, items => items.map (·.name) = fields.map (·.name)
  | .accessor name type parameters field setBody getBody position, items =>
      ∃ item, items = [item] ∧ item.name = name ∧
        item.ReachesClosing source position
          (Stmt.ClosedBy source (.accessor name type parameters field setBody getBody position))
  | _, items => items = []

/-- The entry of a struct reaches its closing brace, and so do the items of its accessors. -/
structure StructDecl.EntryReachesClosing
    (source : String) (declaration : StructDecl) (entry : OutlineEntry) : Prop where
  name : entry.item.name = declaration.name
  item : entry.item.ReachesClosing source declaration.position (declaration.ClosedBy source)
  below : ∃ groups, entry.below? = some groups.flatten ∧
    List.Forall₂ (Stmt.ItemsReachClosing source) declaration.members groups

namespace Outline

variable {source : String} {tokens start rest : List Token} {finish closing : Token}

/-- The search on the lines of a text for the end of some tokens ends with the line of their closing
brace. -/
theorem endsWithLineOf_closing
    (areTokens : BracesAreTokens source) (scanned : scan source = .ok (tokens ++ [finish]))
    (isSuffix : start <:+ tokens) (ends : EndsInBraces start closing rest)
    (freeFront : BraceFree ((Grammar.placeOf start).lineFront source)) :
    (rangeTo (lines source) (Grammar.placeOf start)
      (lastLine (lines source) (Grammar.placeOf start))).EndsWithLineOf source closing := by
  obtain ⟨earlier, rfl⟩ := isSuffix
  obtain ⟨before, left, isText, -, -, clear⟩ := (areTokens.clearSplits scanned).pass
  obtain ⟨gap, head, inner, after, rfl, freeHead, isInner, isStart, isEnd⟩ := ends.pass clear
  rw [List.nil_append] at isStart isEnd
  have isStartText : source.toList =
      before ++ gap ++ (head ++ '\x7b' :: (inner ++ '\x7d' :: after)) := by
    rw [isText, List.append_assoc]
  have isEndText : source.toList =
      before ++ gap ++ (head ++ '\x7b' :: inner) ++ '\x7d' :: after := by
    rw [isStartText]
    simp
  rw [isStart, lineFront_behind isStartText] at freeFront
  have isLast := lastLine_of_braceFree isStartText freeFront freeHead isInner
  have isLine : closing.position.line - 1 =
      ((before ++ gap ++ (head ++ '\x7b' :: inner)).count '\n' : Nat) :=
    (congrArg (·.line - 1) isEnd).trans (line_behind _)
  have reached := lines_getElem?_count (before ++ gap ++ (head ++ '\x7b' :: inner))
    ('\x7d' :: after)
  rw [← isEndText, String.ofList_toList] at reached
  rw [isStart, isLast, DocumentRange.EndsWithLineOf, isLine, Int.toNat_natCast]
  refine ⟨_, reached, ?_⟩
  rw [rangeTo, endOfLine, lineLength_of_getElem? reached]

/-- Something with braces that a reader takes from the tokens of a text reaches its closing
brace. -/
theorem reachesClosing
    {alpha : Type} {takes : Token → List Token → alpha → List Token → Prop} {found : alpha}
    {position : Position} {item : OutlineItem}
    (hasBraces : ∀ finish tokens rest, takes finish tokens found rest →
      position = Grammar.placeOf tokens ∧ ∃ closing, EndsInBraces tokens closing rest)
    (isRange : item.range = rangeTo (lines source) position (lastLine (lines source) position))
    (areTokens : BracesAreTokens source) (scanned : scan source = .ok (tokens ++ [finish]))
    (isSuffix : start <:+ tokens) (isTaken : takes finish start found rest) :
    item.ReachesClosing source position (ClosedBy takes source found) := by
  refine ⟨?_, ?_⟩
  · obtain ⟨-, closing, ends⟩ := hasBraces _ _ _ isTaken
    obtain ⟨piece, rfl⟩ := ends.exists_append
    exact ⟨closing, ends.isClosing, tokens, finish, piece, rest, scanned, isSuffix, isTaken⟩
  · rintro freeFront closing ⟨-, tokens, finish, piece, rest, scanned, isSuffix, isTaken⟩
    obtain ⟨rfl, last, ends⟩ := hasBraces _ _ _ isTaken
    obtain rfl := ends.closing_eq
    rw [isRange]
    exact endsWithLineOf_closing areTokens scanned isSuffix ends freeFront

/-! ## Members and declarations -/

theorem memberItems_reachClosing
    {member : Stmt} (areTokens : BracesAreTokens source)
    (scanned : scan source = .ok (tokens ++ [finish])) (isSuffix : start <:+ tokens)
    (derives : DerivesMember start member rest) :
    member.ItemsReachClosing source (memberItems (lines source) member) := by
  cases member with
  | declare fields => exact List.map_map
  | accessor =>
      refine ⟨_, rfl, rfl, reachesClosing (fun finish tokens rest isTaken => ?_) rfl areTokens
        scanned isSuffix (yields_readStructMember finish derives)⟩
      exact ((sound_readStructMember finish tokens).of_yields isTaken).endsInBraces
  | _ => rfl

theorem structEntry_reachesClosing
    {declaration : StructDecl} (areTokens : BracesAreTokens source)
    (scanned : scan source = .ok (tokens ++ [finish])) (isSuffix : start <:+ tokens)
    (derives : DerivesStruct start declaration rest) :
    declaration.EntryReachesClosing source (structEntry (lines source) declaration) := by
  refine ⟨rfl, reachesClosing ?_ rfl areTokens scanned isSuffix (yields_readStruct finish derives),
    declaration.members.map (memberItems (lines source)), ?_, ?_⟩
  · rintro finish _ rest ⟨word, others, rfl, isWord, yields⟩
    exact ((sound_readStruct finish word isWord others).of_yields yields).endsInBraces
  · rw [structEntry, List.flatMap_def]
  · refine List.forall₂_map_right_iff.mpr (List.forall₂_same.mpr fun member isMember => ?_)
    obtain ⟨place, after, isPart, derivesMember⟩ := derives.derivesMembers member isMember
    exact memberItems_reachClosing areTokens scanned (isPart.trans isSuffix) derivesMember

theorem functionEntry_reachesClosing
    {declaration : FunctionDecl} (areTokens : BracesAreTokens source)
    (scanned : scan source = .ok (tokens ++ [finish])) (isSuffix : start <:+ tokens)
    (derives : DerivesFunction start declaration rest) :
    (functionEntry (lines source) declaration).item.ReachesClosing source declaration.position
      (declaration.ClosedBy source) := by
  refine reachesClosing ?_ rfl areTokens scanned isSuffix (yields_readFunction finish derives)
  rintro finish _ rest ⟨word, others, rfl, isWord, yields⟩
  exact ((sound_readFunction finish word isWord others).of_yields yields).endsInBraces

theorem mainEntry_reachesClosing
    {word : Token} {middle : List Token} {body : Stmt} (areTokens : BracesAreTokens source)
    (scanned : scan source = .ok (tokens ++ [finish])) (isSuffix : word :: middle <:+ tokens)
    (isMain : word.kind = .mainWord) (derives : DerivesBlock middle body rest) :
    (mainEntry (lines source) ⟨body, word.position⟩).item.ReachesClosing source word.position
      (MainDecl.ClosedBy source ⟨body, word.position⟩) := by
  refine reachesClosing ?_ rfl areTokens scanned isSuffix
    ⟨word, middle, rfl, isMain, yields_readMain finish word.position derives⟩
  rintro finish _ rest ⟨first, others, rfl, isWord, yields⟩
  obtain ⟨samePlace, derivesBody⟩ := (sound_readMain finish _ others).of_yields yields
  obtain ⟨closing, ends⟩ := derivesBody.endsInBraces
  exact ⟨samePlace, closing, ends.prepend (.token isWord rfl)⟩

end Outline

/-! ## The whole -/

/-- The outline of a program that was read from a text without braces in comments has one entry for
each declaration, unless a place is beyond the limits. Each declaration and each accessor that has
no brace in front of it on its first line is shown up to the end of the line of the closing brace
with which its reader ended. -/
theorem Program.outline_reaches_closings
    {source : String} {program : Program} (isRead : ofSource source = .ok program)
    (areTokens : BracesAreTokens source) :
    Outline.Fits
      (fun entries => ∃ structs functions main, entries = structs ++ functions ++ main ∧
        List.Forall₂ (StructDecl.EntryReachesClosing source) program.structs structs ∧
        List.Forall₂ (fun declaration entry => entry.item.name = declaration.name ∧
          entry.item.ReachesClosing source declaration.position (declaration.ClosedBy source))
          program.functions functions ∧
        List.Forall₂ (fun declaration entry => entry.item.name = Outline.mainName ∧
          entry.item.ReachesClosing source declaration.position (declaration.ClosedBy source))
          program.main?.toList main)
      (program.outline source) := by
  obtain ⟨tokens, finish, scanned, derives⟩ := exists_derives isRead
  refine (fits_outline isRead).mono ?_
  rintro _ rfl
  cases derives with
  | program derives isMain derivesBody =>
      refine ⟨_, _, _, rfl, ?_, ?_, ?_⟩
      · refine List.forall₂_map_right_iff.mpr (List.forall₂_same.mpr fun declaration isThere => ?_)
        obtain ⟨start, after, isSuffix, derives⟩ := derives.derivesStructs declaration isThere
        exact Outline.structEntry_reachesClosing areTokens scanned isSuffix derives
      · refine List.forall₂_map_right_iff.mpr (List.forall₂_same.mpr fun declaration isThere => ?_)
        obtain ⟨start, after, isSuffix, derives⟩ := derives.derivesFunctions declaration isThere
        exact ⟨rfl, Outline.functionEntry_reachesClosing areTokens scanned isSuffix derives⟩
      · refine List.Forall₂.cons ⟨rfl, ?_⟩ .nil
        exact Outline.mainEntry_reachesClosing areTokens scanned derives.suffix isMain derivesBody

/-- The closing brace of the struct of that program is the one on its fourth line. -/
theorem closedBy_linedStruct :
    ∀ declaration ∈ linedStruct.structs,
      declaration.ClosedBy linedStructText ⟨.rightBrace, "\x7d", ⟨4, 1⟩⟩ := by
  intro declaration isThere
  have derives := derivesStruct_linedStruct declaration isThere
  exact ⟨rfl, linedStructTokens, _, linedStructTokens.take 18, _, scan_linedStruct,
    List.suffix_refl _, yields_readStruct _ derives⟩

theorem outline_reaches_closings_linedStruct :
    Program.ofSource linedStructText = .ok linedStruct ∧ BracesAreTokens linedStructText ∧
      ∃ entries, linedStruct.outline linedStructText = .ok entries ∧
        ∀ declaration ∈ linedStruct.structs, ∃ entry ∈ entries,
          entry.item.name = declaration.name ∧
            entry.item.range.EndsWithLineOf linedStructText ⟨.rightBrace, "\x7d", ⟨4, 1⟩⟩ := by
  have isMade : linedStruct.outline linedStructText =
      .ok (linedStruct.outlined (lines linedStructText)) := by decide +kernel
  have reaches := @Program.outline_reaches_closings linedStructText linedStruct
    ofSource_linedStruct bracesAreTokens_linedStruct
  rw [isMade] at reaches
  refine ⟨ofSource_linedStruct, bracesAreTokens_linedStruct, _, isMade,
    fun declaration isThere => ?_⟩
  have isClosed := closedBy_linedStruct declaration isThere
  obtain ⟨structs, functions, main, isJoined, ofStructs, -, -⟩ := reaches
  obtain rfl := List.mem_singleton.mp isThere
  rw [isJoined]
  cases ofStructs with
  | cons ofStruct _ =>
      exact ⟨_, List.mem_cons_self, ofStruct.name,
        ofStruct.item.ends ⟨by decide +kernel, by decide +kernel⟩ _ isClosed⟩

end StructLang
