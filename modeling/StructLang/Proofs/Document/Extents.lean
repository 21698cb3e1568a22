import StructLang.Document.Outline
import StructLang.Proofs.Grammar.Braces
import StructLang.Proofs.Remarks
import StructLang.Proofs.Reports

/-!
# Where declarations stand

If all braces of a text are tokens then a struct, a function and a main body stand in the text as
characters without braces that start with a word and hold the name, and an opening brace, balanced
characters and a closing brace behind them. What stands before them in the text is balanced. The
members of a struct stand in its braces in the same way, with balanced characters before each.

- `Extent` : the parts of a text before, in and behind a declaration.
- `Program.hasExtents` : the declarations of a program that was read from such a text.
-/

namespace StructLang

open Text Scan

/-- The parts of a text before a declaration with braces, from its start to the opening brace,
between the braces, and behind the closing brace. -/
structure Extent (text : List Char) (start opening : Position) where
  before : List Char
  head : List Char
  inner : List Char
  after : List Char
  isText : text = before ++ (head ++ '\x7b' :: (inner ++ '\x7d' :: after))
  balancedBefore : Balanced before
  freeHead : BraceFree head
  balancedInner : Balanced inner
  isStart : start = .behind before
  isOpening : opening = .behind (before ++ head)

/-- Behind some characters, a piece of a text is a member of a struct. An accessor has a head with
its name, and braces. -/
inductive MemberIn (before : List Char) : List Char → Stmt → Prop
  | fields {piece : List Char} {fields : List VariableDecl} {position : Position} :
      (∀ field ∈ fields, HoldsName before piece field.name field.position) →
      MemberIn before piece (.declare fields position)
  | accessor {head inner : List Char} {name : String} {type : Ty}
      {parameters : List VariableDecl} {field : VariableDecl} {setBody getBody : Stmt} :
      BraceFree head →
      Balanced inner →
      HoldsName before head name field.position →
      MemberIn before (head ++ '\x7b' :: (inner ++ ['\x7d']))
        (.accessor name type parameters field setBody getBody (.behind before))

/-- Behind some characters, a text has a member of a struct, and balanced pieces around it. -/
def HasMember (before text : List Char) (member : Stmt) : Prop :=
  ∃ front piece back, text = front ++ (piece ++ back) ∧ Balanced front ∧ Balanced back ∧
    MemberIn (before ++ front) piece member

namespace HasMember

variable {before text : List Char} {member : Stmt}

theorem of_memberIn
    {start piece : List Char} (isStart : Balanced start)
    (isMember : MemberIn (before ++ start) piece member) :
    HasMember before (start ++ piece) member :=
  ⟨start, piece, [], by rw [List.append_nil], isStart, .nil, isMember⟩

theorem append
    (has : HasMember before text member) {more : List Char} (isBalanced : Balanced more) :
    HasMember before (text ++ more) member := by
  obtain ⟨front, piece, back, rfl, isFront, isBack, isMember⟩ := has
  exact ⟨front, piece, back ++ more, by simp, isFront, isBack.append isBalanced, isMember⟩

theorem prepend
    {earlier : List Char} (isBalanced : Balanced earlier)
    (has : HasMember (before ++ earlier) text member) :
    HasMember before (earlier ++ text) member := by
  obtain ⟨front, piece, back, rfl, isFront, isBack, isMember⟩ := has
  refine ⟨earlier ++ front, piece, back, by simp, isBalanced.append isFront, isBack, ?_⟩
  rwa [← List.append_assoc]

end HasMember

/-- A struct stands in a text with its members. -/
def StructDecl.HasExtent (text : List Char) (declaration : StructDecl) : Prop :=
  ∃ extent : Extent text declaration.position declaration.bodyPosition,
    declaration.name.length ≤ extent.head.length ∧
    ∀ member ∈ declaration.members,
      HasMember (extent.before ++ (extent.head ++ ['\x7b'])) extent.inner member

/-- A function stands in a text. -/
def FunctionDecl.HasExtent (text : List Char) (declaration : FunctionDecl) : Prop :=
  ∃ extent : Extent text declaration.position declaration.body.position,
    declaration.name.length ≤ extent.head.length

/-- A main body stands in a text, with its word in front. -/
def MainDecl.HasExtent (text : List Char) (declaration : MainDecl) : Prop :=
  ∃ extent : Extent text declaration.position declaration.body.position,
    HoldsName extent.before extent.head Outline.mainName declaration.position

namespace Grammar

variable {before text : List Char} {tokens rest : List Token}

/-! ## Members -/

theorem exists_of_derivesNames
    {names : List Token} (derives : DerivesSeries DerivesName tokens names rest) :
    ∃ piece, tokens = piece ++ rest ∧ ∀ name ∈ names, name ∈ piece := by
  induction derives with
  | last derives =>
      obtain ⟨rfl, -⟩ := derives
      exact ⟨[_], rfl, fun _ => id⟩
  | @more comma _ _ _ head _ derives _ _ inductionHypothesis =>
      obtain ⟨rfl, -⟩ := derives
      obtain ⟨piece, rfl, areThere⟩ := inductionHypothesis
      refine ⟨head :: comma :: piece, rfl, List.forall_mem_cons.mpr ⟨List.mem_cons_self, ?_⟩⟩
      exact fun name isName =>
        List.mem_cons_of_mem _ (List.mem_cons_of_mem _ (areThere name isName))

/-- Declared variables have the text and place of tokens that are passed. -/
theorem DerivesVariables.exists_names
    {declared : List VariableDecl} (derives : DerivesVariables tokens declared rest) :
    ∃ piece, tokens = piece ++ rest ∧ Token.braces piece = [] ∧
      ∀ field ∈ declared, ∃ token ∈ piece, field.name = token.text ∧
        field.position = token.position := by
  obtain ⟨whole, isWhole, noBraces⟩ := derives.passesNone
  refine ⟨whole, isWhole, noBraces, ?_⟩
  cases derives with
  | @ofNames semicolon _ middle _ names type derives derivesNames _ =>
      obtain ⟨first, rfl, -⟩ := derives.passesNone
      obtain ⟨piece, rfl, areThere⟩ := exists_of_derivesNames derivesNames
      obtain rfl : first ++ (piece ++ [semicolon]) = whole := by
        refine List.append_cancel_right (Eq.trans ?_ isWhole)
        simp
      rintro field isField
      obtain ⟨name, isName, rfl⟩ := List.mem_map.mp isField
      have isThere := List.mem_append_left [semicolon] (areThere name isName)
      exact ⟨name, List.mem_append_right _ isThere, rfl, rfl⟩

/-- Tokens in braces stand in characters in braces. -/
theorem PassesBalanced.pass_enclosed
    {opening closing : Token} (isOpening : opening.kind = .leftBrace)
    (passes : PassesBalanced tokens (closing :: rest)) (isClosing : closing.kind = .rightBrace)
    (clear : ClearSplits before text (opening :: tokens)) :
    ∃ gap inner left, text = gap ++ '\x7b' :: (inner ++ '\x7d' :: left) ∧ BraceFree gap ∧
      Balanced inner ∧ opening.position = .behind (before ++ gap) ∧
      ClearSplits (before ++ (gap ++ '\x7b' :: (inner ++ ['\x7d']))) left rest := by
  obtain ⟨gap, left, rfl, freeGap, isPlace, clear⟩ := clear.cons_brace isOpening rfl
  obtain ⟨passed, left, rfl, isBalanced, clear⟩ := passes.pass clear
  obtain ⟨last, left, rfl, freeLast, -, clear⟩ := clear.cons_brace isClosing rfl
  refine ⟨gap, passed ++ last, left, by simp, freeGap, isBalanced.append (.of_braceFree freeLast),
    isPlace, by simpa using clear⟩

/-- A member of a struct stands in balanced characters behind a gap. -/
theorem DerivesMember.hasMember
    {member : Stmt} (derives : DerivesMember tokens member rest)
    (clear : ClearSplits before text tokens) :
    ∃ passed left, text = passed ++ left ∧ Balanced passed ∧ HasMember before passed member ∧
      ClearSplits (before ++ passed) left rest := by
  cases derives with
  | fields derives =>
      obtain ⟨piece, rfl, noBraces, areNames⟩ := derives.exists_names
      obtain ⟨passed, left, rfl, sameBraces, haveNames, clear⟩ := clear.pass
      have isBalanced : Balanced passed := .of_braceFree (.of_braces (sameBraces.trans noBraces))
      refine ⟨[] ++ passed, left, rfl, isBalanced, .of_memberIn .nil ?_, clear⟩
      refine .fields fun field isField => ?_
      obtain ⟨token, isToken, isName, isPlace⟩ := areNames field isField
      rw [isName, isPlace, List.append_nil]
      exact haveNames token isToken
  | @accessor name opening closing _ middle inner _ _ _ _ _ derivesType isName derivesParameters
      isOpening derivesBlocks isClosing =>
      obtain ⟨first, others, rfl⟩ : ∃ first others, tokens = first :: others := by
        cases derivesType <;> exact ⟨_, _, rfl⟩
      obtain ⟨start, left, rfl, freeStart, isPlace, clear⟩ := clear.skip_gap
      obtain ⟨typeText, left, rfl, freeType, clear⟩ := derivesType.passesNone.pass clear
      have clear : ClearSplits (before ++ start ++ typeText) left ([name] ++ middle) := clear
      obtain ⟨nameText, left, rfl, sameBraces, haveNames, clear⟩ := clear.pass
      have freeName : BraceFree nameText := by
        refine .of_braces (sameBraces.trans ?_)
        rw [Token.braces_cons, isName]
        rfl
      obtain ⟨signature, left, rfl, freeSignature, clear⟩ := derivesParameters.passesNone.pass clear
      obtain ⟨gap, body, left, rfl, freeGap, isBalanced, -, clear⟩ :=
        derivesBlocks.passesBalanced.pass_enclosed isOpening isClosing clear
      have freeHead : BraceFree (typeText ++ (nameText ++ (signature ++ gap))) :=
        freeType.append (freeName.append (freeSignature.append freeGap))
      have holds : HoldsName (before ++ start) (typeText ++ (nameText ++ (signature ++ gap)))
          name.text name.position :=
        ((haveNames name List.mem_cons_self).append (signature ++ gap)).prepend
      have isStart := Balanced.of_braceFree freeStart
      have isPiece := Balanced.braced freeHead isBalanced
      refine ⟨_, left, ?_, isStart.append isPiece, .of_memberIn isStart ?_, ?_⟩
      · simp
      · rw [placeOf_cons, isPlace]
        exact .accessor freeHead isBalanced holds
      · simpa using clear

/-- The members of a struct stand in balanced characters. -/
theorem DerivesMembers.haveMembers
    {members : List Stmt} (derives : DerivesMembers tokens members rest)
    (clear : ClearSplits before text tokens) :
    ∃ passed left, text = passed ++ left ∧ Balanced passed ∧
      (∀ member ∈ members, HasMember before passed member) ∧
      ClearSplits (before ++ passed) left rest := by
  induction derives generalizing before text with
  | none =>
      refine ⟨[], text, rfl, .nil, List.forall_mem_nil _, ?_⟩
      rwa [List.append_nil]
  | more derives _ inductionHypothesis =>
      obtain ⟨first, left, rfl, isFirst, has, clear⟩ := derives.hasMember clear
      obtain ⟨others, left, rfl, areOthers, hasEach, clear⟩ := inductionHypothesis clear
      refine ⟨first ++ others, left, by simp, isFirst.append areOthers, ?_, by simpa using clear⟩
      exact List.forall_mem_cons.mpr ⟨has.append areOthers, fun member isMember =>
        .prepend isFirst (hasEach member isMember)⟩

/-! ## Declarations -/

/-- A word and a name that come first, with the gap in front of them. -/
theorem pass_named
    {word name : Token} (notBrace : word.kind.brace? = none) (isName : name.kind = .identifier)
    (clear : ClearSplits before text (word :: name :: tokens)) :
    ∃ start words left, text = start ++ (words ++ left) ∧ Balanced start ∧ BraceFree words ∧
      name.text.length ≤ words.length ∧ word.position = .behind (before ++ start) ∧
      ClearSplits (before ++ start ++ words) left tokens := by
  obtain ⟨start, left, rfl, freeStart, isPlace, clear⟩ := clear.skip_gap
  have clear : ClearSplits (before ++ start) left ([word, name] ++ tokens) := clear
  obtain ⟨words, left, rfl, sameBraces, haveNames, clear⟩ := clear.pass
  have freeWords : BraceFree words := by
    refine .of_braces (sameBraces.trans ?_)
    rw [Token.braces_cons, Token.braces_cons, notBrace, isName]
    rfl
  have fits := (haveNames name (List.mem_cons_of_mem _ List.mem_cons_self)).length_le
  exact ⟨start, words, left, rfl, .of_braceFree freeStart, freeWords, fits, isPlace, clear⟩

theorem DerivesStruct.hasExtent
    {declaration : StructDecl} (derives : DerivesStruct tokens declaration rest)
    (clear : ClearSplits before text tokens) (isBefore : Balanced before) :
    ∃ passed left, text = passed ++ left ∧ Balanced passed ∧
      declaration.HasExtent (before ++ text) ∧ ClearSplits (before ++ passed) left rest := by
  cases derives with
  | @struct word name opening closing tokens _ members isWord isName isOpening derives isClosing =>
      obtain ⟨start, words, left, rfl, isStart, freeWords, fits, isPlace, clear⟩ :=
        pass_named (isWord ▸ rfl) isName clear
      obtain ⟨gap, left, rfl, freeGap, isOpeningPlace, clear⟩ := clear.cons_brace isOpening rfl
      obtain ⟨body, left, rfl, isBody, hasEach, clear⟩ := derives.haveMembers clear
      obtain ⟨last, left, rfl, freeLast, -, clear⟩ := clear.cons_brace isClosing rfl
      have isLast := Balanced.of_braceFree freeLast
      have freeHead := freeWords.append freeGap
      have isInner := isBody.append isLast
      rw [List.append_assoc] at isOpeningPlace
      refine ⟨start ++ (words ++ gap ++ '\x7b' :: (body ++ last ++ ['\x7d'])), left, by simp,
        isStart.append (.braced freeHead isInner),
        ⟨⟨before ++ start, words ++ gap, body ++ last, left, by simp, isBefore.append isStart,
          freeHead, isInner, isPlace, isOpeningPlace⟩, ?_, fun member isMember => ?_⟩,
        by simpa using clear⟩
      · rw [List.length_append]
        exact fits.trans (Nat.le_add_right _ _)
      · refine HasMember.append ?_ isLast
        simpa using hasEach member isMember

theorem DerivesFunction.hasExtent
    {declaration : FunctionDecl} (derives : DerivesFunction tokens declaration rest)
    (clear : ClearSplits before text tokens) (isBefore : Balanced before) :
    ∃ passed left, text = passed ++ left ∧ Balanced passed ∧
      declaration.HasExtent (before ++ text) ∧ ClearSplits (before ++ passed) left rest := by
  cases derives with
  | @function word name tokens _ _ _ _ _ _ isWord isName derivesParameters derivesType derives =>
      cases derives with
      | @block opening closing _ _ _ isOpening derives isClosing =>
          obtain ⟨start, words, left, rfl, isStart, freeWords, fits, isPlace, clear⟩ :=
            pass_named (isWord ▸ rfl) isName clear
          obtain ⟨signature, left, rfl, freeSignature, clear⟩ :=
            (derivesParameters.passesNone.trans derivesType.passesNone).pass clear
          obtain ⟨gap, inner, left, rfl, freeGap, isInner, isOpeningPlace, clear⟩ :=
            derives.passesBalanced.pass_enclosed isOpening isClosing clear
          have freeHead := (freeWords.append freeSignature).append freeGap
          have isOpeningHere : opening.position =
              .behind (before ++ start ++ (words ++ signature ++ gap)) := by
            simpa using isOpeningPlace
          refine ⟨start ++ (words ++ signature ++ gap ++ '\x7b' :: (inner ++ ['\x7d'])), left,
            by simp, isStart.append (.braced freeHead isInner),
            ⟨⟨before ++ start, words ++ signature ++ gap, inner, left, by simp,
              isBefore.append isStart, freeHead, isInner, isPlace, isOpeningHere⟩, ?_⟩,
            by simpa using clear⟩
          change name.text.length ≤ (words ++ signature ++ gap).length
          rw [List.append_assoc, List.length_append]
          exact fits.trans (Nat.le_add_right _ _)

/-- Declarations stand in balanced characters one after the other. -/
theorem DerivesDeclarations.haveExtents
    {whole : List Char} {structs : List StructDecl} {functions : List FunctionDecl}
    (derives : DerivesDeclarations tokens structs functions rest)
    (clear : ClearSplits before text tokens) (isBefore : Balanced before)
    (isWhole : whole = before ++ text) :
    ∃ passed left, text = passed ++ left ∧ Balanced passed ∧
      (∀ declaration ∈ structs, declaration.HasExtent whole) ∧
      (∀ declaration ∈ functions, declaration.HasExtent whole) ∧
      ClearSplits (before ++ passed) left rest := by
  induction derives generalizing before text with
  | none =>
      refine ⟨[], text, rfl, .nil, List.forall_mem_nil _, List.forall_mem_nil _,
        ?_⟩
      rwa [List.append_nil]
  | struct derives _ inductionHypothesis =>
      obtain ⟨first, left, rfl, isFirst, hasExtent, clear⟩ := derives.hasExtent clear isBefore
      obtain ⟨others, left, rfl, areOthers, ofStructs, ofFunctions, clear⟩ :=
        inductionHypothesis clear (isBefore.append isFirst) (by rw [isWhole, List.append_assoc])
      exact ⟨first ++ others, left, by simp, isFirst.append areOthers,
        List.forall_mem_cons.mpr ⟨isWhole ▸ hasExtent, ofStructs⟩, ofFunctions,
        by simpa using clear⟩
  | function derives _ inductionHypothesis =>
      obtain ⟨first, left, rfl, isFirst, hasExtent, clear⟩ := derives.hasExtent clear isBefore
      obtain ⟨others, left, rfl, areOthers, ofStructs, ofFunctions, clear⟩ :=
        inductionHypothesis clear (isBefore.append isFirst) (by rw [isWhole, List.append_assoc])
      exact ⟨first ++ others, left, by simp, isFirst.append areOthers, ofStructs,
        List.forall_mem_cons.mpr ⟨isWhole ▸ hasExtent, ofFunctions⟩, by simpa using clear⟩

end Grammar

/-! ## Programs -/

/-- All braces of a text are tokens: none stands in a comment. -/
def Scan.BracesAreTokens (source : String) : Prop :=
  ∀ tokens, scan source = .ok tokens → Text.braces source.toList = Token.braces tokens

/-- The declarations of a program stand in a text. -/
structure Program.HasExtents (text : List Char) (program : Program) : Prop where
  structs : ∀ declaration ∈ program.structs, declaration.HasExtent text
  functions : ∀ declaration ∈ program.functions, declaration.HasExtent text
  main : ∀ declaration ∈ program.main?, declaration.HasExtent text

theorem Grammar.DerivesProgram.hasExtents
    {tokens : List Token} {program : Program} {text : List Char}
    (derives : DerivesProgram tokens program) (clear : ClearSplits [] text tokens) :
    program.HasExtents text := by
  cases derives with
  | @program word _ middle _ _ _ derives isMain derivesBody =>
      obtain ⟨passed, left, rfl, isBefore, ofStructs, ofFunctions, clear⟩ :=
        derives.haveExtents clear (.nil) rfl
      refine ⟨ofStructs, ofFunctions, fun declaration isDeclaration => ?_⟩
      obtain rfl := Option.some.inj isDeclaration
      cases derivesBody with
      | @block opening closing _ _ _ isOpening derives isClosing =>
          obtain ⟨gap, left, rfl, freeGap, isPlace, isLexeme, clear⟩ := clear.cons
          obtain ⟨others, inner, left, rfl, freeOthers, isInner, isOpeningPlace, clear⟩ :=
            derives.passesBalanced.pass_enclosed isOpening isClosing clear
          rw [isMain] at isLexeme
          have isName : word.text = Outline.mainName :=
            String.ofList_toList.symm.trans (isLexeme.eq_word (by decide))
          have freeWord : BraceFree word.text.toList := .of_braces isLexeme.braces
          have isOpeningHere : opening.position =
              .behind (passed ++ gap ++ (word.text.toList ++ others)) := by
            simpa using isOpeningPlace
          refine ⟨⟨passed ++ gap, word.text.toList ++ others, inner, left, by simp,
            isBefore.append (.of_braceFree freeGap), freeWord.append freeOthers, isInner,
            isPlace, isOpeningHere⟩, isName ▸ isLexeme.oneLine.2, [], others, ?_, ?_⟩
          · exact isName ▸ rfl
          · exact isPlace.trans (by simp)

/-- A program that was read from a text is derived from its tokens, without the one that marks their
end. -/
theorem Program.exists_derives
    {source : String} {program : Program} (isRead : ofSource source = .ok program) :
    ∃ tokens finish, scan source = .ok (tokens ++ [finish]) ∧
      Grammar.DerivesProgram tokens program := by
  obtain ⟨tokens, scanned, isProgram⟩ := ofTokens_of_ofSource isRead
  obtain ⟨earlier, finish, rfl, isFinish, areScanned⟩ :=
    (splits_of_scan scanned).exists_append_finish
  rw [Grammar.ofTokens_append_finish (fun token isThere => (areScanned token isThere).1) isFinish]
    at isProgram
  have sound := Grammar.sound_read finish earlier
  rw [isProgram] at sound
  exact ⟨earlier, finish, scanned, sound⟩

/-- A text of which all braces are tokens splits clearly. -/
theorem Scan.BracesAreTokens.clearSplits
    {source : String} {tokens : List Token} {finish : Token} (areTokens : BracesAreTokens source)
    (scanned : scan source = .ok (tokens ++ [finish])) :
    ClearSplits [] source.toList tokens := by
  have splits := splits_of_scan scanned
  have sameBraces := areTokens _ scanned
  obtain ⟨earlier, last, sameTokens, isFinish, -⟩ := splits.exists_append_finish
  obtain ⟨-, sameLast⟩ := List.append_inj' sameTokens rfl
  refine ⟨⟨finish, splits⟩, ?_⟩
  rw [sameBraces, Token.braces_append, sameLast, Token.braces_cons, isFinish]
  exact List.append_nil _

/-- The declarations of a program that was read from a text stand in it, if all braces of the text
are tokens. -/
theorem Program.hasExtents
    {source : String} {program : Program} (isRead : ofSource source = .ok program)
    (areTokens : Scan.BracesAreTokens source) : program.HasExtents source.toList := by
  obtain ⟨tokens, finish, scanned, derives⟩ := exists_derives isRead
  exact derives.hasExtents (areTokens.clearSplits scanned)

end StructLang
