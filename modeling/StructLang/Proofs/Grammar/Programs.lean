import StructLang.Program.Read
import StructLang.Proofs.Grammar.Statements

/-!
# The grammar of programs

A program is a run of declarations with one main body after them. A member with blocks has exactly
one block that sets and one that gets, in either order. The reader of programs accepts exactly the
texts of the grammar, and where it refuses one it does so with a fault of the grammar.
-/

namespace StructLang.Grammar

open Reader

/-! ## Members of structs -/

/-- The tokens up to a rest are the two blocks of an accessor. -/
inductive DerivesAccessorBlocks : List Token → Stmt → Stmt → List Token → Prop
  | setFirst {setWord getWord : Token} {tokens middle rest : List Token}
      {setBody getBody : Stmt} :
      setWord.kind = .setWord →
      DerivesBlock tokens setBody (getWord :: middle) →
      getWord.kind = .getWord →
      DerivesBlock middle getBody rest →
      DerivesAccessorBlocks (setWord :: tokens) setBody getBody rest
  | getFirst {setWord getWord : Token} {tokens middle rest : List Token}
      {setBody getBody : Stmt} :
      getWord.kind = .getWord →
      DerivesBlock tokens getBody (setWord :: middle) →
      setWord.kind = .setWord →
      DerivesBlock middle setBody rest →
      DerivesAccessorBlocks (getWord :: tokens) setBody getBody rest

/-- The tokens up to a rest are a member of a struct. The field of an accessor has the place of
its name. -/
inductive DerivesMember : List Token → Stmt → List Token → Prop
  | fields {tokens rest : List Token} {fields : List VariableDecl} :
      DerivesVariables tokens fields rest →
      DerivesMember tokens (.declare fields (placeOf tokens)) rest
  | accessor {name opening closing : Token} {tokens middle inner rest : List Token} {type : Ty}
      {parameters : List VariableDecl} {setBody getBody : Stmt} :
      DerivesType tokens type (name :: middle) →
      name.kind = .identifier →
      DerivesParameters middle parameters (opening :: inner) →
      opening.kind = .leftBrace →
      DerivesAccessorBlocks inner setBody getBody (closing :: rest) →
      closing.kind = .rightBrace →
      DerivesMember tokens
        (.accessor name.text type parameters ⟨name.text, type, name.position⟩ setBody getBody
          (placeOf tokens)) rest

/-- The tokens up to a rest are members of a struct. -/
inductive DerivesMembers : List Token → List Stmt → List Token → Prop
  | none {rest : List Token} :
      DerivesMembers rest [] rest
  | more {tokens middle rest : List Token} {head : Stmt} {tail : List Stmt} :
      DerivesMember tokens head middle →
      DerivesMembers middle tail rest →
      DerivesMembers tokens (head :: tail) rest

/-! ## Declarations -/

/-- The tokens up to a rest declare a struct. -/
inductive DerivesStruct : List Token → StructDecl → List Token → Prop
  | struct {word name opening closing : Token} {tokens rest : List Token}
      {members : List Stmt} :
      word.kind = .structWord →
      name.kind = .identifier →
      opening.kind = .leftBrace →
      DerivesMembers tokens members (closing :: rest) →
      closing.kind = .rightBrace →
      DerivesStruct (word :: name :: opening :: tokens)
        ⟨name.text, members, opening.position, word.position⟩ rest

/-- The tokens up to a rest declare a function. -/
inductive DerivesFunction : List Token → FunctionDecl → List Token → Prop
  | function {word name : Token} {tokens middle others rest : List Token} {result : Ty}
      {parameters : List VariableDecl} {body : Stmt} :
      word.kind = .funcWord →
      name.kind = .identifier →
      DerivesParameters tokens parameters middle →
      DerivesType middle result others →
      DerivesBlock others body rest →
      DerivesFunction (word :: name :: tokens)
        ⟨name.text, result, parameters, body, word.position⟩ rest

/-- The tokens up to a rest are declarations of structs and functions in any order. -/
inductive DerivesDeclarations :
    List Token → List StructDecl → List FunctionDecl → List Token → Prop
  | none {rest : List Token} :
      DerivesDeclarations rest [] [] rest
  | struct {tokens middle rest : List Token} {declaration : StructDecl}
      {structs : List StructDecl} {functions : List FunctionDecl} :
      DerivesStruct tokens declaration middle →
      DerivesDeclarations middle structs functions rest →
      DerivesDeclarations tokens (declaration :: structs) functions rest
  | function {tokens middle rest : List Token} {declaration : FunctionDecl}
      {structs : List StructDecl} {functions : List FunctionDecl} :
      DerivesFunction tokens declaration middle →
      DerivesDeclarations middle structs functions rest →
      DerivesDeclarations tokens structs (declaration :: functions) rest

/-- The tokens, which hold no end of the text, are a program. -/
inductive DerivesProgram : List Token → Program → Prop
  | program {word : Token} {tokens middle : List Token} {structs : List StructDecl}
      {functions : List FunctionDecl} {body : Stmt} :
      DerivesDeclarations tokens structs functions (word :: middle) →
      word.kind = .mainWord →
      DerivesBlock middle body [] →
      DerivesProgram tokens ⟨structs, functions, some ⟨body, word.position⟩, placeOf tokens⟩

/-! ## Readings are derivations -/

/-- The tokens up to a rest are blocks that an accessor still lacks. -/
inductive AddsBlocks : AccessorBlocks → List Token → AccessorBlocks → List Token → Prop
  | nothing {blocks : AccessorBlocks} {rest : List Token} :
      AddsBlocks blocks rest blocks rest
  | setBlock {word : Token} {tokens middle rest : List Token} {body : Stmt}
      {getBody? : Option Stmt} {blocks : AccessorBlocks} :
      word.kind = .setWord →
      DerivesBlock tokens body middle →
      AddsBlocks ⟨some body, getBody?⟩ middle blocks rest →
      AddsBlocks ⟨none, getBody?⟩ (word :: tokens) blocks rest
  | getBlock {word : Token} {tokens middle rest : List Token} {body : Stmt}
      {setBody? : Option Stmt} {blocks : AccessorBlocks} :
      word.kind = .getWord →
      DerivesBlock tokens body middle →
      AddsBlocks ⟨setBody?, some body⟩ middle blocks rest →
      AddsBlocks ⟨setBody?, none⟩ (word :: tokens) blocks rest

theorem AddsBlocks.derives
    {tokens rest : List Token} {setBody getBody : Stmt}
    (adds : AddsBlocks ⟨none, none⟩ tokens ⟨some setBody, some getBody⟩ rest) :
    DerivesAccessorBlocks tokens setBody getBody rest := by
  cases adds with
  | setBlock isSet derivesSet adds => cases adds with
    | getBlock isGet derivesGet adds => cases adds with
      | nothing => exact .setFirst isSet derivesSet isGet derivesGet
  | getBlock isGet derivesGet adds => cases adds with
    | setBlock isSet derivesSet adds => cases adds with
      | nothing => exact .getFirst isGet derivesGet isSet derivesSet

theorem sound_readAccessorBlocks
    (finish : Token) (blocks : AccessorBlocks) (tokens : List Token) :
    Sound tokens (AddsBlocks blocks tokens) (readAccessorBlocks finish blocks tokens) := by
  rw [readAccessorBlocks.eq_def]
  cases tokens with
  | nil => exact Sound.value .nothing (List.suffix_refl _)
  | cons first others =>
      dsimp only
      split
      case isTrue => exact Sound.value .nothing (List.suffix_refl _)
      split
      case isTrue isSet =>
        obtain ⟨setBody?, getBody?⟩ := blocks
        obtain ⟨kind, lacking⟩ := isSet
        obtain rfl : setBody? = none := by simpa using lacking
        refine Sound.of_suffix others ?_ (List.suffix_cons first others)
        refine (sound_readBlock finish others).bind fun body middle shorter derives => ?_
        refine (sound_readAccessorBlocks finish _ middle).bind fun blocks rest _ adds => ?_
        exact Sound.value (.setBlock kind derives adds) (List.suffix_refl _)
      split
      case isTrue isGet =>
        obtain ⟨setBody?, getBody?⟩ := blocks
        obtain ⟨kind, lacking⟩ := isGet
        obtain rfl : getBody? = none := by simpa using lacking
        refine Sound.of_suffix others ?_ (List.suffix_cons first others)
        refine (sound_readBlock finish others).bind fun body middle shorter derives => ?_
        refine (sound_readAccessorBlocks finish _ middle).bind fun blocks rest _ adds => ?_
        exact Sound.value (.getBlock kind derives adds) (List.suffix_refl _)
      case isFalse => exact Sound.fault _
termination_by tokens.length
decreasing_by all_goals (simp only [List.length_cons]; omega)

theorem sound_readAccessor
    (finish : Token) (type : Ty) (name : Token) (position : Position) (tokens : List Token) :
    Sound tokens
      (fun member rest => ∀ start, DerivesType start type (name :: tokens) →
        name.kind = .identifier → position = placeOf start → DerivesMember start member rest)
      (readAccessor finish type name position tokens) := by
  refine (sound_readParameters finish tokens).bind fun parameters middle _ derives => ?_
  refine (sound_expect finish _ _ middle).bind ?_
  rintro opening inner _ ⟨middleShape, isOpening⟩
  refine (sound_readAccessorBlocks finish _ inner).bind fun blocks closed _ adds => ?_
  refine (sound_expect finish _ _ closed).bind ?_
  rintro closing rest _ ⟨closedShape, isClosing⟩
  subst middleShape closedShape
  obtain ⟨setBody?, getBody?⟩ := blocks
  match setBody?, getBody? with
  | none, _ => exact Sound.fault _
  | some _, none => exact Sound.fault _
  | some setBody, some getBody =>
      refine Sound.value (fun start derivesType isName place => ?_) (List.suffix_refl _)
      subst place
      exact .accessor derivesType isName derives isOpening adds.derives isClosing

theorem sound_readStructMember
    (finish : Token) (tokens : List Token) :
    Sound tokens (DerivesMember tokens) (readMember finish tokens) := by
  simp only [readMember]
  split
  case isFalse => exact Sound.refuse _ _
  refine (sound_readType finish tokens).bind fun type middle _ derivesType => ?_
  refine (sound_expect finish _ _ middle).bind ?_
  rintro name others _ ⟨middleShape, isName⟩
  subst middleShape
  dsimp only
  split
  · refine (sound_readAccessor finish type name _ others).bind fun member rest _ derives => ?_
    exact Sound.value (derives _ derivesType isName (derivesType.next_position finish))
      (List.suffix_refl _)
  · refine (sound_readNamesAfter finish _ name others).bind fun names rest _ derives => ?_
    obtain ⟨semicolon, derivesNames, isSemicolon⟩ := derives _ ⟨rfl, isName⟩
    rw [derivesType.next_position finish]
    exact Sound.value (.fields (.ofNames derivesType derivesNames isSemicolon))
      (List.suffix_refl _)

theorem sound_readStructMembers
    (finish : Token) (tokens : List Token) :
    Sound tokens (DerivesMembers tokens) (readMembers finish tokens) := by
  rw [readMembers_eq]
  exact sound_upToBrace .none .more (sound_readStructMember finish tokens)
    fun rest _ => sound_readStructMembers finish rest
termination_by tokens.length

theorem sound_readStruct
    (finish word : Token) (isWord : word.kind = .structWord) (tokens : List Token) :
    Sound tokens (DerivesStruct (word :: tokens)) (readStruct finish word.position tokens) := by
  refine (sound_expect finish _ _ tokens).bind ?_
  rintro name others _ ⟨shape, isName⟩
  refine (sound_expect finish _ _ others).bind ?_
  rintro opening inner _ ⟨othersShape, isOpening⟩
  refine (sound_readStructMembers finish inner).bind fun members closed _ derives => ?_
  refine (sound_expect finish _ _ closed).bind ?_
  rintro closing rest _ ⟨closedShape, isClosing⟩
  subst shape othersShape closedShape
  exact Sound.value (.struct isWord isName isOpening derives isClosing) (List.suffix_refl _)

theorem sound_readFunction
    (finish word : Token) (isWord : word.kind = .funcWord) (tokens : List Token) :
    Sound tokens (DerivesFunction (word :: tokens))
      (readFunction finish word.position tokens) := by
  refine (sound_expect finish _ _ tokens).bind ?_
  rintro name others _ ⟨shape, isName⟩
  refine (sound_readParameters finish others).bind
    fun parameters middle _ derivesParameters => ?_
  refine (sound_readType finish middle).bind fun result opened _ derivesResult => ?_
  refine (sound_readBlock finish opened).bind fun body rest _ derivesBody => ?_
  subst shape
  exact Sound.value (.function isWord isName derivesParameters derivesResult derivesBody)
    (List.suffix_refl _)

theorem sound_readMain
    (finish : Token) (position : Position) (tokens : List Token) :
    Sound tokens
      (fun declaration rest => declaration.position = position ∧
        DerivesBlock tokens declaration.body rest)
      (readMain finish position tokens) := by
  refine (sound_readBlock finish tokens).bind fun body rest _ derives => ?_
  exact Sound.value ⟨rfl, derives⟩ (List.suffix_refl _)

/-- The tokens, up to their end, are what a program still lacks of another one. -/
inductive Completes : Program → List Token → Program → Prop
  | nothing {program : Program} :
      Completes program [] program
  | struct {program final : Program} {tokens middle : List Token} {declaration : StructDecl} :
      DerivesStruct tokens declaration middle →
      program.main? = none →
      Completes { program with structs := program.structs ++ [declaration] } middle final →
      Completes program tokens final
  | function {program final : Program} {tokens middle : List Token}
      {declaration : FunctionDecl} :
      DerivesFunction tokens declaration middle →
      program.main? = none →
      Completes { program with functions := program.functions ++ [declaration] } middle final →
      Completes program tokens final
  | main {program final : Program} {word : Token} {tokens middle : List Token} {body : Stmt} :
      word.kind = .mainWord →
      DerivesBlock tokens body middle →
      program.main? = none →
      Completes { program with main? := some ⟨body, word.position⟩ } middle final →
      Completes program (word :: tokens) final

/-- Whatever completes a program that lacks a main body adds one after its declarations. -/
theorem Completes.derives
    {program final : Program} {tokens : List Token}
    (completes : Completes program tokens final)
    (unfinished : program.main? = none) (hasMain : final.main? ≠ none) :
    ∃ structs functions word middle body,
      DerivesDeclarations tokens structs functions (word :: middle) ∧
        word.kind = .mainWord ∧ DerivesBlock middle body [] ∧
        final = ⟨program.structs ++ structs, program.functions ++ functions,
          some ⟨body, word.position⟩, program.position⟩ := by
  induction completes with
  | nothing => exact absurd unfinished hasMain
  | struct derivesStruct _ _ inductionHypothesis =>
      obtain ⟨structs, functions, word, middle, body, derives, isMain, derivesBody, shape⟩ :=
        inductionHypothesis unfinished hasMain
      refine ⟨_, functions, word, middle, body, .struct derivesStruct derives, isMain,
        derivesBody, ?_⟩
      simpa using shape
  | function derivesFunction _ _ inductionHypothesis =>
      obtain ⟨structs, functions, word, middle, body, derives, isMain, derivesBody, shape⟩ :=
        inductionHypothesis unfinished hasMain
      refine ⟨structs, _, word, middle, body, .function derivesFunction derives, isMain,
        derivesBody, ?_⟩
      simpa using shape
  | main isMain derivesBody _ completes _ =>
      -- Every declaration asks for a program without main body, so this one is the last.
      cases completes with
      | nothing => exact ⟨[], [], _, _, _, .none, isMain, derivesBody, by simp⟩
      | struct _ lacking => cases lacking
      | function _ lacking => cases lacking
      | main _ _ lacking => cases lacking

/-- A result is sound for tokens that must be read to their end. -/
def SoundToEnd (tokens : List Token) (means : Program → Prop) :
    Except ReadFailure Program → Prop
  | .ok program => means program
  | .error failure => failure.FitsTokens tokens

theorem SoundToEnd.after
    {alpha : Type} {bound : Nat} {tokens rest : List Token} {means : Program → Prop}
    {meansFirst : alpha → List Token → Prop} {first : Reading alpha bound}
    {next : Parsed alpha bound → Except ReadFailure Program}
    (sound : Sound rest meansFirst first) (suffix : rest <:+ tokens)
    (soundNext : ∀ found others shorter, meansFirst found others →
      SoundToEnd others means (next ⟨found, others, shorter⟩)) :
    SoundToEnd tokens means (first >>= next) := by
  cases first with
  | error failure => exact ReadFailure.FitsTokens.of_suffix sound suffix
  | ok parsed =>
      have soundRest : SoundToEnd parsed.rest means (next parsed) :=
        soundNext parsed.value parsed.rest parsed.rest_lt sound.1
      simp only [bind, Except.bind]
      cases result : next parsed with
      | ok program =>
          rw [result] at soundRest
          exact soundRest
      | error failure =>
          rw [result] at soundRest
          exact ReadFailure.FitsTokens.of_suffix soundRest (sound.2.trans suffix)

theorem sound_readDeclarations
    (finish : Token) (program : Program) (tokens : List Token) :
    SoundToEnd tokens (Completes program tokens)
      (Program.readDeclarations finish program tokens) := by
  rw [Program.readDeclarations.eq_def]
  cases tokens with
  | nil => exact Completes.nothing
  | cons first others =>
      dsimp only
      split
      case isTrue => exact Or.inl ⟨_, rfl⟩
      case isFalse notComplete =>
        have lacking : program.main? = none := by simpa using notComplete
        split
        case h_1 kind =>
          refine SoundToEnd.after (sound_readStruct finish first kind others)
            (List.suffix_cons _ _) fun declaration rest shorter derives => ?_
          have completes := sound_readDeclarations finish
            { program with structs := program.structs ++ [declaration] } rest
          revert completes
          cases Program.readDeclarations finish _ rest with
          | ok final => exact fun completes => .struct derives lacking completes
          | error failure => exact id
        case h_2 kind =>
          refine SoundToEnd.after (sound_readFunction finish first kind others)
            (List.suffix_cons _ _) fun declaration rest shorter derives => ?_
          have completes := sound_readDeclarations finish
            { program with functions := program.functions ++ [declaration] } rest
          revert completes
          cases Program.readDeclarations finish _ rest with
          | ok final => exact fun completes => .function derives lacking completes
          | error failure => exact id
        case h_3 kind =>
          refine SoundToEnd.after (sound_readMain finish first.position others)
            (List.suffix_cons _ _) ?_
          rintro ⟨body, position⟩ rest shorter ⟨place, derives⟩
          obtain rfl : position = first.position := place
          have completes := sound_readDeclarations finish
            { program with main? := some ⟨body, first.position⟩ } rest
          revert completes
          cases Program.readDeclarations finish _ rest with
          | ok final => exact fun completes => .main kind derives lacking completes
          | error failure => exact id
        case h_4 => exact Or.inl ⟨_, rfl⟩
termination_by tokens.length
decreasing_by all_goals (simp only [List.length_cons]; omega)

theorem DerivesDeclarations.next_position
    {tokens middle : List Token} {word : Token} {structs : List StructDecl}
    {functions : List FunctionDecl}
    (derives : DerivesDeclarations tokens structs functions (word :: middle))
    (finish : Token) :
    (next finish tokens).position = placeOf tokens := by
  cases derives with
  | none => rfl
  | struct derivesStruct =>
      cases derivesStruct
      rfl
  | function derivesFunction =>
      cases derivesFunction
      rfl

theorem sound_read
    (finish : Token) (tokens : List Token) :
    SoundToEnd tokens (DerivesProgram tokens) (Program.read finish tokens) := by
  have sound := sound_readDeclarations finish ⟨[], [], none, (next finish tokens).position⟩
    tokens
  simp only [Program.read]
  revert sound
  cases Program.readDeclarations finish _ tokens with
  | error failure => exact id
  | ok program =>
      intro completes
      simp only [bind, Except.bind]
      split
      case isTrue => exact Or.inl ⟨_, rfl⟩
      case isFalse hasMain =>
        obtain ⟨structs, functions, word, middle, body, derives, isMain, derivesBody, rfl⟩ :=
          Completes.derives completes rfl (by simpa using hasMain)
        simp only [List.nil_append, derives.next_position finish]
        exact DerivesProgram.program derives isMain derivesBody

/-! ## Derivations of members are read -/

theorem yields_readAccessorBlocks
    (finish : Token) {tokens rest : List Token} {closing : Token} {setBody getBody : Stmt}
    (derives : DerivesAccessorBlocks tokens setBody getBody (closing :: rest))
    (isClosing : closing.kind = .rightBrace) :
    Yields (readAccessorBlocks finish ⟨none, none⟩ tokens) ⟨some setBody, some getBody⟩
      (closing :: rest) := by
  have stops (blocks : AccessorBlocks) :
      Yields (readAccessorBlocks finish blocks (closing :: rest)) blocks (closing :: rest) := by
    rw [readAccessorBlocks.eq_def]
    simp only [isClosing, if_true]
    rfl
  obtain ⟨_, stopsEquality⟩ := (stops ⟨some setBody, some getBody⟩).exists_eq
  cases derives with
  | setFirst isSet derivesSet isGet derivesGet =>
      obtain ⟨_, setEquality⟩ := (yields_readBlock finish derivesSet).exists_eq
      obtain ⟨_, getEquality⟩ := (yields_readBlock finish derivesGet).exists_eq
      rw [readAccessorBlocks.eq_def]
      simp only [isSet, bind, Except.bind, setEquality]
      rw [readAccessorBlocks.eq_def]
      simp only [isGet, bind, Except.bind, getEquality, stopsEquality]
      rfl
  | getFirst isGet derivesGet isSet derivesSet =>
      obtain ⟨_, setEquality⟩ := (yields_readBlock finish derivesSet).exists_eq
      obtain ⟨_, getEquality⟩ := (yields_readBlock finish derivesGet).exists_eq
      rw [readAccessorBlocks.eq_def]
      simp only [isGet, reduceCtorEq, if_false, false_and, bind, Except.bind, getEquality]
      rw [readAccessorBlocks.eq_def]
      simp only [isSet, reduceCtorEq, if_false, bind, Except.bind, setEquality, stopsEquality]
      rfl

theorem yields_readAccessor
    (finish : Token) {tokens inner rest : List Token} {opening closing : Token}
    {parameters : List VariableDecl} {setBody getBody : Stmt} (type : Ty) (name : Token)
    (position : Position)
    (derivesParameters : DerivesParameters tokens parameters (opening :: inner))
    (isOpening : opening.kind = .leftBrace)
    (derivesBlocks : DerivesAccessorBlocks inner setBody getBody (closing :: rest))
    (isClosing : closing.kind = .rightBrace) :
    Yields (readAccessor finish type name position tokens)
      (.accessor name.text type parameters ⟨name.text, type, name.position⟩ setBody getBody
        position) rest := by
  obtain ⟨_, parametersEquality⟩ := (yields_readParameters finish derivesParameters).exists_eq
  obtain ⟨_, blocksEquality⟩ :=
    (yields_readAccessorBlocks finish derivesBlocks isClosing).exists_eq
  simp only [readAccessor, bind, Except.bind, parametersEquality, expectMark,
    expect_cons _ _ _ isOpening, blocksEquality, expect_cons _ _ _ isClosing]
  rfl

theorem DerivesType.startsType
    {tokens rest : List Token} {type : Ty}
    (derives : DerivesType tokens type rest) (finish : Token) :
    (next finish tokens).kind.startsType = true := by
  cases derives with
  | int kind | bool kind | void kind | struct kind | list kind | fptr kind =>
      simp [next, kind, TokenKind.startsType, TokenKind.isTypeWord]

theorem DerivesParameters.starts
    {tokens rest : List Token} {parameters : List VariableDecl}
    (derives : DerivesParameters tokens parameters rest) :
    startsWith .leftParen tokens = true := by
  cases derives with
  | none isOpening => simp [startsWith, isOpening]
  | some isOpening => simp [startsWith, isOpening]

theorem not_leftParen_after_name
    {name semicolon : Token} {tokens rest names : List Token}
    (derives : DerivesSeries DerivesName (name :: tokens) names (semicolon :: rest))
    (isSemicolon : semicolon.kind = .semicolon) :
    startsWith .leftParen tokens = false := by
  cases derives with
  | last isName =>
      obtain ⟨rfl, rfl⟩ := List.cons.inj isName.1
      exact startsWith_cons _ isSemicolon (by decide)
  | more isName isComma _ =>
      obtain ⟨rfl, rfl⟩ := List.cons.inj isName.1
      exact startsWith_cons _ isComma (by decide)

theorem yields_readStructMember
    (finish : Token) {tokens rest : List Token} {member : Stmt}
    (derives : DerivesMember tokens member rest) :
    Yields (readMember finish tokens) member rest := by
  cases derives with
  | fields derives => cases derives with
    | ofNames derivesType derivesNames isSemicolon =>
      obtain ⟨head, tail, middle, rfl, rfl, isHead, yields⟩ :=
        yields_names finish .field derivesNames (startsWith_cons _ isSemicolon (by decide))
      obtain ⟨_, typeEquality⟩ := (yields_readType finish derivesType).exists_eq
      obtain ⟨_, namesEquality⟩ :=
        (yields_readNamesAfter finish .field head yields isSemicolon).exists_eq
      have noParameters : startsWith .leftParen middle = false :=
        not_leftParen_after_name derivesNames isSemicolon
      simp only [readMember, derivesType.startsType finish, bind, Except.bind, typeEquality,
        expectName, expect_cons _ _ _ isHead, noParameters, namesEquality,
        derivesType.next_position finish]
      rfl
  | @accessor name _ _ _ _ _ _ type _ _ _ derivesType isName derivesParameters isOpening
      derivesBlocks isClosing =>
      obtain ⟨_, typeEquality⟩ := (yields_readType finish derivesType).exists_eq
      obtain ⟨_, equality⟩ :=
        (yields_readAccessor finish type name (placeOf tokens)
          derivesParameters isOpening derivesBlocks isClosing).exists_eq
      simp only [readMember, derivesType.startsType finish, if_true, bind, Except.bind,
        typeEquality, expectName, expect_cons _ _ _ isName, derivesParameters.starts, equality,
        derivesType.next_position finish]
      rfl

theorem DerivesMember.starts
    {tokens rest : List Token} {member : Stmt}
    (derives : DerivesMember tokens member rest) :
    ∃ first others, tokens = first :: others ∧ first.kind ≠ .rightBrace := by
  have ofType {type : Ty} {middle : List Token} (derives : DerivesType tokens type middle) :
      ∃ first others, tokens = first :: others ∧ first.kind ≠ .rightBrace := by
    cases derives with
    | int kind | bool kind | void kind | struct kind | list kind | fptr kind =>
        exact ⟨_, _, rfl, by rw [kind]; decide⟩
  cases derives with
  | fields derives => cases derives with
    | ofNames derivesType => exact ofType derivesType
  | accessor derivesType => exact ofType derivesType

theorem yields_readStructMembers
    (finish : Token) {tokens closed rest : List Token} {closing : Token}
    {members : List Stmt}
    (derives : DerivesMembers tokens members closed) (shape : closed = closing :: rest)
    (isClosing : closing.kind = .rightBrace) :
    Yields (readMembers finish tokens) members (closing :: rest) := by
  induction derives with
  | none =>
      rw [readMembers_eq, shape]
      exact yields_upToBrace_nil rest isClosing
  | more derivesHead _ inductionHypothesis =>
      obtain ⟨first, others, rfl, notClosing⟩ := derivesHead.starts
      rw [readMembers_eq]
      exact yields_upToBrace_cons notClosing (yields_readStructMember finish derivesHead)
        (inductionHypothesis shape)

/-! ## Derivations of programs are read -/

theorem yields_readStruct
    (finish : Token) {tokens rest : List Token} {declaration : StructDecl}
    (derives : DerivesStruct tokens declaration rest) :
    ∃ word others, tokens = word :: others ∧ word.kind = .structWord ∧
      Yields (readStruct finish word.position others) declaration rest := by
  cases derives with
  | struct isWord isName isOpening derives isClosing =>
      refine ⟨_, _, rfl, isWord, ?_⟩
      obtain ⟨_, equality⟩ := (yields_readStructMembers finish derives rfl isClosing).exists_eq
      simp only [readStruct, bind, Except.bind, expectName, expect_cons _ _ _ isName,
        expectMark, expect_cons _ _ _ isOpening, equality, expect_cons _ _ _ isClosing]
      rfl

theorem yields_readFunction
    (finish : Token) {tokens rest : List Token} {declaration : FunctionDecl}
    (derives : DerivesFunction tokens declaration rest) :
    ∃ word others, tokens = word :: others ∧ word.kind = .funcWord ∧
      Yields (readFunction finish word.position others) declaration rest := by
  cases derives with
  | function isWord isName derivesParameters derivesResult derivesBody =>
      refine ⟨_, _, rfl, isWord, ?_⟩
      obtain ⟨_, parametersEquality⟩ :=
        (yields_readParameters finish derivesParameters).exists_eq
      obtain ⟨_, resultEquality⟩ := (yields_readType finish derivesResult).exists_eq
      obtain ⟨_, bodyEquality⟩ := (yields_readBlock finish derivesBody).exists_eq
      simp only [readFunction, bind, Except.bind, expectName, expect_cons _ _ _ isName,
        parametersEquality, resultEquality, bodyEquality]
      rfl

theorem yields_readMain
    (finish : Token) (position : Position) {tokens rest : List Token} {body : Stmt}
    (derives : DerivesBlock tokens body rest) :
    Yields (readMain finish position tokens) ⟨body, position⟩ rest := by
  obtain ⟨_, equality⟩ := (yields_readBlock finish derives).exists_eq
  simp only [readMain, bind, Except.bind, equality]
  rfl

/-- Declarations are added to a program in the order in which they stand. -/
theorem readDeclarations_of_derives
    (finish : Token) {tokens rest : List Token} {structs : List StructDecl}
    {functions : List FunctionDecl}
    (derives : DerivesDeclarations tokens structs functions rest)
    (program : Program) (unfinished : program.main? = none) :
    Program.readDeclarations finish program tokens =
      Program.readDeclarations finish
        { program with
          structs := program.structs ++ structs
          functions := program.functions ++ functions } rest := by
  induction derives generalizing program with
  | none => simp
  | struct derivesStruct _ inductionHypothesis =>
      obtain ⟨word, others, rfl, isWord, yields⟩ := yields_readStruct finish derivesStruct
      obtain ⟨_, equality⟩ := yields.exists_eq
      rw [Program.readDeclarations.eq_def]
      simp only [unfinished, Option.isSome_none, Bool.false_eq_true, if_false, isWord, bind,
        Except.bind, equality]
      rw [inductionHypothesis _ rfl]
      simp
  | function derivesFunction _ inductionHypothesis =>
      obtain ⟨word, others, rfl, isWord, yields⟩ := yields_readFunction finish derivesFunction
      obtain ⟨_, equality⟩ := yields.exists_eq
      rw [Program.readDeclarations.eq_def]
      simp only [unfinished, Option.isSome_none, Bool.false_eq_true, if_false, isWord, bind,
        Except.bind, equality]
      rw [inductionHypothesis _ rfl]
      simp

theorem read_of_derivesProgram
    (finish : Token) {tokens : List Token} {program : Program}
    (derives : DerivesProgram tokens program) :
    Program.read finish tokens = .ok program := by
  cases derives with
  | @program word _ _ _ _ _ derives isMain derivesBody =>
      obtain ⟨_, equality⟩ := (yields_readMain finish word.position derivesBody).exists_eq
      rw [Program.read, readDeclarations_of_derives finish derives _ rfl,
        Program.readDeclarations.eq_def]
      simp only [Option.isSome_none, Bool.false_eq_true, if_false, isMain, bind, Except.bind,
        equality, derives.next_position finish, pure, Except.pure]
      rw [Program.readDeclarations.eq_def]
      rfl

/-! ## The reader accepts the grammar -/

/-- Tokens that follow the first one that marks the end of the text are not looked at. -/
theorem ofTokens_append_cons
    {tokens further : List Token} {finish : Token}
    (noFinish : ∀ token ∈ tokens, token.kind ≠ .finish) (isFinish : finish.kind = .finish) :
    Program.ofTokens (tokens ++ finish :: further) = Program.read finish tokens := by
  have dropped : (tokens ++ finish :: further).dropWhile (·.kind != .finish) =
      finish :: further := by
    rw [List.dropWhile_append_of_pos fun token member => by simpa using noFinish token member]
    simp [isFinish]
  have taken : (tokens ++ finish :: further).takeWhile (·.kind != .finish) = tokens := by
    rw [List.takeWhile_append_of_pos fun token member => by simpa using noFinish token member]
    simp [isFinish]
  simp only [Program.ofTokens, dropped, taken]

/-- Tokens of which only the last one marks the end of the text. -/
theorem ofTokens_append_finish
    {tokens : List Token} {finish : Token}
    (noFinish : ∀ token ∈ tokens, token.kind ≠ .finish) (isFinish : finish.kind = .finish) :
    Program.ofTokens (tokens ++ [finish]) = Program.read finish tokens :=
  ofTokens_append_cons noFinish isFinish

/-- Tokens that end with the mark of the end, and whose integers have values, are read as a
program exactly if they derive it. All others are refused with a fault of the grammar. -/
theorem ofTokens_iff_derivesProgram
    (tokens : List Token) (finish : Token)
    (isFinish : finish.kind = .finish)
    (noFinish : ∀ token ∈ tokens, token.kind ≠ .finish)
    (integersHaveValues : ∀ token ∈ tokens, token.kind = .integer →
      ∃ value, Text.readNumeral token.text = .ok value) :
    (∀ program, Program.ofTokens (tokens ++ [finish]) = .ok program ↔
      DerivesProgram tokens program) ∧
      ((¬ ∃ program, DerivesProgram tokens program) →
        ∃ fault, Program.ofTokens (tokens ++ [finish]) = .error (.grammar fault)) := by
  rw [ofTokens_append_finish noFinish isFinish]
  have sound := sound_read finish tokens
  refine ⟨fun program => ⟨fun accepted => ?_, read_of_derivesProgram finish⟩,
    fun derivesNothing => ?_⟩
  · rw [accepted] at sound
    exact sound
  · cases result : Program.read finish tokens with
    | ok program =>
        rw [result] at sound
        exact absurd ⟨program, sound⟩ derivesNothing
    | error failure =>
        rw [result] at sound
        rcases sound with ⟨fault, rfl⟩ | ⟨token, member, isInteger, fault, lacking⟩
        · exact ⟨fault, rfl⟩
        · obtain ⟨value, hasValue⟩ := integersHaveValues token member isInteger
          rw [lacking] at hasValue
          cases hasValue

/-- The tokens of a main body that displays a sum of an integer and a product. -/
def displayedSum : List Token :=
  [⟨.mainWord, "main", ⟨1, 1⟩⟩, ⟨.leftBrace, "\x7b", ⟨1, 6⟩⟩,
    ⟨.displayWord, "display", ⟨1, 8⟩⟩, ⟨.leftParen, "(", ⟨1, 15⟩⟩,
    ⟨.integer, "1", ⟨1, 16⟩⟩, ⟨.plus, "+", ⟨1, 18⟩⟩, ⟨.identifier, "n", ⟨1, 20⟩⟩,
    ⟨.star, "*", ⟨1, 22⟩⟩, ⟨.identifier, "m", ⟨1, 24⟩⟩, ⟨.rightParen, ")", ⟨1, 25⟩⟩,
    ⟨.semicolon, ";", ⟨1, 26⟩⟩, ⟨.rightBrace, "\x7d", ⟨1, 28⟩⟩]

theorem ofTokens_displayedSum :
    Program.ofTokens (displayedSum ++ [⟨.finish, "", ⟨1, 29⟩⟩]) =
      .ok ⟨[], [], some ⟨.block [.display
        (.binary (.integer 1 ⟨1, 16⟩) (.binary .add)
          (.binary (.name "n" ⟨1, 20⟩) (.binary .multiply) (.name "m" ⟨1, 24⟩) ⟨1, 20⟩)
          ⟨1, 16⟩) ⟨1, 8⟩] ⟨1, 6⟩, ⟨1, 1⟩⟩, ⟨1, 1⟩⟩ := by
  refine ((ofTokens_iff_derivesProgram displayedSum _ rfl (by decide) ?_).1 _).mpr ?_
  · intro token member isInteger
    have isOne : token.text = "1" := by
      revert token
      decide
    exact ⟨1, isOne ▸ rfl⟩
  · have one : DerivesExpr (.level .sum) (displayedSum.drop 4) (.integer 1 ⟨1, 16⟩)
        (displayedSum.drop 5) :=
      .operand (.operand (.unsigned (.primary (.integer rfl rfl))))
    have product : DerivesExpr (.level .product) (displayedSum.drop 6)
        (.binary (.name "n" ⟨1, 20⟩) (.binary .multiply) (.name "m" ⟨1, 24⟩) ⟨1, 20⟩)
        (displayedSum.drop 9) :=
      .operation (.operand (.unsigned (.primary (.name rfl)))) rfl
        (.unsigned (.primary (.name rfl)))
    have sum := DerivesExpr.operation one rfl product
    exact .program .none rfl (.block rfl (.more (.display rfl (.condition rfl
      (.operand (.operand (.operand (.operand sum)))) rfl) rfl) .none) rfl)

end StructLang.Grammar
