import StructLang.Proofs.Document.Reach
import StructLang.Proofs.FromSource

/-!
# Nested outlines

The ranges of an outline come from two sources: they start at the places of tokens, and what has
braces ends where a search over the raw lines finds a closing brace. The search starts with the
line on which something starts and knows no comments. So it is misled by braces in comments and by
braces in front of the declaration on its first line. Where all braces are tokens and declarations
are laid out on lines so that the search is not misled, each name lies in the range of its item and
all members of a struct in the range of the struct.

- `Program.outline_nests` : the outline of a program.
- `commented_brace_not_nested` : the outline of a struct with a closing brace in a comment.
-/

namespace StructLang

open Text

/-! ## What is nested -/

/-- An entry of an outline and those below it. -/
def OutlineEntry.items (entry : OutlineEntry) : List OutlineItem :=
  entry.item :: entry.below?.getD []

/-- No item of an entry ends before it starts. -/
def OutlineEntry.IsOrdered (entry : OutlineEntry) : Prop :=
  ∀ item ∈ entry.items, item.range.start ≤ item.range.finish

/-- No item of an entry ends before it starts, the name of each lies inside its range, and those
below the entry lie inside the range of the entry. -/
structure OutlineEntry.IsNested (entry : OutlineEntry) : Prop where
  ordered : entry.IsOrdered
  selections : ∀ item ∈ entry.items, item.selection.Within item.range
  below : ∀ item ∈ entry.below?.getD [], item.range.Within entry.item.range

/-! ## How declarations are laid out -/

/-- The characters before a position on its line. -/
def Position.lineFront (source : String) (position : Position) : List Char :=
  (((lines source)[(position.line - 1).toNat]?).map fun line =>
    line.toList.take (position.column - 1).toNat).getD []

/-- Before an accessor no brace is closed on its line, or none that was not opened there, and then
its name is on that line. -/
def Stmt.IsLaidOut (source : String) : Stmt → Prop
  | .accessor _ _ _ field _ _ position =>
      closings (position.lineFront source) = 0 ∨
        Covered (position.lineFront source) ∧ field.position.line = position.line
  | _ => True

/-- The fields that a member declares, or an accessor and its name, are on a line. -/
def Stmt.StartsOn (line : Int) : Stmt → Prop
  | .declare fields _ => ∀ field ∈ fields, field.position.line = line
  | .accessor _ _ _ field _ _ position => position.line = line ∧ field.position.line = line
  | _ => True

/-- Before a struct no brace is closed on its line, and its members are laid out, or it is on one
line up to its last member. -/
inductive StructDecl.IsLaidOut (source : String) (declaration : StructDecl) : Prop
  | inLines :
      closings (declaration.position.lineFront source) = 0 →
      (∀ member ∈ declaration.members, member.IsLaidOut source) →
      IsLaidOut source declaration
  | onOneLine :
      declaration.bodyPosition.line = declaration.position.line →
      (∀ member ∈ declaration.members, member.StartsOn declaration.position.line) →
      IsLaidOut source declaration

/-- Before a function no brace is closed on its line, or it is on one line up to its body. -/
def FunctionDecl.IsLaidOut (source : String) (declaration : FunctionDecl) : Prop :=
  closings (declaration.position.lineFront source) = 0 ∨
    declaration.body.position.line = declaration.position.line

namespace Outline

variable {source : String} {start opening : Position} {before piece after : List Char}
  {member : Stmt} {last : Int}

/-! ## Order -/

theorem rangeTo_ordered
    (isIn : start.IsIn source) (notBefore : start.line - 1 ≤ last) :
    (rangeTo (lines source) start last).start ≤ (rangeTo (lines source) start last).finish := by
  rcases Int.lt_or_eq_of_le notBefore with isBefore | rfl
  · exact Or.inl isBefore
  · refine Or.inr ⟨rfl, ?_⟩
    have isBelow : (start.line - 1).toNat < (lines source).length := by
      have linePos := isIn.line_pos
      have lineLe := isIn.line_le
      omega
    have isLine := List.getElem?_eq_getElem isBelow
    have notBack : ¬ start.line - 1 < 0 := Int.not_lt.mpr (Int.sub_nonneg.mpr isIn.line_pos)
    have columnLe := isIn.column_le _ isLine
    change start.column - 1 ≤ lineLength (lines source) (start.line - 1)
    rw [lineLength, if_neg notBack, isLine]
    exact Int.sub_right_le_of_le_add columnLe

theorem isCounted_of_isIn (isIn : start.IsIn source) : start.IsCounted :=
  ⟨isIn.line_pos, isIn.column_pos⟩

theorem memberItems_ordered
    {address : Address} (areIn : ∀ node ∈ member.nodes address, node.position.IsIn source) :
    ∀ item ∈ memberItems (lines source) member, item.range.start ≤ item.range.finish := by
  cases member with
  | declare fields =>
      have ofFields := forall_of_nodesOf (List.forall_mem_cons.mp areIn).2
      intro item isItem
      obtain ⟨field, isField, rfl⟩ := List.mem_map.mp isItem
      exact rangeTo_ordered (ofFields field isField) (Int.le_refl _)
  | accessor =>
      have isIn := (List.forall_mem_cons.mp areIn).1
      exact List.forall_mem_singleton.mpr
        (rangeTo_ordered isIn (lastLine_ge _ (isCounted_of_isIn isIn)))
  | _ => exact List.forall_mem_nil _

theorem structEntry_ordered
    {declaration : StructDecl} (stands : declaration.StandsWithin (Position.IsIn source)) :
    (structEntry (lines source) declaration).IsOrdered := by
  obtain ⟨isIn, others⟩ := List.forall_mem_cons.mp (stands [])
  have ofMembers := forall_nodes_of_nodesOf (List.forall_mem_cons.mp others).2
  refine List.forall_mem_cons.mpr
    ⟨rangeTo_ordered isIn (lastLine_ge _ (isCounted_of_isIn isIn)), fun item isItem => ?_⟩
  obtain ⟨member, isMember, isItemOf⟩ := List.mem_flatMap.mp isItem
  obtain ⟨address, areIn⟩ := ofMembers member isMember
  exact memberItems_ordered areIn item isItemOf

/-! ## Members -/

/-- Nothing of a member is shown behind a line, nor is the name of an accessor shown behind the
last line of the accessor. -/
def ReachesTo (source : String) (last : Int) : Stmt → Prop
  | .declare fields _ => ∀ field ∈ fields, field.position.line - 1 ≤ last
  | .accessor _ _ _ field _ _ position =>
      field.position.line - 1 ≤ lastLine (lines source) position ∧
        lastLine (lines source) position ≤ last
  | _ => True

theorem memberItems_within
    (isMember : MemberIn before piece member) (isText : source.toList = before ++ (piece ++ after))
    (notBefore : startOf start ≤ startOf (.behind before))
    (reaches : ReachesTo source last member) :
    ∀ item ∈ memberItems (lines source) member, item.selection.Within item.range ∧
      item.range.Within (rangeTo (lines source) start last) := by
  cases isMember with
  | fields areNames =>
      intro item isItem
      obtain ⟨field, isField, rfl⟩ := List.mem_map.mp isItem
      have holds := areNames field isField
      exact ⟨rangeOver_within (DocumentPlace.le_refl _) (Int.le_refl _) fun _ => holds.fits isText,
        rangeTo_within (DocumentPlace.le_trans notBefore holds.startOf_le)
          (reaches field isField)⟩
  | @accessor head inner _ _ _ field _ _ freeHead isInner holds =>
      refine List.forall_mem_singleton.mpr ⟨?_, rangeTo_within notBefore reaches.2⟩
      refine rangeOver_within holds.startOf_le reaches.1 fun isLast => ?_
      have isHeadText : source.toList =
          before ++ (head ++ ('\x7b' :: (inner ++ ['\x7d']) ++ after)) := by
        rw [isText]
        simp
      rw [← isLast]
      exact holds.fits isHeadText

/-- Members on the first line of a struct. -/
theorem reachesTo_of_startsOn
    (isCounted : start.IsCounted) (startsOn : member.StartsOn start.line) :
    ReachesTo source (lastLine (lines source) start) member := by
  have notBefore := lastLine_ge (lines source) isCounted
  cases member with
  | declare fields =>
      intro field isField
      rw [startsOn field isField]
      exact notBefore
  | accessor name type parameters field setBody getBody position =>
      obtain ⟨isFirst, isName⟩ := startsOn
      have sameLast : lastLine (lines source) position = lastLine (lines source) start := by
        rw [lastLine, lastLine, isFirst]
      rw [ReachesTo, isName, sameLast]
      exact ⟨notBefore, Int.le_refl _⟩
  | _ => trivial

theorem lineFront_behind
    (isText : source.toList = before ++ after) :
    (Position.behind before).lineFront source = lineFront before := by
  have reached := lines_getElem?_count before after
  rw [← isText, String.ofList_toList] at reached
  have isColumn : ((Position.behind before).column - 1).toNat = (lineFront before).length := by
    simp only [Position.behind, lineFront, List.length_reverse]
    omega
  rw [Position.lineFront, line_behind, Int.toNat_natCast, reached, isColumn]
  simp only [Option.map_some, Option.getD_some, String.toList_ofList]
  exact List.take_left

/-- Members that are laid out behind the opening brace of a struct. -/
theorem reachesTo_of_isLaidOut
    (isMember : MemberIn before piece member) {back : List Char}
    (isText : source.toList = before ++ (piece ++ (back ++ '\x7d' :: after)))
    (isCovered : Covered before) (isOpen : openings before = closings before + 1)
    (isBack : Balanced back) (isLaidOut : member.IsLaidOut source) :
    ReachesTo source ((before ++ piece ++ back).count '\n' : Nat) member := by
  cases isMember with
  | fields areNames =>
      intro field isField
      refine Int.le_trans (areNames field isField).line_le (Int.ofNat_le.mpr ?_)
      exact (List.sublist_append_left _ back).count_le _
  | @accessor head inner _ _ _ field _ _ freeHead isInner holds =>
      change closings _ = 0 ∨ Covered _ ∧ _ at isLaidOut
      rw [lineFront_behind isText] at isLaidOut
      have coveredFront : Covered (lineFront before) := by
        rcases isLaidOut with noClosing | ⟨isCoveredFront, -⟩
        · intro front back shape
          rw [shape, closings_append] at noClosing
          omega
        · exact isCoveredFront
      rcases lastLine_of_laidOut isText isCovered isOpen coveredFront freeHead isInner isBack with
        ⟨isFirst, hasClosing⟩ | ⟨notBefore, notBehind⟩
      · have isName := (isLaidOut.resolve_left hasClosing).2
        rw [ReachesTo, isFirst, isName, line_behind]
        refine ⟨Int.le_refl _, Int.ofNat_le.mpr ?_⟩
        simp only [List.count_append]
        omega
      · have notBehindName := holds.line_le
        refine ⟨Int.le_trans notBehindName (Int.le_trans (Int.ofNat_le.mpr ?_) notBefore),
          notBehind⟩
        simp only [List.count_append]
        omega

/-! ## Declarations -/

theorem braceFree_lineFront
    (isBalanced : Balanced before) (noClosing : closings (lineFront before) = 0) :
    BraceFree (lineFront before) := by
  obtain ⟨upto, isFront⟩ := exists_append_lineFront before
  have isUpto : closings upto ≤ openings upto := by
    have isCovered := isBalanced.covered
    rw [isFront] at isCovered
    exact isCovered.of_append.le
  have ends := isBalanced.ends
  rw [isFront, closings_append, openings_append] at ends
  exact ⟨by omega, noClosing⟩

/-- A declaration without a closed brace in front of it on its line reaches to the line of its
closing brace. -/
theorem lastLine_of_extent
    (extent : Extent source.toList start opening)
    (noClosing : closings (start.lineFront source) = 0) :
    lastLine (lines source) start =
      ((extent.before ++ (extent.head ++ '\x7b' :: extent.inner)).count '\n' : Nat) := by
  obtain ⟨before, head, inner, after, isText, balancedBefore, freeHead, balancedInner, rfl, -⟩ :=
    extent
  rw [lineFront_behind isText] at noClosing
  exact lastLine_of_braceFree isText (braceFree_lineFront balancedBefore noClosing) freeHead
    balancedInner

/-- The name of a declaration lies inside its range, if no brace is closed in front of it on its
line or it is on one line up to its opening brace. -/
theorem selection_within
    (extent : Extent source.toList start opening) {name : String}
    (isShort : name.length ≤ extent.head.length)
    (isLaidOut : closings (start.lineFront source) = 0 ∨ opening.line = start.line)
    (isCounted : start.IsCounted) :
    (rangeOver start name).Within
      (rangeTo (lines source) start (lastLine (lines source) start)) := by
  refine rangeOver_within (DocumentPlace.le_refl _) (lastLine_ge _ isCounted) fun isLast => ?_
  have isStart : startOf start = _ :=
    (congrArg startOf extent.isStart).trans (startOf_behind extent.before)
  have isLine : start.line - 1 = (extent.before.count '\n' : Nat) :=
    congrArg DocumentPlace.line isStart
  have isColumn : start.column - 1 = ((lineFront extent.before).length : Nat) :=
    congrArg DocumentPlace.column isStart
  have isOneLine : '\n' ∉ extent.head := by
    refine List.count_eq_zero.mp ?_
    rcases isLaidOut with noClosing | sameLine
    · rw [lastLine_of_extent extent noClosing, isLine] at isLast
      simp only [List.count_append] at isLast
      omega
    · have isOpening : opening.line - 1 = ((extent.before ++ extent.head).count '\n' : Nat) :=
        (congrArg (·.line - 1) extent.isOpening).trans (line_behind _)
      rw [sameLine, isLine, List.count_append] at isOpening
      omega
  have fits := length_le_lineLength extent.isText isOneLine
  rw [← isLast, isLine, isColumn]
  omega

/-- The items of a member of a struct lie inside the range of the struct, each with its name. -/
theorem memberItems_within_extent
    (extent : Extent source.toList start opening)
    (has : HasMember (extent.before ++ (extent.head ++ ['\x7b'])) extent.inner member)
    (isLaidOut : closings (start.lineFront source) = 0 ∧ member.IsLaidOut source ∨
      member.StartsOn start.line)
    (isCounted : start.IsCounted) :
    ∀ item ∈ memberItems (lines source) member, item.selection.Within item.range ∧
      item.range.Within (rangeTo (lines source) start (lastLine (lines source) start)) := by
  have isLast := lastLine_of_extent extent
  obtain ⟨front, piece, back, isInner, isFront, isBack, isMemberIn⟩ := has
  obtain ⟨before, head, inner, after, isText, balancedBefore, freeHead, _, rfl, _⟩ := extent
  obtain rfl : inner = front ++ (piece ++ back) := isInner
  have isPieceText : source.toList =
      before ++ (head ++ ['\x7b']) ++ front ++ (piece ++ (back ++ '\x7d' :: after)) := by
    rw [isText]
    simp
  have notBefore : startOf (.behind before) ≤
      startOf (.behind (before ++ (head ++ ['\x7b']) ++ front)) := by
    rw [List.append_assoc]
    exact startOf_le before _
  refine memberItems_within isMemberIn isPieceText notBefore ?_
  rcases isLaidOut with ⟨noClosing, isMemberLaidOut⟩ | startsOn
  · have isHead := Balanced.of_braceFree freeHead
    have isCovered : Covered (before ++ (head ++ ['\x7b']) ++ front) :=
      (balancedBefore.covered.append (isHead.covered.append .opening)).append isFront.covered
    have isOpen : openings (before ++ (head ++ ['\x7b']) ++ front) =
        closings (before ++ (head ++ ['\x7b']) ++ front) + 1 := by
      simp only [openings_append, closings_append, balancedBefore.ends, isHead.ends, isFront.ends,
        openings_opening, closings_opening, openings_nil, closings_nil]
      omega
    have sameEnd : before ++ (head ++ '\x7b' :: (front ++ (piece ++ back))) =
        before ++ (head ++ ['\x7b']) ++ front ++ piece ++ back := by simp
    rw [isLast noClosing, sameEnd]
    exact reachesTo_of_isLaidOut isMemberIn isPieceText isCovered isOpen isBack isMemberLaidOut
  · exact reachesTo_of_startsOn isCounted startsOn

theorem structEntry_nested
    {declaration : StructDecl} (hasExtent : declaration.HasExtent source.toList)
    (isLaidOut : declaration.IsLaidOut source)
    (stands : declaration.StandsWithin (Position.IsIn source)) :
    (structEntry (lines source) declaration).IsNested := by
  have isCounted := isCounted_of_isIn (List.forall_mem_cons.mp (stands [])).1
  obtain ⟨extent, isShort, haveMembers⟩ := hasExtent
  have isNameLaidOut : closings (declaration.position.lineFront source) = 0 ∨
      declaration.bodyPosition.line = declaration.position.line := by
    cases isLaidOut with
    | inLines noClosing => exact Or.inl noClosing
    | onOneLine sameLine => exact Or.inr sameLine
  have ofItems : ∀ item ∈ declaration.members.flatMap (memberItems (lines source)),
      item.selection.Within item.range ∧
        item.range.Within (structEntry (lines source) declaration).item.range := by
    intro item isItem
    obtain ⟨member, isMember, isItemOf⟩ := List.mem_flatMap.mp isItem
    refine memberItems_within_extent extent (haveMembers member isMember) ?_ isCounted item isItemOf
    cases isLaidOut with
    | inLines noClosing areLaidOut => exact Or.inl ⟨noClosing, areLaidOut member isMember⟩
    | onOneLine _ startsOn => exact Or.inr (startsOn member isMember)
  exact ⟨structEntry_ordered stands, List.forall_mem_cons.mpr
      ⟨selection_within extent isShort isNameLaidOut isCounted,
        fun item isItem => (ofItems item isItem).1⟩,
    fun item isItem => (ofItems item isItem).2⟩

theorem functionEntry_nested
    {declaration : FunctionDecl} (hasExtent : declaration.HasExtent source.toList)
    (isLaidOut : declaration.IsLaidOut source) (isIn : declaration.position.IsIn source) :
    (functionEntry (lines source) declaration).IsNested := by
  obtain ⟨extent, isShort⟩ := hasExtent
  have isCounted := isCounted_of_isIn isIn
  exact ⟨List.forall_mem_singleton.mpr (rangeTo_ordered isIn (lastLine_ge _ isCounted)),
    List.forall_mem_singleton.mpr (selection_within extent isShort isLaidOut isCounted),
    List.forall_mem_nil _⟩

theorem mainEntry_nested
    {declaration : MainDecl} (hasExtent : declaration.HasExtent source.toList)
    (isIn : declaration.position.IsIn source) :
    (mainEntry (lines source) declaration).IsNested := by
  obtain ⟨extent, holds⟩ := hasExtent
  have notBefore := lastLine_ge (lines source) (isCounted_of_isIn isIn)
  refine ⟨List.forall_mem_singleton.mpr (rangeTo_ordered isIn notBefore),
    List.forall_mem_singleton.mpr ?_, List.forall_mem_nil _⟩
  refine rangeOver_within (DocumentPlace.le_refl _) notBefore fun isLast => ?_
  rw [← isLast]
  exact holds.fits extent.isText

end Outline

/-! ## The whole -/

/-- An entry of an outline over a text is ordered. It is nested if all braces of the text are
tokens and its declaration is laid out. -/
structure OutlineEntry.Nests (source : String) (isLaidOut : Prop) (entry : OutlineEntry) :
    Prop where
  ordered : entry.IsOrdered
  nested : Scan.BracesAreTokens source → isLaidOut → entry.IsNested

/-- The outline of a program that was read from a text has one entry for each declaration, structs
first and the main body last, unless a place is beyond the limits. No item ends before it starts.
If no comment holds a brace then the entry of the main body is nested, and so is that of each
struct and function that is laid out. -/
theorem Program.outline_nests
    {source : String} {program : Program} (isRead : ofSource source = .ok program) :
    Outline.Fits
      (fun entries => ∃ structs functions main, entries = structs ++ functions ++ main ∧
        List.Forall₂ (fun declaration entry =>
          entry.Nests source (declaration.IsLaidOut source)) program.structs structs ∧
        List.Forall₂ (fun declaration entry =>
          entry.Nests source (declaration.IsLaidOut source)) program.functions functions ∧
        List.Forall₂ (fun _ entry => entry.Nests source True) program.main?.toList main)
      (program.outline source) := by
  have standsIn := standsWithin_isIn isRead
  refine (fits_outline isRead).mono ?_
  rintro _ rfl
  refine ⟨_, _, _, rfl, ?_, ?_, ?_⟩
  · refine List.forall₂_map_right_iff.mpr (List.forall₂_same.mpr fun declaration isThere => ?_)
    have stands := standsIn.structs declaration isThere
    exact ⟨Outline.structEntry_ordered stands, fun areTokens isLaidOut =>
      Outline.structEntry_nested ((hasExtents isRead areTokens).structs declaration isThere)
        isLaidOut stands⟩
  · refine List.forall₂_map_right_iff.mpr (List.forall₂_same.mpr fun declaration isThere => ?_)
    have isIn := standsIn.functions declaration isThere [] _ List.mem_cons_self
    exact ⟨List.forall_mem_singleton.mpr (Outline.rangeTo_ordered isIn
        (Outline.lastLine_ge _ (Outline.isCounted_of_isIn isIn))), fun areTokens isLaidOut =>
      Outline.functionEntry_nested ((hasExtents isRead areTokens).functions declaration isThere)
        isLaidOut isIn⟩
  · refine List.forall₂_map_right_iff.mpr (List.forall₂_same.mpr fun declaration isThere => ?_)
    have isMain := Option.mem_toList.mp isThere
    have isIn := standsIn.main declaration isMain [] _ List.mem_cons_self
    exact ⟨List.forall_mem_singleton.mpr (Outline.rangeTo_ordered isIn
        (Outline.lastLine_ge _ (Outline.isCounted_of_isIn isIn))), fun areTokens _ =>
      Outline.mainEntry_nested ((hasExtents isRead areTokens).main declaration isMain) isIn⟩

/-! ## A nested outline and one that is not -/

/-- A program with a struct that has a field and an accessor, on five lines. -/
def linedStruct : Program :=
  ⟨[⟨"P", [.declare [⟨"x", .int, ⟨2, 5⟩⟩] ⟨2, 1⟩,
      .accessor "y" .int [] ⟨"y", .int, ⟨3, 5⟩⟩ (.block [] ⟨3, 12⟩) (.block [] ⟨3, 17⟩) ⟨3, 1⟩],
      ⟨1, 9⟩, ⟨1, 1⟩⟩], [], some ⟨.block [] ⟨5, 5⟩, ⟨5, 1⟩⟩, ⟨1, 1⟩⟩

/-- The text of that program. -/
def linedStructText : String :=
  "struct P\x7b\nint x;\nint y()\x7bset\x7b\x7dget\x7b\x7d\x7d\n\x7d\nmain\x7b\x7d"

/-- The tokens of that program, without the one that marks their end. -/
def linedStructTokens : List Token :=
  [⟨.structWord, "struct", ⟨1, 1⟩⟩, ⟨.identifier, "P", ⟨1, 8⟩⟩, ⟨.leftBrace, "\x7b", ⟨1, 9⟩⟩,
    ⟨.intWord, "int", ⟨2, 1⟩⟩, ⟨.identifier, "x", ⟨2, 5⟩⟩, ⟨.semicolon, ";", ⟨2, 6⟩⟩,
    ⟨.intWord, "int", ⟨3, 1⟩⟩, ⟨.identifier, "y", ⟨3, 5⟩⟩, ⟨.leftParen, "(", ⟨3, 6⟩⟩,
    ⟨.rightParen, ")", ⟨3, 7⟩⟩, ⟨.leftBrace, "\x7b", ⟨3, 8⟩⟩, ⟨.setWord, "set", ⟨3, 9⟩⟩,
    ⟨.leftBrace, "\x7b", ⟨3, 12⟩⟩, ⟨.rightBrace, "\x7d", ⟨3, 13⟩⟩, ⟨.getWord, "get", ⟨3, 14⟩⟩,
    ⟨.leftBrace, "\x7b", ⟨3, 17⟩⟩, ⟨.rightBrace, "\x7d", ⟨3, 18⟩⟩, ⟨.rightBrace, "\x7d", ⟨3, 19⟩⟩,
    ⟨.rightBrace, "\x7d", ⟨4, 1⟩⟩, ⟨.mainWord, "main", ⟨5, 1⟩⟩, ⟨.leftBrace, "\x7b", ⟨5, 5⟩⟩,
    ⟨.rightBrace, "\x7d", ⟨5, 6⟩⟩]

theorem scan_linedStruct :
    scan linedStructText = .ok (linedStructTokens ++ [⟨.finish, "", ⟨5, 7⟩⟩]) :=
  Scan.scan_of_scansTo rfl (by decide +kernel)

theorem derivesStruct_linedStruct :
    ∀ declaration ∈ linedStruct.structs,
      Grammar.DerivesStruct linedStructTokens declaration (linedStructTokens.drop 19) := by
  have field : Grammar.DerivesVariables (linedStructTokens.drop 3) [⟨"x", .int, ⟨2, 5⟩⟩]
      (linedStructTokens.drop 6) :=
    .ofNames (.int rfl) (.last ⟨rfl, rfl⟩) rfl
  have blocks : Grammar.DerivesAccessorBlocks (linedStructTokens.drop 11) (.block [] ⟨3, 12⟩)
      (.block [] ⟨3, 17⟩) (linedStructTokens.drop 17) :=
    .setFirst rfl (.block rfl .none rfl) rfl (.block rfl .none rfl)
  have accessor : Grammar.DerivesMember (linedStructTokens.drop 6) _ (linedStructTokens.drop 18) :=
    .accessor (.int rfl) rfl (.none rfl rfl) rfl blocks rfl
  exact List.forall_mem_singleton.mpr
    (.struct rfl rfl rfl (.more (.fields field) (.more accessor .none)) rfl)

theorem derives_linedStruct : Grammar.DerivesProgram linedStructTokens linedStruct :=
  .program (.struct (derivesStruct_linedStruct _ List.mem_cons_self) .none) rfl
    (.block rfl .none rfl)

theorem ofSource_linedStruct : Program.ofSource linedStructText = .ok linedStruct :=
  Program.ofSource_of_derives scan_linedStruct (by decide) rfl derives_linedStruct

theorem bracesAreTokens_linedStruct : Scan.BracesAreTokens linedStructText := by
  intro tokens scanned
  obtain rfl := Except.ok.inj (scan_linedStruct.symm.trans scanned)
  decide +kernel

theorem isLaidOut_linedStruct :
    ∀ declaration ∈ linedStruct.structs, declaration.IsLaidOut linedStructText := by
  refine List.forall_mem_singleton.mpr (.inLines (by decide +kernel) ?_)
  refine List.forall_mem_cons.mpr ⟨trivial, List.forall_mem_singleton.mpr (Or.inl ?_)⟩
  decide +kernel

theorem outline_nests_linedStruct :
    Program.ofSource linedStructText = .ok linedStruct ∧
      ∃ entries, linedStruct.outline linedStructText = .ok entries ∧ entries.length = 2 ∧
        ∀ entry ∈ entries, entry.IsNested := by
  have isMade : linedStruct.outline linedStructText =
      .ok (linedStruct.outlined (lines linedStructText)) := by decide +kernel
  have nests := @Program.outline_nests linedStructText linedStruct ofSource_linedStruct
  rw [isMade] at nests
  refine ⟨ofSource_linedStruct, _, isMade, by simp [Program.outlined, linedStruct], ?_⟩
  obtain ⟨structs, functions, main, isJoined, ofStructs, ofFunctions, ofMain⟩ := nests
  rw [isJoined]
  cases ofStructs with
  | cons ofStruct noStructs => cases noStructs with
    | nil => cases ofFunctions with
      | nil => cases ofMain with
        | cons ofMain noMain => cases noMain with
          | nil =>
              refine List.forall_mem_cons.mpr ⟨?_, List.forall_mem_singleton.mpr ?_⟩
              · exact ofStruct.nested bracesAreTokens_linedStruct
                  (isLaidOut_linedStruct _ List.mem_cons_self)
              · exact ofMain.nested bracesAreTokens_linedStruct trivial

/-- A program with a struct that has a field on a line of its own. -/
def commentedStruct : Program :=
  ⟨[⟨"A", [.declare [⟨"x", .int, ⟨2, 5⟩⟩] ⟨2, 1⟩], ⟨1, 9⟩, ⟨1, 1⟩⟩], [],
    some ⟨.block [] ⟨3, 6⟩, ⟨3, 2⟩⟩, ⟨1, 1⟩⟩

/-- The tokens of that program, without the one that marks their end. -/
def commentedStructTokens : List Token :=
  [⟨.structWord, "struct", ⟨1, 1⟩⟩, ⟨.identifier, "A", ⟨1, 8⟩⟩, ⟨.leftBrace, "\x7b", ⟨1, 9⟩⟩,
    ⟨.intWord, "int", ⟨2, 1⟩⟩, ⟨.identifier, "x", ⟨2, 5⟩⟩, ⟨.semicolon, ";", ⟨2, 6⟩⟩,
    ⟨.rightBrace, "\x7d", ⟨3, 1⟩⟩, ⟨.mainWord, "main", ⟨3, 2⟩⟩, ⟨.leftBrace, "\x7b", ⟨3, 6⟩⟩,
    ⟨.rightBrace, "\x7d", ⟨3, 7⟩⟩]

/-- A text of that program with a closing brace in a comment. -/
def commentedStructText : String :=
  "struct A\x7b//\x7d\nint x;\n\x7dmain\x7b\x7d"

theorem scan_commentedStruct :
    scan commentedStructText = .ok (commentedStructTokens ++ [⟨.finish, "", ⟨3, 8⟩⟩]) :=
  Scan.scan_of_scansTo rfl (by decide +kernel)

theorem derives_commentedStruct :
    Grammar.DerivesProgram commentedStructTokens commentedStruct := by
  have field : Grammar.DerivesVariables (commentedStructTokens.drop 3) [⟨"x", .int, ⟨2, 5⟩⟩]
      (commentedStructTokens.drop 6) :=
    .ofNames (.int rfl) (.last ⟨rfl, rfl⟩) rfl
  have struct : Grammar.DerivesStruct commentedStructTokens _ (commentedStructTokens.drop 7) :=
    .struct rfl rfl rfl (.more (.fields field) .none) rfl
  exact .program (.struct struct .none) rfl (.block rfl .none rfl)

/-- A closing brace in a comment ends the range of a struct in front of its members. -/
theorem commented_brace_not_nested :
    Program.ofSource commentedStructText = .ok commentedStruct ∧
      ∃ entries, commentedStruct.outline commentedStructText = .ok entries ∧
        ∃ entry ∈ entries, ¬ entry.IsNested := by
  have isMade : commentedStruct.outline commentedStructText =
      .ok (commentedStruct.outlined (lines commentedStructText)) := by decide +kernel
  refine ⟨Program.ofSource_of_derives scan_commentedStruct (by decide) rfl derives_commentedStruct,
    _, isMade, _, List.mem_cons_self, fun isNested => ?_⟩
  have isWithin := isNested.below _ List.mem_cons_self
  have notWithin : ¬ Outline.endOfLine (lines commentedStructText) 1 ≤
      Outline.endOfLine (lines commentedStructText) 0 := by decide +kernel
  exact notWithin isWithin.finish

end StructLang
