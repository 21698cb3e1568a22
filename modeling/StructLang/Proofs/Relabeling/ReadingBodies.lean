import StructLang.Proofs.Relabeling.Reading
import StructLang.Stmt.Read

/-!
# Expressions and statements of relabeled tokens

Only two names matter to readers: after a dot and before a parenthesis, `append` and `size` stand
for operations on lists. A relabeling that keeps these two apart from all other names changes no
reading but in its labels.
-/

namespace StructLang

open Reader

/-- What a relabeling leaves alone for the sake of readers: just the names of list operations become
those names, and what has no place gets none. -/
structure Relabeling.KeepsReading (relabeling : Relabeling) : Prop where
  append : ∀ name, relabeling.name name = "append" ↔ name = "append"
  size : ∀ name, relabeling.name name = "size" ↔ name = "size"
  nowhere : relabeling.position .none = .none

variable {relabeling : Relabeling}

/-! ## Expressions -/

namespace Expr

theorem position_relabel
    (keeps : relabeling.KeepsReading) (expression : Expr) :
    (expression.relabel relabeling).position = relabeling.position expression.position := by
  cases expression with
  | stray node =>
      cases node
      rfl
  | absent => exact keeps.nowhere.symm
  | _ => rfl

theorem listOperation?_relabel
    (keeps : relabeling.KeepsReading) (called : String) (tokens : List Token) :
    listOperation? (relabeling.name called) (tokens.map (Token.relabel relabeling)) =
      listOperation? called tokens := by
  simp only [listOperation?, startsWith_relabel, keeps.append, keeps.size]

mutual

theorem agrees_read
    (keeps : relabeling.KeepsReading) (finish : Token) (tokens : List Token) :
    Agrees relabeling (relabel relabeling) (read finish tokens)
      (read (finish.relabel relabeling) (tokens.map (Token.relabel relabeling))) := by
  rw [read.eq_def, read.eq_def]
  exact agrees_readLevel keeps finish .disjunction tokens
termination_by (tokens.length, 16)

theorem agrees_readLevel
    (keeps : relabeling.KeepsReading) (finish : Token) (level : Precedence)
    (tokens : List Token) :
    Agrees relabeling (relabel relabeling) (readLevel finish level tokens)
      (readLevel (finish.relabel relabeling) level (tokens.map (Token.relabel relabeling))) := by
  rw [readLevel.eq_def, readLevel.eq_def]
  refine (agrees_readOperand keeps finish level tokens).bind fun left others _ _ => ?_
  refine (agrees_readOperations keeps finish level left others).bind fun whole _ _ _ => ?_
  exact Agrees.value rfl
termination_by (tokens.length, 2 * level.rank + 5)

theorem agrees_readOperand
    (keeps : relabeling.KeepsReading) (finish : Token) (level : Precedence)
    (tokens : List Token) :
    Agrees relabeling (relabel relabeling) (readOperand finish level tokens)
      (readOperand (finish.relabel relabeling) level
        (tokens.map (Token.relabel relabeling))) := by
  rw [readOperand.eq_def, readOperand.eq_def]
  cases level with
  | disjunction => exact agrees_readLevel keeps finish .conjunction tokens
  | conjunction => exact agrees_readLevel keeps finish .equality tokens
  | equality => exact agrees_readLevel keeps finish .comparison tokens
  | comparison => exact agrees_readLevel keeps finish .sum tokens
  | sum => exact agrees_readLevel keeps finish .product tokens
  | product => exact agrees_readUnary keeps finish tokens
termination_by (tokens.length, 2 * level.rank + 4)

theorem agrees_readOperations
    (keeps : relabeling.KeepsReading) (finish : Token) (level : Precedence) (left : Expr)
    (tokens : List Token) :
    Agrees relabeling (relabel relabeling) (readOperations finish level left tokens)
      (readOperations (finish.relabel relabeling) level (left.relabel relabeling)
        (tokens.map (Token.relabel relabeling))) := by
  match tokens with
  | [] =>
      rw [List.map_nil, readOperations.eq_def, readOperations.eq_def]
      exact Agrees.value rfl
  | first :: others =>
      rw [List.map_cons, readOperations.eq_def, readOperations.eq_def]
      dsimp only [Token.kind_relabel]
      split
      case h_1 => exact Agrees.value rfl
      case h_2 operator _ =>
        refine (agrees_readOperand keeps finish level others).bind fun right rest _ _ => ?_
        rw [position_relabel keeps]
        refine (agrees_readOperations keeps finish level
          (.binary left (.binary operator) right left.position) rest).bind fun whole _ _ _ => ?_
        exact Agrees.value rfl
termination_by (tokens.length, 0)

theorem agrees_readUnary
    (keeps : relabeling.KeepsReading) (finish : Token) (tokens : List Token) :
    Agrees relabeling (relabel relabeling) (readUnary finish tokens)
      (readUnary (finish.relabel relabeling) (tokens.map (Token.relabel relabeling))) := by
  match tokens with
  | [] =>
      rw [List.map_nil, readUnary.eq_def, readUnary.eq_def]
      exact agrees_readPostfix keeps finish []
  | first :: others =>
      rw [List.map_cons, readUnary.eq_def, readUnary.eq_def]
      dsimp only [Token.kind_relabel]
      split
      case h_1 | h_2 =>
        refine (agrees_readUnary keeps finish others).bind fun operand _ _ _ => ?_
        exact Agrees.value rfl
      case h_3 => exact agrees_readPostfix keeps finish (first :: others)
termination_by (tokens.length, 3)

theorem agrees_readPostfix
    (keeps : relabeling.KeepsReading) (finish : Token) (tokens : List Token) :
    Agrees relabeling (relabel relabeling) (readPostfix finish tokens)
      (readPostfix (finish.relabel relabeling) (tokens.map (Token.relabel relabeling))) := by
  rw [readPostfix.eq_def, readPostfix.eq_def]
  refine (agrees_readPrimary keeps finish tokens).bind fun operand others _ _ => ?_
  refine (agrees_readSuffixes keeps finish operand others).bind fun whole _ _ _ => ?_
  exact Agrees.value rfl
termination_by (tokens.length, 2)

theorem agrees_readSuffixes
    (keeps : relabeling.KeepsReading) (finish : Token) (operand : Expr) (tokens : List Token) :
    Agrees relabeling (relabel relabeling) (readSuffixes finish operand tokens)
      (readSuffixes (finish.relabel relabeling) (operand.relabel relabeling)
        (tokens.map (Token.relabel relabeling))) := by
  match tokens with
  | [] =>
      rw [List.map_nil, readSuffixes.eq_def, readSuffixes.eq_def]
      exact Agrees.value rfl
  | first :: others =>
      rw [List.map_cons, readSuffixes.eq_def, readSuffixes.eq_def]
      dsimp only [Token.kind_relabel]
      rw [position_relabel keeps]
      split
      case h_1 =>
        refine (agrees_readArguments keeps finish others).bind fun arguments rest _ _ => ?_
        refine (agrees_readSuffixes keeps finish (.call operand arguments operand.position)
          rest).bind fun whole _ _ _ => ?_
        exact Agrees.value rfl
      case h_2 =>
        refine (agrees_read keeps finish others).bind fun place closed _ _ => ?_
        refine (agrees_expect finish _ _ closed).bind fun _ rest _ _ => ?_
        refine (agrees_readSuffixes keeps finish (.index operand place operand.position)
          rest).bind fun whole _ _ _ => ?_
        exact Agrees.value rfl
      case h_3 =>
        refine (agrees_expectName finish _ others).bind fun called named _ _ => ?_
        refine (agrees_readMember keeps finish operand called.text named).bind
          fun whole rest _ _ => ?_
        refine (agrees_readSuffixes keeps finish whole rest).bind fun whole _ _ _ => ?_
        exact Agrees.value rfl
      case h_4 => exact Agrees.value rfl
termination_by (tokens.length, 0)

theorem agrees_readMember
    (keeps : relabeling.KeepsReading) (finish : Token) (owner : Expr) (called : String)
    (tokens : List Token) :
    Agrees relabeling (relabel relabeling) (readMember finish owner called tokens)
      (readMember (finish.relabel relabeling) (owner.relabel relabeling)
        (relabeling.name called) (tokens.map (Token.relabel relabeling))) := by
  rw [readMember.eq_def, readMember.eq_def, listOperation?_relabel keeps, position_relabel keeps]
  cases listOperation? called tokens with
  | none => exact Agrees.value rfl
  | some operation =>
      cases operation with
      | append =>
          refine (agrees_expect finish _ _ tokens).bind fun _ opened _ _ => ?_
          refine (agrees_read keeps finish opened).bind fun element closed _ _ => ?_
          refine (agrees_expect finish _ _ closed).bind fun _ _ _ _ => ?_
          exact Agrees.value rfl
      | size =>
          refine (agrees_expect finish _ _ tokens).bind fun _ opened _ _ => ?_
          refine (agrees_expect finish _ _ opened).bind fun _ _ _ _ => ?_
          exact Agrees.value rfl
termination_by (tokens.length, 0)

theorem agrees_readArguments
    (keeps : relabeling.KeepsReading) (finish : Token) (tokens : List Token) :
    Agrees relabeling (relabelAll relabeling) (readArguments finish tokens)
      (readArguments (finish.relabel relabeling) (tokens.map (Token.relabel relabeling))) := by
  rw [readArguments.eq_def, readArguments.eq_def]
  rcases accept_relabel .rightParen tokens with ⟨isNone, isNoneToo⟩ | accepted
  · rw [isNone, isNoneToo]
    refine (agrees_readItems keeps finish tokens).bind fun arguments closed _ _ => ?_
    refine (agrees_expect finish _ _ closed).bind fun _ _ _ _ => ?_
    exact Agrees.value rfl
  · obtain ⟨_, _, _, _, -, isTaken, isTakenToo⟩ := accepted
    rw [isTaken, isTakenToo]
    exact Agrees.value rfl
termination_by (tokens.length, 18)

theorem agrees_readItems
    (keeps : relabeling.KeepsReading) (finish : Token) (tokens : List Token) :
    Agrees relabeling (relabelAll relabeling) (readItems finish tokens)
      (readItems (finish.relabel relabeling) (tokens.map (Token.relabel relabeling))) := by
  rw [readItems.eq_def, readItems.eq_def]
  refine (agrees_read keeps finish tokens).bind fun head others _ _ => ?_
  refine (agrees_readMore keeps finish others).bind fun tail _ _ _ => ?_
  exact Agrees.value rfl
termination_by (tokens.length, 17)

theorem agrees_readMore
    (keeps : relabeling.KeepsReading) (finish : Token) (tokens : List Token) :
    Agrees relabeling (relabelAll relabeling) (readMore finish tokens)
      (readMore (finish.relabel relabeling) (tokens.map (Token.relabel relabeling))) := by
  rw [readMore_eq, readMore_eq]
  exact agrees_more tokens rfl (fun _ _ => rfl) (fun rest _ => agrees_read keeps finish rest)
    fun others _ => agrees_readMore keeps finish others
termination_by (tokens.length, 0)

theorem agrees_readPrimary
    (keeps : relabeling.KeepsReading) (finish : Token) (tokens : List Token) :
    Agrees relabeling (relabel relabeling) (readPrimary finish tokens)
      (readPrimary (finish.relabel relabeling) (tokens.map (Token.relabel relabeling))) := by
  match tokens with
  | [] =>
      rw [List.map_nil, readPrimary.eq_def, readPrimary.eq_def]
      exact agrees_refuse finish [] fun _ => rfl
  | first :: others =>
      rw [List.map_cons, readPrimary.eq_def, readPrimary.eq_def]
      dsimp only [Token.kind_relabel]
      split
      case h_1 isInteger =>
        rw [Token.text_relabel_of_other (by simp [isInteger])]
        cases Text.readNumeral first.text with
        | error => exact rfl
        | ok value => exact Agrees.value rfl
      case h_2 | h_3 => exact Agrees.value rfl
      case h_4 isName =>
        rw [Token.text_relabel_of_name isName]
        exact Agrees.value rfl
      case h_5 =>
        refine (agrees_readItems keeps finish others).bind fun items closed _ _ => ?_
        refine (agrees_expect finish _ _ closed).bind fun _ _ _ _ => ?_
        exact Agrees.value rfl
      case h_6 => exact agrees_refuse finish (first :: others) fun _ => rfl
termination_by (tokens.length, 1)

end

end Expr

/-! ## Names and parameters -/

theorem agrees_readMoreNames
    (finish : Token) (thing : NamedThing) (tokens : List Token) :
    Agrees relabeling (List.map (Token.relabelName relabeling))
      (readMoreNames finish thing tokens)
      (readMoreNames (finish.relabel relabeling) thing
        (tokens.map (Token.relabel relabeling))) := by
  rw [readMoreNames_eq, readMoreNames_eq]
  exact agrees_more tokens rfl (fun _ _ => rfl) (fun rest _ => agrees_expectName finish thing rest)
    fun others _ => agrees_readMoreNames finish thing others
termination_by tokens.length

theorem agrees_readNamesAfter
    (finish : Token) (thing : NamedThing) (first : Token) (tokens : List Token) :
    Agrees relabeling (List.map (Token.relabelName relabeling))
      (readNamesAfter finish thing first tokens)
      (readNamesAfter (finish.relabel relabeling) thing (first.relabelName relabeling)
        (tokens.map (Token.relabel relabeling))) := by
  refine (agrees_readMoreNames finish thing tokens).bind fun others closed _ _ => ?_
  refine (agrees_expect finish _ _ closed).bind fun _ _ _ _ => ?_
  exact Agrees.value rfl

theorem variablesOfNames_relabel
    (type : Ty) (names : List Token) :
    variablesOfNames (type.rename relabeling.name) (names.map (Token.relabelName relabeling)) =
      Region.relabel relabeling (variablesOfNames type names) := by
  simp [variablesOfNames, Region.relabel, VariableDecl.relabel, Token.relabelName,
    Function.comp_def]

theorem agrees_readParameter
    (finish : Token) (tokens : List Token) :
    Agrees relabeling (VariableDecl.relabel relabeling) (readParameter finish tokens)
      (readParameter (finish.relabel relabeling) (tokens.map (Token.relabel relabeling))) := by
  rw [readParameter, readParameter, next_relabel]
  refine (Ty.agrees_read finish tokens).bind fun type typed _ _ => ?_
  refine (agrees_expectName finish .parameter typed).bind fun name _ _ _ => ?_
  exact Agrees.value rfl

theorem agrees_readMoreParameters
    (finish : Token) (tokens : List Token) :
    Agrees relabeling (Region.relabel relabeling) (readMoreParameters finish tokens)
      (readMoreParameters (finish.relabel relabeling)
        (tokens.map (Token.relabel relabeling))) := by
  rw [readMoreParameters_eq, readMoreParameters_eq]
  exact agrees_more tokens rfl (fun _ _ => rfl) (fun rest _ => agrees_readParameter finish rest)
    fun others _ => agrees_readMoreParameters finish others
termination_by tokens.length

theorem agrees_readParameters
    (finish : Token) (tokens : List Token) :
    Agrees relabeling (Region.relabel relabeling) (readParameters finish tokens)
      (readParameters (finish.relabel relabeling) (tokens.map (Token.relabel relabeling))) := by
  refine (agrees_expect finish _ _ tokens).bind fun _ opened _ _ => ?_
  dsimp only
  rcases accept_relabel .rightParen opened with ⟨isNone, isNoneToo⟩ | accepted
  · rw [isNone, isNoneToo]
    refine (agrees_readParameter finish opened).bind fun head others _ _ => ?_
    refine (agrees_readMoreParameters finish others).bind fun tail closed _ _ => ?_
    refine (agrees_expect finish _ _ closed).bind fun _ _ _ _ => ?_
    exact Agrees.value rfl
  · obtain ⟨_, _, _, _, -, isTaken, isTakenToo⟩ := accepted
    rw [isTaken, isTakenToo]
    exact Agrees.value rfl

/-! ## Statements -/

namespace Stmt

theorem startsDeclaration_relabel
    (tokens : List Token) :
    startsDeclaration (tokens.map (Token.relabel relabeling)) = startsDeclaration tokens := by
  cases tokens with
  | nil => rfl
  | cons first others =>
      simp only [List.map_cons, startsDeclaration, Token.kind_relabel, startsWith_relabel]

theorem ofExpression?_relabel
    (expression : Expr) (position : Position) :
    ofExpression? (expression.relabel relabeling) (relabeling.position position) =
      (ofExpression? expression position).map (relabel relabeling) := by
  cases expression <;> rfl

theorem agrees_readDeclaration
    (finish : Token) (tokens : List Token) :
    Agrees relabeling (relabel relabeling) (readDeclaration finish tokens)
      (readDeclaration (finish.relabel relabeling) (tokens.map (Token.relabel relabeling))) := by
  rw [readDeclaration, readDeclaration, next_relabel]
  refine (Ty.agrees_read finish tokens).bind fun type typed _ _ => ?_
  refine (agrees_expectName finish _ typed).bind fun first others _ _ => ?_
  refine (agrees_readNamesAfter finish _ first others).bind fun names _ _ _ => ?_
  refine Agrees.value ?_
  rw [variablesOfNames_relabel]
  rfl

theorem agrees_readDisplay
    (keeps : relabeling.KeepsReading) (finish : Token) (position : Position)
    (tokens : List Token) :
    Agrees relabeling (relabel relabeling) (readDisplay finish position tokens)
      (readDisplay (finish.relabel relabeling) (relabeling.position position)
        (tokens.map (Token.relabel relabeling))) := by
  refine (agrees_expect finish _ _ tokens).bind fun _ opened _ _ => ?_
  refine (Expr.agrees_read keeps finish opened).bind fun argument closed _ _ => ?_
  refine (agrees_expect finish _ _ closed).bind fun _ ended _ _ => ?_
  refine (agrees_expect finish _ _ ended).bind fun _ _ _ _ => ?_
  exact Agrees.value rfl

theorem agrees_readReturn
    (keeps : relabeling.KeepsReading) (finish : Token) (position : Position)
    (tokens : List Token) :
    Agrees relabeling (relabel relabeling) (readReturn finish position tokens)
      (readReturn (finish.relabel relabeling) (relabeling.position position)
        (tokens.map (Token.relabel relabeling))) := by
  rw [readReturn, readReturn]
  rcases accept_relabel .semicolon tokens with ⟨isNone, isNoneToo⟩ | accepted
  · rw [isNone, isNoneToo]
    refine (Expr.agrees_read keeps finish tokens).bind fun value ended _ _ => ?_
    refine (agrees_expect finish _ _ ended).bind fun _ _ _ _ => ?_
    exact Agrees.value rfl
  · obtain ⟨_, _, _, _, -, isTaken, isTakenToo⟩ := accepted
    rw [isTaken, isTakenToo]
    exact Agrees.value rfl

theorem agrees_readSimple
    (keeps : relabeling.KeepsReading) (finish : Token) (tokens : List Token) :
    Agrees relabeling (relabel relabeling) (readSimple finish tokens)
      (readSimple (finish.relabel relabeling) (tokens.map (Token.relabel relabeling))) := by
  rw [readSimple, readSimple, next_relabel]
  refine (Expr.agrees_read keeps finish tokens).bind fun expression others _ _ => ?_
  dsimp only [Token.position_relabel]
  rcases accept_relabel .assign others with ⟨isNone, isNoneToo⟩ | accepted
  · rw [isNone, isNoneToo]
    refine (agrees_expect finish _ _ others).bind fun _ _ _ _ => ?_
    dsimp only
    rw [ofExpression?_relabel]
    cases ofExpression? expression (next finish tokens).position with
    | none => exact Agrees.fault rfl
    | some statement => exact Agrees.value rfl
  · obtain ⟨_, assigned, _, _, -, isTaken, isTakenToo⟩ := accepted
    rw [isTaken, isTakenToo]
    refine (Expr.agrees_read keeps finish assigned).bind fun value ended _ _ => ?_
    refine (agrees_expect finish _ _ ended).bind fun _ _ _ _ => ?_
    exact Agrees.value rfl

theorem agrees_readCondition
    (keeps : relabeling.KeepsReading) (finish : Token) (word : TokenKind) (tokens : List Token) :
    Agrees relabeling (Expr.relabel relabeling) (readCondition finish word tokens)
      (readCondition (finish.relabel relabeling) word
        (tokens.map (Token.relabel relabeling))) := by
  refine (agrees_expect finish _ _ tokens).bind fun _ opened _ _ => ?_
  refine (Expr.agrees_read keeps finish opened).bind fun condition closed _ _ => ?_
  refine (agrees_expect finish _ _ closed).bind fun _ _ _ _ => ?_
  exact Agrees.value rfl

mutual

theorem agrees_read
    (keeps : relabeling.KeepsReading) (finish : Token) (tokens : List Token) :
    Agrees relabeling (relabel relabeling) (read finish tokens)
      (read (finish.relabel relabeling) (tokens.map (Token.relabel relabeling))) := by
  match tokens with
  | [] =>
      rw [List.map_nil, read.eq_def, read.eq_def]
      exact agrees_readSimple keeps finish []
  | first :: others =>
      rw [List.map_cons, read.eq_def, read.eq_def]
      dsimp only [Token.kind_relabel]
      split
      case h_1 => exact agrees_readBlock keeps finish (first :: others)
      case h_2 =>
        refine (agrees_readCondition keeps finish .ifWord others).bind fun condition rest _ _ => ?_
        refine (agrees_read keeps finish rest).bind fun thenBody middle _ _ => ?_
        refine (agrees_readElse keeps finish middle).bind fun elseBody _ _ _ => ?_
        exact Agrees.value rfl
      case h_3 =>
        refine (agrees_readCondition keeps finish .whileWord others).bind
          fun condition rest _ _ => ?_
        refine (agrees_read keeps finish rest).bind fun body _ _ _ => ?_
        exact Agrees.value rfl
      case h_4 =>
        refine (agrees_readDisplay keeps finish first.position others).bind
          fun statement _ _ _ => ?_
        exact Agrees.value rfl
      case h_5 =>
        refine (agrees_readReturn keeps finish first.position others).bind
          fun statement _ _ _ => ?_
        exact Agrees.value rfl
      case h_6 =>
        rw [← List.map_cons, startsDeclaration_relabel]
        split
        · exact agrees_readDeclaration finish (first :: others)
        · exact agrees_readSimple keeps finish (first :: others)
termination_by (tokens.length, 1)

theorem agrees_readElse
    (keeps : relabeling.KeepsReading) (finish : Token) (tokens : List Token) :
    Agrees relabeling (relabel relabeling) (readElse finish tokens)
      (readElse (finish.relabel relabeling) (tokens.map (Token.relabel relabeling))) := by
  rw [readElse.eq_def, readElse.eq_def]
  rcases accept_relabel .elseWord tokens with ⟨isNone, isNoneToo⟩ | accepted
  · rw [isNone, isNoneToo]
    exact Agrees.value rfl
  · obtain ⟨_, rest, _, _, -, isTaken, isTakenToo⟩ := accepted
    rw [isTaken, isTakenToo]
    refine (agrees_read keeps finish rest).bind fun body _ _ _ => ?_
    exact Agrees.value rfl
termination_by (tokens.length, 0)

theorem agrees_readBlock
    (keeps : relabeling.KeepsReading) (finish : Token) (tokens : List Token) :
    Agrees relabeling (relabel relabeling) (readBlock finish tokens)
      (readBlock (finish.relabel relabeling) (tokens.map (Token.relabel relabeling))) := by
  rw [readBlock.eq_def, readBlock.eq_def]
  refine (agrees_expect finish _ _ tokens).bind fun opening opened _ _ => ?_
  refine (agrees_readAll keeps finish opened).bind fun statements closed _ _ => ?_
  refine (agrees_expect finish _ _ closed).bind fun _ _ _ _ => ?_
  exact Agrees.value rfl
termination_by (tokens.length, 0)

theorem agrees_readAll
    (keeps : relabeling.KeepsReading) (finish : Token) (tokens : List Token) :
    Agrees relabeling (relabelAll relabeling) (readAll finish tokens)
      (readAll (finish.relabel relabeling) (tokens.map (Token.relabel relabeling))) := by
  rw [readAll_eq, readAll_eq]
  exact agrees_upToBrace tokens rfl (fun _ _ => rfl) (agrees_read keeps finish tokens)
    fun rest _ => agrees_readAll keeps finish rest
termination_by (tokens.length, 2)

end

end Stmt

end StructLang
