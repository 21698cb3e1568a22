import Mathlib.Data.List.TakeWhile
import StructLang.Program.Read
import StructLang.Proofs.Sites.Expressions

/-!
# The places of what is read in programs

The readers of declarations, statements, members of structs and programs keep to the places of
their tokens as those of expressions do.

- `Program.keepsTo_ofTokens` : the nodes of a program, or the fault for want of one, stand where
  tokens do.
-/

namespace StructLang

open Reader

variable {alpha : Type} {bound : Nat} {within : Position → Prop} {isWithin : alpha → Prop}
  {finish : Token} {tokens rest : List Token}

/-! ## Names and parameters -/

/-- Something holds of the places of declarations of variables. -/
abbrev VariableDecl.AllWithin (within : Position → Prop) (declarations : List VariableDecl) :
    Prop :=
  ∀ declaration ∈ declarations, within declaration.position

theorem VariableDecl.AllWithin.nodesOf
    {declarations : List VariableDecl} (areWithin : AllWithin within declarations)
    (address : Address) (index : Nat) :
    ∀ node ∈ nodesOf address index declarations, within node.position := by
  induction declarations generalizing index with
  | nil => exact List.forall_mem_nil _
  | cons head tail inductionHypothesis =>
      obtain ⟨ofHead, ofTail⟩ := List.forall_mem_cons.mp areWithin
      exact List.forall_mem_cons.mpr ⟨ofHead, inductionHypothesis ofTail (index + 1)⟩

theorem variablesOfNames_within
    (type : Ty) {names : List Token} (areWithin : Token.AllWithin within names) :
    VariableDecl.AllWithin within (variablesOfNames type names) := by
  intro declaration isThere
  obtain ⟨name, isName, rfl⟩ := List.mem_map.mp isThere
  exact areWithin name isName

theorem keepsTo_readMoreNames
    (atFinish : within finish.position) (thing : NamedThing) (tokens : List Token)
    (inTokens : Token.AllWithin within tokens) :
    KeepsTo within (Token.AllWithin within) (readMoreNames finish thing tokens) := by
  rw [readMoreNames_eq]
  exact keepsTo_more inTokens (List.forall_mem_nil _)
    (fun atHead inTail => List.forall_mem_cons.mpr ⟨atHead, inTail⟩)
    (fun _ _ inRest => keepsTo_expect _ _ atFinish inRest)
    fun others _ inOthers => keepsTo_readMoreNames atFinish thing others inOthers
termination_by tokens.length

theorem keepsTo_readNamesAfter
    (atFinish : within finish.position) (thing : NamedThing) {first : Token}
    (atFirst : within first.position) (inTokens : Token.AllWithin within tokens) :
    KeepsTo within (Token.AllWithin within) (readNamesAfter finish thing first tokens) := by
  refine (keepsTo_readMoreNames atFinish thing tokens inTokens).bind
    fun others closed _ inOthers inClosed => ?_
  refine (keepsTo_expect _ _ atFinish inClosed).bind fun _ _ _ _ inRest => ?_
  exact .value (List.forall_mem_cons.mpr ⟨atFirst, inOthers⟩) inRest

theorem keepsTo_readParameter
    (atFinish : within finish.position) (inTokens : Token.AllWithin within tokens) :
    KeepsTo within (fun parameter => within parameter.position)
      (readParameter finish tokens) := by
  refine (Ty.keepsTo_read atFinish tokens inTokens).bind fun type typed _ _ inTyped => ?_
  refine (keepsTo_expect _ _ atFinish inTyped).bind fun name _ _ _ inRest => ?_
  exact .value (within_next atFinish inTokens) inRest

theorem keepsTo_readMoreParameters
    (atFinish : within finish.position) (tokens : List Token)
    (inTokens : Token.AllWithin within tokens) :
    KeepsTo within (VariableDecl.AllWithin within) (readMoreParameters finish tokens) := by
  rw [readMoreParameters_eq]
  exact keepsTo_more inTokens (List.forall_mem_nil _)
    (fun ofHead ofTail => List.forall_mem_cons.mpr ⟨ofHead, ofTail⟩)
    (fun _ _ inRest => keepsTo_readParameter atFinish inRest)
    fun others _ inOthers => keepsTo_readMoreParameters atFinish others inOthers
termination_by tokens.length

theorem keepsTo_readParameters
    (atFinish : within finish.position) (inTokens : Token.AllWithin within tokens) :
    KeepsTo within (VariableDecl.AllWithin within) (readParameters finish tokens) := by
  refine (keepsTo_expect _ _ atFinish inTokens).bind fun _ opened _ _ inOpened => ?_
  dsimp only
  split
  case h_1 accepted => exact .value (List.forall_mem_nil _) (within_accept accepted inOpened).2
  case h_2 =>
    refine (keepsTo_readParameter atFinish inOpened).bind fun head others _ ofHead inOthers => ?_
    refine (keepsTo_readMoreParameters atFinish others inOthers).bind
      fun tail closed _ ofTail inClosed => ?_
    refine (keepsTo_expect _ _ atFinish inClosed).bind fun _ _ _ _ inRest => ?_
    exact .value (List.forall_mem_cons.mpr ⟨ofHead, ofTail⟩) inRest

/-! ## Statements -/

namespace Stmt

/-- Something holds of the places of all nodes of a statement. -/
def StandsWithin (within : Position → Prop) (statement : Stmt) : Prop :=
  ∀ address, ∀ node ∈ statement.nodes address, within node.position

/-- Something holds of the places of all nodes of statements. -/
def AllStandWithin (within : Position → Prop) (statements : List Stmt) : Prop :=
  ∀ address index, ∀ node ∈ nodesOf address index statements, within node.position

theorem AllStandWithin.nil : AllStandWithin within [] :=
  fun _ _ => List.forall_mem_nil _

theorem AllStandWithin.cons
    {head : Stmt} {tail : List Stmt} (ofHead : head.StandsWithin within)
    (ofTail : AllStandWithin within tail) : AllStandWithin within (head :: tail) :=
  fun _ _ => List.forall_mem_append.mpr ⟨ofHead _, ofTail _ _⟩

namespace StandsWithin

variable {position : Position} {expression : Expr} {body : Stmt}

theorem absent : StandsWithin within .absent :=
  fun _ => List.forall_mem_nil _

theorem declare
    {declared : List VariableDecl} (isThere : within position)
    (areWithin : VariableDecl.AllWithin within declared) :
    StandsWithin within (.declare declared position) :=
  fun _ => List.forall_mem_cons.mpr ⟨isThere, areWithin.nodesOf _ _⟩

theorem block
    {statements : List Stmt} (isThere : within position)
    (ofStatements : AllStandWithin within statements) :
    StandsWithin within (.block statements position) :=
  fun _ => List.forall_mem_cons.mpr ⟨isThere, ofStatements _ _⟩

theorem assign
    {target value : Expr} (isThere : within position) (ofTarget : target.StandsWithin within)
    (ofValue : value.StandsWithin within) :
    StandsWithin within (.assign target value position) :=
  fun _ => List.forall_mem_cons.mpr
    ⟨isThere, List.forall_mem_append.mpr ⟨ofTarget.2 _, ofValue.2 _⟩⟩

theorem branch
    {thenBody elseBody : Stmt} (isThere : within position)
    (ofCondition : expression.StandsWithin within) (ofThen : thenBody.StandsWithin within)
    (ofElse : elseBody.StandsWithin within) :
    StandsWithin within (.branch expression thenBody elseBody position) :=
  fun _ => List.forall_mem_cons.mpr ⟨isThere, List.forall_mem_append.mpr
    ⟨List.forall_mem_append.mpr ⟨ofCondition.2 _, ofThen _⟩, ofElse _⟩⟩

theorem loop
    (isThere : within position) (ofCondition : expression.StandsWithin within)
    (ofBody : body.StandsWithin within) :
    StandsWithin within (.loop expression body position) :=
  fun _ => List.forall_mem_cons.mpr
    ⟨isThere, List.forall_mem_append.mpr ⟨ofCondition.2 _, ofBody _⟩⟩

theorem display
    (isThere : within position) (ofArgument : expression.StandsWithin within) :
    StandsWithin within (.display expression position) :=
  fun _ => List.forall_mem_cons.mpr ⟨isThere, ofArgument.2 _⟩

theorem giveBackNothing
    (isThere : within position) : StandsWithin within (.giveBack none position) :=
  fun _ => List.forall_mem_singleton.mpr isThere

theorem giveBack
    (isThere : within position) (ofValue : expression.StandsWithin within) :
    StandsWithin within (.giveBack (some expression) position) :=
  fun _ => List.forall_mem_cons.mpr ⟨isThere, ofValue.2 _⟩

/-- A statement that is an expression for its own sake. -/
theorem ofExpression?
    {statement : Stmt} (isStatement : Stmt.ofExpression? expression position = some statement)
    (isThere : within position) (ofExpression : expression.StandsWithin within) :
    statement.StandsWithin within := by
  rw [Stmt.ofExpression?.eq_def] at isStatement
  split at isStatement <;> cases isStatement <;>
    exact fun _ => List.forall_mem_cons.mpr ⟨isThere, ofExpression.2 _⟩

theorem accessor
    {name : String} {type : Ty} {parameters : List VariableDecl} {field : VariableDecl}
    {setBody getBody : Stmt} (isThere : within position)
    (areWithin : VariableDecl.AllWithin within parameters) (atField : within field.position)
    (ofSet : setBody.StandsWithin within) (ofGet : getBody.StandsWithin within) :
    StandsWithin within (.accessor name type parameters field setBody getBody position) :=
  fun _ => List.forall_mem_cons.mpr ⟨isThere, List.forall_mem_append.mpr
    ⟨List.forall_mem_append.mpr ⟨List.forall_mem_append.mpr
      ⟨areWithin.nodesOf _ _, List.forall_mem_singleton.mpr atField⟩, ofSet _⟩, ofGet _⟩⟩

end StandsWithin

theorem keepsTo_readDeclaration
    (atFinish : within finish.position) (inTokens : Token.AllWithin within tokens) :
    KeepsTo within (StandsWithin within) (readDeclaration finish tokens) := by
  refine (Ty.keepsTo_read atFinish tokens inTokens).bind fun type typed _ _ inTyped => ?_
  refine (keepsTo_expect _ _ atFinish inTyped).bind fun first others _ atFirst inOthers => ?_
  refine (keepsTo_readNamesAfter atFinish _ atFirst inOthers).bind
    fun names _ _ inNames inRest => ?_
  exact .value (.declare (within_next atFinish inTokens) (variablesOfNames_within type inNames))
    inRest

theorem keepsTo_readDisplay
    {position : Position} (atFinish : within finish.position) (isThere : within position)
    (inTokens : Token.AllWithin within tokens) :
    KeepsTo within (StandsWithin within) (readDisplay finish position tokens) := by
  refine (keepsTo_expect _ _ atFinish inTokens).bind fun _ opened _ _ inOpened => ?_
  refine (Expr.keepsTo_read atFinish opened inOpened).bind
    fun argument closed _ ofArgument inClosed => ?_
  refine (keepsTo_expect _ _ atFinish inClosed).bind fun _ ended _ _ inEnded => ?_
  refine (keepsTo_expect _ _ atFinish inEnded).bind fun _ _ _ _ inRest => ?_
  exact .value (.display isThere ofArgument) inRest

theorem keepsTo_readReturn
    {position : Position} (atFinish : within finish.position) (isThere : within position)
    (inTokens : Token.AllWithin within tokens) :
    KeepsTo within (StandsWithin within) (readReturn finish position tokens) := by
  rw [readReturn]
  split
  case h_1 accepted =>
    exact .value (.giveBackNothing isThere) (within_accept accepted inTokens).2
  case h_2 =>
    refine (Expr.keepsTo_read atFinish tokens inTokens).bind
      fun value ended _ ofValue inEnded => ?_
    refine (keepsTo_expect _ _ atFinish inEnded).bind fun _ _ _ _ inRest => ?_
    exact .value (.giveBack isThere ofValue) inRest

theorem keepsTo_readSimple
    (atFinish : within finish.position) (inTokens : Token.AllWithin within tokens) :
    KeepsTo within (StandsWithin within) (readSimple finish tokens) := by
  have isThere := within_next atFinish inTokens
  refine (Expr.keepsTo_read atFinish tokens inTokens).bind
    fun expression others _ ofExpression inOthers => ?_
  dsimp only
  split
  case h_1 assigned _ accepted =>
    have inAssigned := (within_accept accepted inOthers).2
    refine (Expr.keepsTo_read atFinish assigned inAssigned).bind
      fun value ended _ ofValue inEnded => ?_
    refine (keepsTo_expect _ _ atFinish inEnded).bind fun _ _ _ _ inRest => ?_
    exact .value (.assign isThere ofExpression ofValue) inRest
  case h_2 =>
    refine (keepsTo_expect _ _ atFinish inOthers).bind fun _ _ _ _ inRest => ?_
    dsimp only
    split
    case h_1 isStatement => exact .value (.ofExpression? isStatement isThere ofExpression) inRest
    case h_2 => exact isThere

theorem keepsTo_readCondition
    (atFinish : within finish.position) (word : TokenKind)
    (inTokens : Token.AllWithin within tokens) :
    KeepsTo within (Expr.StandsWithin within) (readCondition finish word tokens) := by
  refine (keepsTo_expect _ _ atFinish inTokens).bind fun _ opened _ _ inOpened => ?_
  refine (Expr.keepsTo_read atFinish opened inOpened).bind
    fun condition closed _ ofCondition inClosed => ?_
  refine (keepsTo_expect _ _ atFinish inClosed).bind fun _ _ _ _ inRest => ?_
  exact .value ofCondition inRest

mutual

theorem keepsTo_read
    (atFinish : within finish.position) (tokens : List Token)
    (inTokens : Token.AllWithin within tokens) :
    KeepsTo within (StandsWithin within) (read finish tokens) := by
  match tokens with
  | [] =>
      rw [read.eq_def]
      exact keepsTo_readSimple atFinish inTokens
  | first :: others =>
      obtain ⟨isThere, inOthers⟩ := List.forall_mem_cons.mp inTokens
      rw [read.eq_def]
      dsimp only
      split
      case h_1 => exact keepsTo_readBlock atFinish (first :: others) inTokens
      case h_2 =>
        refine (keepsTo_readCondition atFinish _ inOthers).bind
          fun condition rest _ ofCondition inRest => ?_
        refine (keepsTo_read atFinish rest inRest).bind fun thenBody middle _ ofThen inMiddle => ?_
        refine (keepsTo_readElse atFinish middle inMiddle).bind fun elseBody _ _ ofElse inEnd => ?_
        exact .value (.branch isThere ofCondition ofThen ofElse) inEnd
      case h_3 =>
        refine (keepsTo_readCondition atFinish _ inOthers).bind
          fun condition rest _ ofCondition inRest => ?_
        refine (keepsTo_read atFinish rest inRest).bind fun body _ _ ofBody inEnd => ?_
        exact .value (.loop isThere ofCondition ofBody) inEnd
      case h_4 =>
        refine (keepsTo_readDisplay atFinish isThere inOthers).bind
          fun statement _ _ ofStatement inRest => ?_
        exact .value ofStatement inRest
      case h_5 =>
        refine (keepsTo_readReturn atFinish isThere inOthers).bind
          fun statement _ _ ofStatement inRest => ?_
        exact .value ofStatement inRest
      case h_6 =>
        split
        · exact keepsTo_readDeclaration atFinish inTokens
        · exact keepsTo_readSimple atFinish inTokens
termination_by (tokens.length, 1)

theorem keepsTo_readElse
    (atFinish : within finish.position) (tokens : List Token)
    (inTokens : Token.AllWithin within tokens) :
    KeepsTo within (StandsWithin within) (readElse finish tokens) := by
  rw [readElse.eq_def]
  split
  case h_1 => exact .value .absent inTokens
  case h_2 word opened _ accepted =>
    have inOpened : Token.AllWithin within opened := (within_accept accepted inTokens).2
    refine (keepsTo_read atFinish opened inOpened).bind fun body _ _ ofBody inRest => ?_
    exact .value ofBody inRest
termination_by (tokens.length, 0)

theorem keepsTo_readBlock
    (atFinish : within finish.position) (tokens : List Token)
    (inTokens : Token.AllWithin within tokens) :
    KeepsTo within (StandsWithin within) (readBlock finish tokens) := by
  rw [readBlock.eq_def]
  refine (keepsTo_expect _ _ atFinish inTokens).bind fun opening opened _ isThere inOpened => ?_
  refine (keepsTo_readAll atFinish opened inOpened).bind
    fun statements closed _ ofStatements inClosed => ?_
  refine (keepsTo_expect _ _ atFinish inClosed).bind fun _ _ _ _ inRest => ?_
  exact .value (.block isThere ofStatements) inRest
termination_by (tokens.length, 0)

theorem keepsTo_readAll
    (atFinish : within finish.position) (tokens : List Token)
    (inTokens : Token.AllWithin within tokens) :
    KeepsTo within (AllStandWithin within) (readAll finish tokens) := by
  rw [readAll_eq]
  exact keepsTo_upToBrace inTokens .nil .cons (keepsTo_read atFinish tokens inTokens)
    fun rest _ inRest => keepsTo_readAll atFinish rest inRest
termination_by (tokens.length, 2)

end

end Stmt

/-! ## Members of structs -/

/-- Something holds of the places of all nodes of the blocks of an accessor. -/
def AccessorBlocks.StandWithin (within : Position → Prop) (blocks : AccessorBlocks) : Prop :=
  (∀ body ∈ blocks.setBody?, body.StandsWithin within) ∧
    ∀ body ∈ blocks.getBody?, body.StandsWithin within

theorem keepsTo_readAccessorBlocks
    (atFinish : within finish.position) (blocks : AccessorBlocks)
    (ofBlocks : blocks.StandWithin within) (tokens : List Token)
    (inTokens : Token.AllWithin within tokens) :
    KeepsTo within (AccessorBlocks.StandWithin within)
      (readAccessorBlocks finish blocks tokens) := by
  match tokens with
  | [] =>
      rw [readAccessorBlocks.eq_def]
      exact .value ofBlocks inTokens
  | first :: others =>
      obtain ⟨isThere, inOthers⟩ := List.forall_mem_cons.mp inTokens
      rw [readAccessorBlocks.eq_def]
      dsimp only
      split
      · exact .value ofBlocks inTokens
      split
      · refine (Stmt.keepsTo_readBlock atFinish others inOthers).bind
          fun body rest _ ofBody inRest => ?_
        have ofMore : AccessorBlocks.StandWithin within ⟨some body, blocks.getBody?⟩ :=
          ⟨fun _ isBody => Option.some.inj isBody ▸ ofBody, ofBlocks.2⟩
        refine (keepsTo_readAccessorBlocks atFinish _ ofMore rest inRest).bind
          fun _ _ _ ofAll inEnd => ?_
        exact .value ofAll inEnd
      split
      · refine (Stmt.keepsTo_readBlock atFinish others inOthers).bind
          fun body rest _ ofBody inRest => ?_
        have ofMore : AccessorBlocks.StandWithin within ⟨blocks.setBody?, some body⟩ :=
          ⟨ofBlocks.1, fun _ isBody => Option.some.inj isBody ▸ ofBody⟩
        refine (keepsTo_readAccessorBlocks atFinish _ ofMore rest inRest).bind
          fun _ _ _ ofAll inEnd => ?_
        exact .value ofAll inEnd
      · exact isThere
termination_by tokens.length

theorem keepsTo_readAccessor
    {position : Position} {type : Ty} {name : Token} (atFinish : within finish.position)
    (isThere : within position) (atName : within name.position)
    (inTokens : Token.AllWithin within tokens) :
    KeepsTo within (Stmt.StandsWithin within)
      (readAccessor finish type name position tokens) := by
  have noBlocks : AccessorBlocks.StandWithin within ⟨none, none⟩ := ⟨nofun, nofun⟩
  refine (keepsTo_readParameters atFinish inTokens).bind
    fun parameters opened _ ofParameters inOpened => ?_
  refine (keepsTo_expect _ _ atFinish inOpened).bind fun _ inner _ _ inInner => ?_
  refine (keepsTo_readAccessorBlocks atFinish _ noBlocks inner inInner).bind
    fun blocks closed _ ofBlocks inClosed => ?_
  refine (keepsTo_expect _ _ atFinish inClosed).bind fun _ rest _ _ inRest => ?_
  dsimp only
  split
  case h_1 | h_2 => exact within_next atFinish inRest
  case h_3 setBody getBody isSet isGet =>
    exact .value (.accessor isThere ofParameters atName (ofBlocks.1 _ isSet)
      (ofBlocks.2 _ isGet)) inRest

theorem keepsTo_readMember
    (atFinish : within finish.position) (inTokens : Token.AllWithin within tokens) :
    KeepsTo within (Stmt.StandsWithin within) (readMember finish tokens) := by
  have isThere := within_next atFinish inTokens
  rw [readMember]
  split
  · refine (Ty.keepsTo_read atFinish tokens inTokens).bind fun type typed _ _ inTyped => ?_
    refine (keepsTo_expect _ _ atFinish inTyped).bind fun name named _ atName inNamed => ?_
    dsimp only
    split
    · refine (keepsTo_readAccessor atFinish isThere atName inNamed).bind
        fun member _ _ ofMember inRest => ?_
      exact .value ofMember inRest
    · refine (keepsTo_readNamesAfter atFinish _ atName inNamed).bind
        fun names _ _ inNames inRest => ?_
      exact .value (.declare isThere (variablesOfNames_within type inNames)) inRest
  · exact keepsTo_refuse (fun _ => rfl) atFinish inTokens

theorem keepsTo_readMembers
    (atFinish : within finish.position) (tokens : List Token)
    (inTokens : Token.AllWithin within tokens) :
    KeepsTo within (Stmt.AllStandWithin within) (readMembers finish tokens) := by
  rw [readMembers_eq]
  exact keepsTo_upToBrace inTokens .nil .cons (keepsTo_readMember atFinish inTokens)
    fun rest _ inRest => keepsTo_readMembers atFinish rest inRest
termination_by tokens.length

/-! ## Declarations -/

/-- Something holds of the places of all nodes of a struct declaration. -/
def StructDecl.StandsWithin (within : Position → Prop) (declaration : StructDecl) : Prop :=
  ∀ address, ∀ node ∈ declaration.nodes address, within node.position

/-- Something holds of the places of all nodes of a function declaration. -/
def FunctionDecl.StandsWithin (within : Position → Prop) (declaration : FunctionDecl) : Prop :=
  ∀ address, ∀ node ∈ declaration.nodes address, within node.position

/-- Something holds of the places of all nodes of a main declaration. -/
def MainDecl.StandsWithin (within : Position → Prop) (declaration : MainDecl) : Prop :=
  ∀ address, ∀ node ∈ declaration.nodes address, within node.position

theorem keepsTo_readStruct
    {position : Position} (atFinish : within finish.position) (isThere : within position)
    (inTokens : Token.AllWithin within tokens) :
    KeepsTo within (StructDecl.StandsWithin within) (readStruct finish position tokens) := by
  refine (keepsTo_expect _ _ atFinish inTokens).bind fun name opened _ _ inOpened => ?_
  refine (keepsTo_expect _ _ atFinish inOpened).bind fun opening inner _ atOpening inInner => ?_
  refine (keepsTo_readMembers atFinish inner inInner).bind
    fun members closed _ ofMembers inClosed => ?_
  refine (keepsTo_expect _ _ atFinish inClosed).bind fun _ _ _ _ inRest => ?_
  refine .value (fun address => ?_) inRest
  exact List.forall_mem_cons.mpr ⟨isThere, List.forall_mem_cons.mpr ⟨atOpening, ofMembers _ _⟩⟩

theorem keepsTo_readFunction
    {position : Position} (atFinish : within finish.position) (isThere : within position)
    (inTokens : Token.AllWithin within tokens) :
    KeepsTo within (FunctionDecl.StandsWithin within) (readFunction finish position tokens) := by
  refine (keepsTo_expect _ _ atFinish inTokens).bind fun name opened _ _ inOpened => ?_
  refine (keepsTo_readParameters atFinish inOpened).bind
    fun parameters closed _ ofParameters inClosed => ?_
  refine (Ty.keepsTo_read atFinish closed inClosed).bind fun result typed _ _ inTyped => ?_
  refine (Stmt.keepsTo_readBlock atFinish typed inTyped).bind fun body _ _ ofBody inRest => ?_
  refine .value (fun address => ?_) inRest
  exact List.forall_mem_cons.mpr
    ⟨isThere, List.forall_mem_append.mpr ⟨ofParameters.nodesOf _ _, ofBody _⟩⟩

theorem keepsTo_readMain
    {position : Position} (atFinish : within finish.position) (isThere : within position)
    (inTokens : Token.AllWithin within tokens) :
    KeepsTo within (MainDecl.StandsWithin within) (readMain finish position tokens) := by
  refine (Stmt.keepsTo_readBlock atFinish tokens inTokens).bind fun body _ _ ofBody inRest => ?_
  exact .value (fun address => List.forall_mem_cons.mpr ⟨isThere, ofBody _⟩) inRest

/-! ## Programs -/

namespace Program

/-- Something holds of the places of a program and of all that it declares. -/
structure StandsWithin (within : Position → Prop) (program : Program) : Prop where
  position : within program.position
  structs : ∀ declaration ∈ program.structs, declaration.StandsWithin within
  functions : ∀ declaration ∈ program.functions, declaration.StandsWithin within
  main : ∀ declaration ∈ program.main?, declaration.StandsWithin within

theorem StandsWithin.nodes
    {program : Program} (stands : program.StandsWithin within) :
    ∀ node ∈ program.nodes, within node.position := by
  refine List.forall_mem_cons.mpr ⟨stands.position, List.forall_mem_append.mpr
    ⟨List.forall_mem_append.mpr ⟨fun node isThere => ?_, fun node isThere => ?_⟩, ?_⟩⟩
  · obtain ⟨nodes, areNodes, isNode⟩ := List.mem_flatten.mp isThere
    obtain ⟨index, isBelow, rfl⟩ := List.mem_mapIdx.mp areNodes
    exact stands.structs _ (List.getElem_mem isBelow) _ node isNode
  · obtain ⟨nodes, areNodes, isNode⟩ := List.mem_flatten.mp isThere
    obtain ⟨index, isBelow, rfl⟩ := List.mem_mapIdx.mp areNodes
    exact stands.functions _ (List.getElem_mem isBelow) _ node isNode
  · cases isMain : program.main? with
    | none => exact List.forall_mem_nil _
    | some declaration => exact stands.main declaration isMain mainAddress

theorem StandsWithin.mono
    {program : Program} {weaker : Position → Prop} (stands : program.StandsWithin within)
    (weaken : ∀ place, within place → weaker place) : program.StandsWithin weaker where
  position := weaken _ stands.position
  structs declaration isThere address node isNode :=
    weaken _ (stands.structs declaration isThere address node isNode)
  functions declaration isThere address node isNode :=
    weaken _ (stands.functions declaration isThere address node isNode)
  main declaration isThere address node isNode :=
    weaken _ (stands.main declaration isThere address node isNode)

/-- What was read of a program keeps to places of which something holds. -/
def KeepsTo (within : Position → Prop) : Except ReadFailure Program → Prop
  | .ok program => program.StandsWithin within
  | .error failure => failure.KeepsTo within

theorem KeepsTo.bind
    {first : Reading alpha bound} {next : Parsed alpha bound → Except ReadFailure Program}
    (keeps : Reader.KeepsTo within isWithin first)
    (keepsNext : ∀ found rest shorter, isWithin found → Token.AllWithin within rest →
      KeepsTo within (next ⟨found, rest, shorter⟩)) :
    KeepsTo within (first >>= next) := by
  cases first with
  | ok parsed => exact keepsNext parsed.value parsed.rest parsed.rest_lt keeps.1 keeps.2
  | error => exact keeps

theorem keepsTo_readDeclarations
    (atFinish : within finish.position) (program : Program)
    (stands : program.StandsWithin within) (tokens : List Token)
    (inTokens : Token.AllWithin within tokens) :
    KeepsTo within (readDeclarations finish program tokens) := by
  match tokens with
  | [] =>
      rw [readDeclarations.eq_def]
      exact stands
  | first :: others =>
      obtain ⟨isThere, inOthers⟩ := List.forall_mem_cons.mp inTokens
      rw [readDeclarations.eq_def]
      dsimp only
      split
      · exact isThere
      split
      case h_1 =>
        refine KeepsTo.bind (keepsTo_readStruct atFinish isThere inOthers)
          fun declaration rest _ ofDeclaration inRest => ?_
        have more : StandsWithin within
            { program with structs := program.structs ++ [declaration] } :=
          ⟨stands.position, List.forall_mem_append.mpr
            ⟨stands.structs, List.forall_mem_singleton.mpr ofDeclaration⟩,
            stands.functions, stands.main⟩
        exact keepsTo_readDeclarations atFinish _ more rest inRest
      case h_2 =>
        refine KeepsTo.bind (keepsTo_readFunction atFinish isThere inOthers)
          fun declaration rest _ ofDeclaration inRest => ?_
        have more : StandsWithin within
            { program with functions := program.functions ++ [declaration] } :=
          ⟨stands.position, stands.structs, List.forall_mem_append.mpr
            ⟨stands.functions, List.forall_mem_singleton.mpr ofDeclaration⟩, stands.main⟩
        exact keepsTo_readDeclarations atFinish _ more rest inRest
      case h_3 =>
        refine KeepsTo.bind (keepsTo_readMain atFinish isThere inOthers)
          fun declaration rest _ ofDeclaration inRest => ?_
        have more : StandsWithin within { program with main? := some declaration } :=
          ⟨stands.position, stands.structs, stands.functions,
            fun _ isMain => Option.some.inj isMain ▸ ofDeclaration⟩
        exact keepsTo_readDeclarations atFinish _ more rest inRest
      case h_4 => exact isThere
termination_by tokens.length

theorem keepsTo_read
    (atFinish : within finish.position) (inTokens : Token.AllWithin within tokens) :
    KeepsTo within (read finish tokens) := by
  have nothing : StandsWithin within ⟨[], [], none, (next finish tokens).position⟩ :=
    ⟨within_next atFinish inTokens, List.forall_mem_nil _, List.forall_mem_nil _, nofun⟩
  have keeps := keepsTo_readDeclarations atFinish _ nothing tokens inTokens
  rw [read]
  cases result : readDeclarations finish ⟨[], [], none, (next finish tokens).position⟩ tokens with
  | error failure =>
      rw [result] at keeps
      exact keeps
  | ok program =>
      rw [result] at keeps
      change KeepsTo within (if program.main?.isNone then _ else _)
      split
      · exact atFinish
      · exact keeps

/-- The nodes of a program stand where its tokens do, and so does the fault for want of a
program. -/
theorem keepsTo_ofTokens
    (inTokens : Token.AllWithin within tokens) (hasEnd : ∃ token ∈ tokens, token.kind = .finish) :
    KeepsTo within (ofTokens tokens) := by
  rw [ofTokens]
  split
  case h_1 isEmpty =>
    obtain ⟨token, isThere, isEnd⟩ := hasEnd
    have noEnd := List.dropWhile_eq_nil_iff.mp isEmpty token isThere
    simp [isEnd] at noEnd
  case h_2 finish others isRest =>
    have inRest : Token.AllWithin within (finish :: others) := fun token isThere =>
      inTokens token ((List.dropWhile_suffix _).subset (isRest ▸ isThere))
    have inFront : Token.AllWithin within (tokens.takeWhile (·.kind != .finish)) :=
      fun token isThere => inTokens token ((List.takeWhile_prefix _).subset isThere)
    exact keepsTo_read (inRest finish List.mem_cons_self) inFront

end Program

end StructLang
