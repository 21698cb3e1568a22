import StructLang.Program.Read

/-!
# A cursor over tokens

Another way to read a program keeps all its tokens and moves a cursor over them. What is read is a
task: a construct of the language, or a further round of a repetition, which is given what was read
before. A plan says how a task is done: it looks at tokens at the cursor and behind it, moves the
cursor over a token, and asks for other tasks. A token that marks an end keeps the cursor where it
stands, and behind the last token that token is seen again.

- `Plan` : what is done from where the cursor stands.
- `Task` : what a plan can ask for.
- `Task.rank` : what orders tasks that start at one place.
-/

namespace StructLang.Cursor

/-! ## Tasks -/

/-- What is read at a cursor. -/
inductive Task
  | type
  | functionPointer
  | moreTypes
  | parameters
  | parameter
  | moreParameters
  | expression
  | level (precedence : Precedence)
  | operations (precedence : Precedence) (left : Expr)
  | unary
  | suffixed
  | suffixes (operand : Expr)
  | afterDot (owner : Expr) (called : String)
  | moreExpressions
  | primary
  | block
  | statements
  | statement
  | declaration
  | moreNames (thing : NamedThing)
  | branch
  | loop
  | display
  | giveBack
  | simple
  | struct
  | members
  | member
  | accessor (type : Ty) (name : Token) (position : Position)
  | accessorBlocks (blocks : AccessorBlocks)
  | function
  | main
  | declarations (program : Program)
  | program

namespace Task

/-- What is given when a task is done. -/
abbrev Result : Task → Type
  | type | functionPointer => Ty
  | moreTypes => List Ty
  | parameters | moreParameters => List VariableDecl
  | parameter => VariableDecl
  | expression | level _ | operations _ _ | unary | suffixed | suffixes _ | afterDot _ _ |
      primary => Expr
  | moreExpressions => List Expr
  | block | statement | declaration | branch | loop | display | giveBack | simple | member |
      accessor _ _ _ => Stmt
  | statements | members => List Stmt
  | moreNames _ => List Token
  | struct => StructDecl
  | accessorBlocks _ => AccessorBlocks
  | function => FunctionDecl
  | main => MainDecl
  | declarations _ | program => Program

/-- Whether a task takes a token whenever it is done. A further round of a repetition may take none,
nor need what follows a dot and a name. -/
def takes : Task → Bool
  | moreTypes | moreParameters | operations _ _ | suffixes _ | afterDot _ _ | moreExpressions |
      statements | moreNames _ | members | accessorBlocks _ | declarations _ | program => false
  | _ => true

/-- The rank of a task, which is higher than that of what it asks for before it takes a token. -/
def rank : Task → Nat
  | functionPointer | moreTypes | moreParameters | operations _ _ | suffixes _ | afterDot _ _ |
      moreExpressions | primary | moreNames _ | accessorBlocks _ | block => 0
  | type | suffixed => 1
  | parameter | unary => 2
  | level precedence => precedence.rank + 3
  | expression => 9
  | simple | declaration | display | giveBack | branch | loop | parameters => 10
  | statement | accessor _ _ _ => 11
  | member | statements => 12
  | members | struct | function | main => 13
  | declarations _ => 14
  | program => 15

end Task

/-! ## Plans -/

/-- What is done from where a cursor stands, up to a value or a failure. -/
inductive Plan (value : Type)
  | give (found : value)
  | fail (failure : ReadFailure)
  | peek (offset : Nat) (next : Token → Plan value)
  | advance (next : Token → Plan value)
  | call (task : Task) (next : task.Result → Plan value)

namespace Plan

variable {alpha beta : Type}

/-- One plan, and another one after it for the value that it gives. -/
def andThen (plan : Plan alpha) (next : alpha → Plan beta) : Plan beta :=
  match plan with
  | give found => next found
  | fail failure => fail failure
  | peek offset following => peek offset fun token => (following token).andThen next
  | advance following => advance fun token => (following token).andThen next
  | call task following => call task fun found => (following found).andThen next

instance : Monad Plan where
  pure := give
  bind := andThen

theorem andThen_give
    (plan : Plan alpha) : plan.andThen give = plan := by
  induction plan with
  | give | fail => rfl
  | peek | advance | call => simp only [andThen, *]

theorem andThen_andThen
    {gamma : Type} (plan : Plan alpha) (next : alpha → Plan beta) (last : beta → Plan gamma) :
    (plan.andThen next).andThen last = plan.andThen fun found => (next found).andThen last := by
  induction plan with
  | give | fail => rfl
  | peek | advance | call => simp only [andThen, *]

instance : LawfulMonad Plan :=
  LawfulMonad.mk' Plan andThen_give (fun _ _ => rfl) andThen_andThen

/-- Looks at the token where the cursor stands. -/
def look : Plan Token :=
  peek 0 give

/-- Looks at the token behind the one where the cursor stands. -/
def lookFurther : Plan Token :=
  peek 1 give

/-- Moves the cursor over a token. -/
def take : Plan Token :=
  advance give

/-- Asks for a task. -/
def ask (task : Task) : Plan task.Result :=
  call task give

/-- Refuses a token. -/
def refuse (fault : ReadFault) : Plan alpha :=
  fail (.grammar fault)

/-- Takes a token if it is of a kind. -/
def accept (kind : TokenKind) : Plan (Option Token) := do
  let token ← look
  if token.kind = kind then
    let taken ← take
    return some taken
  else
    return none

/-- Takes a token, which must be of a kind. -/
def expect (wanted : Wanted) (kind : TokenKind) : Plan Token := do
  let token ← look
  if token.kind = kind then take
  else refuse (.expected wanted token)

/-- Takes a token, which must be a certain mark or word. -/
def expectMark (kind : TokenKind) : Plan Token :=
  expect (.token kind) kind

/-- Takes a token, which must be a name. -/
def expectName (thing : NamedThing) : Plan Token :=
  expect (.name thing) .identifier

/-- Whether two tokens in a row are of two kinds. The second one is looked at only if the first one
is of its kind. -/
def startsWithTwo (first second : TokenKind) : Plan Bool := do
  let token ← look
  if token.kind = first then
    let further ← lookFurther
    return further.kind == second
  else
    return false

/-- Further items, each after a comma. -/
def more (item : Plan alpha) (further : Plan (List alpha)) : Plan (List alpha) := do
  match ← accept .comma with
  | none => return []
  | some _ =>
      let head ← item
      let tail ← further
      return head :: tail

/-- Items up to a closing brace or an end. -/
def upToBrace (item : Plan alpha) (further : Plan (List alpha)) : Plan (List alpha) := do
  let first ← look
  if first.kind = .rightBrace ∨ first.kind = .finish then return []
  else
    let head ← item
    let tail ← further
    return head :: tail

end Plan

end StructLang.Cursor
