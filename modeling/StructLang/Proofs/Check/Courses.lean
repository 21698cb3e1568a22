import StructLang.Proofs.Check.Course

/-!
# The courses of all parts of a check

Each part of a check has a course that does the same acts in the same order. A visit that
completes therefore leaves the scopes that it entered, wherever it started.
-/

namespace StructLang

open Course

/-! ## Expressions -/

namespace Expr

mutual

/-- The course of the check of an expression. -/
def course (address : Address) : Expr → Course Ty
  | .integer _ position => settle address position (.type .int)
  | .boolean _ position => settle address position (.type .bool)
  | .name called position => do
      let state ← look
      settle address position (Rule.name state.scopes state.withoutResult called)
  | .group items position => do
      let types ← courseAll address 0 items
      settle address position (Rule.group types)
  | .binary left operator right position => do
      let leftType ← course (0 :: address) left
      let rightType ← course (1 :: address) right
      match Rule.binary? operator leftType rightType with
      | some verdict => settle address position verdict
      | none => fail (.unknownOperator operator)
  | .unary operator operand position => do
      let operandType ← course (0 :: address) operand
      match Rule.unary? operator operandType with
      | some verdict => settle address position verdict
      | none => fail .missingOperator
  | .index list place position => do
      let listType ← course (0 :: address) list
      let placeType ← course (1 :: address) place
      settle address position (Rule.index listType placeType)
  | .member owner called position => do
      let ownerType ← course (0 :: address) owner
      settle address position (Rule.member (← look).scopes ownerType called)
  | .size list position => do
      let listType ← course (0 :: address) list
      settle address position (Rule.size listType)
  | .append list element position => do
      let listType ← course (0 :: address) list
      let elementType ← course (1 :: address) element
      settle address position (Rule.append listType elementType)
  | .call callee arguments position => do
      let calleeType ← course (0 :: address) callee
      let argumentTypes ← courseAll (1 :: address) 0 arguments
      settle address position (Rule.call calleeType argumentTypes)
  | .stray node => fail (.unexpectedExpression node.kind node.position)
  | .absent => fail (.unexpectedExpression .absent .none)

/-- The course of the check of several expressions, numbered from an index on. -/
def courseAll (address : Address) (index : Nat) : List Expr → Course (List Ty)
  | [] => return []
  | head :: tail => do
      let headType ← course (index :: address) head
      let tailTypes ← courseAll address (index + 1) tail
      return headType :: tailTypes

end

mutual

theorem run_course
    (address : Address) :
    (expression : Expr) → (expression.course address).run = expression.check address
  | .integer _ position => run_settle address position _
  | .boolean _ position => run_settle address position _
  | .name called position => by
      simp only [course, check, run_bind, run_look, run_settle]
  | .group items position => by
      simp only [course, check, run_bind, run_settle, run_courseAll]
  | .binary left operator right position => by
      simp only [course, check, run_bind, run_course]
      congr; funext leftType; congr; funext rightType
      cases Rule.binary? operator leftType rightType with
      | some verdict => exact run_settle address position verdict
      | none => rfl
  | .unary operator operand position => by
      simp only [course, check, run_bind, run_course]
      congr; funext operandType
      cases Rule.unary? operator operandType with
      | some verdict => exact run_settle address position verdict
      | none => rfl
  | .index list place position => by
      simp only [course, check, run_bind, run_settle, run_course]
  | .member owner called position => by
      simp only [course, check, run_bind, run_look, run_settle, run_course]
  | .size list position => by
      simp only [course, check, run_bind, run_settle, run_course]
  | .append list element position => by
      simp only [course, check, run_bind, run_settle, run_course]
  | .call callee arguments position => by
      simp only [course, check, run_bind, run_settle, run_course, run_courseAll]
  | .stray _ => rfl
  | .absent => rfl

theorem run_courseAll
    (address : Address) (index : Nat) :
    (expressions : List Expr) →
      (courseAll address index expressions).run = checkAll address index expressions
  | [] => rfl
  | head :: tail => by
      simp only [courseAll, checkAll, run_bind, run_pure, run_course, run_courseAll]

end

end Expr

/-! ## Statements -/

namespace VariableDecl

/-- The course of the check of a declaration. -/
def course (address : Address) (declaration : VariableDecl) : Course Unit := do
  let scopes := (← look).scopes
  let complain (kind : DiagnosticKind) : Course Unit :=
    report kind address declaration.position [declaration.name]
  if (scopes.lookupRoot? ⟨.structs, declaration.name⟩).isSome then
    complain .variableStructConflict
  if (scopes.lookupRoot? ⟨.functions, declaration.name⟩).isSome then
    complain .variableFunctionConflict
  if !(← tryInsert (.ofVariable declaration.name declaration.type)) then
    complain .duplicateVariable

/-- The course of the check of a field. -/
def fieldCourse (address : Address) (declaration : VariableDecl) : Course Unit := do
  match declaration.type, (← look).currentStruct? with
  | .struct contained, some container =>
      note (.finding (.contained contained container))
  | _, _ => pure ()
  declaration.course address

/-- The course of the check of several declarations, numbered from an index on. -/
def courseAll (address : Address) (index : Nat) : List VariableDecl → Course Unit
  | [] => return
  | head :: tail => do
      head.course (index :: address)
      courseAll address (index + 1) tail

/-- The course of the check of several fields, numbered from an index on. -/
def fieldCourses (address : Address) (index : Nat) : List VariableDecl → Course Unit
  | [] => return
  | head :: tail => do
      head.fieldCourse (index :: address)
      fieldCourses address (index + 1) tail

theorem run_course
    (address : Address) (declaration : VariableDecl) :
    (declaration.course address).run = declaration.check address := by
  have puts :
      (do
        if !(← tryInsert (.ofVariable declaration.name declaration.type)) then
          report .duplicateVariable address declaration.position [declaration.name]).run =
      (do
        if !(← Check.tryInsert (.ofVariable declaration.name declaration.type)) then
          Check.report .duplicateVariable address declaration.position [declaration.name]) := by
    rw [run_bind, run_tryInsert]
    congr
    funext isNew
    cases isNew <;> rfl
  simp only [course, check, run_bind, run_look]
  congr
  funext state
  split <;> split <;> simp only [run_bind, puts, run_report]

theorem run_fieldCourse
    (address : Address) (declaration : VariableDecl) :
    (declaration.fieldCourse address).run = declaration.checkField address := by
  simp only [fieldCourse, checkField, run_bind, run_look]
  congr
  funext state
  split <;> simp only [run_bind, run_course, *]
  rfl

theorem run_courseAll
    (address : Address) (index : Nat) (declarations : List VariableDecl) :
    (courseAll address index declarations).run = checkAll address index declarations := by
  induction declarations generalizing index with
  | nil => rfl
  | cons head tail inductionHypothesis =>
      simp only [courseAll, checkAll, run_bind, run_course, inductionHypothesis]

theorem run_fieldCourses
    (address : Address) (index : Nat) (fields : List VariableDecl) :
    (fieldCourses address index fields).run = checkFields address index fields := by
  induction fields generalizing index with
  | nil => rfl
  | cons head tail inductionHypothesis =>
      simp only [fieldCourses, checkFields, run_bind, run_fieldCourse, inductionHypothesis]

end VariableDecl

namespace Stmt

/-- The course of the check of a statement that holds a value. -/
def valueCourse (address : Address) (position : Position) (expression : Expr)
    (fault? : Ty → Option DiagnosticKind) : Course Unit := do
  let type ← expression.course (0 :: address)
  match fault? type with
  | some kind => report kind address position []
  | none => pure ()

mutual

/-- The course of the check of a statement. -/
def course (address : Address) : Stmt → Course Unit
  | .absent => return
  | .block statements _ => courseAll address 0 statements
  | .declare declared _ => VariableDecl.courseAll address 0 declared
  | .assign target value position => do
      let targetType ← target.course (0 :: address)
      let valueType ← value.course (1 :: address)
      discard (settle address position (Rule.binaryOp .assign targetType valueType))
  | .branch condition thenBody elseBody position => do
      inNewScope do
        valueCourse address position condition Rule.condition?
        course (1 :: address) thenBody
      match elseBody with
      | .absent => pure ()
      | otherBody => inNewScope (course (2 :: address) otherBody)
  | .loop condition body position => do
      valueCourse address position condition Rule.condition?
      course (1 :: address) body
  | .display argument position => valueCourse address position argument Rule.display?
  | .append expression _ => discard (expression.course (0 :: address))
  | .size expression _ => discard (expression.course (0 :: address))
  | .call expression _ => discard (expression.course (0 :: address))
  | .giveBack none _ => return
  | .giveBack (some value) _ => discard (value.course (0 :: address))
  | .accessor _ _ _ _ _ _ position => fail (.unexpectedStatement .accessorDecl position)
  | .stray node => fail (.unexpectedStatement node.kind node.position)

/-- The course of the check of several statements, numbered from an index on. -/
def courseAll (address : Address) (index : Nat) : List Stmt → Course Unit
  | [] => return
  | head :: tail => do
      course (index :: address) head
      courseAll address (index + 1) tail

end

theorem run_valueCourse
    (address : Address) (position : Position) (expression : Expr)
    (fault? : Ty → Option DiagnosticKind) :
    (valueCourse address position expression fault?).run =
      checkValue address position expression fault? := by
  simp only [valueCourse, checkValue, run_bind, Expr.run_course]
  congr
  funext type
  cases fault? type <;> rfl

mutual

theorem run_course
    (address : Address) :
    (statement : Stmt) → (statement.course address).run = statement.check address
  | .absent => rfl
  | .block statements _ => by
      simp only [course, check, run_courseAll]
  | .declare declared _ => by
      simp only [course, check, VariableDecl.run_courseAll]
  | .assign target value position => by
      simp only [course, check, run_bind, run_discard, run_settle, Expr.run_course]
  | .branch condition thenBody elseBody position => by
      have runsElse := run_course (2 :: address) elseBody
      rw [course.eq_def, check.eq_def]
      simp only [run_bind, run_inNewScope, run_valueCourse, run_course (1 :: address) thenBody]
      congr
      funext _
      split
      · rfl
      · simp only [run_inNewScope, runsElse]
  | .loop condition body position => by
      simp only [course, check, run_bind, run_valueCourse, run_course]
  | .display argument position => by
      simp only [course, check, run_valueCourse]
  | .append expression _ => by
      simp only [course, check, run_discard, Expr.run_course]
  | .size expression _ => by
      simp only [course, check, run_discard, Expr.run_course]
  | .call expression _ => by
      simp only [course, check, run_discard, Expr.run_course]
  | .giveBack none _ => by
      simp only [course, check, run_pure]
  | .giveBack (some value) _ => by
      simp only [course, check, run_discard, Expr.run_course]
  | .accessor .. => rfl
  | .stray _ => rfl

theorem run_courseAll
    (address : Address) (index : Nat) :
    (statements : List Stmt) →
      (courseAll address index statements).run = checkAll address index statements
  | [] => rfl
  | head :: tail => by
      simp only [courseAll, checkAll, run_bind, run_course, run_courseAll]

end

end Stmt

/-! ## Declarations -/

/-- The course of putting in the entry of a declaration, under a made-up name if its own is
taken. -/
def declareCourse (kind : DiagnosticKind) (address : Address) (position : Position)
    (entry : Entry) : Course String := do
  if ← tryInsert entry then return entry.name
  else
    report kind address position [entry.name]
    let name := s!"{← nextRename}@"
    insertRenamed address name entry
    return name

theorem run_declareCourse
    (kind : DiagnosticKind) (address : Address) (position : Position) (entry : Entry) :
    (declareCourse kind address position entry).run = declare kind address position entry := by
  simp only [declareCourse, declare, run_bind, run_tryInsert]
  congr
  funext isNew
  cases isNew with
  | true => rfl
  | false =>
      simp only [Bool.false_eq_true, if_false, run_bind, run_pure, run_report, run_nextRename,
        run_insertRenamed]

namespace StructDecl

/-- The course of the declaration of a struct. -/
def declareCourse (address : Address) (declaration : StructDecl) : Course Unit := do
  let entry := Entry.ofStruct declaration.name (← create none)
  let name ← StructLang.declareCourse .duplicateStruct address declaration.position entry
  note (.finding (.containing name))

/-- The course of the declaration of structs, numbered from an index on. -/
def declareCourses (index : Nat) : List StructDecl → Course Unit
  | [] => return
  | head :: tail => do
      head.declareCourse (Program.structAddress index)
      declareCourses (index + 1) tail

theorem run_declareCourse
    (address : Address) (declaration : StructDecl) :
    (declaration.declareCourse address).run = declaration.declare address := by
  simp only [declareCourse, declare, run_bind, run_create, StructLang.run_declareCourse]
  rfl

theorem run_declareCourses
    (index : Nat) (structs : List StructDecl) :
    (declareCourses index structs).run = declareAll index structs := by
  induction structs generalizing index with
  | nil => rfl
  | cons head tail inductionHypothesis =>
      simp only [declareCourses, declareAll, run_bind, run_declareCourse, inductionHypothesis]

end StructDecl

namespace FunctionDecl

/-- The course of the declaration of a function. -/
def declareCourse (address : Address) (declaration : FunctionDecl) : Course Unit := do
  if ((← look).scopes.lookupRoot? ⟨.structs, declaration.name⟩).isSome then
    report .functionStructConflict address declaration.position [declaration.name]
  let entry := Entry.ofFunction declaration.name declaration.result declaration.parameters
    (← create none) (some address)
  discard (StructLang.declareCourse .duplicateFunction address declaration.position entry)

/-- The course of the declaration of functions, numbered from an index on. -/
def declareCourses (index : Nat) : List FunctionDecl → Course Unit
  | [] => return
  | head :: tail => do
      head.declareCourse (Program.functionAddress index)
      declareCourses (index + 1) tail

theorem run_declareCourse
    (address : Address) (declaration : FunctionDecl) :
    (declaration.declareCourse address).run = declaration.declare address := by
  simp only [declareCourse, declare, run_bind, run_look]
  congr
  funext state
  split <;>
    simp only [run_bind, run_report, run_create, run_discard, StructLang.run_declareCourse]

theorem run_declareCourses
    (index : Nat) (functions : List FunctionDecl) :
    (declareCourses index functions).run = declareAll index functions := by
  induction functions generalizing index with
  | nil => rfl
  | cons head tail inductionHypothesis =>
      simp only [declareCourses, declareAll, run_bind, run_declareCourse, inductionHypothesis]

end FunctionDecl

/-! ## Members of structs -/

namespace Stmt

/-- The course of the declaration of a member. -/
def declareCourse (address : Address) : Stmt → Course Unit
  | .declare declared _ => VariableDecl.fieldCourses address 0 declared
  | .accessor name type parameters field _ _ _ => do
      field.fieldCourse (1 :: address)
      let entry := Entry.ofFunction name type parameters (← create none) none
      if !(← tryInsert entry) then
        insertRenamed address s!"{name}@{← nextRename}" entry
  | .absent => fail .missingMember
  | other => fail (.unexpectedMember other.kind other.position)

/-- The course of binding an accessor, in the state in which it starts. -/
def bindAccessor (address : Address) (name : String) (parameters : List VariableDecl)
    (state : CheckState) : Course Unit := do
  let key : Key := ⟨.functions, state.nameAt address name⟩
  match state.scopes.lookupHere? key, state.scopes.top? with
  | some (.ofFunction _ _ _ scope _), some structScope =>
      enclose scope structScope
      inside scope (VariableDecl.courseAll (0 :: address) 0 parameters)
  | _, _ => return

/-- The course of binding a member. -/
def bindCourse (address : Address) : Stmt → Course Unit
  | .accessor name _ parameters _ _ _ _ => do bindAccessor address name parameters (← look)
  | _ => return

/-- The course of the declaration of members, numbered from an index on. -/
def declareCourses (address : Address) (index : Nat) : List Stmt → Course Unit
  | [] => return
  | head :: tail => do
      head.declareCourse (index :: address)
      declareCourses address (index + 1) tail

/-- The course of binding members, numbered from an index on. -/
def bindCourses (address : Address) (index : Nat) : List Stmt → Course Unit
  | [] => return
  | head :: tail => do
      head.bindCourse (index :: address)
      bindCourses address (index + 1) tail

theorem run_declareCourse
    (address : Address) (member : Stmt) :
    (member.declareCourse address).run = member.declareMember address := by
  cases member with
  | declare declared =>
      simp only [declareCourse, declareMember, VariableDecl.run_fieldCourses]
  | accessor name type parameters field =>
      simp only [declareCourse, declareMember, run_bind, run_create, run_tryInsert,
        VariableDecl.run_fieldCourse]
      congr
      funext _
      congr
      funext scope
      congr
      funext isNew
      cases isNew with
      | true => rfl
      | false =>
          simp only [Bool.not_false, if_true, run_bind, run_nextRename, run_insertRenamed]
  | _ => rfl

theorem run_bindCourse
    (address : Address) (member : Stmt) :
    (member.bindCourse address).run = member.bindMember address := by
  cases member with
  | accessor name type parameters =>
      simp only [bindCourse, bindAccessor, bindMember, run_bind, run_look]
      congr
      funext state
      split <;>
        simp only [run_bind, run_inside, run_pure, run_enclose, VariableDecl.run_courseAll, *]
  | _ => rfl

theorem run_declareCourses
    (address : Address) (index : Nat) (members : List Stmt) :
    (declareCourses address index members).run = declareMembers address index members := by
  induction members generalizing index with
  | nil => rfl
  | cons head tail inductionHypothesis =>
      simp only [declareCourses, declareMembers, run_bind, run_declareCourse,
        inductionHypothesis]

theorem run_bindCourses
    (address : Address) (index : Nat) (members : List Stmt) :
    (bindCourses address index members).run = bindMembers address index members := by
  induction members generalizing index with
  | nil => rfl
  | cons head tail inductionHypothesis =>
      simp only [bindCourses, bindMembers, run_bind, run_bindCourse, inductionHypothesis]

end Stmt

namespace StructDecl

/-- The course of all members of a struct, inside its scope. -/
def membersCourse (address : Address) (declaration : StructDecl) : Course Unit := do
  Stmt.declareCourses (0 :: address) 0 declaration.members
  Stmt.bindCourses (0 :: address) 0 declaration.members

/-- The course of the check of a struct. -/
def course (address : Address) (declaration : StructDecl) : Course Unit := do
  let state ← look
  let name := state.nameAt address declaration.name
  match state.scopes.lookupRoot? ⟨.structs, name⟩ with
  | some (.ofStruct _ scope) =>
      inside scope do
        note (.current (some name))
        inside scope (declaration.membersCourse address)
        note (.current none)
  | _ => return

/-- The course of the check of structs, numbered from an index on. -/
def courseAll (index : Nat) : List StructDecl → Course Unit
  | [] => return
  | head :: tail => do
      head.course (Program.structAddress index)
      courseAll (index + 1) tail

theorem run_membersCourse
    (address : Address) (declaration : StructDecl) :
    (declaration.membersCourse address).run =
      (do
        Stmt.declareMembers (0 :: address) 0 declaration.members
        Stmt.bindMembers (0 :: address) 0 declaration.members) := by
  simp only [membersCourse, run_bind, Stmt.run_declareCourses, Stmt.run_bindCourses]

theorem run_course
    (address : Address) (declaration : StructDecl) :
    (declaration.course address).run = declaration.check address := by
  simp only [course, check, run_bind, run_look]
  congr
  funext state
  split <;> simp only [run_bind, run_inside, run_pure, run_note, run_membersCourse, *]
  rfl

theorem run_courseAll
    (index : Nat) (structs : List StructDecl) :
    (courseAll index structs).run = checkAll index structs := by
  induction structs generalizing index with
  | nil => rfl
  | cons head tail inductionHypothesis =>
      simp only [courseAll, checkAll, run_bind, run_course, inductionHypothesis]

end StructDecl

/-! ## Bodies -/

namespace FunctionDecl

/-- The course of the check of a result type. -/
def resultCourse (address : Address) (declaration : FunctionDecl) : Course Unit := do
  match declaration.result with
  | .struct name =>
      if ((← look).scopes.lookupRoot? ⟨.structs, name⟩).isNone then
        report .structNotDeclared address declaration.position [name]
        note (.finding (.resultLost address))
  | _ => return

/-- The course of the check of a function. -/
def course (address : Address) (declaration : FunctionDecl) : Course Unit := do
  let state ← look
  let key : Key := ⟨.functions, state.nameAt address declaration.name⟩
  match state.scopes.lookupRoot? key with
  | some (.ofFunction _ _ _ scope _) =>
      inside scope do
        declaration.body.course (1 :: address)
        VariableDecl.courseAll (0 :: address) 0 declaration.parameters
        declaration.resultCourse address
  | _ => return

/-- The course of the check of functions, numbered from an index on. -/
def courseAll (index : Nat) : List FunctionDecl → Course Unit
  | [] => return
  | head :: tail => do
      inNewScope (head.course (Program.functionAddress index))
      courseAll (index + 1) tail

theorem run_resultCourse
    (address : Address) (declaration : FunctionDecl) :
    (declaration.resultCourse address).run = declaration.checkResult address := by
  rw [resultCourse, checkResult]
  cases declaration.result with
  | struct name =>
      simp only [run_bind, run_look]
      congr
      funext state
      split <;> rfl
  | _ => rfl

theorem run_course
    (address : Address) (declaration : FunctionDecl) :
    (declaration.course address).run = declaration.check address := by
  simp only [course, check, run_bind, run_look]
  congr
  funext state
  split <;> simp only [run_bind, run_inside, run_pure, run_resultCourse, Stmt.run_course,
    VariableDecl.run_courseAll, *]

theorem run_courseAll
    (index : Nat) (functions : List FunctionDecl) :
    (courseAll index functions).run = checkAll index functions := by
  induction functions generalizing index with
  | nil => rfl
  | cons head tail inductionHypothesis =>
      simp only [courseAll, checkAll, run_bind, run_inNewScope, run_course,
        inductionHypothesis]

end FunctionDecl

namespace MainDecl

/-- The course of the check of the main body. -/
def course (declaration : MainDecl) : Course Unit :=
  inNewScope do
    let scope ← create (← look).root?
    inside scope (declaration.body.course (0 :: Program.mainAddress))

theorem run_course
    (declaration : MainDecl) : declaration.course.run = declaration.check := by
  simp only [course, check, run_inNewScope, run_bind, run_look, run_create, run_inside,
    Stmt.run_course]

end MainDecl

/-! ## Programs -/

namespace Program

/-- The course of the report of every struct that contains itself. -/
def containmentCourse (program : Program) : Course Unit := do
  let state ← look
  state.containment.cyclicNodes.forM fun name =>
    match program.structKnownAs? state name with
    | some (address, position) => report .cyclicDependency address position [name]
    | none => reportNowhere .cyclicDependency [name]

/-- The course of the check of a program inside its outermost scope. -/
def partsCourse (program : Program) : Course Unit := do
  StructDecl.declareCourses 0 program.structs
  FunctionDecl.declareCourses 0 program.functions
  StructDecl.courseAll 0 program.structs
  program.containmentCourse
  FunctionDecl.courseAll 0 program.functions
  match program.main? with
  | some main => main.course
  | none => return

/-- The course of the check of a program, once all that an earlier check left behind is
forgotten. -/
def course (program : Program) : Course Unit := do
  let root ← create none
  note (.root root)
  inside root program.partsCourse

theorem run_containmentCourse
    (program : Program) : program.containmentCourse.run = program.checkContainment := by
  simp only [containmentCourse, checkContainment, run_bind, run_look]
  congr
  funext state
  rw [run_forM]
  congr
  funext name
  cases program.structKnownAs? state name <;> rfl

theorem run_partsCourse
    (program : Program) : program.partsCourse.run = program.checkParts := by
  simp only [partsCourse, checkParts, run_bind, StructDecl.run_declareCourses,
    FunctionDecl.run_declareCourses, StructDecl.run_courseAll, run_containmentCourse,
    FunctionDecl.run_courseAll]
  cases program.main? with
  | none => rfl
  | some declaration => simp only [MainDecl.run_course]

/-- A check forgets what was found before and then takes its course. -/
theorem check_eq
    (program : Program) : program.check = Check.reset >>= fun _ => program.course.run := by
  simp only [course, check, run_bind, run_create, run_note, run_inside, run_partsCourse]
  rfl

end Program

end StructLang
