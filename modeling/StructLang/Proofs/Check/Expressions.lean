import StructLang.Expr.Check
import StructLang.Proofs.Check.Trace
import StructLang.Proofs.Written

/-!
# What the check of an expression finds

An expression sees of its surroundings only what names and members mean there. From that alone it
gets its type and its findings: those of its parts from left to right, and then its own.
-/

namespace StructLang

open Check

/-- What an expression sees of the program around it. -/
structure Surroundings where
  name : String → Verdict
  member : Ty → String → Verdict

/-- What an expression sees that is checked in a state. -/
def CheckState.surroundings (state : CheckState) : Surroundings :=
  ⟨Rule.name state.scopes state.withoutResult, Rule.member state.scopes⟩

theorem CheckState.surroundings_settled
    (state : CheckState) (address : Address) (position : Position) (verdict : Verdict) :
    (state.notingAll (Finding.settled address position verdict)).surroundings =
      state.surroundings := by
  cases verdict <;> rfl

namespace Expr

mutual

/-- What the rules say of an expression. -/
def verdict (around : Surroundings) : Expr → Verdict
  | .integer .. => .type .int
  | .boolean .. => .type .bool
  | .name called _ => around.name called
  | .group items _ => Rule.group (typesOf around items)
  | .binary left operator right _ =>
      (Rule.binary? operator (verdict around left).ty (verdict around right).ty).getD
        (.type .unknown)
  | .unary operator operand _ =>
      (Rule.unary? operator (verdict around operand).ty).getD (.type .unknown)
  | .index list place _ => Rule.index (verdict around list).ty (verdict around place).ty
  | .member owner called _ => around.member (verdict around owner).ty called
  | .size list _ => Rule.size (verdict around list).ty
  | .append list element _ => Rule.append (verdict around list).ty (verdict around element).ty
  | .call callee arguments _ => Rule.call (verdict around callee).ty (typesOf around arguments)
  | .stray _ | .absent => .type .unknown

/-- The types of several expressions. -/
def typesOf (around : Surroundings) : List Expr → List Ty
  | [] => []
  | head :: tail => (verdict around head).ty :: typesOf around tail

end

/-- The type of an expression. -/
def typeIn (around : Surroundings) (expression : Expr) : Ty := (expression.verdict around).ty

/-- What is found at an expression itself. -/
def ownFindings (around : Surroundings) (address : Address) (expression : Expr) :
    List Finding :=
  Finding.settled address expression.position (expression.verdict around)

mutual

/-- What is found at an expression and below it. -/
def findings (around : Surroundings) (address : Address) : Expr → List Finding
  | .integer value position => ownFindings around address (.integer value position)
  | .boolean value position => ownFindings around address (.boolean value position)
  | .name called position => ownFindings around address (.name called position)
  | .group items position =>
      findingsOf around address 0 items ++ ownFindings around address (.group items position)
  | .binary left operator right position =>
      findings around (0 :: address) left ++
        (findings around (1 :: address) right ++
          ownFindings around address (.binary left operator right position))
  | .unary operator operand position =>
      findings around (0 :: address) operand ++
        ownFindings around address (.unary operator operand position)
  | .index list place position =>
      findings around (0 :: address) list ++
        (findings around (1 :: address) place ++
          ownFindings around address (.index list place position))
  | .member owner called position =>
      findings around (0 :: address) owner ++
        ownFindings around address (.member owner called position)
  | .size list position =>
      findings around (0 :: address) list ++ ownFindings around address (.size list position)
  | .append list element position =>
      findings around (0 :: address) list ++
        (findings around (1 :: address) element ++
          ownFindings around address (.append list element position))
  | .call callee arguments position =>
      findings around (0 :: address) callee ++
        (findingsOf around (1 :: address) 0 arguments ++
          ownFindings around address (.call callee arguments position))
  | .stray _ | .absent => []

/-- What is found at several expressions, numbered from an index on, and below them. -/
def findingsOf (around : Surroundings) (address : Address) (index : Nat) :
    List Expr → List Finding
  | [] => []
  | head :: tail =>
      findings around (index :: address) head ++ findingsOf around address (index + 1) tail

end

/-! ## The parts of an expression -/

mutual

/-- An expression and all below it with their addresses, in the order in which the check is done
with them. What is stray or missing is no part. -/
def parts (address : Address) : Expr → List (Address × Expr)
  | .integer value position => [(address, .integer value position)]
  | .boolean value position => [(address, .boolean value position)]
  | .name called position => [(address, .name called position)]
  | .group items position => partsOf address 0 items ++ [(address, .group items position)]
  | .binary left operator right position =>
      parts (0 :: address) left ++
        (parts (1 :: address) right ++ [(address, .binary left operator right position)])
  | .unary operator operand position =>
      parts (0 :: address) operand ++ [(address, .unary operator operand position)]
  | .index list place position =>
      parts (0 :: address) list ++
        (parts (1 :: address) place ++ [(address, .index list place position)])
  | .member owner called position =>
      parts (0 :: address) owner ++ [(address, .member owner called position)]
  | .size list position => parts (0 :: address) list ++ [(address, .size list position)]
  | .append list element position =>
      parts (0 :: address) list ++
        (parts (1 :: address) element ++ [(address, .append list element position)])
  | .call callee arguments position =>
      parts (0 :: address) callee ++
        (partsOf (1 :: address) 0 arguments ++ [(address, .call callee arguments position)])
  | .stray _ | .absent => []

/-- Several expressions and all below them, numbered from an index on. -/
def partsOf (address : Address) (index : Nat) : List Expr → List (Address × Expr)
  | [] => []
  | head :: tail => parts (index :: address) head ++ partsOf address (index + 1) tail

end

mutual

/-- What is found at an expression and below it is what is found at its parts. -/
theorem findings_eq
    (around : Surroundings) (address : Address) :
    (expression : Expr) →
      expression.findings around address =
        (expression.parts address).flatMap fun part => part.2.ownFindings around part.1
  | .integer .. | .boolean .. | .name .. => by simp [findings, parts]
  | .group items _ => by simp [findings, parts, findingsOf_eq around address 0 items]
  | .binary left _ right _ => by
      simp [findings, parts, findings_eq around _ left, findings_eq around _ right]
  | .unary _ operand _ => by simp [findings, parts, findings_eq around _ operand]
  | .index list place _ => by
      simp [findings, parts, findings_eq around _ list, findings_eq around _ place]
  | .member owner _ _ => by simp [findings, parts, findings_eq around _ owner]
  | .size list _ => by simp [findings, parts, findings_eq around _ list]
  | .append list element _ => by
      simp [findings, parts, findings_eq around _ list, findings_eq around _ element]
  | .call callee arguments _ => by
      simp [findings, parts, findings_eq around _ callee, findingsOf_eq around _ 0 arguments]
  | .stray _ | .absent => rfl

theorem findingsOf_eq
    (around : Surroundings) (address : Address) (index : Nat) :
    (expressions : List Expr) →
      findingsOf around address index expressions =
        (partsOf address index expressions).flatMap fun part => part.2.ownFindings around part.1
  | [] => rfl
  | head :: tail => by
      simp [findingsOf, partsOf, findings_eq around _ head, findingsOf_eq around _ _ tail]

end

theorem isNote_findings
    {around : Surroundings} {address : Address} (expression : Expr) :
    ∀ finding ∈ expression.findings around address, finding.isNote := by
  rw [findings_eq]
  intro finding member
  obtain ⟨part, -, isOwn⟩ := List.mem_flatMap.mp member
  exact Finding.isNote_settled finding isOwn

/-! ## What a check needs -/

/-- The expressions right below an expression, each with the way down to it. -/
def operands : Expr → List (Address × Expr)
  | .group items _ => items.mapIdx fun index item => ([index], item)
  | .binary left _ right _ => [([0], left), ([1], right)]
  | .unary _ operand _ => [([0], operand)]
  | .index list place _ => [([0], list), ([1], place)]
  | .member owner _ _ => [([0], owner)]
  | .size list _ => [([0], list)]
  | .append list element _ => [([0], list), ([1], element)]
  | .call callee arguments _ =>
      ([0], callee) :: arguments.mapIdx fun index argument => ([index, 1], argument)
  | .integer .. | .boolean .. | .name .. | .stray _ | .absent => []

/-- Whether there is an expression, and no stray node in its place. -/
def IsProper : Expr → Prop
  | .stray _ | .absent => False
  | _ => True

/-- Whether the operator of an expression, if it has one, is one that the rules speak of. -/
def OperatorFits (around : Surroundings) : Expr → Prop
  | .binary left operator right _ =>
      (Rule.binary? operator (left.typeIn around) (right.typeIn around)).isSome
  | .unary operator operand _ => (Rule.unary? operator (operand.typeIn around)).isSome
  | _ => True

/-- Whether an expression can be checked once those right below it are. -/
structure Fits (around : Surroundings) (expression : Expr) : Prop where
  operands : ∀ operand ∈ expression.operands, operand.2.IsProper
  operator : expression.OperatorFits around

theorem isProper_mapIdx
    {expressions : List Expr} {way : Nat → Address}
    (proper : ∀ expression ∈ expressions, expression.IsProper) :
    ∀ operand ∈ expressions.mapIdx fun index expression => (way index, expression),
      operand.2.IsProper := by
  intro operand member
  obtain ⟨index, isThere, rfl⟩ := List.mem_mapIdx.mp member
  exact proper _ (List.getElem_mem isThere)

/-- Parts that all can be checked. -/
def AllFit (around : Surroundings) (parts : List (Address × Expr)) : Prop :=
  ∀ part ∈ parts, part.2.Fits around

theorem AllFit.snoc
    {around : Surroundings} {parts : List (Address × Expr)} {part : Address × Expr}
    (allFit : AllFit around parts) (fits : part.2.Fits around) :
    AllFit around (parts ++ [part]) :=
  List.forall_mem_append.mpr ⟨allFit, by simpa using fits⟩

/-! ## The check finds just that -/

/-- A step shows that something is so, gives a value, finds some things and changes nothing that
expressions see. -/
def Gives {alpha : Type} (state : CheckState) (isSo : Prop) (value : alpha)
    (findings : List Finding) : alpha → CheckState → Prop :=
  fun found final =>
    isSo ∧ found = value ∧ final = state.notingAll findings ∧
      final.surroundings = state.surroundings

theorem Gives.after
    {alpha : Type} {state : CheckState} {isSo : Prop} {value found : alpha}
    {earlier later : List Finding} {final : CheckState}
    (same : (state.notingAll earlier).surroundings = state.surroundings)
    (gives : Gives (state.notingAll earlier) isSo value later found final) :
    Gives state isSo value (earlier ++ later) found final := by
  obtain ⟨isSo, isValue, isFinal, isSame⟩ := gives
  exact ⟨isSo, isValue, by rw [isFinal, CheckState.notingAll_append], isSame.trans same⟩

/-- A step that gives what it should is followed by one that sees the same surroundings and adds
its own findings. -/
theorem ends_andThen
    {alpha beta : Type} {mayFail mayFailFirst isSo isSoToo : Prop} {state : CheckState}
    {around : Surroundings} {first : Check alpha} {next : alpha → Check beta} {value : alpha}
    {last : beta} {earlier later : List Finding}
    (ends : Ends mayFailFirst first state (Gives state isSo value earlier))
    (isAround : state.surroundings = around) (weaker : mayFailFirst → mayFail)
    (endsNext : isSo → ∀ reached : CheckState, reached.surroundings = around →
      Ends mayFail (next value) reached (Gives reached isSoToo last later)) :
    Ends mayFail (first >>= next) state (Gives state isSoToo last (earlier ++ later)) := by
  refine (ends.orFail weaker).bind ?_
  rintro _ _ ⟨isTrue, rfl, rfl, same⟩
  exact (endsNext isTrue _ (same.trans isAround)).imp fun _ _ => Gives.after same

/-- The last step for an expression gives it the type of its verdict. -/
theorem ends_settle_own
    {mayFail : Prop} {state : CheckState} {around : Surroundings} {address : Address}
    {position : Position} {verdict : Verdict} {isSo : Prop} (expression : Expr)
    (isTrue : isSo) (isPosition : expression.position = position)
    (isVerdict : expression.verdict around = verdict) :
    Ends mayFail (settle address position verdict) state
      (Gives state isSo (expression.typeIn around) (expression.ownFindings around address)) := by
  subst isPosition isVerdict
  exact ends_settle ⟨isTrue, rfl, rfl, CheckState.surroundings_settled _ _ _ _⟩

mutual

theorem ends_check
    {around : Surroundings} (address : Address) {state : CheckState}
    (isAround : state.surroundings = around) :
    (expression : Expr) →
      Ends (¬ expression.Written) (expression.check address) state
        (Gives state (expression.IsProper ∧ AllFit around (expression.parts address))
          (expression.typeIn around) (expression.findings around address))
  | .integer value position => by
      have fits : AllFit around ([] ++ [(address, .integer value position)]) :=
        AllFit.snoc (List.forall_mem_nil _) ⟨List.forall_mem_nil _, trivial⟩
      exact ends_settle_own (.integer value position) ⟨trivial, fits⟩ rfl rfl
  | .boolean value position => by
      have fits : AllFit around ([] ++ [(address, .boolean value position)]) :=
        AllFit.snoc (List.forall_mem_nil _) ⟨List.forall_mem_nil _, trivial⟩
      exact ends_settle_own (.boolean value position) ⟨trivial, fits⟩ rfl rfl
  | .name called position => by
      subst isAround
      have fits : AllFit state.surroundings ([] ++ [(address, .name called position)]) :=
        AllFit.snoc (List.forall_mem_nil _) ⟨List.forall_mem_nil _, trivial⟩
      exact Ends.afterGet (ends_settle_own (.name called position) ⟨trivial, fits⟩ rfl rfl)
  | .group items position => by
      refine ends_andThen (ends_checkAll address 0 isAround items) isAround
        (fun some written => some written.2) ?_
      rintro ⟨proper, fit⟩ reached -
      have fits : (group items position).Fits around :=
        ⟨isProper_mapIdx proper, trivial⟩
      exact ends_settle_own (.group items position) ⟨trivial, fit.snoc fits⟩ rfl rfl
  | .binary left operator right position => by
      refine ends_andThen (ends_check (0 :: address) isAround left) isAround
        (fun some written => some written.1) ?_
      rintro ⟨properLeft, fitLeft⟩ between isBetween
      refine ends_andThen (ends_check (1 :: address) isBetween right) isBetween
        (fun some written => some written.2.1) ?_
      rintro ⟨properRight, fitRight⟩ reached -
      cases rule : Rule.binary? operator (left.typeIn around) (right.typeIn around) with
      | some verdict =>
          have fits : (binary left operator right position).Fits around :=
            ⟨by simp [operands, properLeft, properRight], by simp [OperatorFits, rule]⟩
          refine ends_settle_own (.binary left operator right position) ⟨trivial, ?_⟩ rfl ?_
          · exact List.forall_mem_append.mpr ⟨fitLeft, fitRight.snoc fits⟩
          · exact congrArg (·.getD (.type .unknown)) rule
      | none =>
          refine Ends.throw fun written => ?_
          obtain ⟨_, rfl, _⟩ := written.2.2
          cases rule
  | .unary operator operand position => by
      refine ends_andThen (ends_check (0 :: address) isAround operand) isAround
        (fun some written => some written.1) ?_
      rintro ⟨proper, fit⟩ reached -
      cases rule : Rule.unary? operator (operand.typeIn around) with
      | some verdict =>
          have fits : (unary operator operand position).Fits around :=
            ⟨by simp [operands, proper], by simp [OperatorFits, rule]⟩
          refine ends_settle_own (.unary operator operand position) ⟨trivial, fit.snoc fits⟩
            rfl ?_
          exact congrArg (·.getD (.type .unknown)) rule
      | none =>
          refine Ends.throw fun written => ?_
          obtain ⟨plain, rfl⟩ := written.2
          simp only [Rule.unary?] at rule
          split at rule
          · cases rule
          · split at rule <;> simp_all
  | .index list place position => by
      refine ends_andThen (ends_check (0 :: address) isAround list) isAround
        (fun some written => some written.1) ?_
      rintro ⟨properList, fitList⟩ between isBetween
      refine ends_andThen (ends_check (1 :: address) isBetween place) isBetween
        (fun some written => some written.2) ?_
      rintro ⟨properPlace, fitPlace⟩ reached -
      have fits : (index list place position).Fits around :=
        ⟨by simp [operands, properList, properPlace], trivial⟩
      refine ends_settle_own (.index list place position) ⟨trivial, ?_⟩ rfl rfl
      exact List.forall_mem_append.mpr ⟨fitList, fitPlace.snoc fits⟩
  | .member owner called position => by
      refine ends_andThen (ends_check (0 :: address) isAround owner) isAround
        (fun some written => some written) ?_
      rintro ⟨proper, fit⟩ reached isReached
      have fits : (member owner called position).Fits around :=
        ⟨by simp [operands, proper], trivial⟩
      refine Ends.afterGet (ends_settle_own (.member owner called position)
        ⟨trivial, fit.snoc fits⟩ rfl ?_)
      exact (congrArg (fun seen : Surroundings => seen.member (owner.typeIn around) called)
        isReached).symm
  | .size list position => by
      refine ends_andThen (ends_check (0 :: address) isAround list) isAround
        (fun some written => some written) ?_
      rintro ⟨proper, fit⟩ reached -
      have fits : (size list position).Fits around := ⟨by simp [operands, proper], trivial⟩
      exact ends_settle_own (.size list position) ⟨trivial, fit.snoc fits⟩ rfl rfl
  | .append list element position => by
      refine ends_andThen (ends_check (0 :: address) isAround list) isAround
        (fun some written => some written.1) ?_
      rintro ⟨properList, fitList⟩ between isBetween
      refine ends_andThen (ends_check (1 :: address) isBetween element) isBetween
        (fun some written => some written.2) ?_
      rintro ⟨properElement, fitElement⟩ reached -
      have fits : (append list element position).Fits around :=
        ⟨by simp [operands, properList, properElement], trivial⟩
      refine ends_settle_own (.append list element position) ⟨trivial, ?_⟩ rfl rfl
      exact List.forall_mem_append.mpr ⟨fitList, fitElement.snoc fits⟩
  | .call callee arguments position => by
      refine ends_andThen (ends_check (0 :: address) isAround callee) isAround
        (fun some written => some written.1) ?_
      rintro ⟨properCallee, fitCallee⟩ between isBetween
      refine ends_andThen (ends_checkAll (1 :: address) 0 isBetween arguments) isBetween
        (fun some written => some written.2) ?_
      rintro ⟨properArguments, fitArguments⟩ reached -
      have fits : (call callee arguments position).Fits around :=
        ⟨List.forall_mem_cons.mpr ⟨properCallee, isProper_mapIdx properArguments⟩, trivial⟩
      refine ends_settle_own (.call callee arguments position) ⟨trivial, ?_⟩ rfl rfl
      exact List.forall_mem_append.mpr ⟨fitCallee, fitArguments.snoc fits⟩
  | .stray node => Ends.throw id
  | .absent => Ends.throw id

theorem ends_checkAll
    {around : Surroundings} (address : Address) (index : Nat) {state : CheckState}
    (isAround : state.surroundings = around) :
    (expressions : List Expr) →
      Ends (¬ WrittenAll expressions) (checkAll address index expressions) state
        (Gives state
          ((∀ expression ∈ expressions, expression.IsProper) ∧
            AllFit around (partsOf address index expressions))
          (typesOf around expressions) (findingsOf around address index expressions))
  | [] => Ends.pure ⟨⟨List.forall_mem_nil _, List.forall_mem_nil _⟩, rfl, rfl, rfl⟩
  | head :: tail => by
      refine ends_andThen (ends_check (index :: address) isAround head) isAround
        (fun some written => some written.1) ?_
      rintro ⟨properHead, fitHead⟩ between isBetween
      refine ((ends_checkAll address (index + 1) isBetween tail).orFail
        fun some => fun written => some written.2).bind ?_
      rintro _ _ ⟨⟨properTail, fitTail⟩, rfl, rfl, same⟩
      refine Ends.pure ⟨⟨?_, ?_⟩, rfl, rfl, same⟩
      · exact List.forall_mem_cons.mpr ⟨properHead, properTail⟩
      · exact List.forall_mem_append.mpr ⟨fitHead, fitTail⟩

end

end Expr

end StructLang
