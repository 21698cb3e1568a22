import StructLang.Proofs.Check.Programs
import StructLang.Proofs.Check.Steadiness

/-!
# Scopes are nested at every point of a check

Structs and functions are declared and checked one after the other in the outermost scope, and what
waits for its check has a scope that nothing encloses yet. When that scope is entered, it leads to
the innermost one. The scope of an accessor is linked to the scope of its struct before it is
entered, and the scope of the main body to the outermost one when it is made. So the links lead
from the innermost scope to the outermost one at every point.
-/

namespace StructLang

open Check Course ScopeStore

/-! ## In the outermost scope -/

theorem Rooted.passage
    {entries : List Entry} {store : ScopeStore} (rooted : Rooted entries store)
    (isTop : store.top? = some 0) : Passage store [0] := by
  have isEnd : store.enclosing? 0 = none := by simp [enclosing?, rooted.found]
  refine ⟨⟨0, isTop, .ends rooted.size_pos isEnd⟩, ?_, ?_⟩
  · exact List.singleton_sublist.mpr (List.mem_of_head? isTop)
  · rw [rooted.root]
    rfl

/-- After the only scope inside of the outermost one is left, the outermost one is the innermost
one again. -/
theorem CheckState.Nests.pop_root
    {state : CheckState} {scope : ScopeId} (nests : state.Nests)
    (isStack : state.scopes.stack = [scope, 0]) :
    (state.withScopes state.scopes.pop).Nests := by
  obtain ⟨links, passage, isRoot⟩ := nests
  refine ⟨[0], passage.pop_root isStack, Eq.trans ?_ isRoot⟩
  rw [passage.root, ScopeStore.root?, isStack]
  rfl

/-! ## Members of structs -/

namespace Stmt

/-- The scope of a struct is the innermost one, right inside of the outermost one, and the scopes
of its accessors are others. -/
structure Hosts (scope : ScopeId) (store : ScopeStore) : Prop where
  top : store.top? = some scope
  passage : store.Passage [scope, 0]
  accessors : ∀ name result parameters own address?,
    .ofFunction name result parameters own address? ∈ store.entries scope →
      own < store.scopes.size ∧ own ∉ [scope, 0]

variable {scope : ScopeId}

theorem Hosts.leads
    {store : ScopeStore} (hosts : Hosts scope store) : store.Leads scope [scope, 0] := by
  obtain ⟨inner, isTop, leads⟩ := hosts.passage.leads
  obtain rfl : scope = inner := Option.some.inj (hosts.top.symm.trans isTop)
  exact leads

/-- The scope of an accessor is linked to the scope of its struct and then entered. -/
theorem Hosts.enter
    {store : ScopeStore} {own : ScopeId} (hosts : Hosts scope store)
    (isThere : own < store.scopes.size) (isApart : own ∉ [scope, 0]) :
    Passage (store.enclose own scope) [scope, 0] ∧
      Passage ((store.enclose own scope).push own) [own, scope, 0] := by
  have leads : Leads (store.enclose own scope) scope [scope, 0] := by
    refine hosts.leads.of_same (Nat.le_of_eq (size_enclose store own scope).symm) ?_
    exact fun inner isOnWay =>
      enclosing?_enclose_of_ne store scope fun same => isApart (same ▸ isOnWay)
  have isLinked := enclosing?_enclose_self store scope isThere
  refine ⟨⟨⟨scope, hosts.top, leads⟩, hosts.passage.onStack, hosts.passage.root⟩, ?_⟩
  refine Passage.push_linked (.goesOn isLinked leads) ?_ hosts.passage.onStack ?_
  · rw [isLinked]
    rfl
  · rw [List.getLast?_cons_cons]
    exact hosts.passage.root

/-- After the parameters of an accessor came in, the scope of the struct is the innermost one
again. -/
theorem Hosts.leave
    {store reached : ScopeStore} {own : ScopeId} (hosts : Hosts scope store)
    (isThere : own < store.scopes.size) (isApart : own ∉ [scope, 0])
    (settles : Settles ((store.enclose own scope).push own) reached) :
    Hosts scope reached.pop := by
  have passage := (hosts.enter isThere isApart).2.of_settles settles
  have sameSize : ((store.enclose own scope).push own).scopes.size = store.scopes.size :=
    (size_push _ own).trans (size_enclose store own scope)
  have larger : store.scopes.size ≤ reached.scopes.size := sameSize ▸ settles.size
  have isOld : scope < ((store.enclose own scope).push own).scopes.size :=
    sameSize ▸ hosts.leads.lt_size List.mem_cons_self
  have isStack : reached.stack = own :: store.stack := settles.stack
  have popped : reached.pop.stack = store.stack := congrArg List.tail isStack
  obtain ⟨rest, isRest⟩ : ∃ rest, store.stack = scope :: rest :=
    List.head?_eq_some_iff.mp hosts.top
  refine ⟨?_, passage.pop_outwards (isStack.trans (congrArg _ isRest)), ?_⟩
  · rw [top?, popped]
    exact hosts.top
  · intro name result parameters other address? isEntry
    have notTop : ((store.enclose own scope).push own).top? ≠ some scope := fun isTop =>
      isApart (Option.some.inj isTop ▸ List.mem_cons_self)
    have sameEntries : reached.pop.entries scope = store.entries scope := by
      refine (settles.entries scope isOld notTop).trans ?_
      rw [entries_push, entries_enclose]
    rw [sameEntries] at isEntry
    obtain ⟨isBelow, isOther⟩ := hosts.accessors name result parameters other address? isEntry
    exact ⟨Nat.lt_of_lt_of_le isBelow larger, isOther⟩

variable {state : CheckState}

/-- From one state on, a course nests its scopes, and in the end the scope of a struct is the
innermost one again. -/
structure HostsFrom (scope : ScopeId) (course : Course Unit) (state : CheckState) : Prop where
  nests : course.NestsFrom state
  hosts : ∀ final, course.run.run state = .ok () final → Hosts scope final.scopes

theorem HostsFrom.nothing
    (nests : state.Nests) (hosts : Hosts scope state.scopes) :
    HostsFrom scope (pure ()) state := by
  refine ⟨(steady_give ()).nestsFrom nests, ?_⟩
  intro final completed
  cases completed
  exact hosts

theorem HostsFrom.bind
    {first second : Course Unit} (hostsFrom : HostsFrom scope first state)
    (hostsNext : ∀ reached : CheckState, reached.Nests → Hosts scope reached.scopes →
      HostsFrom scope second reached) :
    HostsFrom scope (first >>= fun _ => second) state := by
  constructor
  · apply hostsFrom.nests.bind
    intro _ reached completed nestsReached
    exact (hostsNext reached nestsReached (hostsFrom.hosts reached completed)).nests
  · intro final completed
    obtain ⟨_, reached, isFirst, isSecond⟩ := of_bind_ok _ completed
    have nestsReached := hostsFrom.nests.of_completed isFirst
    exact (hostsNext reached nestsReached (hostsFrom.hosts reached isFirst)).hosts final isSecond

/-- An accessor is bound: its scope is linked and entered, and left again. -/
theorem hostsFrom_enter
    {own : ScopeId} {body : Course Unit} (nests : state.Nests)
    (hosts : Hosts scope state.scopes) (isThere : own < state.scopes.scopes.size)
    (isApart : own ∉ [scope, 0]) (steady : body.Steady) :
    HostsFrom scope (enclose own scope >>= fun _ => inside own body) state := by
  obtain ⟨passage, passageInside⟩ := hosts.enter isThere isApart
  let linked : CheckState := state.withScopes (state.scopes.enclose own scope)
  let entered : CheckState := linked.withScopes (linked.scopes.push own)
  have isRoot : some 0 = state.root? := hosts.passage.root.trans nests.root_eq.symm
  have nestsLinked : linked.Nests := ⟨_, passage, isRoot⟩
  have nestsEntered : entered.Nests := ⟨_, passageInside, isRoot⟩
  have leaves (reached : CheckState) (completed : body.run.run entered = .ok () reached) :
      Hosts scope reached.scopes.pop ∧ some 0 = reached.root? := by
    have settles := (steady entered).2 () reached completed
    exact ⟨hosts.leave isThere isApart settles.scopes, isRoot.trans settles.root.symm⟩
  constructor
  · intro point passes
    rcases passes.of_bind with passesLink | ⟨_, reached, completed, passesInside⟩
    · have isAct : (enclose own scope).IsAct := trivial
      rcases passesLink.of_act isAct with rfl | rfl
      · exact nests
      · exact nestsLinked
    · cases completed
      have nestsInside : (inside own body).NestsFrom linked := by
        apply NestsFrom.inside nestsLinked (steady.nestsFrom nestsEntered)
        intro reached isBody _
        obtain ⟨hostsStill, isRootStill⟩ := leaves reached isBody
        exact ⟨_, hostsStill.passage, isRootStill⟩
      exact nestsInside point passesInside
  · intro final completed
    obtain ⟨_, reached, isLinked, isInside⟩ := of_bind_ok _ completed
    cases isLinked
    obtain ⟨last, isBody, rfl⟩ := of_inScope_ok isInside
    exact (leaves last isBody).1

theorem hostsFrom_bindAccessor
    (address : Address) (nests : state.Nests) (hosts : Hosts scope state.scopes) (name : String)
    (parameters : List VariableDecl) :
    HostsFrom scope (bindAccessor address name parameters state) state := by
  rw [bindAccessor]
  split
  case h_1 known result declared own address? structScope isHere isTop =>
    obtain rfl := Option.some.inj (hosts.top.symm.trans isTop)
    rw [lookupHere?, isTop, Option.bind_some] at isHere
    have isEntry : .ofFunction known result declared own address? ∈
        state.scopes.entries scope := by
      obtain ⟨found, isFound, isEntry⟩ := Option.bind_eq_some_iff.mp isHere
      have isThere : Entry.ofFunction known result declared own address? ∈ found.entries :=
        List.mem_of_find?_eq_some isEntry
      simpa [entries, isFound] using isThere
    obtain ⟨isThere, isApart⟩ := hosts.accessors known result declared own address? isEntry
    exact hostsFrom_enter nests hosts isThere isApart (VariableDecl.steady_courseAll _ 0 _)
  case h_2 => exact .nothing nests hosts

theorem hostsFrom_bindCourse
    (address : Address) (nests : state.Nests) (hosts : Hosts scope state.scopes) (member : Stmt) :
    HostsFrom scope (member.bindCourse address) state := by
  cases member with
  | accessor name type parameters =>
      obtain ⟨nestsBound, hostsBound⟩ := hostsFrom_bindAccessor address nests hosts name parameters
      exact ⟨.afterLook nests nestsBound, hostsBound⟩
  | _ => exact .nothing nests hosts

theorem hostsFrom_bindCourses
    (address : Address) (index : Nat) (nests : state.Nests) (hosts : Hosts scope state.scopes)
    (members : List Stmt) :
    HostsFrom scope (bindCourses address index members) state := by
  induction members generalizing state index with
  | nil => exact .nothing nests hosts
  | cons head tail inductionHypothesis =>
      apply (hostsFrom_bindCourse (index :: address) nests hosts head).bind
      intro reached nestsReached hostsReached
      exact inductionHypothesis (index + 1) nestsReached hostsReached

end Stmt

namespace StructDecl

variable {entries : List Entry} {state : CheckState} {container : String} {scope : ScopeId}

/-- Once all members are declared, the scopes of the accessors are new ones. -/
theorem hosts_of_collected
    {store after : ScopeStore} {fields : Region} {naming : Naming} {members : List Stmt}
    {given : Naming} (passage : store.Passage [scope, 0]) (settles : Settles store after)
    (collected : Stmt.Collected scope (some 0) store.fresh fields []
      (Stmt.accessorEntriesOf store.fresh naming members) given store after) :
    Stmt.Hosts scope after := by
  have collecting := collected.collecting
  obtain ⟨held, isFound, holds⟩ := collecting.found
  refine ⟨collecting.top, passage.of_settles settles, ?_⟩
  intro name result parameters own address? isEntry
  have isHeld : .ofFunction name result parameters own address? ∈ held := by
    simpa [ScopeStore.entries, isFound] using isEntry
  have isAccessor : .ofFunction name result parameters own address? ∈
      held.filter (·.key.kind ≠ .vars) :=
    List.mem_filter.mpr ⟨isHeld, by simp [Entry.key]⟩
  rw [holds.others, List.nil_append] at isAccessor
  obtain ⟨isNew, isBelow⟩ := Stmt.scope_of_mem_accessorEntriesOf isAccessor
  have isThere : own < after.scopes.size := by
    rw [collected.size]
    exact isBelow
  have isAbove : scope < own := Nat.lt_of_lt_of_le collecting.below isNew
  refine ⟨isThere, ?_⟩
  rw [List.mem_cons, List.mem_singleton, not_or]
  exact ⟨Nat.ne_of_gt isAbove, Nat.ne_of_gt (Nat.lt_of_le_of_lt (Nat.zero_le scope) isAbove)⟩

theorem nestsFrom_membersCourse
    (address : Address) (rooted : Rooted entries state.scopes)
    (isTop : state.scopes.top? = some scope) (notRoot : scope ≠ 0)
    (isEmpty : state.scopes.scopes[scope]? = some ⟨[], some 0⟩)
    (isCurrent : state.currentStruct? = some container) (nests : state.Nests)
    (passage : state.scopes.Passage [scope, 0]) (declaration : StructDecl) :
    (declaration.membersCourse address).NestsFrom state := by
  have steady := Stmt.steady_declareCourses (0 :: address) 0 declaration.members
  refine (steady.nestsFrom nests).bind fun _ reached completed nestsReached => ?_
  have settles := (steady state).2 () reached completed
  rw [Stmt.run_declareCourses] at completed
  obtain ⟨store, rfl, collected⟩ := (ends_declareMembers address rooted isTop notRoot isEmpty
    isCurrent declaration).of_completed completed
  have hosts := hosts_of_collected passage settles.scopes collected
  exact (Stmt.hostsFrom_bindCourses (0 :: address) 0 nestsReached hosts declaration.members).nests

/-- The scope of a struct, which is the innermost one already, is entered once more for the
members. -/
theorem nestsFrom_insideAgain
    (address : Address) (rooted : Rooted entries state.scopes)
    (isTop : state.scopes.top? = some scope) (notRoot : scope ≠ 0)
    (isEmpty : state.scopes.scopes[scope]? = some ⟨[], some 0⟩)
    (isCurrent : state.currentStruct? = some container) (nests : state.Nests)
    (passage : state.scopes.Passage [scope, 0]) (declaration : StructDecl) :
    (inside scope (declaration.membersCourse address)).NestsFrom state := by
  have isRoot : some 0 = state.root? := passage.root.trans nests.root_eq.symm
  have isEmptyStill : (state.scopes.push scope).scopes[scope]? = some ⟨[], some 0⟩ := by
    rw [push, attach_eq_self _ (Or.inl isTop)]
    exact isEmpty
  have passageAgain := passage.push_again isTop
  let entered : CheckState := state.withScopes (state.scopes.push scope)
  have isCurrentStill : entered.currentStruct? = some container := isCurrent
  have members : (declaration.membersCourse address).NestsFrom entered :=
    nestsFrom_membersCourse address (rooted.push notRoot.symm) rfl notRoot isEmptyStill
      isCurrentStill ⟨_, passageAgain, isRoot⟩ passageAgain declaration
  apply NestsFrom.inside nests members
  intro reached completed nestsReached
  obtain ⟨rest, isRest⟩ : ∃ rest, state.scopes.stack = scope :: rest :=
    List.head?_eq_some_iff.mp isTop
  have isStack : reached.scopes.stack = scope :: scope :: rest :=
    (Course.stack_eq _ completed).trans (congrArg (scope :: ·) isRest)
  obtain ⟨links, passageReached, isRootReached⟩ := nestsReached
  exact ⟨links, passageReached.pop_again isStack, isRootReached⟩

theorem nestsFrom_course
    {index : Nat} {head : String × StructDecl} {tail : List (String × StructDecl)}
    (waiting : Waiting entries state index (head :: tail)) (nests : state.Nests) :
    (head.2.course (Program.structAddress index)).NestsFrom state := by
  have awaits := waiting.awaits 0 head rfl
  have isTop : state.scopes.top? = some 0 := by simp [top?, waiting.stack]
  have notRoot : index + 1 ≠ 0 := Nat.succ_ne_zero index
  have isName : state.nameAt (Program.structAddress index) head.2.name = head.1 := awaits.named
  have isEntry : state.scopes.lookupRoot? ⟨.structs, head.1⟩ =
      some (.ofStruct head.1 (index + 1)) :=
    (waiting.rooted.lookupRoot?_eq _).trans awaits.entry
  have isEmpty : state.scopes.scopes[index + 1]? = some ⟨[], none⟩ := awaits.empty
  have passage := waiting.rooted.passage isTop
  have isThere : index + 1 < state.scopes.scopes.size :=
    (Array.getElem?_eq_some_iff.mp isEmpty).1
  have isFree : state.scopes.enclosing? (index + 1) = none := by
    simp [enclosing?, isEmpty]
  have isNew : index + 1 ∉ [0] := by simp
  have isRoot : some 0 = state.root? := passage.root.trans nests.root_eq.symm
  have isPushed : (state.scopes.push (index + 1)).scopes[index + 1]? = some ⟨[], some 0⟩ :=
    attach_self _ isEmpty isTop notRoot.symm
  have passageInside : (state.scopes.push (index + 1)).Passage [index + 1, 0] :=
    passage.push_free isThere isFree isNew
  apply NestsFrom.afterLook nests
  simp only [isName, isEntry]
  refine .inside nests (.bind ?_ fun _ noted isNoted nestsNoted => .bind ?_ ?_) ?_
  · exact (steady_note fun _ => rfl).nestsFrom ⟨_, passageInside, isRoot⟩
  · cases isNoted
    exact nestsFrom_insideAgain _ (waiting.rooted.push notRoot.symm) rfl notRoot isPushed rfl
      nestsNoted passageInside head.2
  · exact fun _ reached _ nestsReached => (steady_note fun _ => rfl).nestsFrom nestsReached
  · intro reached completed nestsReached
    have isStack : reached.scopes.stack = [index + 1, 0] :=
      (Course.stack_eq _ completed).trans (congrArg (_ :: ·) waiting.stack)
    exact nestsReached.pop_root isStack

theorem nestsFrom_courseAll
    (index : Nat) (structs : List (String × StructDecl))
    (waiting : Waiting entries state index structs) (nests : state.Nests) :
    (courseAll index (structs.map Prod.snd)).NestsFrom state := by
  induction structs generalizing state index with
  | nil => exact (steady_give ()).nestsFrom nests
  | cons head tail inductionHypothesis =>
      refine (nestsFrom_course waiting nests).bind fun _ reached completed nestsReached => ?_
      rw [run_course] at completed
      obtain ⟨-, waitingTail⟩ := (ends_checkHead waiting).of_completed completed
      exact inductionHypothesis (index + 1) waitingTail nestsReached

end StructDecl

/-! ## Bodies -/

namespace FunctionDecl

variable {signature : Signature} {state : CheckState} {base : ScopeId}

/-- The scope of a function is entered inside a new one. -/
theorem nestsFrom_course
    {scope outer : ScopeId} {known : String} {result : Ty} {parameters : List VariableDecl}
    {address? : Option Address} (address : Address) (nests : state.Nests)
    (passage : state.scopes.Passage [outer, 0]) (isStack : state.scopes.stack = [outer, 0])
    (isEntry : state.scopes.lookupRoot? ⟨.functions, known⟩ =
      some (.ofFunction known result parameters scope address?))
    (isEmpty : state.scopes.scopes[scope]? = some ⟨[], none⟩) (isNew : scope ∉ [outer, 0])
    (declaration : FunctionDecl) (isName : state.nameAt address declaration.name = known) :
    (declaration.course address).NestsFrom state := by
  have isThere : scope < state.scopes.scopes.size := (Array.getElem?_eq_some_iff.mp isEmpty).1
  have isFree : state.scopes.enclosing? scope = none := by simp [enclosing?, isEmpty]
  have isRoot : some 0 = state.root? := passage.root.trans nests.root_eq.symm
  have passageInside := passage.push_free isThere isFree isNew
  have steady : (do
      declaration.body.course (1 :: address)
      VariableDecl.courseAll (0 :: address) 0 declaration.parameters
      declaration.resultCourse address).Steady :=
    (declaration.body.steady_course _).bind fun _ =>
      (VariableDecl.steady_courseAll _ 0 declaration.parameters).bind fun _ =>
        declaration.steady_resultCourse address
  refine .afterLook nests ?_
  simp only [isName, isEntry]
  refine .inside nests (steady.nestsFrom ⟨_, passageInside, isRoot⟩) ?_
  intro reached completed _
  have settles := (steady _).2 () reached completed
  have isStackReached : reached.scopes.stack = [scope, outer, 0] :=
    settles.scopes.stack.trans (congrArg (_ :: ·) isStack)
  have passageReached := passageInside.of_settles settles.scopes
  exact ⟨_, passageReached.pop_outwards isStackReached, isRoot.trans settles.root.symm⟩

theorem nestsFrom_inNewScope
    {index : Nat} {head : FunctionDecl} {tail : List FunctionDecl}
    (waiting : Waiting signature state base index (head :: tail))
    (isStack : state.scopes.stack = [0]) (nests : state.Nests) :
    (inNewScope (head.course (Program.functionAddress index))).NestsFrom state := by
  have awaits := waiting.awaits 0 head rfl
  obtain ⟨result, parameters, address?, isEntry⟩ := awaits.entry
  have isEmpty : state.scopes.scopes[base + index]? = some ⟨[], none⟩ := awaits.empty
  have rooted := waiting.inside.fits.rooted
  have isRoot : some 0 = state.root? := by
    rw [nests.root_eq, rooted.root]
  -- The new scope around the one of the function.
  let created : CheckState := state.withScopes (state.scopes.create none)
  let entered : CheckState :=
    created.withScopes (created.scopes.push state.scopes.fresh)
  have insideNew : signature.Inside [state.scopes.fresh, 0] [[]] entered.scopes :=
    waiting.inside.push_new
  have passage : state.scopes.Passage [0] := rooted.passage (by simp [top?, isStack])
  have passageInside : entered.scopes.Passage [state.scopes.fresh, 0] := passage.push_new
  have notFresh : base + index ≠ state.scopes.fresh :=
    Nat.ne_of_lt (Array.getElem?_eq_some_iff.mp isEmpty).1
  have isNew : base + index ∉ [state.scopes.fresh, 0] := by
    rw [List.mem_cons, List.mem_singleton, not_or]
    exact ⟨notFresh, awaits.notRoot⟩
  have nestsInside : (head.course (Program.functionAddress index)).NestsFrom entered :=
    nestsFrom_course (Program.functionAddress index) ⟨_, passageInside, isRoot⟩ passageInside
      (congrArg (_ :: ·) isStack) ((insideNew.fits.rooted.lookupRoot?_eq _).trans isEntry)
      (found_push_new isEmpty) isNew head rfl
  refine ((steady_create none).nestsFrom nests).bind fun scope reached isCreated nestsCreated => ?_
  cases isCreated
  refine .inside nestsCreated nestsInside fun last completed nestsLast => ?_
  have isStackLast : last.scopes.stack = [state.scopes.fresh, 0] :=
    (Course.stack_eq _ completed).trans (congrArg (_ :: ·) isStack)
  exact nestsLast.pop_root isStackLast

theorem nestsFrom_courseAll
    (index : Nat) (functions : List FunctionDecl)
    (waiting : Waiting signature state base index functions)
    (isStack : state.scopes.stack = [0]) (nests : state.Nests) :
    (courseAll index functions).NestsFrom state := by
  induction functions generalizing state signature index with
  | nil => exact (steady_give ()).nestsFrom nests
  | cons head tail inductionHypothesis =>
      refine (nestsFrom_inNewScope waiting isStack nests).bind
        fun _ reached completed nestsReached => ?_
      have isStackReached := (Course.stack_eq _ completed).trans isStack
      rw [run_inNewScope, run_course] at completed
      obtain ⟨-, waitingTail⟩ := (ends_checkHead waiting).of_completed completed
      exact inductionHypothesis (index + 1) waitingTail isStackReached nestsReached

end FunctionDecl

/-- The scope of the main body is linked to the outermost one when it is made. -/
theorem MainDecl.steady_course
    (declaration : MainDecl) : declaration.course.Steady := by
  have steady := declaration.body.steady_course (0 :: Program.mainAddress)
  apply Steady.inNewScope
  intro state
  constructor
  · intro nests
    have root_eq := nests.root_eq
    obtain ⟨links, passage, isRoot⟩ := nests
    obtain ⟨root, isKnown⟩ : ∃ root, state.root? = some root :=
      ⟨_, isRoot.symm.trans (List.getLast?_eq_some_getLast passage.ne_nil)⟩
    have isBottom : state.scopes.root? = some root := root_eq.symm.trans isKnown
    refine NestsFrom.afterLook ⟨links, passage, isRoot⟩ ?_
    rw [isKnown]
    refine NestsFrom.bind ((steady_create (some root)).nestsFrom ⟨links, passage, isRoot⟩)
      fun scope created isCreated nestsCreated => ?_
    cases isCreated
    have passageInside := passage.push_atRoot isBottom
    refine .inside nestsCreated (steady.nestsFrom ⟨_, passageInside, isKnown.symm⟩)
      fun reached completed _ => ?_
    have settles := (steady _).2 () reached completed
    refine ⟨links, passage.of_settles settles.scopes.inNewScope, ?_⟩
    exact isRoot.trans settles.root.symm
  · intro _ final completed
    obtain ⟨_, _, isLooked, isCreated⟩ := of_bind_ok MonadState.get completed
    cases isLooked
    obtain ⟨scope, created, isMade, isInside⟩ := of_bind_ok (newScope _) isCreated
    cases isMade
    obtain ⟨reached, isBody, rfl⟩ := of_inScope_ok isInside
    have settles := (steady _).2 () reached isBody
    exact ⟨settles.root, settles.scopes.inNewScope⟩

/-! ## Programs -/

namespace Program

theorem nests_started : started.Nests := by
  have rooted : Rooted [] started.scopes := ⟨rfl, rfl⟩
  exact ⟨[0], rooted.passage rfl, rfl⟩

variable {program : Program}

theorem introduced_of_declared
    {first second : CheckState}
    (isFirst : (StructDecl.declareAll 0 program.structs).run started = .ok () first)
    (isSecond : (FunctionDecl.declareAll 0 program.functions).run first = .ok () second) :
    Introduced program second := by
  have ends : Ends (¬ program.Written)
      (do
        StructDecl.declareAll 0 program.structs
        FunctionDecl.declareAll 0 program.functions
        pure ())
      started (fun _ final => Introduced program final) :=
    program.ends_introduce id fun _ introduced => Ends.pure introduced
  refine ends.of_completed (?_ : _ = EStateM.Result.ok () second)
  rw [run_bind_ok isFirst, run_bind_ok isSecond]
  rfl

theorem prepared_of_checked
    {state first second : CheckState} (introduced : Introduced program state)
    (isFirst : (StructDecl.checkAll 0 program.structs).run state = .ok () first)
    (isSecond : program.checkContainment.run first = .ok () second) :
    Prepared program second := by
  have ends : Ends (¬ program.Written)
      (do
        StructDecl.checkAll 0 program.structs
        program.checkContainment
        pure ())
      state (fun _ final => Prepared program final) :=
    ends_prepare introduced id fun _ prepared => Ends.pure prepared
  refine ends.of_completed (?_ : _ = EStateM.Result.ok () second)
  rw [run_bind_ok isFirst, run_bind_ok isSecond]
  rfl

/-- Structs and functions are declared in the outermost scope and then checked one by one. -/
theorem nestsFrom_partsCourse
    (program : Program) : program.partsCourse.NestsFrom started := by
  have steadyStructs := StructDecl.steady_declareCourses 0 program.structs
  have steadyFunctions := FunctionDecl.steady_declareCourses 0 program.functions
  refine (steadyStructs.nestsFrom nests_started).bind fun _ first isFirst nestsFirst => ?_
  refine (steadyFunctions.nestsFrom nestsFirst).bind fun _ second isSecond nestsSecond => ?_
  rw [StructDecl.run_declareCourses] at isFirst
  rw [FunctionDecl.run_declareCourses] at isSecond
  have introduced := introduced_of_declared isFirst isSecond
  have nestsStructs : (StructDecl.courseAll 0 program.structs).NestsFrom second := by
    rw [← program.snd_namedStructs]
    exact StructDecl.nestsFrom_courseAll 0 program.namedStructs introduced.waiting nestsSecond
  refine nestsStructs.bind fun _ third isThird nestsThird => ?_
  refine (program.steady_containmentCourse.nestsFrom nestsThird).bind
    fun _ fourth isFourth nestsFourth => ?_
  rw [StructDecl.run_courseAll] at isThird
  rw [run_containmentCourse] at isFourth
  have prepared := prepared_of_checked introduced isThird isFourth
  refine (FunctionDecl.nestsFrom_courseAll 0 program.functions prepared.waiting prepared.stack
    nestsFourth).bind fun _ fifth _ nestsFifth => ?_
  cases program.main? with
  | some main => exact main.steady_course.nestsFrom nestsFifth
  | none => exact (steady_give ()).nestsFrom nestsFifth

/-- At every point of a check that starts anew, either no scope is entered, or the scopes are
nested. -/
theorem nests_of_passes
    {point : CheckState} (program : Program) (passes : program.course.Passes .initial point) :
    point.scopes.stack = [] ∨ point.Nests := by
  have isCreate : (Course.create none).IsAct := trivial
  have isNote : (note (.root 0)).IsAct := trivial
  rcases passes.of_bind with passesCreate | ⟨_, _, isCreated, passes⟩
  · rcases passesCreate.of_act isCreate with rfl | rfl
    · exact Or.inl rfl
    · exact Or.inl rfl
  cases isCreated
  rcases passes.of_bind with passesNote | ⟨_, _, isNoted, passes⟩
  · rcases passesNote.of_act isNote with rfl | rfl
    · exact Or.inl rfl
    · exact Or.inl rfl
  cases isNoted
  rcases passes.of_inside with rfl | passesParts | ⟨reached, completed, rfl⟩
  · exact Or.inl rfl
  · exact Or.inr (program.nestsFrom_partsCourse point passesParts)
  · have isStack : reached.scopes.stack = [0] := program.partsCourse.stack_eq completed
    exact Or.inl (congrArg List.tail isStack)

end Program

end StructLang
