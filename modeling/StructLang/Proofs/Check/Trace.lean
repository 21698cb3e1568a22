import StructLang.Proofs.Check.Steps

/-!
# What a check finds

All that a check adds to its tables is a list of findings, which is known from the program alone.
Only the scopes are a matter of their own. So a step is described by what it finds and by the
scopes that it leaves behind.
-/

namespace StructLang

/-- One thing that a check finds. -/
inductive Finding
  | typed (address : Address) (type : Ty)
  | reported (report : Report)
  | renamed (address : Address) (name : String)
  | resultLost (address : Address)
  | containing (name : String)
  | contained (part whole : String)
  deriving DecidableEq, Repr

namespace Finding

/-- The type that a finding gives a node. -/
@[simp] def typing? : Finding → Option (Address × Ty)
  | typed address type => some (address, type)
  | _ => none

/-- The report that a finding is. -/
@[simp] def report? : Finding → Option Report
  | reported report => some report
  | _ => none

/-- The made-up name that a finding gives a declaration. -/
@[simp] def renaming? : Finding → Option (Address × String)
  | renamed address name => some (address, name)
  | _ => none

/-- The function whose result a finding takes away. -/
@[simp] def lost? : Finding → Option Address
  | resultLost address => some address
  | _ => none

/-- What a finding adds to the containment graph. -/
def addTo (graph : Containment) : Finding → Containment
  | containing name => graph.addNode name
  | contained part whole => graph.addEdge part whole
  | _ => graph

/-- Whether a finding gives a type or makes a complaint. -/
@[simp] def isNote : Finding → Bool
  | typed .. | reported _ => true
  | _ => false

/-- A complaint about the node with an address. -/
def complaint (kind : DiagnosticKind) (address : Address) (position : Position)
    (names : List String) : Finding :=
  reported ⟨some address, ⟨kind, position.line, names⟩⟩

/-- What is found at a node to which a rule gives its verdict. -/
def settled (address : Address) (position : Position) (verdict : Verdict) : List Finding :=
  match verdict with
  | .type type => [typed address type]
  | .fault kind names => [complaint kind address position names, typed address .unknown]

theorem isNote_settled
    {address : Address} {position : Position} {verdict : Verdict} :
    ∀ finding ∈ settled address position verdict, finding.isNote := by
  cases verdict <;> simp [settled, complaint, isNote]

theorem filterMap_renaming?_of_notes
    {findings : List Finding} (areNotes : ∀ finding ∈ findings, finding.isNote) :
    findings.filterMap renaming? = [] := by
  refine List.filterMap_eq_nil_iff.mpr fun finding member => ?_
  have isNote := areNotes finding member
  cases finding <;> simp_all

theorem filterMap_lost?_of_notes
    {findings : List Finding} (areNotes : ∀ finding ∈ findings, finding.isNote) :
    findings.filterMap lost? = [] := by
  refine List.filterMap_eq_nil_iff.mpr fun finding member => ?_
  have isNote := areNotes finding member
  cases finding <;> simp_all

end Finding

namespace CheckState

/-- A state with one more finding in its tables. -/
def noting (state : CheckState) : Finding → CheckState
  | .typed address type => { state with types := (address, type) :: state.types }
  | .reported report => { state with reports := report :: state.reports }
  | .renamed address name =>
      { state with names := (address, name) :: state.names, renames := state.renames + 1 }
  | .resultLost address => { state with withoutResult := address :: state.withoutResult }
  | .containing name => { state with containment := state.containment.addNode name }
  | .contained part whole =>
      { state with containment := state.containment.addEdge part whole }

/-- A state with more findings in its tables. -/
def notingAll (state : CheckState) (findings : List Finding) : CheckState :=
  findings.foldl noting state

/-- A state with other scopes. -/
def withScopes (state : CheckState) (scopes : ScopeStore) : CheckState :=
  { state with scopes := scopes }

/-- A state in which another struct is looked at. -/
def withCurrent (state : CheckState) (container? : Option String) : CheckState :=
  { state with currentStruct? := container? }

/-! ## Findings one after the other -/

@[simp] theorem notingAll_nil
    (state : CheckState) :
    state.notingAll [] = state := rfl

@[simp] theorem notingAll_cons
    (state : CheckState) (head : Finding) (tail : List Finding) :
    state.notingAll (head :: tail) = (state.noting head).notingAll tail := rfl

theorem notingAll_append
    (state : CheckState) (earlier later : List Finding) :
    state.notingAll (earlier ++ later) = (state.notingAll earlier).notingAll later :=
  List.foldl_append

@[simp] theorem withScopes_scopes
    (state : CheckState) (scopes : ScopeStore) :
    (state.withScopes scopes).scopes = scopes := rfl

@[simp] theorem withScopes_self
    (state : CheckState) :
    state.withScopes state.scopes = state := rfl

@[simp] theorem withScopes_withScopes
    (state : CheckState) (scopes otherScopes : ScopeStore) :
    (state.withScopes scopes).withScopes otherScopes = state.withScopes otherScopes := rfl

@[simp] theorem withScopes_renames
    (state : CheckState) (scopes : ScopeStore) :
    (state.withScopes scopes).renames = state.renames := rfl

@[simp] theorem withScopes_names
    (state : CheckState) (scopes : ScopeStore) :
    (state.withScopes scopes).names = state.names := rfl

@[simp] theorem withScopes_currentStruct?
    (state : CheckState) (scopes : ScopeStore) :
    (state.withScopes scopes).currentStruct? = state.currentStruct? := rfl

@[simp] theorem withScopes_withoutResult
    (state : CheckState) (scopes : ScopeStore) :
    (state.withScopes scopes).withoutResult = state.withoutResult := rfl

theorem noting_withScopes
    (state : CheckState) (scopes : ScopeStore) (finding : Finding) :
    (state.withScopes scopes).noting finding = (state.noting finding).withScopes scopes := by
  cases finding <;> rfl

@[simp] theorem notingAll_withScopes
    (state : CheckState) (scopes : ScopeStore) (findings : List Finding) :
    (state.withScopes scopes).notingAll findings =
      (state.notingAll findings).withScopes scopes := by
  induction findings generalizing state with
  | nil => rfl
  | cons head tail inductionHypothesis =>
      rw [notingAll_cons, noting_withScopes, inductionHypothesis]
      rfl

@[simp] theorem withCurrent_withScopes
    (state : CheckState) (container? : Option String) (scopes : ScopeStore) :
    (state.withCurrent container?).withScopes scopes =
      (state.withScopes scopes).withCurrent container? := rfl

@[simp] theorem withCurrent_withCurrent
    (state : CheckState) (container? other? : Option String) :
    (state.withCurrent container?).withCurrent other? = state.withCurrent other? := rfl

@[simp] theorem withCurrent_scopes
    (state : CheckState) (container? : Option String) :
    (state.withCurrent container?).scopes = state.scopes := rfl

@[simp] theorem withCurrent_renames
    (state : CheckState) (container? : Option String) :
    (state.withCurrent container?).renames = state.renames := rfl

theorem withCurrent_self
    {state : CheckState} {container? : Option String}
    (isCurrent : state.currentStruct? = container?) :
    state.withCurrent container? = state := by
  subst isCurrent
  rfl

@[simp] theorem notingAll_withCurrent
    (state : CheckState) (container? : Option String) (findings : List Finding) :
    (state.withCurrent container?).notingAll findings =
      (state.notingAll findings).withCurrent container? := by
  induction findings generalizing state with
  | nil => rfl
  | cons head tail inductionHypothesis =>
      have same : (state.withCurrent container?).noting head =
          (state.noting head).withCurrent container? := by
        cases head <;> rfl
      rw [notingAll_cons, same, inductionHypothesis]
      rfl

/-! ## The tables after some findings -/

@[simp] theorem noting_scopes
    (state : CheckState) (finding : Finding) :
    (state.noting finding).scopes = state.scopes := by
  cases finding <;> rfl

@[simp] theorem notingAll_scopes
    (state : CheckState) (findings : List Finding) :
    (state.notingAll findings).scopes = state.scopes := by
  induction findings generalizing state with
  | nil => rfl
  | cons head tail inductionHypothesis => simp [inductionHypothesis]

/-- Findings alone do not touch the scopes. -/
@[simp] theorem notingAll_withScopes_scopes
    (state : CheckState) (findings : List Finding) :
    (state.notingAll findings).withScopes state.scopes = state.notingAll findings := by
  rw [← notingAll_withScopes, withScopes_self]

/-- What no finding touches stays as it is. -/
theorem notingAll_untouched
    {alpha : Type} (part : CheckState → alpha)
    (keeps : ∀ state finding, part (noting state finding) = part state) (state : CheckState)
    (findings : List Finding) : part (state.notingAll findings) = part state := by
  induction findings generalizing state with
  | nil => rfl
  | cons head tail inductionHypothesis => rw [notingAll_cons, inductionHypothesis, keeps]

@[simp] theorem notingAll_root?
    (state : CheckState) (findings : List Finding) :
    (state.notingAll findings).root? = state.root? :=
  notingAll_untouched (·.root?) (fun _ finding => by cases finding <;> rfl) state findings

@[simp] theorem notingAll_currentStruct?
    (state : CheckState) (findings : List Finding) :
    (state.notingAll findings).currentStruct? = state.currentStruct? :=
  notingAll_untouched (·.currentStruct?) (fun _ finding => by cases finding <;> rfl) state
    findings

/-- A table to which every finding adds what one part of it says has the latest entry first. -/
theorem notingAll_table
    {alpha : Type} (table : CheckState → List alpha) (part? : Finding → Option alpha)
    (adds : ∀ state finding,
      table (noting state finding) = (part? finding).toList ++ table state)
    (state : CheckState) (findings : List Finding) :
    table (state.notingAll findings) =
      (findings.filterMap part?).reverse ++ table state := by
  induction findings generalizing state with
  | nil => rfl
  | cons head tail inductionHypothesis =>
      rw [notingAll_cons, inductionHypothesis, adds, List.filterMap_cons]
      cases part? head <;> simp

theorem notingAll_types
    (state : CheckState) (findings : List Finding) :
    (state.notingAll findings).types =
      (findings.filterMap Finding.typing?).reverse ++ state.types :=
  notingAll_table (·.types) Finding.typing? (fun _ finding => by cases finding <;> rfl) state
    findings

theorem notingAll_reports
    (state : CheckState) (findings : List Finding) :
    (state.notingAll findings).reports =
      (findings.filterMap Finding.report?).reverse ++ state.reports :=
  notingAll_table (·.reports) Finding.report? (fun _ finding => by cases finding <;> rfl) state
    findings

theorem notingAll_names
    (state : CheckState) (findings : List Finding) :
    (state.notingAll findings).names =
      (findings.filterMap Finding.renaming?).reverse ++ state.names :=
  notingAll_table (·.names) Finding.renaming? (fun _ finding => by cases finding <;> rfl) state
    findings

theorem notingAll_withoutResult
    (state : CheckState) (findings : List Finding) :
    (state.notingAll findings).withoutResult =
      (findings.filterMap Finding.lost?).reverse ++ state.withoutResult :=
  notingAll_table (·.withoutResult) Finding.lost? (fun _ finding => by cases finding <;> rfl)
    state findings

theorem notingAll_renames
    (state : CheckState) (findings : List Finding) :
    (state.notingAll findings).renames =
      state.renames + (findings.filterMap Finding.renaming?).length := by
  induction findings generalizing state with
  | nil => rfl
  | cons head tail inductionHypothesis =>
      rw [notingAll_cons, inductionHypothesis, List.filterMap_cons]
      cases head <;> simp [noting, Finding.renaming?]
      omega

theorem notingAll_containment
    (state : CheckState) (findings : List Finding) :
    (state.notingAll findings).containment =
      findings.foldl Finding.addTo state.containment := by
  induction findings generalizing state with
  | nil => rfl
  | cons head tail inductionHypothesis =>
      rw [notingAll_cons, inductionHypothesis]
      cases head <;> rfl

/-- Types and complaints go into two tables; all else stays as it is. -/
theorem notingAll_of_notes
    (state : CheckState) {findings : List Finding}
    (areNotes : ∀ finding ∈ findings, finding.isNote) :
    state.notingAll findings =
      { state with
        types := (findings.filterMap Finding.typing?).reverse ++ state.types
        reports := (findings.filterMap Finding.report?).reverse ++ state.reports } := by
  induction findings generalizing state with
  | nil => rfl
  | cons head tail inductionHypothesis =>
      rw [List.forall_mem_cons] at areNotes
      rw [notingAll_cons, inductionHypothesis _ areNotes.2, List.filterMap_cons,
        List.filterMap_cons]
      cases head with
      | typed address type => simp [noting]
      | reported report => simp [noting]
      | renamed | resultLost | containing | contained => cases areNotes.1

end CheckState

namespace Check

/-! ## Steps that only find something -/

theorem ends_report
    {mayFail : Prop} {state : CheckState} {kind : DiagnosticKind} {address : Address}
    {position : Position} {names : List String} {holds : Unit → CheckState → Prop}
    (isSo : holds () (state.notingAll [.complaint kind address position names])) :
    Ends mayFail (report kind address position names) state holds :=
  isSo

theorem ends_afterReport
    {alpha : Type} {mayFail : Prop} {state : CheckState} {kind : DiagnosticKind}
    {address : Address} {position : Position} {names : List String} {next : Unit → Check alpha}
    {holds : alpha → CheckState → Prop}
    (ends : Ends mayFail (next ())
      (state.notingAll [.complaint kind address position names]) holds) :
    Ends mayFail (report kind address position names >>= next) state holds :=
  ends

/-- A verdict is noted, and gives the type. -/
theorem ends_settle
    {mayFail : Prop} {state : CheckState} {address : Address} {position : Position}
    {verdict : Verdict} {holds : Ty → CheckState → Prop}
    (isSo : holds verdict.ty (state.notingAll (Finding.settled address position verdict))) :
    Ends mayFail (settle address position verdict) state holds := by
  cases verdict with
  | type found => exact isSo
  | fault kind names => exact isSo

/-- A step that goes on after a complaint, which is made only if there is cause for it. -/
theorem ends_reportIf
    {alpha : Type} {mayFail : Prop} {state : CheckState} {kind : DiagnosticKind}
    {address : Address} {position : Position} {names : List String} {cause : Prop}
    [Decidable cause] {next : Unit → Check alpha} {holds : alpha → CheckState → Prop}
    (ends : Ends mayFail (next ())
      (state.notingAll (if cause then [.complaint kind address position names] else []))
      holds) :
    Ends mayFail
      (if cause then report kind address position names >>= next else next ()) state holds := by
  by_cases isCause : cause
  · rw [if_pos isCause] at ends ⊢
    exact ends
  · rw [if_neg isCause] at ends ⊢
    exact ends

end Check

end StructLang
