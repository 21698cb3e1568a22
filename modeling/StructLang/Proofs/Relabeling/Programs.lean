import StructLang.Proofs.Check.Programs
import StructLang.Proofs.Relabeling.Statements

/-!
# Relabeled programs

Names are made up from numbers and from written names alone, and the containment graph has an arrow
between two changed names exactly if it had one between the old ones. So all that the check of a
relabeled program finds is what the check of the program finds, relabeled.
-/

namespace StructLang

variable {relabeling : Relabeling}

/-! ## Entries and signatures -/

namespace Entry

/-- An entry with other labels. Scopes and declarations are as they were. -/
def relabel (relabeling : Relabeling) : Entry → Entry
  | ofVariable name type => ofVariable (relabeling.name name) (type.rename relabeling.name)
  | ofFunction name result parameters scope address? =>
      ofFunction (relabeling.name name) (result.rename relabeling.name)
        (Region.relabel relabeling parameters) scope address?
  | ofStruct name scope => ofStruct (relabeling.name name) scope

theorem find?_relabel
    (injective : Function.Injective relabeling.name) (entries : List Entry) (kind : EntryKind)
    (name : String) :
    (entries.map (relabel relabeling)).find? (·.key = ⟨kind, relabeling.name name⟩) =
      (entries.find? (·.key = ⟨kind, name⟩)).map (relabel relabeling) := by
  have sameKey (entry : Entry) :
      (entry.relabel relabeling).key = ⟨kind, relabeling.name name⟩ ↔
        entry.key = ⟨kind, name⟩ := by
    cases entry <;> simp only [relabel, key, Key.mk.injEq, injective.eq_iff]
  simp only [List.find?_map, Function.comp_def, sameKey]

end Entry

namespace Signature

/-- A signature with other labels. -/
def relabel (relabeling : Relabeling) (signature : Signature) : Signature where
  entries := signature.entries.map (Entry.relabel relabeling)
  fields scope := (signature.fields scope).relabel relabeling
  lost := signature.lost

theorem follows_relabel
    (injective : Function.Injective relabeling.name) (signature : Signature) :
    signature.Follows relabeling (signature.relabel relabeling) := by
  have isEntry (kind : EntryKind) (called : String) :
      Signature.entry? (signature.relabel relabeling) ⟨kind, relabeling.name called⟩ =
        (signature.entry? ⟨kind, called⟩).map (Entry.relabel relabeling) :=
    Entry.find?_relabel injective signature.entries kind called
  refine ⟨fun regions => ⟨fun called => ?_, fun owner called => ?_⟩, fun called => ?_,
    fun called => ?_⟩
  · simp only [around, name, Region.nearest?_relabel injective, isEntry]
    cases Region.nearest? regions called with
    | some declaration => rfl
    | none =>
        cases signature.entry? ⟨.functions, called⟩ with
        | none => rfl
        | some entry =>
            cases entry with
            | ofVariable | ofStruct => rfl
            | ofFunction shown result parameters scope address? =>
                simp only [Option.map_none, Option.map_some, Entry.relabel, Verdict.rename,
                  Ty.rename, Ty.renameAll_eq, Region.relabel, List.map_map,
                  apply_ite (Ty.rename relabeling.name)]
                rfl
  · cases owner with
    | struct struct =>
        simp only [around, member, Ty.rename, isEntry]
        cases signature.entry? ⟨.structs, struct⟩ with
        | none => rfl
        | some entry =>
            cases entry with
            | ofVariable | ofFunction => rfl
            | ofStruct shown scope =>
                simp only [Option.map_some, Entry.relabel, relabel,
                  Region.declarationOf?_relabel injective]
                cases (signature.fields scope).declarationOf? called <;> rfl
    | _ => rfl
  · rw [isEntry, Option.isSome_map]
  · rw [isEntry, Option.isSome_map]

end Signature

/-! ## Naming -/

namespace Naming

/-- A naming that gave other names, but made up as many. -/
def relabel (relabeling : Relabeling) (naming : Naming) : Naming :=
  ⟨naming.taken.map relabeling.name, naming.made⟩

variable {naming : Naming} {makeUp otherMakeUp : Nat → String}

theorem mem_taken_relabel
    (injective : Function.Injective relabeling.name) {name : String} :
    relabeling.name name ∈ (naming.relabel relabeling).taken ↔ name ∈ naming.taken := by
  simp [relabel, injective.eq_iff]

theorem known_relabel
    (injective : Function.Injective relabeling.name)
    (keeps : ∀ count, otherMakeUp count = relabeling.name (makeUp count)) (name : String) :
    (naming.relabel relabeling).known otherMakeUp (relabeling.name name) =
      relabeling.name (naming.known makeUp name) := by
  simp only [known, mem_taken_relabel injective, keeps, apply_ite relabeling.name]
  rfl

theorem next_relabel
    (injective : Function.Injective relabeling.name)
    (keeps : ∀ count, otherMakeUp count = relabeling.name (makeUp count)) (name : String) :
    (naming.relabel relabeling).next otherMakeUp (relabeling.name name) =
      (naming.next makeUp name).relabel relabeling := by
  rw [next, known_relabel injective keeps, next]
  simp only [mem_taken_relabel injective]
  simp only [relabel, List.map_append, List.map_cons, List.map_nil]

theorem afterAll_relabel
    (faithful : relabeling.Faithful) (naming : Naming) (names : List String) :
    (naming.relabel relabeling).afterAll (names.map relabeling.name) =
      (naming.afterAll names).relabel relabeling := by
  induction names generalizing naming with
  | nil => rfl
  | cons head tail inductionHypothesis =>
      have keeps (count : Nat) : numbered count = relabeling.name (numbered count) :=
        (faithful.numbered count).symm
      rw [List.map_cons, afterAll_cons, afterAll_cons, next_relabel faithful.injective keeps,
        inductionHypothesis]

end Naming

/-! ## Declarations -/

namespace Finding

theorem relabel_complaint_inPlace
    (inPlace : relabeling.InPlace) {kind : DiagnosticKind} {address : Address}
    {position : Position} {names : List String} :
    (complaint kind address position names).relabel relabeling =
      complaint kind address (relabeling.position position)
        (kind.rename relabeling.name names) := by
  rw [complaint, relabel, Report.relabel, Option.map_some, inPlace.address_eq]
  rfl

end Finding

theorem namingFindings_relabel
    (faithful : relabeling.Faithful) (inPlace : relabeling.InPlace) (kind : DiagnosticKind)
    (isName : kind ≠ .unsupportedOperand) (address : Address) (position : Position)
    (naming : Naming) (name : String) :
    namingFindings kind address (relabeling.position position) (naming.relabel relabeling)
        (relabeling.name name) =
      (namingFindings kind address position naming name).map (Finding.relabel relabeling) := by
  have isRenamed : kind.rename relabeling.name [name] = [relabeling.name name] := by
    cases kind <;> first | rfl | exact absurd rfl isName
  have isMadeUp : relabeling.name (numbered (naming.made + 1)) = numbered (naming.made + 1) :=
    faithful.numbered _
  simp only [namingFindings, Naming.mem_taken_relabel faithful.injective,
    apply_ite (List.map (Finding.relabel relabeling)), List.map_cons, List.map_nil,
    Finding.relabel_complaint_inPlace inPlace, isRenamed]
  simp only [Finding.relabel, inPlace.address_eq, isMadeUp, Naming.relabel]

theorem StructDecl.declareFindings_relabel
    (faithful : relabeling.Faithful) (inPlace : relabeling.InPlace) (naming : Naming)
    (index : Nat) (structs : List StructDecl) :
    declareFindings (naming.relabel relabeling) index (structs.map (relabel relabeling)) =
      (declareFindings naming index structs).map (Finding.relabel relabeling) := by
  induction structs generalizing naming index with
  | nil => rfl
  | cons head tail inductionHypothesis =>
      have keeps (count : Nat) : numbered count = relabeling.name (numbered count) :=
        (faithful.numbered count).symm
      have isHead := namingFindings_relabel faithful inPlace .duplicateStruct (by decide)
        (Program.structAddress index) head.position naming head.name
      have isTail := inductionHypothesis (naming.next numbered head.name) (index + 1)
      rw [← Naming.next_relabel faithful.injective keeps] at isTail
      simp only [declareFindings, List.map_cons, List.map_append, ← isHead, ← isTail,
        Finding.relabel, ← Naming.known_relabel faithful.injective keeps]
      rfl

theorem FunctionDecl.declareFindings_relabel
    (faithful : relabeling.Faithful) (inPlace : relabeling.InPlace) (known : List String)
    (naming : Naming) (index : Nat) (functions : List FunctionDecl) :
    declareFindings (known.map relabeling.name) (naming.relabel relabeling) index
        (functions.map (relabel relabeling)) =
      (declareFindings known naming index functions).map (Finding.relabel relabeling) := by
  induction functions generalizing naming index with
  | nil => rfl
  | cons head tail inductionHypothesis =>
      have keeps (count : Nat) : numbered count = relabeling.name (numbered count) :=
        (faithful.numbered count).symm
      have isKnown : relabeling.name head.name ∈ known.map relabeling.name ↔
          head.name ∈ known := by
        simp [faithful.injective.eq_iff]
      have isHead := namingFindings_relabel faithful inPlace .duplicateFunction (by decide)
        (Program.functionAddress index) head.position naming head.name
      have isTail := inductionHypothesis (naming.next numbered head.name) (index + 1)
      rw [← Naming.next_relabel faithful.injective keeps] at isTail
      simp only [declareFindings, List.map_cons, List.map_append, ← isHead, ← isTail, relabel,
        isKnown, apply_ite (List.map (Finding.relabel relabeling)), List.map_nil,
        Finding.relabel_complaint_inPlace inPlace, DiagnosticKind.rename]

/-! ## Members of structs -/

section Members

variable {signature other : Signature}

theorem VariableDecl.fieldFindings_relabel
    (injective : Function.Injective relabeling.name)
    (follows : signature.Follows relabeling other) (container : String) (here : Region)
    (way : Address) (field : VariableDecl) :
    (field.relabel relabeling).fieldFindings other.entries (relabeling.name container)
        (here.relabel relabeling) (way ++ relabeling.target) =
      (field.fieldFindings signature.entries container here (way ++ relabeling.source)).map
        (Finding.relabel relabeling) := by
  simp only [fieldFindings, List.map_append, findings_relabel injective follows]
  refine congrArg (· ++ _) ?_
  obtain ⟨name, type, position⟩ := field
  cases type <;> rfl

theorem VariableDecl.fieldFindingsOf_relabel
    (injective : Function.Injective relabeling.name)
    (follows : signature.Follows relabeling other) (container : String) (here : Region)
    (way : Address) (index : Nat) (fields : Region) :
    fieldFindingsOf other.entries (relabeling.name container) (here.relabel relabeling)
        (way ++ relabeling.target) index (fields.relabel relabeling) =
      (fieldFindingsOf signature.entries container here (way ++ relabeling.source) index
        fields).map (Finding.relabel relabeling) := by
  induction fields generalizing here index with
  | nil => rfl
  | cons head tail inductionHypothesis =>
      have ofHead := fieldFindings_relabel injective follows container here (index :: way) head
      have ofTail := inductionHypothesis (here ++ [head]) (index + 1)
      simp only [Region.relabel_append, Region.relabel_cons, Region.relabel_nil] at ofTail
      simp only [List.cons_append] at ofHead
      simp only [Region.relabel_cons, fieldFindingsOf, List.map_append, ofHead, ofTail]

namespace Stmt

theorem fields_relabel
    (member : Stmt) : (member.relabel relabeling).fields = member.fields.relabel relabeling := by
  cases member <;> rfl

theorem namingAfter_relabel
    (faithful : relabeling.Faithful) (naming : Naming) {member : Stmt}
    (written : member.WrittenMember) :
    (member.relabel relabeling).namingAfter (naming.relabel relabeling) =
      (member.namingAfter naming).relabel relabeling := by
  cases member with
  | accessor name =>
      exact Naming.next_relabel faithful.injective
        (fun count => (faithful.suffixed name count written.1).symm) name
  | _ => rfl

theorem namingAfterAll_relabel
    (faithful : relabeling.Faithful) (naming : Naming) {members : List Stmt}
    (written : ∀ member ∈ members, member.WrittenMember) :
    namingAfterAll (naming.relabel relabeling) (relabelAll relabeling members) =
      (namingAfterAll naming members).relabel relabeling := by
  induction members generalizing naming with
  | nil => rfl
  | cons head tail inductionHypothesis =>
      rw [List.forall_mem_cons] at written
      rw [relabelAll, namingAfterAll, List.foldl_cons,
        namingAfter_relabel faithful naming written.1]
      exact inductionHypothesis (head.namingAfter naming) written.2

theorem declareFindings_relabel
    (faithful : relabeling.Faithful) (follows : signature.Follows relabeling other)
    (container : String) (here : Region) (naming : Naming) (way : Address) {member : Stmt}
    (written : member.WrittenMember) :
    (member.relabel relabeling).declareFindings other.entries (relabeling.name container)
        (here.relabel relabeling) (naming.relabel relabeling) (way ++ relabeling.target) =
      (member.declareFindings signature.entries container here naming
        (way ++ relabeling.source)).map (Finding.relabel relabeling) := by
  cases member with
  | declare fields =>
      exact VariableDecl.fieldFindingsOf_relabel faithful.injective follows container here way 0
        fields
  | accessor name type parameters field =>
      have ofField := VariableDecl.fieldFindings_relabel faithful.injective follows container here
        (1 :: way) field
      have isMadeUp : suffixed (relabeling.name name) (naming.made + 1) =
          relabeling.name (suffixed name (naming.made + 1)) :=
        (faithful.suffixed name _ written.1).symm
      have isMade : (naming.relabel relabeling).made = naming.made := rfl
      simp only [List.cons_append] at ofField
      simp only [relabel, declareFindings, List.map_append, ofField,
        Naming.mem_taken_relabel faithful.injective, isMade, isMadeUp,
        apply_ite (List.map (Finding.relabel relabeling)), List.map_cons, List.map_nil,
        Finding.relabel, Relabeling.address_append]
  | _ => rfl

theorem declareFindingsOf_relabel
    (faithful : relabeling.Faithful) (follows : signature.Follows relabeling other)
    (container : String) (here : Region) (naming : Naming) (way : Address) (index : Nat)
    {members : List Stmt} (written : ∀ member ∈ members, member.WrittenMember) :
    declareFindingsOf other.entries (relabeling.name container) (here.relabel relabeling)
        (naming.relabel relabeling) (way ++ relabeling.target) index
        (relabelAll relabeling members) =
      (declareFindingsOf signature.entries container here naming (way ++ relabeling.source) index
        members).map (Finding.relabel relabeling) := by
  induction members generalizing here naming index with
  | nil => rfl
  | cons head tail inductionHypothesis =>
      rw [List.forall_mem_cons] at written
      have ofHead := declareFindings_relabel faithful follows container here naming (index :: way)
        written.1
      have ofTail := inductionHypothesis (here ++ head.fields) (head.namingAfter naming)
        (index + 1) written.2
      simp only [List.cons_append] at ofHead
      simp only [Region.relabel_append, ← fields_relabel,
        ← namingAfter_relabel faithful naming written.1] at ofTail
      simp only [relabelAll, declareFindingsOf, List.map_append, ofHead, ofTail]

theorem bindFindingsOf_relabel
    (injective : Function.Injective relabeling.name)
    (follows : signature.Follows relabeling other) (way : Address) (index : Nat)
    (members : List Stmt) :
    bindFindingsOf other.entries (way ++ relabeling.target) index
        (relabelAll relabeling members) =
      (bindFindingsOf signature.entries (way ++ relabeling.source) index members).map
        (Finding.relabel relabeling) := by
  induction members generalizing index with
  | nil => rfl
  | cons head tail inductionHypothesis =>
      have ofHead : (head.relabel relabeling).bindFindings other.entries
          (index :: (way ++ relabeling.target)) =
            (head.bindFindings signature.entries (index :: (way ++ relabeling.source))).map
              (Finding.relabel relabeling) := by
        cases head with
        | accessor name type parameters =>
            exact VariableDecl.findingsOf_relabel injective follows [] (0 :: index :: way) 0
              parameters
        | _ => rfl
      simp only [relabelAll, bindFindingsOf, List.map_append, ofHead, inductionHypothesis]

end Stmt

namespace StructDecl

theorem fields_relabel
    (declaration : StructDecl) :
    (declaration.relabel relabeling).fields = declaration.fields.relabel relabeling := by
  rw [fields, fields, relabel, Stmt.relabelAll_eq]
  induction declaration.members with
  | nil => rfl
  | cons head tail inductionHypothesis =>
      rw [List.map_cons, List.flatMap_cons, List.flatMap_cons, inductionHypothesis,
        Region.relabel_append, Stmt.fields_relabel]

theorem checkFindings_relabel
    (faithful : relabeling.Faithful) (follows : signature.Follows relabeling other)
    (container : String) (made : Nat) (way : Address) {declaration : StructDecl}
    (written : declaration.Written) :
    (declaration.relabel relabeling).checkFindings other.entries (relabeling.name container) made
        (way ++ relabeling.target) =
      (declaration.checkFindings signature.entries container made (way ++ relabeling.source)).map
        (Finding.relabel relabeling) := by
  have declared := Stmt.declareFindingsOf_relabel faithful follows container [] ⟨[], made⟩
    (0 :: way) 0 written.members
  have bound := Stmt.bindFindingsOf_relabel faithful.injective follows (0 :: way) 0
    declaration.members
  rw [checkFindings, checkFindings, List.map_append]
  exact congr (congrArg _ declared) bound

theorem made_accessorNaming_relabel
    (faithful : relabeling.Faithful) (made : Nat) {declaration : StructDecl}
    (written : declaration.Written) :
    ((declaration.relabel relabeling).accessorNaming made).made =
      (declaration.accessorNaming made).made := by
  have same := Stmt.namingAfterAll_relabel faithful ⟨[], made⟩ written.members
  have sameMade := congrArg Naming.made same
  exact sameMade

theorem checkFindingsOf_relabel
    (faithful : relabeling.Faithful) (inPlace : relabeling.InPlace)
    (follows : signature.Follows relabeling other) (made index : Nat)
    {structs : List (String × StructDecl)} (written : ∀ pair ∈ structs, pair.2.Written) :
    checkFindingsOf other.entries made index
        (structs.map (Prod.map relabeling.name (relabel relabeling))) =
      (checkFindingsOf signature.entries made index structs).map (Finding.relabel relabeling) := by
  induction structs generalizing made index with
  | nil => rfl
  | cons head tail inductionHypothesis =>
      obtain ⟨container, declaration⟩ := head
      rw [List.forall_mem_cons] at written
      have ofHead := checkFindings_relabel faithful follows container made
        (Program.structAddress index) written.1
      have ofTail := inductionHypothesis (declaration.accessorNaming made).made (index + 1)
        written.2
      rw [inPlace.source, inPlace.target, List.append_nil] at ofHead
      simp only [List.map_cons, Prod.map_apply, checkFindingsOf, List.map_append, ofHead, ofTail,
        made_accessorNaming_relabel faithful made written.1]

end StructDecl

end Members

/-! ## Functions -/

namespace FunctionDecl

variable {signature other : Signature}

theorem resultFindings_relabel
    (follows : signature.Follows relabeling other) (way : Address) (declaration : FunctionDecl) :
    (declaration.relabel relabeling).resultFindings other.entries (way ++ relabeling.target) =
      (declaration.resultFindings signature.entries (way ++ relabeling.source)).map
        (Finding.relabel relabeling) := by
  obtain ⟨name, result, parameters, body, position⟩ := declaration
  cases result with
  | struct struct =>
      have isMissing : (other.entries.find? (·.key = ⟨.structs, relabeling.name struct⟩)).isNone =
          (signature.entries.find? (·.key = ⟨.structs, struct⟩)).isNone := by
        have isSome := follows.isStruct struct
        simp only [Signature.entry?] at isSome
        rw [← Option.not_isSome, isSome, Option.not_isSome]
      simp only [resultFindings, relabel, Ty.rename, isMissing,
        apply_ite (List.map (Finding.relabel relabeling)), List.map_cons, List.map_nil,
        Finding.relabel_complaint, DiagnosticKind.rename]
      simp only [Finding.relabel, Relabeling.address_append]
  | _ => rfl

theorem checkFindings_relabel
    (injective : Function.Injective relabeling.name)
    (follows : signature.Follows relabeling other) (way : Address) (declaration : FunctionDecl) :
    (declaration.relabel relabeling).checkFindings other (way ++ relabeling.target) =
      (declaration.checkFindings signature (way ++ relabeling.source)).map
        (Finding.relabel relabeling) := by
  have ofBody := declaration.body.findings_relabel injective follows [] [[]] (1 :: way)
  have ofParameters := VariableDecl.findingsOf_relabel injective follows
    declaration.body.declares (0 :: way) 0 declaration.parameters
  rw [← Stmt.declares_relabel] at ofParameters
  rw [checkFindings, checkFindings, resultFindings_relabel follows, List.map_append,
    List.map_append]
  exact congr (congrArg _ ofBody) (congrArg (· ++ _) ofParameters)

theorem lost_relabel
    (inPlace : relabeling.InPlace) (follows : signature.Follows relabeling other)
    (address : Address) (declaration : FunctionDecl) :
    (declaration.relabel relabeling).lost other.entries address =
      declaration.lost signature.entries address := by
  have ofResult := resultFindings_relabel follows address declaration
  rw [inPlace.source, inPlace.target, List.append_nil] at ofResult
  rw [lost, lost, ofResult, List.filterMap_map]
  congr 1
  funext finding
  cases finding <;> simp [Finding.relabel, inPlace.address_eq]

theorem checkFindingsOf_relabel
    (injective : Function.Injective relabeling.name) (inPlace : relabeling.InPlace)
    (signature : Signature) (index : Nat) (functions : List FunctionDecl) :
    checkFindingsOf (signature.relabel relabeling) index (functions.map (relabel relabeling)) =
      (checkFindingsOf signature index functions).map (Finding.relabel relabeling) := by
  induction functions generalizing signature index with
  | nil => rfl
  | cons head tail inductionHypothesis =>
      have follows := signature.follows_relabel injective
      have ofHead := checkFindings_relabel injective follows (Program.functionAddress index) head
      rw [inPlace.source, inPlace.target, List.append_nil] at ofHead
      rw [List.map_cons, checkFindingsOf, checkFindingsOf, List.map_append, ofHead,
        lost_relabel inPlace follows, ← inductionHypothesis]
      rfl

theorem lostOf_relabel
    (inPlace : relabeling.InPlace) (follows : signature.Follows relabeling other) (index : Nat)
    (functions : List FunctionDecl) :
    lostOf other.entries index (functions.map (relabel relabeling)) =
      lostOf signature.entries index functions := by
  induction functions generalizing index with
  | nil => rfl
  | cons head tail inductionHypothesis =>
      rw [List.map_cons, lostOf, lostOf, inductionHypothesis, lost_relabel inPlace follows]

end FunctionDecl

/-! ## Programs -/

namespace Program

theorem structNaming_relabel
    (faithful : relabeling.Faithful) (program : Program) :
    (program.relabel relabeling).structNaming = program.structNaming.relabel relabeling := by
  have names : (program.structs.map (StructDecl.relabel relabeling)).map (·.name) =
      (program.structs.map (·.name)).map relabeling.name := by
    simp [StructDecl.relabel]
  rw [structNaming, relabel, names]
  exact Naming.afterAll_relabel faithful ⟨[], 0⟩ _

theorem functionNaming_relabel
    (faithful : relabeling.Faithful) (program : Program) :
    (program.relabel relabeling).functionNaming = program.functionNaming.relabel relabeling := by
  have names : (program.functions.map (FunctionDecl.relabel relabeling)).map (·.name) =
      (program.functions.map (·.name)).map relabeling.name := by
    simp [FunctionDecl.relabel]
  rw [functionNaming, structNaming_relabel faithful, relabel, names]
  exact Naming.afterAll_relabel faithful ⟨[], program.structNaming.made⟩ _

theorem namedStructs_relabel
    (faithful : relabeling.Faithful) (program : Program) :
    (program.relabel relabeling).namedStructs =
      program.namedStructs.map (Prod.map relabeling.name (StructDecl.relabel relabeling)) := by
  rw [namedStructs, structNaming_relabel faithful]
  exact List.zip_map

theorem entries_relabel
    (faithful : relabeling.Faithful) (program : Program) :
    (program.relabel relabeling).entries = program.entries.map (Entry.relabel relabeling) := by
  rw [entries, structNaming_relabel faithful, functionNaming_relabel faithful, entries, rootEntries,
    rootEntries, List.map_append, Naming.relabel, Naming.relabel, List.length_map]
  refine congr (congrArg _ (List.ext_getElem? fun index => ?_)) (List.ext_getElem? fun index => ?_)
  · simp [structEntries, Function.comp_def, Entry.relabel]
  · rw [functionEntries, relabel, List.zip_map, functionEntries]
    simp [Function.comp_def, Entry.relabel, FunctionDecl.relabel]

theorem signature_relabel
    (faithful : relabeling.Faithful) (program : Program) :
    (program.relabel relabeling).signature = program.signature.relabel relabeling := by
  have fields (scope : ScopeId) :
      (((program.relabel relabeling).structs[scope - 1]?.map StructDecl.fields).getD []) =
        Region.relabel relabeling
          ((program.structs[scope - 1]?.map StructDecl.fields).getD []) := by
    rw [relabel, List.getElem?_map]
    cases program.structs[scope - 1]? with
    | none => rfl
    | some declaration => exact declaration.fields_relabel
  simp only [signature, Signature.relabel, entries_relabel faithful, fields]

/-- The graph of a relabeled program has just the arrows that there were, between changed names. -/
theorem arrow_containment_relabel
    (faithful : relabeling.Faithful) (program : Program) (part whole : String) :
    (program.relabel relabeling).containment.Arrow part whole ↔
      ∃ oldPart oldWhole, relabeling.name oldPart = part ∧ relabeling.name oldWhole = whole ∧
        program.containment.Arrow oldPart oldWhole := by
  have isPart (type : Ty) :
      type.rename relabeling.name = .struct part ↔
        ∃ oldPart, relabeling.name oldPart = part ∧ type = .struct oldPart := by
    cases type <;> simp [Ty.rename, eq_comm]
  simp only [arrow_containment, namedStructs_relabel faithful, List.mem_map, Prod.exists,
    Prod.map_apply, Prod.mk.injEq]
  constructor
  · rintro ⟨_, _, ⟨container, declaration, isPair, rfl, rfl⟩, rfl, _, isField, hasType⟩
    obtain ⟨field, inStruct, rfl⟩ := List.mem_map.mp (declaration.fields_relabel ▸ isField)
    obtain ⟨oldPart, isOld, isStruct⟩ := (isPart field.type).mp hasType
    exact ⟨oldPart, container, isOld, rfl, container, declaration, isPair, rfl, field, inStruct,
      isStruct⟩
  · rintro ⟨oldPart, _, isOld, rfl, container, declaration, isPair, rfl, field, inStruct, isStruct⟩
    refine ⟨_, _, ⟨container, declaration, isPair, rfl, rfl⟩, rfl, field.relabel relabeling, ?_,
      (isPart field.type).mpr ⟨oldPart, isOld, isStruct⟩⟩
    rw [StructDecl.fields_relabel]
    exact List.mem_map_of_mem inStruct

theorem isAncestor_containment_relabel
    (faithful : relabeling.Faithful) (program : Program) (name : String) :
    (program.relabel relabeling).containment.isAncestor (relabeling.name name)
        (relabeling.name name) =
      program.containment.isAncestor name name := by
  have arrow := arrow_containment_relabel faithful program
  have back (first last : String)
      (path : Relation.TransGen (program.relabel relabeling).containment.Arrow first last) :
      ∀ old, relabeling.name old = first →
        ∃ oldLast, relabeling.name oldLast = last ∧
          Relation.TransGen program.containment.Arrow old oldLast := by
    intro old isOld
    induction path with
    | single step =>
        obtain ⟨part, whole, isPart, isWhole, oldStep⟩ := (arrow _ _).mp step
        obtain rfl := faithful.injective (isPart.trans isOld.symm)
        exact ⟨whole, isWhole, .single oldStep⟩
    | tail _ step inductionHypothesis =>
        obtain ⟨between, isBetween, oldPath⟩ := inductionHypothesis
        obtain ⟨part, whole, isPart, isWhole, oldStep⟩ := (arrow _ _).mp step
        obtain rfl := faithful.injective (isPart.trans isBetween.symm)
        exact ⟨whole, isWhole, oldPath.tail oldStep⟩
  rw [Bool.eq_iff_iff, Containment.isAncestor_iff, Containment.isAncestor_iff]
  constructor
  · intro path
    obtain ⟨last, isLast, oldPath⟩ := back _ _ path name rfl
    obtain rfl := faithful.injective isLast
    exact oldPath
  · have forth := Relation.TransGen.lift relabeling.name fun part whole oldStep =>
      (arrow _ _).mpr ⟨part, whole, rfl, rfl, oldStep⟩
    exact forth name name

/-! ## What is found in a relabeled program -/

variable {program : Program}

theorem declareFindings_relabel
    (faithful : relabeling.Faithful) (inPlace : relabeling.InPlace) (program : Program) :
    (program.relabel relabeling).declareFindings =
      program.declareFindings.map (Finding.relabel relabeling) := by
  rw [declareFindings, structNaming_relabel faithful, declareFindings, List.map_append]
  exact congr (congrArg _ (StructDecl.declareFindings_relabel faithful inPlace ⟨[], 0⟩ 0 _))
    (FunctionDecl.declareFindings_relabel faithful inPlace _ ⟨[], _⟩ 0 _)

theorem memberFindings_relabel
    (faithful : relabeling.Faithful) (inPlace : relabeling.InPlace)
    (written : ∀ declaration ∈ program.structs, declaration.Written) :
    (program.relabel relabeling).memberFindings =
      program.memberFindings.map (Finding.relabel relabeling) := by
  have follows : program.signature.Follows relabeling (program.relabel relabeling).signature := by
    rw [signature_relabel faithful]
    exact program.signature.follows_relabel faithful.injective
  have isMade : (program.relabel relabeling).functionNaming.made = program.functionNaming.made := by
    rw [functionNaming_relabel faithful, Naming.relabel]
  have areWritten : ∀ pair ∈ program.namedStructs, pair.2.Written := fun pair isThere =>
    written pair.2 (program.snd_namedStructs ▸ List.mem_map_of_mem isThere)
  rw [memberFindings, namedStructs_relabel faithful, isMade, memberFindings]
  exact StructDecl.checkFindingsOf_relabel faithful inPlace follows _ 0 areWritten

theorem cycleFindings_relabel
    (faithful : relabeling.Faithful) (inPlace : relabeling.InPlace) (program : Program) :
    (program.relabel relabeling).cycleFindings =
      program.cycleFindings.map (Finding.relabel relabeling) := by
  have places : StructDecl.places (program.relabel relabeling).namedStructs =
      (StructDecl.places program.namedStructs).map
        fun place => (relabeling.name place.1, place.2.1, relabeling.position place.2.2) := by
    rw [namedStructs_relabel faithful]
    refine List.ext_getElem? fun index => ?_
    simp [StructDecl.places, StructDecl.relabel, Function.comp_def]
  simp only [cycleFindings, StructLang.cycleFindings, places, List.filter_map, List.map_map,
    Function.comp_def, isAncestor_containment_relabel faithful,
    Finding.relabel_complaint_inPlace inPlace, DiagnosticKind.rename, List.map_cons, List.map_nil]

theorem bodyFindings_relabel
    (faithful : relabeling.Faithful) (inPlace : relabeling.InPlace) (program : Program) :
    (program.relabel relabeling).bodyFindings =
      program.bodyFindings.map (Finding.relabel relabeling) := by
  have follows := program.signature.follows_relabel faithful.injective
  have isMain : (program.relabel relabeling).mainSignature =
      program.mainSignature.relabel relabeling := by
    have isLost := FunctionDecl.lostOf_relabel inPlace follows 0 program.functions
    rw [mainSignature, signature_relabel faithful, entries_relabel faithful]
    exact congrArg (Signature.losing _) isLost
  have ofMain : ((program.relabel relabeling).main?.map (MainDecl.checkFindings
      (program.mainSignature.relabel relabeling))).getD [] =
        ((program.main?.map (MainDecl.checkFindings program.mainSignature)).getD []).map
          (Finding.relabel relabeling) := by
    rw [relabel]
    cases program.main? with
    | none => rfl
    | some declaration =>
        have ofBody := declaration.body.findings_relabel faithful.injective
          (program.mainSignature.follows_relabel faithful.injective) [] []
          (0 :: Program.mainAddress)
        rw [inPlace.source, inPlace.target, List.append_nil] at ofBody
        exact ofBody
  rw [bodyFindings, isMain, signature_relabel faithful, ofMain, bodyFindings, List.map_append]
  exact congrArg (· ++ _)
    (FunctionDecl.checkFindingsOf_relabel faithful.injective inPlace program.signature 0 _)

/-- The check of a relabeled program finds what was found, relabeled. -/
theorem findings_relabel
    (faithful : relabeling.Faithful) (inPlace : relabeling.InPlace)
    (written : ∀ declaration ∈ program.structs, declaration.Written) :
    (program.relabel relabeling).findings =
      program.findings.map (Finding.relabel relabeling) := by
  rw [findings, declareFindings_relabel faithful inPlace,
    memberFindings_relabel faithful inPlace written, cycleFindings_relabel faithful inPlace,
    bodyFindings_relabel faithful inPlace, findings, List.map_append, List.map_append,
    List.map_append]

end Program

end StructLang
