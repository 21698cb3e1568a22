import StructLang.Proofs.Scope.Store

/-!
# Regions

A region is a run of declarations that share a scope. The first declaration of a name is the one
that counts. A chain of scopes mirrors nested regions if each scope holds the first declarations
of its region and nothing else, and the outermost scope holds no variables; then looking a name up
in the chain is looking it up in the regions.
-/

namespace StructLang

/-- Declarations that share a scope, in the order of the text. -/
abbrev Region := List VariableDecl

namespace VariableDecl

/-- The entry of a declaration. -/
def entry (declaration : VariableDecl) : Entry :=
  .ofVariable declaration.name declaration.type

/-- The first declarations of all names but some. -/
def firstsBeside (seen : List String) : List VariableDecl → List VariableDecl
  | [] => []
  | head :: tail =>
      if head.name ∈ seen then firstsBeside seen tail
      else head :: firstsBeside (head.name :: seen) tail

end VariableDecl

namespace Region

/-- The names that a region declares. -/
def names (region : Region) : List String := region.map (·.name)

/-- The first declaration of a name. -/
def declarationOf? (region : Region) (name : String) : Option VariableDecl :=
  region.find? (·.name = name)

/-- The entries of a scope that holds a region. -/
def entries (region : Region) : List Entry :=
  (VariableDecl.firstsBeside [] region).map VariableDecl.entry

/-- The declaration of a name in the nearest of some nested regions. -/
def nearest? (regions : List Region) (name : String) : Option VariableDecl :=
  regions.findSome? (declarationOf? · name)

theorem declarationOf?_eq_none
    {region : Region} {name : String} :
    region.declarationOf? name = none ↔ name ∉ region.names := by
  simp [declarationOf?, names]

/-- Which names were seen matters, not in which order. -/
theorem firstsBeside_congr
    {seen alsoSeen : List String} (same : ∀ name, name ∈ seen ↔ name ∈ alsoSeen)
    (region : Region) :
    VariableDecl.firstsBeside seen region = VariableDecl.firstsBeside alsoSeen region := by
  induction region generalizing seen alsoSeen with
  | nil => rfl
  | cons head tail inductionHypothesis =>
      have sameTail := inductionHypothesis same
      have sameRest : VariableDecl.firstsBeside (head.name :: seen) tail =
          VariableDecl.firstsBeside (head.name :: alsoSeen) tail :=
        inductionHypothesis fun name => by simp only [List.mem_cons, same name]
      simp only [VariableDecl.firstsBeside, same head.name, sameTail, sameRest]

theorem firstsBeside_append
    (seen : List String) (earlier later : Region) :
    VariableDecl.firstsBeside seen (earlier ++ later) =
      VariableDecl.firstsBeside seen earlier ++
        VariableDecl.firstsBeside (seen ++ earlier.names) later := by
  induction earlier generalizing seen with
  | nil => simp [names, VariableDecl.firstsBeside]
  | cons head tail inductionHypothesis =>
      simp only [List.cons_append, VariableDecl.firstsBeside]
      split
      case isTrue isSeen =>
        have same : VariableDecl.firstsBeside (seen ++ names tail) later =
            VariableDecl.firstsBeside (seen ++ names (head :: tail)) later :=
          firstsBeside_congr (fun name => by simp only [names, List.map_cons]; grind) later
        rw [inductionHypothesis, same]
      case isFalse =>
        have same : VariableDecl.firstsBeside (head.name :: seen ++ names tail) later =
            VariableDecl.firstsBeside (seen ++ names (head :: tail)) later :=
          firstsBeside_congr (fun name => by simp only [names, List.map_cons]; grind) later
        rw [inductionHypothesis, same, List.cons_append]

theorem entries_append
    (earlier later : Region) :
    entries (earlier ++ later) =
      entries earlier ++
        (VariableDecl.firstsBeside earlier.names later).map VariableDecl.entry := by
  rw [entries, firstsBeside_append, List.map_append, List.nil_append]
  rfl

theorem find?_firstsBeside
    (seen : List String) (region : Region) (name : String) :
    (VariableDecl.firstsBeside seen region).find? (·.name = name) =
      if name ∈ seen then none else region.declarationOf? name := by
  induction region generalizing seen with
  | nil => simp [VariableDecl.firstsBeside, declarationOf?]
  | cons head tail inductionHypothesis =>
      simp only [declarationOf?] at inductionHypothesis ⊢
      simp only [VariableDecl.firstsBeside]
      split
      · rw [inductionHypothesis]
        grind
      · grind

/-- A scope that holds a region knows the first declaration of each name. -/
theorem find?_entries
    (region : Region) (name : String) :
    region.entries.find? (·.key = ⟨.vars, name⟩) =
      (region.declarationOf? name).map VariableDecl.entry := by
  have found := find?_firstsBeside [] region name
  rw [if_neg (List.not_mem_nil)] at found
  rw [← found, entries, List.find?_map]
  congr 2
  ext declaration
  simp [VariableDecl.entry, Entry.key]

theorem declarationOf?_append
    (earlier later : Region) (name : String) :
    declarationOf? (earlier ++ later) name =
      (earlier.declarationOf? name).or (later.declarationOf? name) :=
  List.find?_append

end Region

/-! ## Scopes that show a region -/

namespace Scope

/-- Of its variables a scope shows the first declarations of a region. It may hold entries of
other kinds. -/
def Shows (scope : Scope) (region : Region) : Prop :=
  ∀ name, scope.find? ⟨.vars, name⟩ =
    (region.declarationOf? name).map VariableDecl.entry

theorem shows_entries
    (region : Region) (enclosing? : Option ScopeId) :
    Shows ⟨region.entries, enclosing?⟩ region :=
  Region.find?_entries region

theorem Shows.extend
    {scope : Scope} {region : Region} (shows : scope.Shows region) (declared : Region) :
    Shows
      { scope with
        entries := scope.entries ++
          (VariableDecl.firstsBeside region.names declared).map VariableDecl.entry }
      (region ++ declared) := by
  intro name
  have found := Region.find?_firstsBeside region.names declared name
  have isKey : (fun declaration : VariableDecl => decide (declaration.entry.key =
      ⟨.vars, name⟩)) = fun declaration => decide (declaration.name = name) := by
    funext declaration
    simp [VariableDecl.entry, Entry.key]
  have shown := shows name
  simp only [find?] at shown ⊢
  rw [List.find?_append, shown, List.find?_map, Function.comp_def, isKey, found,
    Region.declarationOf?_append]
  cases known : region.declarationOf? name with
  | some declaration => rfl
  | none => rw [if_neg (Region.declarationOf?_eq_none.mp known)]; rfl

end Scope

end StructLang
