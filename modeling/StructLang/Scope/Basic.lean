import StructLang.Stmt.Basic

/-!
# Scopes

A scope holds entries for variables, functions and structs under keys. A key is a kind of entry
and a name, so one name may stand for one entry of each kind. A scope may be enclosed in another
one. Scopes refer to each other by number.
-/

namespace StructLang

/-- What an entry of a scope stands for. -/
inductive EntryKind
  | vars
  | functions
  | structs
  deriving DecidableEq, Repr

/-- The text that starts the keys of a kind of entry. -/
def EntryKind.mark : EntryKind → String
  | vars => "var$"
  | functions => "func$"
  | structs => "struct$"

/-- What an entry is found under. -/
structure Key where
  kind : EntryKind
  name : String
  deriving DecidableEq, Repr

namespace Key

/-- The text of a key. -/
def text (key : Key) : String := key.kind.mark ++ key.name

/-- The key that a text stands for. -/
def ofText? (text : String) : Option Key :=
  [EntryKind.vars, .functions, .structs].findSome? fun kind =>
    if kind.mark.toList.isPrefixOf text.toList then
      some ⟨kind, String.ofList (text.toList.drop kind.mark.length)⟩
    else none

end Key

/-- The number of a scope. -/
abbrev ScopeId := Nat

/-- What a scope knows about a name. A function knows the address of its declaration, unless it is
an accessor. -/
inductive Entry
  | ofVariable (name : String) (type : Ty)
  | ofFunction (name : String) (result : Ty) (parameters : List VariableDecl) (scope : ScopeId)
      (address? : Option Address)
  | ofStruct (name : String) (scope : ScopeId)
  deriving DecidableEq, Repr

namespace Entry

/-- The name of an entry. -/
def name : Entry → String
  | ofVariable name _ => name
  | ofFunction name _ _ _ _ => name
  | ofStruct name _ => name

/-- The key of an entry. -/
def key : Entry → Key
  | ofVariable name _ => ⟨.vars, name⟩
  | ofFunction name _ _ _ _ => ⟨.functions, name⟩
  | ofStruct name _ => ⟨.structs, name⟩

/-- The scope that belongs to an entry. -/
def scope? : Entry → Option ScopeId
  | ofVariable .. => none
  | ofFunction _ _ _ scope _ => some scope
  | ofStruct _ scope => some scope

/-- An entry under another name. -/
def rename (name : String) : Entry → Entry
  | ofVariable _ type => ofVariable name type
  | ofFunction _ result parameters scope address? =>
      ofFunction name result parameters scope address?
  | ofStruct _ scope => ofStruct name scope

end Entry

/-- Entries in the order in which they came in, and the scope around them. -/
structure Scope where
  entries : List Entry
  enclosing? : Option ScopeId
  deriving DecidableEq, Repr

namespace Scope

/-- The entry under a key. -/
def find? (scope : Scope) (key : Key) : Option Entry :=
  scope.entries.find? (·.key = key)

end Scope

/-- Why an entry is not put into the innermost scope. -/
inductive ScopeFault
  | noScope
  | taken (key : Key)
  deriving DecidableEq, Repr

/-- What is wrong with an entry that was refused. -/
def ScopeFault.message : ScopeFault → String
  | noScope => "argument of type 'NoneType' is not iterable"
  | taken key => s!"Symbol '{key.text}' already exists in this scope"

end StructLang
