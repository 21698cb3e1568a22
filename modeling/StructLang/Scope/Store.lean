import StructLang.Scope.Basic

/-!
# Stores of scopes

A store holds all scopes made so far and a stack of those being looked at, the innermost first. A
scope may be on the stack many times. The first push of a scope under another one encloses it
there for good, so a body that is looked at again later still leads to the scopes around it.
-/

namespace StructLang

/-- Scopes by number, and the stack of those being looked at. -/
structure ScopeStore where
  scopes : Array Scope
  stack : List ScopeId
  deriving DecidableEq, Repr

namespace ScopeStore

/-- The store without scopes. -/
def empty : ScopeStore := ⟨#[], []⟩

/-- How many scopes are on the stack. -/
def depth (store : ScopeStore) : Nat := store.stack.length

/-- The innermost scope of the stack. -/
def top? (store : ScopeStore) : Option ScopeId := store.stack.head?

/-- The outermost scope of the stack. -/
def root? (store : ScopeStore) : Option ScopeId := store.stack.getLast?

/-- The scope around a scope. -/
def enclosing? (store : ScopeStore) (scope : ScopeId) : Option ScopeId :=
  store.scopes[scope]?.bind (·.enclosing?)

/-- The entries of a scope. -/
def entries (store : ScopeStore) (scope : ScopeId) : List Entry :=
  (store.scopes[scope]?.map (·.entries)).getD []

/-- The entry of a scope under a key. -/
def find? (store : ScopeStore) (scope : ScopeId) (key : Key) : Option Entry :=
  store.scopes[scope]?.bind (·.find? key)

/-! ## Changes -/

/-- The number that the next new scope gets. -/
def fresh (store : ScopeStore) : ScopeId := store.scopes.size

/-- Makes a new scope. -/
def create (store : ScopeStore) (enclosing? : Option ScopeId) : ScopeStore :=
  { store with scopes := store.scopes.push ⟨[], enclosing?⟩ }

/-- Encloses a scope in another one, whatever enclosed it before. -/
def enclose (store : ScopeStore) (scope outer : ScopeId) : ScopeStore :=
  { store with
    scopes := store.scopes.modify scope fun found => { found with enclosing? := some outer } }

/-- Encloses a scope in the innermost one, unless it is that one or is enclosed already. -/
def attach (store : ScopeStore) (scope : ScopeId) : ScopeStore :=
  match store.top? with
  | none => store
  | some outer =>
      if outer = scope ∨ (store.enclosing? scope).isSome then store
      else store.enclose scope outer

/-- Puts a scope on the stack. -/
def push (store : ScopeStore) (scope : ScopeId) : ScopeStore :=
  { store.attach scope with stack := scope :: store.stack }

/-- Takes the innermost scope off the stack. -/
def pop (store : ScopeStore) : ScopeStore :=
  { store with stack := store.stack.tail }

/-- Puts an entry into the innermost scope, behind those it has. A key is never given twice. -/
def insert (store : ScopeStore) (entry : Entry) : Except ScopeFault ScopeStore :=
  match store.top? with
  | none => .error .noScope
  | some scope =>
      if (store.find? scope entry.key).isSome then .error (.taken entry.key)
      else .ok { store with
        scopes := store.scopes.modify scope fun found =>
          { found with entries := found.entries ++ [entry] } }

/-! ## Lookups -/

/-- A scope and those around it, the innermost first, up to a number of steps. -/
def chainWithin (store : ScopeStore) : Nat → ScopeId → List ScopeId
  | 0, scope => [scope]
  | steps + 1, scope =>
      match store.enclosing? scope with
      | none => [scope]
      | some outer => scope :: store.chainWithin steps outer

/-- A scope and those around it, the innermost first. A chain without repetition has no more links
than the store has scopes. -/
def chain (store : ScopeStore) (scope : ScopeId) : List ScopeId :=
  store.chainWithin store.scopes.size scope

/-- How many links lead from a scope to one that nothing encloses. -/
def hops (store : ScopeStore) (scope : ScopeId) : Nat := (store.chain scope).length - 1

/-- The entry under a key in the innermost scope of the stack. -/
def lookupHere? (store : ScopeStore) (key : Key) : Option Entry :=
  store.top?.bind (store.find? · key)

/-- The entry under a key in the outermost scope of the stack. -/
def lookupRoot? (store : ScopeStore) (key : Key) : Option Entry :=
  store.root?.bind (store.find? · key)

/-- The entry under a key in the nearest scope that has one, going outwards from the innermost
scope of the stack. -/
def lookup? (store : ScopeStore) (key : Key) : Option Entry :=
  store.top?.bind fun scope => (store.chain scope).findSome? (store.find? · key)

end ScopeStore

end StructLang
