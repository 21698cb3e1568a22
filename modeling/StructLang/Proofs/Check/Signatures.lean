import StructLang.Proofs.Check.Trace
import StructLang.Proofs.Check.Expressions
import StructLang.Proofs.Scope.Chain
import StructLang.Stmt.Check

/-!
# Signatures

A signature is what the declarations of a program say to its bodies: the entries of the outermost
scope, the fields of each struct, and the functions that lost their result. With the regions
around it, it says what an expression sees.
-/

namespace StructLang

open Check ScopeStore

/-- What the declarations of a program say to its bodies. -/
structure Signature where
  entries : List Entry
  fields : ScopeId → Region
  lost : List Address

/-! ## Steps inside a scope -/

namespace Check

theorem ends_inScope
    {mayFail : Prop} {state : CheckState} {scope : ScopeId} {step : Check Unit}
    {holds : Unit → CheckState → Prop}
    (ends : Ends mayFail step (state.withScopes (state.scopes.push scope))
      fun _ final => holds () (final.withScopes final.scopes.pop)) :
    Ends mayFail (inScope scope step) state holds :=
  Ends.afterChange (ends.bind fun _ _ isSo => Ends.change isSo)

theorem ends_modifyScopes
    {alpha : Type} {mayFail : Prop} {state : CheckState} {change : ScopeStore → ScopeStore}
    {next : Unit → Check alpha} {holds : alpha → CheckState → Prop}
    (ends : Ends mayFail (next ()) (state.withScopes (change state.scopes)) holds) :
    Ends mayFail (modifyScopes change >>= next) state holds :=
  ends

theorem ends_newScope
    {alpha : Type} {mayFail : Prop} {state : CheckState} {enclosing? : Option ScopeId}
    {next : ScopeId → Check alpha} {holds : alpha → CheckState → Prop}
    (ends : Ends mayFail (next state.scopes.fresh)
      (state.withScopes (state.scopes.create enclosing?)) holds) :
    Ends mayFail (newScope enclosing? >>= next) state holds :=
  ends

/-- An entry is put into the innermost scope exactly if its key is free there. -/
theorem ends_tryInsert
    {alpha : Type} {mayFail : Prop} {state : CheckState} {scope : ScopeId} {entry : Entry}
    {next : Bool → Check alpha} {holds : alpha → CheckState → Prop}
    (isTop : state.scopes.top? = some scope)
    (ifFree : state.scopes.find? scope entry.key = none →
      Ends mayFail (next true) (state.withScopes (state.scopes.extend scope [entry])) holds)
    (ifTaken : state.scopes.find? scope entry.key ≠ none →
      Ends mayFail (next false) state holds) :
    Ends mayFail (tryInsert entry >>= next) state holds := by
  have inserted : Ends mayFail (tryInsert entry) state fun isNew final =>
      Ends mayFail (next isNew) final holds := by
    refine Ends.afterGet ?_
    by_cases isFree : state.scopes.find? scope entry.key = none
    · rw [insert_free isTop isFree]
      exact Ends.afterChange (Ends.pure (ifFree isFree))
    · rw [insert_taken isTop isFree]
      exact Ends.pure (ifTaken isFree)
  exact inserted.bind fun _ _ => id

theorem ends_nextRename
    {alpha : Type} {mayFail : Prop} {state : CheckState} {next : Nat → Check alpha}
    {holds : alpha → CheckState → Prop}
    (ends : Ends mayFail (next (state.renames + 1))
      { state with renames := state.renames + 1 } holds) :
    Ends mayFail (nextRename >>= next) state holds :=
  ends

/-- A declaration is put under a made-up name, whose number was just given, into the innermost
scope. If the name is taken there, the check fails. -/
theorem ends_insertRenamed
    {mayFail : Prop} {state : CheckState} {scope : ScopeId} {address : Address}
    {name : String} {entry : Entry} {holds : Unit → CheckState → Prop}
    (isTop : state.scopes.top? = some scope)
    (ifFree : state.scopes.find? scope ⟨entry.key.kind, name⟩ = none →
      holds () ((state.notingAll [.renamed address name]).withScopes
        (state.scopes.extend scope [entry.rename name])))
    (ifTaken : state.scopes.find? scope ⟨entry.key.kind, name⟩ ≠ none → mayFail) :
    Ends mayFail (insertRenamed address name entry)
      { state with renames := state.renames + 1 } holds := by
  have isKey : (entry.rename name).key = ⟨entry.key.kind, name⟩ := by cases entry <;> rfl
  refine Ends.afterChange (Ends.afterGet ?_)
  by_cases isFree : state.scopes.find? scope (entry.rename name).key = none
  · rw [insert_free isTop isFree]
    exact Ends.change (ifFree (isKey ▸ isFree))
  · rw [insert_taken isTop isFree]
    exact Ends.throw (ifTaken (isKey ▸ isFree))

theorem ends_inNewScope
    {mayFail : Prop} {state : CheckState} {step : Check Unit}
    {holds : Unit → CheckState → Prop}
    (ends : Ends mayFail step
      (state.withScopes ((state.scopes.create none).push state.scopes.fresh))
      fun _ final => holds () (final.withScopes final.scopes.pop)) :
    Ends mayFail (inNewScope step) state holds := by
  exact ends_newScope (ends_inScope ends)

end Check

namespace Signature

/-- The entry of the outermost scope under a key. -/
def entry? (signature : Signature) (key : Key) : Option Entry :=
  signature.entries.find? (·.key = key)

/-- What a name means inside nested regions. -/
def name (signature : Signature) (regions : List Region) (called : String) : Verdict :=
  match Region.nearest? regions called with
  | some declaration => .type declaration.type
  | none =>
      match signature.entry? ⟨.functions, called⟩ with
      | some (.ofFunction _ result parameters _ address?) =>
          let lost := address?.any fun address => signature.lost.contains address
          .type (.fptr (parameters.map (·.type)) (if lost then .unknown else result))
      | _ => .fault .variableNotDeclared [called]

/-- What a member of an owner of some type is. -/
def member (signature : Signature) (owner : Ty) (called : String) : Verdict :=
  match owner with
  | .unknown => .type .unknown
  | .struct struct =>
      match signature.entry? ⟨.structs, struct⟩ with
      | some (.ofStruct _ scope) =>
          match (signature.fields scope).declarationOf? called with
          | some declaration => .type declaration.type
          | none => .fault .structMemberNotFound [struct, called]
      | _ => .fault .structNotDeclared [struct]
  | _ => .fault .memberOnNonStruct []

/-- What expressions see inside nested regions. -/
def around (signature : Signature) (regions : List Region) : Surroundings :=
  ⟨signature.name regions, signature.member⟩

end Signature

/-! ## Stores that fit a signature -/

/-- The outermost scope of a store is the first one that was made; it holds these entries. -/
structure Rooted (entries : List Entry) (store : ScopeStore) : Prop where
  root : store.root? = some 0
  found : store.scopes[0]? = some ⟨entries, none⟩

namespace Rooted

variable {entries : List Entry} {store other : ScopeStore}

theorem lookupRoot?_eq
    (rooted : Rooted entries store) (key : Key) :
    store.lookupRoot? key = entries.find? (·.key = key) := by
  rw [lookupRoot?, rooted.root, Option.bind_some, find?_eq _ rooted.found, Scope.find?]

theorem size_pos
    (rooted : Rooted entries store) : 0 < store.scopes.size :=
  (Array.getElem?_eq_some_iff.mp rooted.found).1

theorem of_altersOnly
    {altered : List ScopeId} (rooted : Rooted entries store)
    (alters : AltersOnly altered store other) (untouched : 0 ∉ altered) :
    Rooted entries other :=
  ⟨alters.root?.trans rooted.root, alters.found rooted.found untouched⟩

theorem push
    {scope : ScopeId} (rooted : Rooted entries store) (notRoot : 0 ≠ scope) :
    Rooted entries (store.push scope) := by
  refine ⟨?_, (attach_other store notRoot).trans rooted.found⟩
  have notEmpty : store.stack ≠ [] := fun isEmpty => by
    simpa [root?, isEmpty] using rooted.root
  rw [← rooted.root]
  simp [ScopeStore.push, root?, List.getLast?_cons, List.getLast?_eq_some_getLast notEmpty]

end Rooted

namespace Signature

/-- A store holds just what a signature says. -/
structure Fits (signature : Signature) (store : ScopeStore) : Prop where
  rooted : Rooted signature.entries store
  fields : ∀ name scope, .ofStruct name scope ∈ signature.entries →
    ∃ found, store.scopes[scope]? = some found ∧ found.Shows (signature.fields scope)

variable {signature : Signature} {store other : ScopeStore}

theorem Fits.of_altersOnly
    {altered : List ScopeId} (fits : signature.Fits store)
    (alters : AltersOnly altered store other) (untouched : 0 ∉ altered)
    (noStruct : ∀ scope ∈ altered, ∀ name, .ofStruct name scope ∉ signature.entries) :
    signature.Fits other := by
  refine ⟨fits.rooted.of_altersOnly alters untouched, fun name scope isStruct => ?_⟩
  obtain ⟨found, isFound, shows⟩ := fits.fields name scope isStruct
  exact ⟨found, alters.found isFound fun touched => noStruct scope touched name isStruct,
    shows⟩

theorem Fits.member_eq
    (fits : signature.Fits store) : Rule.member store = signature.member := by
  funext owner called
  cases owner with
  | struct struct =>
      simp only [Rule.member, Signature.member, fits.rooted.lookupRoot?_eq, entry?]
      cases isEntry : signature.entries.find? (·.key = ⟨.structs, struct⟩) with
      | none => rfl
      | some entry =>
          cases entry with
          | ofVariable name type => rfl
          | ofFunction name result parameters scope address? => rfl
          | ofStruct name scope =>
              obtain ⟨found, isFound, shows⟩ :=
                fits.fields name scope (List.mem_of_find?_eq_some isEntry)
              simp only [find?_eq _ isFound, shows called]
              cases (signature.fields scope).declarationOf? called <;> rfl
  | int | bool | void | unknown | generic | list _ | fptr _ _ => rfl

/-- A check stands inside nested regions of a program with a signature. -/
structure Inside (signature : Signature) (chain : List ScopeId) (regions : List Region)
    (store : ScopeStore) : Prop where
  fits : signature.Fits store
  mirrors : Mirrors store chain regions
  top : store.top? = chain.head?
  distinct : chain.Nodup
  apart : ∀ scope ∈ chain, ∀ name, .ofStruct name scope ∉ signature.entries

namespace Inside

variable {chain : List ScopeId} {regions : List Region}

theorem name_eq
    (inside : signature.Inside chain regions store) :
    Rule.name store signature.lost = signature.name regions := by
  funext called
  have ofVars : store.lookup? ⟨.vars, called⟩ =
      (Region.nearest? regions called).map VariableDecl.entry := by
    cases isChain : chain with
    | nil => exact absurd isChain inside.mirrors.ne_nil
    | cons scope rest =>
        subst isChain
        exact inside.mirrors.lookup?_eq inside.distinct inside.top called
  simp only [Rule.name, Signature.name, ofVars, inside.fits.rooted.lookupRoot?_eq, entry?]
  cases Region.nearest? regions called <;> rfl

/-- What expressions see depends on the signature and the regions alone. -/
theorem surroundings_eq
    {state : CheckState} (inside : signature.Inside chain regions state.scopes)
    (isLost : state.withoutResult = signature.lost) :
    state.surroundings = signature.around regions := by
  simp only [CheckState.surroundings, isLost, inside.name_eq, inside.fits.member_eq, around]

theorem chain_eq_cons
    (inside : signature.Inside chain regions store) :
    ∃ scope rest, chain = scope :: rest ∧ store.top? = some scope := by
  cases isChain : chain with
  | nil => exact absurd isChain inside.mirrors.ne_nil
  | cons scope rest => exact ⟨scope, rest, rfl, by rw [inside.top, isChain, List.head?_cons]⟩

/-- Changes outside the chain and outside what the signature speaks of are not seen. -/
theorem of_altersOnly
    {altered : List ScopeId} (inside : signature.Inside chain regions store)
    (alters : AltersOnly altered store other)
    (unseen : ∀ scope ∈ altered, scope ∉ chain ∧
      ∀ name, .ofStruct name scope ∉ signature.entries) :
    signature.Inside chain regions other where
  fits := inside.fits.of_altersOnly alters
    (fun touched => (unseen 0 touched).1 inside.mirrors.root_mem)
    (fun scope touched => (unseen scope touched).2)
  mirrors := inside.mirrors.of_same fun scope member =>
    alters.same scope (inside.mirrors.lt_size member) fun touched =>
      (unseen scope touched).1 member
  top := alters.top?.trans inside.top
  distinct := inside.distinct
  apart := inside.apart

/-- An empty scope under the innermost one is a step inwards, with nothing declared yet. -/
theorem push
    {scope : ScopeId} (inside : signature.Inside chain regions store)
    (isEmpty : store.scopes[scope]? = some ⟨[], none⟩) (isNew : scope ∉ chain)
    (isApart : ∀ name, .ofStruct name scope ∉ signature.entries) :
    signature.Inside (scope :: chain) ([] :: regions) (store.push scope) := by
  have mirrorsInside : Mirrors (store.push scope) (scope :: chain) ([] :: regions) := by
    obtain ⟨top, rest, rfl, isTop⟩ := inside.chain_eq_cons
    exact inside.mirrors.push isTop isEmpty isNew
  refine ⟨⟨inside.fits.rooted.push fun isRoot => ?_, fun name structScope isStruct => ?_⟩,
    mirrorsInside, rfl, List.nodup_cons.mpr ⟨isNew, inside.distinct⟩, ?_⟩
  · exact isNew (isRoot ▸ inside.mirrors.root_mem)
  · obtain ⟨found, isFound, shows⟩ := inside.fits.fields name structScope isStruct
    refine ⟨found, (attach_other store fun same => ?_).trans isFound, shows⟩
    exact isApart name (same ▸ isStruct)
  · exact List.forall_mem_cons.mpr ⟨isApart, inside.apart⟩

/-- A new scope under the innermost one is a step inwards. -/
theorem push_new
    (inside : signature.Inside chain regions store) :
    signature.Inside (store.fresh :: chain) ([] :: regions)
      ((store.create none).push store.fresh) := by
  have alters : AltersOnly [] store (store.create none) := AltersOnly.create store none
  have created : signature.Inside chain regions (store.create none) :=
    inside.of_altersOnly alters nofun
  refine created.push ?_ (fun member => ?_) fun name isStruct => ?_
  · rw [create_scopes, if_pos rfl]
  · exact Nat.lt_irrefl _ (inside.mirrors.lt_size member)
  · obtain ⟨found, isFound, _⟩ := inside.fits.fields name _ isStruct
    exact Nat.lt_irrefl _ (Array.getElem?_eq_some_iff.mp isFound).1

/-- More declarations in the innermost region. -/
theorem extend
    {scope : ScopeId} {rest : List ScopeId} {here : Region} {outer : List Region}
    (inside : signature.Inside (scope :: rest) (here :: outer) store) (declared : Region) :
    signature.Inside (scope :: rest) ((here ++ declared) :: outer)
      (store.extend scope
        ((VariableDecl.firstsBeside here.names declared).map VariableDecl.entry)) where
  fits := by
    refine inside.fits.of_altersOnly (AltersOnly.extend store scope _) ?_ ?_
    · intro isRoot
      obtain rfl := List.mem_singleton.mp isRoot
      cases inside.mirrors with
      | within _ mirrorsOuter =>
          exact (List.nodup_cons.mp inside.distinct).1 mirrorsOuter.root_mem
    · intro touched isScope
      obtain rfl := List.mem_singleton.mp isScope
      exact inside.apart _ List.mem_cons_self
  mirrors := inside.mirrors.extend inside.distinct declared
  top := inside.top
  distinct := inside.distinct
  apart := inside.apart

end Inside

end Signature

end StructLang
