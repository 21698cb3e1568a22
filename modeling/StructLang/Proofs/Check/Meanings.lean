import StructLang.Proofs.Check.Lexical

/-!
# What names mean

A name in a body means the nearest variable that the regions around it declare before it. If there
is none it means the first function of that name, whose result is unknown if the function was
checked before and gives back a struct that nothing declares.
-/

namespace StructLang

/-! ## Which names are given -/

namespace Naming

variable {naming : Naming} {names : List String} {name : String}

theorem mem_next
    {makeUp : Nat → String} {other : String} (plain : PlainName name)
    (notPlain : ∀ count, ¬ PlainName (makeUp count)) :
    name ∈ (naming.next makeUp other).taken ↔ name ∈ naming.taken ∨ name = other := by
  by_cases isTaken : other ∈ naming.taken
  · have notMadeUp : name ≠ makeUp (naming.made + 1) := fun same => notPlain _ (same ▸ plain)
    rw [next_of_taken isTaken, List.mem_append, List.mem_singleton]
    constructor
    · rintro (isOld | isMadeUp)
      · exact Or.inl isOld
      · exact absurd isMadeUp notMadeUp
    · rintro (isOld | rfl)
      · exact Or.inl isOld
      · exact Or.inl isTaken
  · rw [next_of_free isTaken, List.mem_append, List.mem_singleton]

theorem not_plain_numbered
    (count : Nat) : ¬ PlainName (numbered count) :=
  (UsesNumber.numbered count).not_plain

/-- A written name is given exactly if some declaration has it. -/
theorem mem_afterAll
    (plain : PlainName name) :
    name ∈ (naming.afterAll names).taken ↔ name ∈ naming.taken ∨ name ∈ names := by
  induction names generalizing naming with
  | nil => simp [afterAll]
  | cons head tail inductionHypothesis =>
      rw [afterAll_cons, inductionHypothesis, mem_next plain not_plain_numbered, List.mem_cons,
        or_assoc]

/-- The first declaration with a written name keeps it. -/
theorem getElem?_afterAll_of_first
    (plain : PlainName name) (isFree : name ∉ naming.taken) {index : Nat}
    (isThere : names[index]? = some name) (isFirst : name ∉ names.take index) :
    (naming.afterAll names).taken[naming.taken.length + index]? = some name := by
  induction names generalizing naming index with
  | nil => cases isThere
  | cons head tail inductionHypothesis =>
      cases index with
      | zero =>
          obtain rfl : head = name := Option.some.inj isThere
          obtain ⟨new, isNew, -⟩ := (naming.next numbered head).prefix_afterAll tail
          rw [afterAll_cons, isNew, next_of_free isFree]
          simp
      | succ index =>
          rw [List.take_succ_cons, List.mem_cons, not_or] at isFirst
          have isLength : naming.taken.length + (index + 1) =
              (naming.next numbered head).taken.length + index := by
            rw [next, List.length_append, List.length_singleton]
            omega
          have isFreeStill : name ∉ (naming.next numbered head).taken := by
            rw [mem_next plain not_plain_numbered, not_or]
            exact ⟨isFree, isFirst.1⟩
          rw [afterAll_cons, isLength]
          exact inductionHypothesis isFreeStill isThere isFirst.2

end Naming

/-! ## Which results are lost -/

namespace FunctionDecl

variable {entries : List Entry} {address place : Address} {declaration : FunctionDecl}

theorem mem_lost :
    place ∈ declaration.lost entries address ↔
      place = address ∧ ∃ name, declaration.result = .struct name ∧
        entries.find? (·.key = ⟨.structs, name⟩) = none := by
  rw [lost, resultFindings]
  cases declaration.result with
  | struct name =>
      dsimp only
      by_cases isMissing : entries.find? (·.key = ⟨.structs, name⟩) = none
      · rw [if_pos (Option.isNone_iff_eq_none.mpr isMissing)]
        change place ∈ [address] ↔ _
        rw [List.mem_singleton]
        constructor
        · intro same
          exact ⟨same, name, rfl, isMissing⟩
        · exact And.left
      · rw [if_neg (isMissing ∘ Option.isNone_iff_eq_none.mp)]
        constructor
        · intro isLost
          cases isLost
        · rintro ⟨-, other, same, isMissingToo⟩
          cases same
          exact absurd isMissingToo isMissing
  | _ => simp

end FunctionDecl

namespace Program

/-! ## The meaning of a name -/

/-- The first function of a name, and its number. -/
def functionNamed? (program : Program) (called : String) : Option (FunctionDecl × Nat) :=
  program.functions.zipIdx.find? (·.1.name = called)

/-- The result of the function with a number, as the body with another number sees it. -/
def resultFor (program : Program) (number index : Nat) : Ty → Ty
  | .struct name =>
      if index < number ∧ name ∉ program.structs.map (·.name) then .unknown else .struct name
  | result => result

/-- The type of what a name means inside nested regions of the body with a number. -/
def meaning? (program : Program) (number : Nat) (regions : List Region) (called : String) :
    Option Ty :=
  match Region.nearest? regions called with
  | some declaration => some declaration.type
  | none =>
      (program.functionNamed? called).map fun (declaration, index) =>
        .fptr (declaration.parameters.map (·.type))
          (program.resultFor number index declaration.result)

variable {program : Program} {called : String} {declaration : FunctionDecl} {number index : Nat}
  {store : ScopeStore}

theorem functionNamed?_eq_some
    (isFirst : program.functionNamed? called = some (declaration, index)) :
    program.functions[index]? = some declaration ∧ declaration.name = called ∧
      called ∉ (program.functions.map (·.name)).take index := by
  obtain ⟨isName, place, isBelow, isThere, others⟩ := List.find?_eq_some_iff_getElem.mp isFirst
  rw [List.getElem_zipIdx, Nat.zero_add] at isThere
  obtain ⟨rfl, rfl⟩ := Prod.mk.inj isThere
  refine ⟨List.getElem?_eq_getElem _, of_decide_eq_true isName, ?_⟩
  intro isEarlier
  obtain ⟨earlier, isBefore, isCalled⟩ := List.mem_take_iff_getElem.mp isEarlier
  have differs := others earlier (by omega)
  simp only [List.getElem_map] at isCalled
  simp [isCalled] at differs

theorem functionNamed?_eq_none :
    program.functionNamed? called = none ↔ called ∉ program.functions.map (·.name) := by
  rw [functionNamed?, List.find?_eq_none, List.mem_map]
  constructor
  · rintro noneCalled ⟨declaration, isThere, isCalled⟩
    obtain ⟨place, isBelow, rfl⟩ := List.getElem_of_mem isThere
    have isPair : (program.functions[place], place) ∈ program.functions.zipIdx :=
      List.mk_mem_zipIdx_iff_getElem?.mpr (List.getElem?_eq_getElem isBelow)
    exact noneCalled _ isPair (decide_eq_true isCalled)
  · rintro noneCalled ⟨declaration, place⟩ isPair isCalled
    refine noneCalled ⟨declaration, ?_, of_decide_eq_true isCalled⟩
    exact List.mem_of_getElem? (List.mk_mem_zipIdx_iff_getElem?.mp isPair)

theorem find?_struct_eq_none
    {name : String} (plain : PlainName name) :
    program.entries.find? (·.key = ⟨.structs, name⟩) = none ↔
      name ∉ program.structs.map (·.name) := by
  rw [← Option.not_isSome_iff_eq_none, entries, isSome_struct program.length_functionNaming,
    structNaming, Naming.mem_afterAll plain]
  simp

theorem find?_function_eq_none
    {name : String} (plain : PlainName name) :
    program.entries.find? (·.key = ⟨.functions, name⟩) = none ↔
      name ∉ program.functions.map (·.name) := by
  rw [← Option.not_isSome_iff_eq_none, entries, isSome_function program.length_functionNaming,
    functionNaming, Naming.mem_afterAll plain]
  simp

/-- A function is found under its name in the outermost scope if it is the first one of it. -/
theorem Finished.find?_function
    (finished : program.Finished store) (plain : PlainName called) :
    program.entries.find? (·.key = ⟨.functions, called⟩) =
      (program.functionNamed? called).map fun (declaration, index) =>
        .ofFunction called declaration.result declaration.parameters
          (program.structs.length + 1 + index) (some (functionAddress index)) := by
  cases isFirst : program.functionNamed? called with
  | none =>
      exact (find?_function_eq_none plain).mpr (functionNamed?_eq_none.mp isFirst)
  | some first =>
      obtain ⟨declaration, index⟩ := first
      obtain ⟨isThere, isCalled, isFree⟩ := functionNamed?_eq_some isFirst
      have isName : (program.functions.map (·.name))[index]? = some called := by
        rw [List.getElem?_map, isThere, Option.map_some, isCalled]
      have isKept : program.functionNaming.taken[0 + index]? = some called :=
        Naming.getElem?_afterAll_of_first plain List.not_mem_nil isName isFree
      rw [Nat.zero_add] at isKept
      have isEntry := mem_entries_function isKept isThere
      exact find?_key_of_mem
        (nodup_keys_entries finished.structsDistinct finished.functionsDistinct) isEntry

theorem mem_lost_signatureFor
    (isThere : program.functions[index]? = some declaration)
    (plain : ∀ name, declaration.result = .struct name → PlainName name) :
    functionAddress index ∈ (program.signatureFor number).lost ↔
      index < number ∧ ∃ name, declaration.result = .struct name ∧
        name ∉ program.structs.map (·.name) := by
  have isLost : (program.signatureFor number).lost =
      FunctionDecl.lostOf program.entries 0 (program.functions.take number) :=
    List.append_nil _
  rw [isLost, FunctionDecl.mem_lostOf]
  constructor
  · rintro ⟨place, other, isOther, isLost⟩
    obtain ⟨same, name, isResult, isMissing⟩ := FunctionDecl.mem_lost.mp isLost
    rw [Nat.zero_add, functionAddress, functionAddress] at same
    obtain rfl := (List.cons.inj same).1
    rw [List.getElem?_take] at isOther
    split at isOther
    case isTrue isBelow =>
      obtain rfl : declaration = other := Option.some.inj (isThere.symm.trans isOther)
      exact ⟨isBelow, name, isResult, (find?_struct_eq_none (plain name isResult)).mp isMissing⟩
    case isFalse => cases isOther
  · rintro ⟨isBelow, name, isResult, isMissing⟩
    refine ⟨index, declaration, ?_, ?_⟩
    · rw [List.getElem?_take_of_lt isBelow, isThere]
    · rw [Nat.zero_add, FunctionDecl.mem_lost]
      exact ⟨rfl, name, isResult, (find?_struct_eq_none (plain name isResult)).mpr isMissing⟩

theorem resultFor_eq
    (isThere : program.functions[index]? = some declaration)
    (plain : ∀ name, declaration.result = .struct name → PlainName name) :
    (if (program.signatureFor number).lost.contains (functionAddress index) then .unknown
      else declaration.result) = program.resultFor number index declaration.result := by
  have isLost : (program.signatureFor number).lost.contains (functionAddress index) = true ↔ _ :=
    List.contains_iff_mem.trans (mem_lost_signatureFor isThere plain)
  cases isResult : declaration.result with
  | struct name =>
      have sameLost : (program.signatureFor number).lost.contains (functionAddress index) = true ↔
          index < number ∧ name ∉ program.structs.map (·.name) := by
        rw [isLost, isResult]
        simp
      rw [resultFor, if_congr sameLost rfl rfl]
  | _ =>
      have notLost : ¬ (program.signatureFor number).lost.contains (functionAddress index) := by
        rw [isLost, isResult]
        simp
      rw [if_neg notLost]
      rfl

theorem nearest?_append_beyond
    (number : Nat) (regions : List Region) :
    Region.nearest? (regions ++ program.beyond number) called =
      Region.nearest? regions called := by
  rw [Region.nearest?, List.findSome?_append, beyond]
  split <;> simp [Region.nearest?, Region.declarationOf?]

/-- Names mean in a check what they mean in the text. -/
theorem Finished.name_eq
    (finished : program.Finished store) (written : program.Written) (number : Nat)
    (regions : List Region) (plain : PlainName called) :
    (program.signatureFor number).name (regions ++ program.beyond number) called =
      .ofOption (program.meaning? number regions called) .variableNotDeclared [called] := by
  rw [Signature.name, nearest?_append_beyond, meaning?]
  cases Region.nearest? regions called with
  | some declaration => rfl
  | none =>
      have isEntry : Signature.entry? (program.signatureFor number) ⟨.functions, called⟩ = _ :=
        finished.find?_function plain
      dsimp only
      rw [isEntry]
      cases isFirst : program.functionNamed? called with
      | none => rfl
      | some first =>
          obtain ⟨declaration, index⟩ := first
          have isThere := (functionNamed?_eq_some isFirst).1
          have isWritten := written.functions declaration (List.mem_of_getElem? isThere)
          have plainResult : ∀ name, declaration.result = .struct name → PlainName name := by
            intro name isResult
            have writtenResult := isWritten.result
            rw [isResult] at writtenResult
            exact writtenResult
          simp only [Option.map_some, Option.any_some, Verdict.ofOption,
            resultFor_eq isThere plainResult]

end Program

end StructLang
