import StructLang.Program.Read
import StructLang.Proofs.Relabeling.ReadingBodies

/-!
# Programs of relabeled tokens

The program of relabeled tokens is the relabeled program of the tokens. Where tokens have no
program, relabeled tokens have none either, and for the same reason.
-/

namespace StructLang

open Reader

/-- The blocks of an accessor with other labels. -/
def AccessorBlocks.relabel (relabeling : Relabeling) (blocks : AccessorBlocks) : AccessorBlocks :=
  ⟨blocks.setBody?.map (Stmt.relabel relabeling), blocks.getBody?.map (Stmt.relabel relabeling)⟩

variable {relabeling : Relabeling}

/-! ## Members of structs -/

theorem agrees_readAccessorBlocks
    (keeps : relabeling.KeepsReading) (finish : Token) (blocks : AccessorBlocks)
    (tokens : List Token) :
    Agrees relabeling (AccessorBlocks.relabel relabeling)
      (readAccessorBlocks finish blocks tokens)
      (readAccessorBlocks (finish.relabel relabeling) (blocks.relabel relabeling)
        (tokens.map (Token.relabel relabeling))) := by
  cases tokens with
  | nil =>
      rw [List.map_nil, readAccessorBlocks.eq_def, readAccessorBlocks.eq_def]
      exact Agrees.value rfl
  | cons first others =>
      rw [List.map_cons, readAccessorBlocks.eq_def, readAccessorBlocks.eq_def]
      dsimp only
      refine Agrees.ite Iff.rfl (fun _ => Agrees.value rfl) fun _ => ?_
      refine Agrees.ite (by simp [AccessorBlocks.relabel]) (fun _ => ?_) fun _ => ?_
      · refine (Stmt.agrees_readBlock keeps finish others).bind fun body rest _ _ => ?_
        refine (agrees_readAccessorBlocks keeps finish ⟨some body, blocks.getBody?⟩ rest).bind
          fun _ _ _ _ => ?_
        exact Agrees.value rfl
      refine Agrees.ite (by simp [AccessorBlocks.relabel]) (fun _ => ?_) fun _ => ?_
      · refine (Stmt.agrees_readBlock keeps finish others).bind fun body rest _ _ => ?_
        refine (agrees_readAccessorBlocks keeps finish ⟨blocks.setBody?, some body⟩ rest).bind
          fun _ _ _ _ => ?_
        exact Agrees.value rfl
      · exact Agrees.fault rfl
termination_by tokens.length

theorem agrees_readAccessor
    (keeps : relabeling.KeepsReading) (finish : Token) (type : Ty) (name : Token)
    (position : Position) (tokens : List Token) :
    Agrees relabeling (Stmt.relabel relabeling)
      (readAccessor finish type name position tokens)
      (readAccessor (finish.relabel relabeling) (type.rename relabeling.name)
        (name.relabelName relabeling) (relabeling.position position)
        (tokens.map (Token.relabel relabeling))) := by
  refine (agrees_readParameters finish tokens).bind fun parameters opened _ _ => ?_
  refine (agrees_expect finish _ _ opened).bind fun _ inner _ _ => ?_
  refine (agrees_readAccessorBlocks keeps finish ⟨none, none⟩ inner).bind
    fun blocks closed _ _ => ?_
  refine (agrees_expect finish _ _ closed).bind fun _ rest _ _ => ?_
  dsimp only
  rw [next_relabel]
  obtain ⟨setBody?, getBody?⟩ := blocks
  cases setBody? with
  | none => exact Agrees.fault rfl
  | some setBody =>
      cases getBody? with
      | none => exact Agrees.fault rfl
      | some getBody => exact Agrees.value rfl

theorem agrees_readMember
    (keeps : relabeling.KeepsReading) (finish : Token) (tokens : List Token) :
    Agrees relabeling (Stmt.relabel relabeling) (readMember finish tokens)
      (readMember (finish.relabel relabeling) (tokens.map (Token.relabel relabeling))) := by
  rw [readMember, readMember, next_relabel]
  refine Agrees.ite Iff.rfl (fun _ => ?_) fun _ => agrees_refuse finish tokens fun _ => rfl
  refine (Ty.agrees_read finish tokens).bind fun type typed _ _ => ?_
  refine (agrees_expectName finish .field typed).bind fun name named _ _ => ?_
  refine Agrees.ite (by simp) (fun _ => ?_) fun _ => ?_
  · refine (agrees_readAccessor keeps finish type name (next finish tokens).position named).bind
      fun _ _ _ _ => ?_
    exact Agrees.value rfl
  · refine (agrees_readNamesAfter finish .field name named).bind fun names _ _ _ => ?_
    refine Agrees.value ?_
    rw [variablesOfNames_relabel]
    rfl

theorem agrees_readMembers
    (keeps : relabeling.KeepsReading) (finish : Token) (tokens : List Token) :
    Agrees relabeling (Stmt.relabelAll relabeling) (readMembers finish tokens)
      (readMembers (finish.relabel relabeling) (tokens.map (Token.relabel relabeling))) := by
  rw [readMembers_eq, readMembers_eq]
  exact agrees_upToBrace tokens rfl (fun _ _ => rfl) (agrees_readMember keeps finish tokens)
    fun rest _ => agrees_readMembers keeps finish rest
termination_by tokens.length

/-! ## Declarations -/

theorem agrees_readStruct
    (keeps : relabeling.KeepsReading) (finish : Token) (position : Position)
    (tokens : List Token) :
    Agrees relabeling (StructDecl.relabel relabeling) (readStruct finish position tokens)
      (readStruct (finish.relabel relabeling) (relabeling.position position)
        (tokens.map (Token.relabel relabeling))) := by
  refine (agrees_expectName finish .struct tokens).bind fun name opened _ _ => ?_
  refine (agrees_expect finish _ _ opened).bind fun opening inner _ _ => ?_
  refine (agrees_readMembers keeps finish inner).bind fun members closed _ _ => ?_
  refine (agrees_expect finish _ _ closed).bind fun _ _ _ _ => ?_
  exact Agrees.value rfl

theorem agrees_readFunction
    (keeps : relabeling.KeepsReading) (finish : Token) (position : Position)
    (tokens : List Token) :
    Agrees relabeling (FunctionDecl.relabel relabeling) (readFunction finish position tokens)
      (readFunction (finish.relabel relabeling) (relabeling.position position)
        (tokens.map (Token.relabel relabeling))) := by
  refine (agrees_expectName finish .function tokens).bind fun name opened _ _ => ?_
  refine (agrees_readParameters finish opened).bind fun parameters closed _ _ => ?_
  refine (Ty.agrees_read finish closed).bind fun result typed _ _ => ?_
  refine (Stmt.agrees_readBlock keeps finish typed).bind fun body _ _ _ => ?_
  exact Agrees.value rfl

theorem agrees_readMain
    (keeps : relabeling.KeepsReading) (finish : Token) (position : Position)
    (tokens : List Token) :
    Agrees relabeling (MainDecl.relabel relabeling) (readMain finish position tokens)
      (readMain (finish.relabel relabeling) (relabeling.position position)
        (tokens.map (Token.relabel relabeling))) := by
  refine (Stmt.agrees_readBlock keeps finish tokens).bind fun body _ _ _ => ?_
  exact Agrees.value rfl

/-! ## Programs -/

namespace Program

/-- What was read of a program, or why it could not be read, with other labels. -/
def relabelOutcome (relabeling : Relabeling) :
    Except ReadFailure Program → Except ReadFailure Program
  | .ok program => .ok (program.relabel relabeling)
  | .error failure => .error (failure.relabel relabeling)

/-- Programs that are read after readings that agree are relabeled if they are after whatever the
readings gave. -/
theorem relabelOutcome_bind
    {alpha : Type} {bound otherBound : Nat} {change : alpha → alpha}
    {first : Reading alpha bound} {other : Reading alpha otherBound}
    {next : Parsed alpha bound → Except ReadFailure Program}
    {otherNext : Parsed alpha otherBound → Except ReadFailure Program}
    (agrees : Agrees relabeling change first other)
    (relabels : ∀ found rest shorter shorterToo,
      otherNext ⟨change found, rest.map (Token.relabel relabeling), shorterToo⟩ =
        relabelOutcome relabeling (next ⟨found, rest, shorter⟩)) :
    (other >>= otherNext) = relabelOutcome relabeling (first >>= next) := by
  obtain ⟨failure, rfl, rfl⟩ | ⟨found, rest, shorter, shorterToo, rfl, rfl⟩ := agrees.cases
  · rfl
  · exact relabels found rest shorter shorterToo

/-- The declarations of relabeled tokens, put behind those of a relabeled program. -/
theorem readDeclarations_relabel
    (keeps : relabeling.KeepsReading) (finish : Token) (program : Program)
    (tokens : List Token) :
    readDeclarations (finish.relabel relabeling) (program.relabel relabeling)
        (tokens.map (Token.relabel relabeling)) =
      relabelOutcome relabeling (readDeclarations finish program tokens) := by
  cases tokens with
  | nil =>
      rw [List.map_nil, readDeclarations.eq_def, readDeclarations.eq_def]
      rfl
  | cons first others =>
      rw [List.map_cons, readDeclarations.eq_def, readDeclarations.eq_def]
      have sameMain :
          (program.relabel relabeling).main?.isSome = program.main?.isSome := by
        simp [relabel]
      dsimp only [Token.kind_relabel]
      rw [sameMain]
      split
      · rfl
      split
      case h_1 =>
        refine relabelOutcome_bind (agrees_readStruct keeps finish first.position others)
          fun declaration rest _ _ => ?_
        rw [← readDeclarations_relabel keeps]
        simp [relabel]
      case h_2 =>
        refine relabelOutcome_bind (agrees_readFunction keeps finish first.position others)
          fun declaration rest _ _ => ?_
        rw [← readDeclarations_relabel keeps]
        simp [relabel]
      case h_3 =>
        refine relabelOutcome_bind (agrees_readMain keeps finish first.position others)
          fun declaration rest _ _ => ?_
        rw [← readDeclarations_relabel keeps]
        simp [relabel]
      case h_4 => rfl
termination_by tokens.length

theorem read_relabel
    (keeps : relabeling.KeepsReading) (finish : Token) (tokens : List Token) :
    read (finish.relabel relabeling) (tokens.map (Token.relabel relabeling)) =
      relabelOutcome relabeling (read finish tokens) := by
  have declarations := readDeclarations_relabel keeps finish
    ⟨[], [], none, (next finish tokens).position⟩ tokens
  rw [read, read, next_relabel]
  rw [show (⟨[], [], none, ((next finish tokens).relabel relabeling).position⟩ : Program) =
      relabel relabeling ⟨[], [], none, (next finish tokens).position⟩ from rfl, declarations]
  cases readDeclarations finish ⟨[], [], none, (next finish tokens).position⟩ tokens with
  | error failure => rfl
  | ok program =>
      obtain ⟨structs, functions, main?, position⟩ := program
      cases main? <;> rfl

/-- The program of relabeled tokens is the relabeled program of the tokens, or there is none, and
for the same reason. -/
theorem ofTokens_relabel
    (keeps : relabeling.KeepsReading) (tokens : List Token) :
    ofTokens (tokens.map (Token.relabel relabeling)) =
      relabelOutcome relabeling (ofTokens tokens) := by
  have sameKind :
      (fun token : Token => token.kind != .finish) ∘ Token.relabel relabeling =
        fun token => token.kind != .finish := rfl
  rw [ofTokens, ofTokens, List.dropWhile_map, List.takeWhile_map, sameKind]
  cases tokens.dropWhile (·.kind != .finish) with
  | nil => rfl
  | cons finish others => exact read_relabel keeps finish _

end Program

end StructLang
