import StructLang.Program.Read

/-!
# What a reading says about its tokens

A reading is sound for a meaning if the value it gives has that meaning in the tokens it took, or
if it fails with a fault of the grammar. The only other failure is an integer without a value.
Readers are sound because their parts are, so there is one rule for each way of putting readers
together. The second half computes readings of tokens that are known to start as a reader wants.

Several items in a row are read in two ways, each after a comma or all up to a closing brace, and
each of the six readers of several items is one of the two for its own item.

- `Reader.more`, `Reader.upToBrace` : the two ways.
- `Ty.readMore_eq`, `Expr.readMore_eq`, `readMoreNames_eq`, `readMoreParameters_eq` : items after
  commas.
- `Stmt.readAll_eq`, `readMembers_eq` : items up to a brace.
-/

namespace StructLang

/-- An integer whose text has no value. -/
def Token.LacksValue (token : Token) : Prop :=
  token.kind = .integer ∧ ∃ fault, Text.readNumeral token.text = .error fault

namespace ReadFailure

/-- A failure that some tokens can have: a fault of the grammar, or an integer without a value
among them. -/
def FitsTokens (tokens : List Token) (failure : ReadFailure) : Prop :=
  (∃ fault, failure = .grammar fault) ∨ ∃ token ∈ tokens, token.LacksValue

theorem FitsTokens.of_suffix
    {rest tokens : List Token} {failure : ReadFailure}
    (fits : failure.FitsTokens rest) (suffix : rest <:+ tokens) :
    failure.FitsTokens tokens := by
  rcases fits with isGrammar | ⟨token, member, lacking⟩
  · exact Or.inl isGrammar
  · exact Or.inr ⟨token, suffix.subset member, lacking⟩

end ReadFailure

namespace Reader

variable {alpha beta : Type} {bound otherBound : Nat}

/-! ## Sound readings -/

/-- A reading of tokens gives a value and a rest with a certain meaning, or fails as those tokens
can. -/
def Sound
    (tokens : List Token) (means : alpha → List Token → Prop) :
    Reading alpha bound → Prop
  | .ok parsed => means parsed.value parsed.rest ∧ parsed.rest <:+ tokens
  | .error failure => failure.FitsTokens tokens

theorem Sound.value
    {tokens rest : List Token} {means : alpha → List Token → Prop} {found : alpha}
    {shorter : rest.length < bound}
    (isMeant : means found rest) (suffix : rest <:+ tokens) :
    Sound tokens means (.ok ⟨found, rest, shorter⟩ : Reading alpha bound) :=
  ⟨isMeant, suffix⟩

theorem Sound.fault
    {tokens : List Token} {means : alpha → List Token → Prop} (fault : ReadFault) :
    Sound tokens means (.error (.grammar fault) : Reading alpha bound) :=
  Or.inl ⟨fault, rfl⟩

theorem Sound.refuse
    {tokens others : List Token} {means : alpha → List Token → Prop}
    (finish : Token) (fault : Token → ReadFault) :
    Sound tokens means (refuse finish fault others : Reading alpha bound) :=
  Sound.fault _

theorem Sound.of_suffix
    (rest : List Token) {tokens : List Token} {means : alpha → List Token → Prop}
    {reading : Reading alpha bound}
    (sound : Sound rest means reading) (suffix : rest <:+ tokens) :
    Sound tokens means reading := by
  cases reading with
  | ok parsed => exact ⟨sound.1, sound.2.trans suffix⟩
  | error failure => exact ReadFailure.FitsTokens.of_suffix sound suffix

theorem Sound.imp
    {tokens : List Token} {means meansToo : alpha → List Token → Prop}
    {reading : Reading alpha bound}
    (sound : Sound tokens means reading)
    (weaker : ∀ found rest, means found rest → meansToo found rest) :
    Sound tokens meansToo reading := by
  cases reading with
  | ok parsed => exact ⟨weaker _ _ sound.1, sound.2⟩
  | error failure => exact sound

/-- Two readings one after the other: the second one reads what the first one left. -/
theorem Sound.bind
    {tokens : List Token}
    {means : alpha → List Token → Prop} {meansNext : beta → List Token → Prop}
    {first : Reading alpha bound} {next : Parsed alpha bound → Reading beta otherBound}
    (sound : Sound tokens means first)
    (soundNext : ∀ found rest shorter, means found rest →
      Sound rest meansNext (next ⟨found, rest, shorter⟩)) :
    Sound tokens meansNext (first >>= next) := by
  cases first with
  | ok parsed =>
      exact (soundNext parsed.value parsed.rest parsed.rest_lt sound.1).of_suffix _ sound.2
  | error failure => exact sound

/-! ## Single tokens -/

theorem accept_eq_some
    {kind : TokenKind} {tokens : List Token} {parsed : Parsed Token tokens.length}
    (accepted : accept kind tokens = some parsed) :
    tokens = parsed.value :: parsed.rest ∧ parsed.value.kind = kind := by
  cases tokens with
  | nil => cases accepted
  | cons first others =>
      simp only [accept] at accepted
      split at accepted
      · cases accepted
        exact ⟨rfl, by assumption⟩
      · cases accepted

theorem accept_eq_none_iff
    {kind : TokenKind} {tokens : List Token} :
    accept kind tokens = none ↔ startsWith kind tokens = false := by
  cases tokens with
  | nil => simp [accept, startsWith]
  | cons first others => simp [accept, startsWith]

theorem accept_cons
    {kind : TokenKind} {first : Token} (others : List Token)
    (isKind : first.kind = kind) :
    accept kind (first :: others) = some ⟨first, others, Nat.lt_succ_self _⟩ := by
  simp [accept, isKind]

theorem startsWith_cons
    {kind other : TokenKind} {first : Token} (others : List Token)
    (isOther : first.kind = other) (different : other ≠ kind) :
    startsWith kind (first :: others) = false := by
  simp [startsWith, isOther, different]

theorem sound_expect
    (finish : Token) (wanted : Wanted) (kind : TokenKind) (tokens : List Token) :
    Sound tokens (fun token rest => tokens = token :: rest ∧ token.kind = kind)
      (expect finish wanted kind tokens) := by
  simp only [expect]
  split
  · rename_i taken accepted
    obtain ⟨equality, isKind⟩ := accept_eq_some accepted
    refine ⟨⟨equality, isKind⟩, ?_⟩
    conv => rhs; rw [equality]
    exact List.suffix_cons _ _
  · exact Sound.refuse _ _

theorem expect_cons
    (finish : Token) (wanted : Wanted) {kind : TokenKind} {first : Token} (others : List Token)
    (isKind : first.kind = kind) :
    expect finish wanted kind (first :: others) =
      .ok ⟨first, others, Nat.lt_succ_self _⟩ := by
  simp only [expect, accept_cons others isKind]

/-! ## How many tokens are left -/

section

variable {tokens first second rest : List Token}

theorem length_lt_succ
    (tokens : List Token) : tokens.length < tokens.length + 1 :=
  Nat.lt_succ_self _

/-- A reader that takes a token is followed by one that may take none. -/
theorem length_lt_succ_of_one
    (isFirst : first.length < tokens.length) (isRest : rest.length < first.length + 1) :
    rest.length < tokens.length + 1 :=
  Nat.lt_succ_of_lt (length_lt_of_optional isFirst isRest)

/-- Two readers that take a token are followed by one that may take none. -/
theorem length_lt_succ_of_two
    (isFirst : first.length < tokens.length) (isSecond : second.length < first.length)
    (isRest : rest.length < second.length + 1) : rest.length < tokens.length + 1 :=
  length_lt_succ_of_one (length_lt_of_two isFirst isSecond) isRest

end

/-! ## Items after commas -/

/-- What readers of further items do, each of which stands after a comma. -/
def more
    (one : (tokens : List Token) → Reading alpha tokens.length)
    (further : (tokens : List Token) → Reading (List alpha) (tokens.length + 1))
    (tokens : List Token) : Reading (List alpha) (tokens.length + 1) :=
  match accept .comma tokens with
  | none => .ok ⟨[], tokens, length_lt_succ tokens⟩
  | some ⟨_, rest, afterComma⟩ => do
      let ⟨head, rest, afterHead⟩ ← one rest
      let ⟨tail, rest, afterTail⟩ ← further rest
      return ⟨head :: tail, rest, length_lt_succ_of_two afterComma afterHead afterTail⟩

/-- Further items mean a series together with any item in front of them. -/
theorem sound_more
    {one : (tokens : List Token) → Reading alpha tokens.length}
    {further : (tokens : List Token) → Reading (List alpha) (tokens.length + 1)}
    {means : List Token → alpha → List Token → Prop}
    {meansAll : List Token → List alpha → List Token → Prop} (tokens : List Token)
    (last : ∀ {start head rest}, means start head rest → meansAll start [head] rest)
    (cons : ∀ {start head comma middle tail rest}, means start head (comma :: middle) →
      comma.kind = .comma → meansAll middle tail rest → meansAll start (head :: tail) rest)
    (soundOne : ∀ rest, rest.length < tokens.length → Sound rest (means rest) (one rest))
    (soundFurther : ∀ others, others.length < tokens.length →
      Sound others
        (fun tail rest => ∀ start head, means start head others →
          meansAll start (head :: tail) rest)
        (further others)) :
    Sound tokens
      (fun tail rest => ∀ start head, means start head tokens →
        meansAll start (head :: tail) rest)
      (more one further tokens) := by
  rw [more]
  split
  case h_1 => exact Sound.value (fun _ _ isOne => last isOne) (List.suffix_refl _)
  case h_2 comma middle shorter accepted =>
    obtain ⟨shape, isComma⟩ := accept_eq_some accepted
    dsimp only at shape isComma
    refine Sound.of_suffix middle ?_ (shape ▸ List.suffix_cons _ _)
    refine (soundOne middle shorter).bind fun head others isFewer isHead => ?_
    refine (soundFurther others (Nat.lt_trans isFewer shorter)).bind fun tail rest _ isTail => ?_
    refine Sound.value (fun start first isFirst => ?_) (List.suffix_refl _)
    exact cons (shape ▸ isFirst) isComma (isTail _ _ isHead)

/-! ## Items up to a closing brace -/

/-- What readers do that go on until a brace closes or the tokens are at an end. -/
def upToBrace
    (one : (tokens : List Token) → Reading alpha tokens.length)
    (further : (tokens : List Token) → Reading (List alpha) (tokens.length + 1))
    (tokens : List Token) : Reading (List alpha) (tokens.length + 1) :=
  match tokens.head? with
  | none => .ok ⟨[], tokens, length_lt_succ tokens⟩
  | some first =>
      if first.kind = .rightBrace then .ok ⟨[], tokens, length_lt_succ tokens⟩
      else do
        let ⟨head, rest, afterHead⟩ ← one tokens
        let ⟨tail, rest, afterTail⟩ ← further rest
        return ⟨head :: tail, rest, length_lt_succ_of_one afterHead afterTail⟩

theorem upToBrace_cons
    (one : (tokens : List Token) → Reading alpha tokens.length)
    (further : (tokens : List Token) → Reading (List alpha) (tokens.length + 1)) (first : Token)
    (others : List Token) :
    upToBrace one further (first :: others) =
      if first.kind = .rightBrace then .ok ⟨[], first :: others, length_lt_succ _⟩
      else do
        let ⟨head, rest, afterHead⟩ ← one (first :: others)
        let ⟨tail, rest, afterTail⟩ ← further rest
        return ⟨head :: tail, rest, length_lt_succ_of_one afterHead afterTail⟩ :=
  rfl

theorem sound_upToBrace
    {one : (tokens : List Token) → Reading alpha tokens.length}
    {further : (tokens : List Token) → Reading (List alpha) (tokens.length + 1)}
    {means : List Token → alpha → List Token → Prop}
    {meansAll : List Token → List alpha → List Token → Prop} {tokens : List Token}
    (none : ∀ {rest}, meansAll rest [] rest)
    (cons : ∀ {start head middle tail rest}, means start head middle →
      meansAll middle tail rest → meansAll start (head :: tail) rest)
    (soundOne : Sound tokens (means tokens) (one tokens))
    (soundFurther : ∀ rest, rest.length < tokens.length →
      Sound rest (meansAll rest) (further rest)) :
    Sound tokens (meansAll tokens) (upToBrace one further tokens) := by
  cases tokens with
  | nil => exact Sound.value none (List.suffix_refl _)
  | cons first others =>
      rw [upToBrace_cons]
      split
      · exact Sound.value none (List.suffix_refl _)
      · refine soundOne.bind fun head middle isFewer isHead => ?_
        refine (soundFurther middle isFewer).bind fun tail rest _ areTail => ?_
        exact Sound.value (cons isHead areTail) (List.suffix_refl _)

/-! ## Readings of known tokens -/

/-- What a reading gives, without the proof that it took tokens. -/
def outcome (reading : Reading alpha bound) : Except ReadFailure (alpha × List Token) :=
  reading.map fun parsed => (parsed.value, parsed.rest)

/-- A reading gives a value and leaves a rest. -/
def Yields (reading : Reading alpha bound) (found : alpha) (rest : List Token) : Prop :=
  outcome reading = .ok (found, rest)

theorem Yields.exists_eq
    {reading : Reading alpha bound} {found : alpha} {rest : List Token}
    (yields : Yields reading found rest) :
    ∃ shorter, reading = .ok ⟨found, rest, shorter⟩ := by
  cases reading with
  | ok parsed =>
      simp only [Yields, outcome, Except.map, Except.ok.injEq, Prod.mk.injEq] at yields
      obtain ⟨rfl, rfl⟩ := yields
      exact ⟨parsed.rest_lt, rfl⟩
  | error failure => cases yields

/-- Without a comma there are no further items. -/
theorem yields_more_nil
    {one : (tokens : List Token) → Reading alpha tokens.length}
    {further : (tokens : List Token) → Reading (List alpha) (tokens.length + 1)}
    {tokens : List Token} (noComma : startsWith .comma tokens = false) :
    Yields (more one further tokens) [] tokens := by
  rw [more, accept_eq_none_iff.mpr noComma]
  rfl

/-- After a comma there is a further item, and then those after it. -/
theorem yields_more_cons
    {one : (tokens : List Token) → Reading alpha tokens.length}
    {further : (tokens : List Token) → Reading (List alpha) (tokens.length + 1)}
    {comma : Token} {tokens middle rest : List Token} {head : alpha} {tail : List alpha}
    (isComma : comma.kind = .comma) (headYields : Yields (one tokens) head middle)
    (tailYields : Yields (further middle) tail rest) :
    Yields (more one further (comma :: tokens)) (head :: tail) rest := by
  obtain ⟨_, headEquality⟩ := headYields.exists_eq
  obtain ⟨_, tailEquality⟩ := tailYields.exists_eq
  rw [more, accept_cons _ isComma]
  simp only [bind, Except.bind, headEquality, tailEquality]
  rfl

theorem yields_upToBrace_nil
    {one : (tokens : List Token) → Reading alpha tokens.length}
    {further : (tokens : List Token) → Reading (List alpha) (tokens.length + 1)}
    {closing : Token} (others : List Token) (isClosing : closing.kind = .rightBrace) :
    Yields (upToBrace one further (closing :: others)) [] (closing :: others) := by
  rw [upToBrace_cons, if_pos isClosing]
  rfl

theorem yields_upToBrace_cons
    {one : (tokens : List Token) → Reading alpha tokens.length}
    {further : (tokens : List Token) → Reading (List alpha) (tokens.length + 1)}
    {first : Token} {others middle rest : List Token} {head : alpha} {tail : List alpha}
    (notClosing : first.kind ≠ .rightBrace)
    (headYields : Yields (one (first :: others)) head middle)
    (tailYields : Yields (further middle) tail rest) :
    Yields (upToBrace one further (first :: others)) (head :: tail) rest := by
  obtain ⟨_, headEquality⟩ := headYields.exists_eq
  obtain ⟨_, tailEquality⟩ := tailYields.exists_eq
  rw [upToBrace_cons, if_neg notClosing]
  simp only [bind, Except.bind, headEquality, tailEquality]
  rfl

/-- What a sound reading gives is what it means. -/
theorem Sound.of_yields
    {tokens rest : List Token} {means : alpha → List Token → Prop} {reading : Reading alpha bound}
    {found : alpha} (sound : Sound tokens means reading) (yields : Yields reading found rest) :
    means found rest := by
  obtain ⟨_, equality⟩ := yields.exists_eq
  rw [equality] at sound
  exact sound.1

/-- A reading that is only given a wider bound has the same outcome. -/
theorem outcome_widen
    (reading : Reading alpha bound)
    (fits : ∀ rest : List Token, rest.length < bound → rest.length < otherBound) :
    outcome (reading >>= fun parsed =>
      (.ok ⟨parsed.value, parsed.rest, fits parsed.rest parsed.rest_lt⟩ :
        Reading alpha otherBound)) = outcome reading := by
  cases reading <;> rfl

end Reader

/-! ## The readers of several items -/

open Reader

theorem Ty.readMore_eq
    (finish : Token) (tokens : List Token) :
    Ty.readMore finish tokens = more (Ty.read finish) (Ty.readMore finish) tokens := by
  rw [Ty.readMore]
  rfl

theorem Expr.readMore_eq
    (finish : Token) (tokens : List Token) :
    Expr.readMore finish tokens = more (Expr.read finish) (Expr.readMore finish) tokens := by
  rw [Expr.readMore]
  rfl

theorem readMoreNames_eq
    (finish : Token) (thing : NamedThing) (tokens : List Token) :
    readMoreNames finish thing tokens =
      more (expectName finish thing) (readMoreNames finish thing) tokens := by
  rw [readMoreNames]
  rfl

theorem readMoreParameters_eq
    (finish : Token) (tokens : List Token) :
    readMoreParameters finish tokens =
      more (readParameter finish) (readMoreParameters finish) tokens := by
  rw [readMoreParameters]
  rfl

theorem Stmt.readAll_eq
    (finish : Token) (tokens : List Token) :
    Stmt.readAll finish tokens = upToBrace (Stmt.read finish) (Stmt.readAll finish) tokens := by
  rw [Stmt.readAll.eq_def]
  cases tokens <;> rfl

theorem readMembers_eq
    (finish : Token) (tokens : List Token) :
    readMembers finish tokens = upToBrace (readMember finish) (readMembers finish) tokens := by
  rw [readMembers.eq_def]
  cases tokens <;> rfl

end StructLang
