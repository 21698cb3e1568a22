import Mathlib.Logic.Relation
import StructLang.Token.Basic

/-!
# Grammars written with repetition

A grammar gives every rule a pattern: tokens and other rules, one after the other, as alternatives,
or repeated. `Matches grammar pattern tokens rest` says that the tokens before `rest` can be
derived from a pattern. What the rules derive is the least meaning that is closed under them, so a
meaning of one's own holds of all that is derived once it is closed under every rule.
-/

namespace StructLang.Grammar

/-- What stands on the right side of a rule. -/
inductive Pattern (Rule : Type)
  | token (fits : Token → Prop)
  | rule (name : Rule)
  | empty
  | pair (first second : Pattern Rule)
  | either (one other : Pattern Rule)
  | repeated (item : Pattern Rule)

namespace Pattern

variable {Rule : Type}

/-- A token of a kind. -/
def kind (wanted : TokenKind) : Pattern Rule :=
  token fun first => first.kind = wanted

/-- A name that is spelled like this. -/
def named (text : String) : Pattern Rule :=
  token fun first => first.kind = .identifier ∧ first.text = text

/-- Patterns one after the other. -/
def sequence : List (Pattern Rule) → Pattern Rule
  | [] => empty
  | [last] => last
  | head :: next :: others => pair head (sequence (next :: others))

/-- One of some patterns, after the first of them. -/
def choice (head : Pattern Rule) : List (Pattern Rule) → Pattern Rule
  | [] => head
  | next :: others => either head (choice next others)

/-- A pattern or nothing. -/
def optional (item : Pattern Rule) : Pattern Rule :=
  either empty item

/-- One or more of a pattern with commas between them. -/
def series (item : Pattern Rule) : Pattern Rule :=
  pair item (repeated (pair (kind .comma) item))

end Pattern

variable {Rule : Type} {grammar : Rule → Pattern Rule} {pattern other : Pattern Rule}
  {tokens middle rest : List Token}

/-- The tokens up to a rest are derived from a pattern. -/
inductive Matches (grammar : Rule → Pattern Rule) :
    Pattern Rule → List Token → List Token → Prop
  | token {fits : Token → Prop} {first : Token} {rest : List Token} :
      fits first →
      Matches grammar (.token fits) (first :: rest) rest
  | rule {name : Rule} {tokens rest : List Token} :
      Matches grammar (grammar name) tokens rest →
      Matches grammar (.rule name) tokens rest
  | empty {rest : List Token} :
      Matches grammar .empty rest rest
  | pair {first second : Pattern Rule} {tokens middle rest : List Token} :
      Matches grammar first tokens middle →
      Matches grammar second middle rest →
      Matches grammar (.pair first second) tokens rest
  | one {one other : Pattern Rule} {tokens rest : List Token} :
      Matches grammar one tokens rest →
      Matches grammar (.either one other) tokens rest
  | other {one other : Pattern Rule} {tokens rest : List Token} :
      Matches grammar other tokens rest →
      Matches grammar (.either one other) tokens rest
  | none {item : Pattern Rule} {rest : List Token} :
      Matches grammar (.repeated item) rest rest
  | more {item : Pattern Rule} {tokens middle rest : List Token} :
      Matches grammar item tokens middle →
      Matches grammar (.repeated item) middle rest →
      Matches grammar (.repeated item) tokens rest

namespace Matches

/-- What follows a text has no part in its derivation. -/
theorem exists_piece
    (isMatch : Matches grammar pattern tokens rest) :
    ∃ piece, tokens = piece ++ rest ∧
      ∀ others, Matches grammar pattern (piece ++ others) others := by
  induction isMatch with
  | token fits => exact ⟨[_], rfl, fun others => .token fits⟩
  | rule _ inductionHypothesis =>
      obtain ⟨piece, shape, isMatch⟩ := inductionHypothesis
      exact ⟨piece, shape, fun others => .rule (isMatch others)⟩
  | empty => exact ⟨[], rfl, fun others => .empty⟩
  | pair _ _ firstHypothesis secondHypothesis =>
      obtain ⟨piece, rfl, isFirst⟩ := firstHypothesis
      obtain ⟨next, rfl, isSecond⟩ := secondHypothesis
      refine ⟨piece ++ next, (List.append_assoc _ _ _).symm, fun others => ?_⟩
      rw [List.append_assoc]
      exact .pair (isFirst _) (isSecond others)
  | one _ inductionHypothesis =>
      obtain ⟨piece, shape, isMatch⟩ := inductionHypothesis
      exact ⟨piece, shape, fun others => .one (isMatch others)⟩
  | other _ inductionHypothesis =>
      obtain ⟨piece, shape, isMatch⟩ := inductionHypothesis
      exact ⟨piece, shape, fun others => .other (isMatch others)⟩
  | none => exact ⟨[], rfl, fun others => .none⟩
  | more _ _ headHypothesis tailHypothesis =>
      obtain ⟨piece, rfl, isHead⟩ := headHypothesis
      obtain ⟨next, rfl, isTail⟩ := tailHypothesis
      refine ⟨piece ++ next, (List.append_assoc _ _ _).symm, fun others => ?_⟩
      rw [List.append_assoc]
      exact .more (isHead _) (isTail others)

theorem suffix
    (isMatch : Matches grammar pattern tokens rest) : rest <:+ tokens := by
  obtain ⟨piece, rfl, -⟩ := isMatch.exists_piece
  exact List.suffix_append piece rest

/-- A text that is followed by one token and no other can be cut off before it. -/
theorem of_append
    {last found : Token} (isMatch : Matches grammar pattern (tokens ++ [last]) [found]) :
    found = last ∧ ∀ others, Matches grammar pattern (tokens ++ others) others := by
  obtain ⟨piece, shape, isMatch⟩ := isMatch.exists_piece
  obtain ⟨rfl, lastShape⟩ := List.append_inj' shape rfl
  exact ⟨(List.cons.inj lastShape).1.symm, isMatch⟩

/-- A repetition may also grow at its end. -/
theorem repeated_snoc
    (isMatch : Matches grammar (.repeated pattern) tokens middle)
    (isLast : Matches grammar pattern middle rest) :
    Matches grammar (.repeated pattern) tokens rest := by
  generalize shape : Pattern.repeated pattern = whole at isMatch ⊢
  induction isMatch with
  | none => exact shape ▸ .more isLast .none
  | more isHead _ _ tailHypothesis =>
      obtain rfl := Pattern.repeated.inj shape
      exact .more isHead (tailHypothesis isLast rfl)
  | _ => cases shape

theorem series_last
    (isMatch : Matches grammar pattern tokens rest) :
    Matches grammar (.series pattern) tokens rest :=
  .pair isMatch .none

theorem series_more
    {comma : Token} (isHead : Matches grammar pattern tokens (comma :: middle))
    (isComma : comma.kind = .comma) (isTail : Matches grammar (.series pattern) middle rest) :
    Matches grammar (.series pattern) tokens rest := by
  cases isTail with
  | pair isNext isMore => exact .pair isHead (.more (.pair (.token isComma) isNext) isMore)

end Matches

/-! ## Meanings of rules -/

namespace Pattern

/-- What a pattern says of tokens when every rule has a given meaning. -/
def Holds (means : Rule → List Token → List Token → Prop) :
    Pattern Rule → List Token → List Token → Prop
  | token fits, tokens, rest => ∃ first, fits first ∧ tokens = first :: rest
  | rule name, tokens, rest => means name tokens rest
  | empty, tokens, rest => tokens = rest
  | pair first second, tokens, rest =>
      ∃ middle, first.Holds means tokens middle ∧ second.Holds means middle rest
  | either one other, tokens, rest => one.Holds means tokens rest ∨ other.Holds means tokens rest
  | repeated item, tokens, rest => Relation.ReflTransGen (item.Holds means) tokens rest

end Pattern

/-- A meaning that is closed under every rule holds of all that is derived. All tokens may be
taken to have a property that those at the start have. -/
theorem Matches.holds
    {means : Rule → List Token → List Token → Prop} {property : Token → Prop}
    (closed : ∀ name tokens rest, (∀ token ∈ tokens, property token) →
      (grammar name).Holds means tokens rest → means name tokens rest)
    (isMatch : Matches grammar pattern tokens rest)
    (haveProperty : ∀ token ∈ tokens, property token) :
    pattern.Holds means tokens rest := by
  induction isMatch with
  | token fits => exact ⟨_, fits, rfl⟩
  | rule _ inductionHypothesis =>
      exact closed _ _ _ haveProperty (inductionHypothesis haveProperty)
  | empty => exact rfl
  | pair isFirst _ firstHypothesis secondHypothesis =>
      exact ⟨_, firstHypothesis haveProperty,
        secondHypothesis fun token isIn => haveProperty token (isFirst.suffix.subset isIn)⟩
  | one _ inductionHypothesis => exact .inl (inductionHypothesis haveProperty)
  | other _ inductionHypothesis => exact .inr (inductionHypothesis haveProperty)
  | none => exact .refl
  | more isHead _ headHypothesis tailHypothesis =>
      exact .head (headHypothesis haveProperty)
        (tailHypothesis fun token isIn => haveProperty token (isHead.suffix.subset isIn))

/-- What a pattern says when every rule means what it derives is derived from the pattern. -/
theorem Pattern.Holds.toMatches :
    {pattern : Pattern Rule} → {tokens rest : List Token} →
      pattern.Holds (fun name => Matches grammar (.rule name)) tokens rest →
      Matches grammar pattern tokens rest
  | .token _, _, _, ⟨_, fits, shape⟩ => shape ▸ .token fits
  | .rule _, _, _, isMatch => isMatch
  | .empty, _, _, same => same ▸ .empty
  | .pair _ _, _, _, ⟨_, isFirst, isSecond⟩ => .pair isFirst.toMatches isSecond.toMatches
  | .either _ _, _, _, .inl holds => .one holds.toMatches
  | .either _ _, _, _, .inr holds => .other holds.toMatches
  | .repeated _, _, _, holds => by
      induction holds using Relation.ReflTransGen.head_induction_on with
      | refl => exact .none
      | head isHead _ inductionHypothesis =>
          exact .more isHead.toMatches inductionHypothesis

/-- A series is its last item, or an item with a comma and a series after it. -/
@[elab_as_elim]
theorem Pattern.Holds.series_induction
    {means : Rule → List Token → List Token → Prop} {motive : List Token → Prop}
    (last : ∀ tokens, pattern.Holds means tokens rest → motive tokens)
    (more : ∀ tokens comma middle, pattern.Holds means tokens (comma :: middle) →
      comma.kind = .comma → motive middle → motive tokens)
    {tokens : List Token} (holds : (Pattern.series pattern).Holds means tokens rest) :
    motive tokens := by
  obtain ⟨middle, isHead, isTail⟩ := holds
  induction isTail using Relation.ReflTransGen.head_induction_on generalizing tokens with
  | refl => exact last _ isHead
  | head isNext _ inductionHypothesis =>
      obtain ⟨_, ⟨comma, isComma, rfl⟩, isNext⟩ := isNext
      exact more _ _ _ isHead isComma (inductionHypothesis isNext)

end StructLang.Grammar
