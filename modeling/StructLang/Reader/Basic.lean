import StructLang.Reader.Fault

/-!
# Reading from tokens

A reader takes the tokens that are left, without the one that marks the end of the text. It gives
a value and the tokens after it, with the proof that fewer than some bound are left: fewer than it
was given for a reader that takes at least one token, at most as many for one that may take none.
The recursion of all readers ends by that proof. The token that marks the end is handed to every
reader, which needs it only to say what was found where tokens ran out.
-/

namespace StructLang

/-- A value read from tokens, and the tokens after it. -/
structure Parsed (value : Type) (bound : Nat) where
  value : value
  rest : List Token
  rest_lt : rest.length < bound

/-- What a reader gives. -/
abbrev Reading (value : Type) (bound : Nat) := Except ReadFailure (Parsed value bound)

namespace Reader

/-! ## Fewer and fewer tokens -/

section

variable {tokens first second third rest : List Token}

theorem length_lt_of_two
    (isFirst : first.length < tokens.length) (isRest : rest.length < first.length) :
    rest.length < tokens.length :=
  Nat.lt_trans isRest isFirst

theorem length_lt_of_three
    (isFirst : first.length < tokens.length) (isSecond : second.length < first.length)
    (isRest : rest.length < second.length) : rest.length < tokens.length :=
  length_lt_of_two (length_lt_of_two isFirst isSecond) isRest

theorem length_lt_of_four
    (isFirst : first.length < tokens.length) (isSecond : second.length < first.length)
    (isThird : third.length < second.length) (isRest : rest.length < third.length) :
    rest.length < tokens.length :=
  length_lt_of_two (length_lt_of_three isFirst isSecond isThird) isRest

/-- The second of two readers may take nothing. -/
theorem length_lt_of_optional
    (isFirst : first.length < tokens.length) (isRest : rest.length < first.length + 1) :
    rest.length < tokens.length :=
  Nat.lt_of_le_of_lt (Nat.le_of_lt_succ isRest) isFirst

/-- Between two marks stand a first item and further items, of which there may be none. -/
theorem length_lt_of_enclosed
    (isFirst : first.length < tokens.length) (isSecond : second.length < first.length)
    (isThird : third.length < second.length + 1) (isRest : rest.length < third.length) :
    rest.length < tokens.length :=
  length_lt_of_two (length_lt_of_optional (length_lt_of_two isFirst isSecond) isThird) isRest

end

/-! ## Looking at the next token -/

/-- The next token: the first that is left, or the one that marks the end. -/
def next (finish : Token) : List Token → Token
  | [] => finish
  | first :: _ => first

/-- Whether the next token is of a kind; the end is of no kind that readers ask for. -/
def startsWith (kind : TokenKind) : List Token → Bool
  | [] => false
  | first :: _ => first.kind == kind

/-- Refuses the next token with a fault that shows it. -/
def refuse {value : Type} {bound : Nat}
    (finish : Token) (fault : Token → ReadFault) (tokens : List Token) :
    Reading value bound :=
  .error (.grammar (fault (next finish tokens)))

/-- Takes the next token if it is of a kind. -/
def accept (kind : TokenKind) (tokens : List Token) : Option (Parsed Token tokens.length) :=
  match tokens with
  | [] => none
  | first :: rest =>
      if first.kind = kind then some ⟨first, rest, Nat.lt_succ_self _⟩ else none

/-- Takes the next token, which must be of a kind. -/
def expect (finish : Token) (wanted : Wanted) (kind : TokenKind) (tokens : List Token) :
    Reading Token tokens.length :=
  match accept kind tokens with
  | some taken => .ok taken
  | none => refuse finish (.expected wanted) tokens

/-- Takes the next token, which must be a certain mark. -/
def expectMark (finish : Token) (kind : TokenKind) (tokens : List Token) :
    Reading Token tokens.length :=
  expect finish (.token kind) kind tokens

/-- Takes the next token, which must be a name. -/
def expectName (finish : Token) (thing : NamedThing) (tokens : List Token) :
    Reading Token tokens.length :=
  expect finish (.name thing) .identifier tokens

end Reader

end StructLang
