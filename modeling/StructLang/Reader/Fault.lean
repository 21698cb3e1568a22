import StructLang.Text.Numeral
import StructLang.Token.Basic

/-!
# Why tokens are not a program

A reading of tokens fails at the first token that no rule of the grammar allows, at a statement
that is a plain value, at a program or accessor that lacks a part, or at an integer whose text has
no value. Each fault of the grammar points at the place of one token.
-/

namespace StructLang

/-- What a name is given to. -/
inductive NamedThing
  | localVariable
  | parameter
  | field
  | member
  | struct
  | function
  deriving DecidableEq, Repr

/-- The word for what a name is given to. -/
def NamedThing.word : NamedThing → String
  | localVariable => "variable"
  | parameter => "parameter"
  | field => "field"
  | member => "member"
  | struct => "struct"
  | function => "function"

/-- What the grammar allows where another token was found. -/
inductive Wanted
  | token (kind : TokenKind)
  | tokenAfter (kind word : TokenKind)
  | name (thing : NamedThing)
  | type
  | field
  | accessorPart
  | declaration
  deriving DecidableEq, Repr

/-- How a message names what the grammar allows. -/
def Wanted.text : Wanted → String
  | token kind => s!"'{kind.spelling}'"
  | tokenAfter kind word => s!"'{kind.spelling}' after '{word.spelling}'"
  | name thing => s!"{thing.word} name"
  | type => "type"
  | field => "field declaration"
  | accessorPart => "'set' or 'get' block"
  | declaration => "'struct', 'func' or 'main'"

/-- One of the two blocks of an accessor. -/
inductive AccessorPart
  | setPart
  | getPart
  deriving DecidableEq, Repr

/-- The word that opens a block of an accessor. -/
def AccessorPart.word : AccessorPart → String
  | setPart => "set"
  | getPart => "get"

/-- A fault of the grammar. -/
inductive ReadFault
  | expected (wanted : Wanted) (found : Token)
  | unexpected (found : Token)
  | afterMain (found : Token)
  | missingMain (position : Position)
  | missingPart (member : String) (part : AccessorPart) (position : Position)
  | plainValue (position : Position)
  deriving DecidableEq, Repr

namespace ReadFault

/-- The place a fault points at. -/
def position : ReadFault → Position
  | expected _ found => found.position
  | unexpected found => found.position
  | afterMain found => found.position
  | missingMain position => position
  | missingPart _ _ position => position
  | plainValue position => position

/-- What is wrong, without the place. -/
def message : ReadFault → String
  | expected wanted found => s!"Expected {wanted.text}, got {found.shown}"
  | unexpected found => s!"Unexpected token {found.shown}"
  | afterMain found => s!"Unexpected {found.shown} after 'main'"
  | missingMain _ => "Missing 'main' declaration"
  | missingPart member part _ => s!"Member '{member}' is missing its '{part.word}' block"
  | plainValue _ => "Expression statement must be a call, append or size"

end ReadFault

/-- Why tokens are not read as a program. -/
inductive ReadFailure
  | grammar (fault : ReadFault)
  | numeral (fault : Text.NumeralFault)
  | noTokens
  deriving DecidableEq, Repr

end StructLang
