import StructLang.Expr.Read
import StructLang.Proofs.Grammar.Patterns

/-!
# The printed grammar

The grammar of the language as its description prints it, with the levels of binary operators as
one rule. An expression statement must be a call or an operation on a list. In print every postfix
expression can be called, so `list.append()` is a call of a member; the committed grammar differs
in this alone: it keeps `append` and `size` before a parenthesis for the operations on lists.
-/

namespace StructLang.Grammar

/-- The rules of the grammar. What stands before the parentheses of a call has a rule of its
own. -/
inductive Rule
  | program
  | structDecl
  | member
  | functionDecl
  | mainDecl
  | parameters
  | type
  | block
  | declaration
  | statement
  | level (precedence : Precedence)
  | unary
  | chained
  | callable
  | primary
  deriving DecidableEq, Repr

namespace Rule

/-- Every expression: the loosest operators bind it. -/
abbrev expression : Rule := level .disjunction

/-- The rule of the operands of a level. -/
def operand : Precedence → Rule
  | .disjunction => level .conjunction
  | .conjunction => level .equality
  | .equality => level .comparison
  | .comparison => level .sum
  | .sum => level .product
  | .product => unary

end Rule

namespace Pattern

/-- The operators of a level. -/
def operators : Precedence → Pattern Rule
  | .disjunction => kind .either
  | .conjunction => kind .both
  | .equality => kind .equal
  | .comparison => either (kind .less) (kind .greater)
  | .sum => either (kind .plus) (kind .minus)
  | .product => either (kind .star) (kind .slash)

/-- A pattern in parentheses. -/
def parenthesized (item : Pattern Rule) : Pattern Rule :=
  sequence [kind .leftParen, item, kind .rightParen]

/-- The parentheses of a call with what stands in them. -/
def called : Pattern Rule :=
  parenthesized (optional (series (rule .expression)))

/-- A place in a list. -/
def indexed : Pattern Rule :=
  sequence [kind .leftBracket, rule .expression, kind .rightBracket]

/-- The operation that adds an element to a list. -/
def appended : Pattern Rule :=
  sequence [kind .dot, named "append", parenthesized (rule .expression)]

/-- The operation that counts the elements of a list. -/
def sized : Pattern Rule :=
  sequence [kind .dot, named "size", parenthesized empty]

/-- Names of one type. -/
def declaredNames : Pattern Rule :=
  sequence [rule .type, series (kind .identifier), kind .semicolon]

/-- Parameters in parentheses. -/
def parameterList : Pattern Rule :=
  parenthesized (optional (rule .parameters))

/-- The blocks of an accessor, in either order. -/
def accessorBlocks : Pattern Rule :=
  either (sequence [kind .setWord, rule .block, kind .getWord, rule .block])
    (sequence [kind .getWord, rule .block, kind .setWord, rule .block])

/-- An expression that can be a statement: a call or an operation on a list. -/
def effect : Pattern Rule :=
  choice (pair (rule .callable) called)
    [pair (rule .chained) appended, pair (rule .chained) sized]

end Pattern

open Pattern

/-- The grammar of the language as it is printed. -/
def printed : Rule → Pattern Rule
  | .program =>
      sequence [repeated (either (rule .structDecl) (rule .functionDecl)), rule .mainDecl,
        kind .finish]
  | .structDecl =>
      sequence [kind .structWord, kind .identifier, kind .leftBrace, repeated (rule .member),
        kind .rightBrace]
  | .member =>
      choice declaredNames
        [sequence [rule .type, kind .identifier, parameterList, kind .leftBrace, accessorBlocks,
          kind .rightBrace]]
  | .functionDecl =>
      sequence [kind .funcWord, kind .identifier, parameterList, rule .type, rule .block]
  | .mainDecl => pair (kind .mainWord) (rule .block)
  | .parameters => series (pair (rule .type) (kind .identifier))
  | .type =>
      choice (kind .intWord)
        [kind .boolWord, kind .voidWord, kind .identifier,
          sequence [kind .listWord, kind .leftBracket, rule .type, kind .rightBracket],
          sequence [kind .fptrWord, kind .less,
            either (kind .voidWord) (series (rule .type)), kind .arrow, rule .type,
            kind .greater]]
  | .block => sequence [kind .leftBrace, repeated (rule .statement), kind .rightBrace]
  | .declaration => declaredNames
  | .statement =>
      choice (rule .block)
        [rule .declaration,
          sequence [kind .ifWord, parenthesized (rule .expression), rule .statement,
            optional (pair (kind .elseWord) (rule .statement))],
          sequence [kind .whileWord, parenthesized (rule .expression), rule .statement],
          sequence [kind .displayWord, parenthesized (rule .expression), kind .semicolon],
          sequence [kind .returnWord, optional (rule .expression), kind .semicolon],
          sequence [rule .chained, kind .assign, rule .expression, kind .semicolon],
          pair effect (kind .semicolon)]
  | .level precedence =>
      pair (rule (.operand precedence))
        (repeated (pair (operators precedence) (rule (.operand precedence))))
  | .unary => choice (pair (either (kind .minus) (kind .bang)) (rule .unary)) [rule .chained]
  | .chained =>
      pair (rule .primary)
        (repeated (choice indexed
          [appended, sized, pair (kind .dot) (kind .identifier), called]))
  | .callable => rule .chained
  | .primary =>
      choice (kind .integer)
        [kind .trueWord, kind .falseWord, kind .identifier,
          parenthesized (series (rule .expression))]

/-- The grammar in which `append` and `size` before a parenthesis are always the operations on
lists: a postfix expression that ends with such a member cannot be called. -/
def committed : Rule → Pattern Rule
  | .chained =>
      choice (rule .callable)
        [sequence [rule .chained, kind .dot, named "append"],
          sequence [rule .chained, kind .dot, named "size"]]
  | .callable =>
      choice (rule .primary)
        [pair (rule .callable) called, pair (rule .chained) indexed,
          pair (rule .chained) appended, pair (rule .chained) sized,
          sequence [rule .chained, kind .dot, token fun name =>
            name.kind = .identifier ∧ name.text ≠ "append" ∧ name.text ≠ "size"]]
  | other => printed other

end StructLang.Grammar
