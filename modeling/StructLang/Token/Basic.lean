import StructLang.Position

/-!
# Tokens

A token is a kind, the text it was written as, and the place where that text starts. The two
tables give the words and the marks of the language with their kinds; every other kind of token
has no fixed text.
-/

namespace StructLang

/-- What a token is. -/
inductive TokenKind
  | integer
  | identifier
  | structWord
  | funcWord
  | mainWord
  | intWord
  | boolWord
  | voidWord
  | listWord
  | fptrWord
  | ifWord
  | elseWord
  | whileWord
  | displayWord
  | returnWord
  | trueWord
  | falseWord
  | setWord
  | getWord
  | plus
  | minus
  | star
  | slash
  | assign
  | equal
  | less
  | greater
  | both
  | either
  | bang
  | arrow
  | dot
  | comma
  | semicolon
  | leftParen
  | rightParen
  | leftBracket
  | rightBracket
  | leftBrace
  | rightBrace
  | finish
  deriving DecidableEq, Repr

namespace TokenKind

/-- The name under which a kind of token is shown in listings and messages. -/
def name : TokenKind → String
  | integer => "INT_LIT"
  | identifier => "IDENT"
  | structWord => "STRUCT"
  | funcWord => "FUNC"
  | mainWord => "MAIN"
  | intWord => "INT"
  | boolWord => "BOOL"
  | voidWord => "VOID"
  | listWord => "LIST"
  | fptrWord => "FPTR"
  | ifWord => "IF"
  | elseWord => "ELSE"
  | whileWord => "WHILE"
  | displayWord => "DISPLAY"
  | returnWord => "RETURN"
  | trueWord => "TRUE"
  | falseWord => "FALSE"
  | setWord => "SET"
  | getWord => "GET"
  | plus => "PLUS"
  | minus => "MINUS"
  | star => "STAR"
  | slash => "SLASH"
  | assign => "EQ"
  | equal => "EQ_EQ"
  | less => "LT"
  | greater => "GT"
  | both => "AMP_AMP"
  | either => "PIPE_PIPE"
  | bang => "BANG"
  | arrow => "ARROW"
  | dot => "DOT"
  | comma => "COMMA"
  | semicolon => "SEMICOLON"
  | leftParen => "LPAREN"
  | rightParen => "RPAREN"
  | leftBracket => "LBRACKET"
  | rightBracket => "RBRACKET"
  | leftBrace => "LBRACE"
  | rightBrace => "RBRACE"
  | finish => "EOF"

/-- The reserved words of the language with their kinds. -/
def words : List (String × TokenKind) :=
  [("struct", structWord), ("func", funcWord), ("main", mainWord), ("int", intWord),
   ("bool", boolWord), ("void", voidWord), ("list", listWord), ("fptr", fptrWord),
   ("if", ifWord), ("else", elseWord), ("while", whileWord), ("display", displayWord),
   ("return", returnWord), ("true", trueWord), ("false", falseWord), ("set", setWord),
   ("get", getWord)]

/-- The operators and delimiters of the language with their kinds. -/
def marks : List (String × TokenKind) :=
  [("==", equal), ("&&", both), ("||", either), ("->", arrow), ("+", plus), ("-", minus),
   ("*", star), ("/", slash), ("=", assign), ("<", less), (">", greater), ("!", bang),
   (".", dot), (",", comma), (";", semicolon), ("(", leftParen), (")", rightParen),
   ("[", leftBracket), ("]", rightBracket), ("\x7b", leftBrace), ("\x7d", rightBrace)]

/-- The kind of a word: its own if it is reserved, an identifier otherwise. -/
def ofWord (text : String) : TokenKind :=
  (words.lookup text).getD identifier

/-- Every kind of token. -/
def all : List TokenKind :=
  [integer, identifier] ++ words.map (·.2) ++ marks.map (·.2) ++ [finish]

/-- The kind that is shown under a name. -/
def ofName? (shown : String) : Option TokenKind :=
  all.find? (·.name == shown)

/-- The text of a word or mark, or the empty text for a kind that has no fixed text. -/
def spelling (kind : TokenKind) : String :=
  (((words ++ marks).find? (·.2 == kind)).map (·.1)).getD ""

/-- Whether a kind is a word that starts the text of a type. -/
def isTypeWord : TokenKind → Bool
  | intWord | boolWord | voidWord | listWord | fptrWord => true
  | _ => false

/-- Whether a type can start with a token of this kind: a type word or the name of a struct. -/
def startsType (kind : TokenKind) : Bool :=
  kind.isTypeWord || kind == identifier

end TokenKind

/-- A lexical unit of a source text. -/
structure Token where
  kind : TokenKind
  text : String
  position : Position
  deriving DecidableEq, Repr

namespace Token

/-- The kind and text of a token as messages show them. -/
def shown (token : Token) : String :=
  s!"{token.kind.name} '{token.text}'"

end Token

end StructLang
