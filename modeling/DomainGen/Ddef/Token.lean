import DomainGen.Model.Basic

/-!
# Tokens of the model language

A source text is a sequence of names, keywords and symbols.  A keyword can be
used as a name by writing a caret in front of it.
-/

namespace DomainGen.Ddef

/-- The reserved words. -/
inductive Keyword where
  | package | datatype | entity | extending | enum | many | nonNullable
  deriving Repr, DecidableEq, Inhabited

namespace Keyword

/-- Every reserved word. -/
def all : List Keyword := [package, datatype, entity, extending, enum, many, nonNullable]

/-- How a reserved word is written. -/
def text : Keyword → String
  | package => "package"
  | datatype => "datatype"
  | entity => "entity"
  | extending => "extends"
  | enum => "enum"
  | many => "many"
  | nonNullable => "nonNullable"

/-- The reserved word that is written this way. -/
def ofText? (text : String) : Option Keyword := all.find? fun keyword => keyword.text == text

end Keyword

/-- The punctuation marks, one character each. -/
inductive Symbol where
  | openBrace | closeBrace | colon | equals | bar | comma | dot
  deriving Repr, DecidableEq, Inhabited

namespace Symbol

/-- Every punctuation mark. -/
def all : List Symbol := [openBrace, closeBrace, colon, equals, bar, comma, dot]

/-- The character a punctuation mark is written with. -/
def char : Symbol → Char
  | openBrace => '\x7b'
  | closeBrace => '\x7d'
  | colon => ':'
  | equals => '='
  | bar => '|'
  | comma => ','
  | dot => '.'

/-- The punctuation mark that is written with this character. -/
def ofChar? (c : Char) : Option Symbol := all.find? fun symbol => symbol.char == c

end Symbol

/-- A token without its place. -/
inductive Lexeme where
  | name (text : String)
  | keyword (word : Keyword)
  | symbol (mark : Symbol)
  deriving Repr, DecidableEq, Inhabited

namespace Lexeme

/-- What a token says, without the caret of an escaped name. -/
def text : Lexeme → String
  | name text => text
  | keyword word => word.text
  | symbol mark => String.singleton mark.char

/-- What kind of token it is. -/
def kind : Lexeme → String
  | name _ => "identifier"
  | keyword _ => "keyword"
  | symbol _ => "symbol"

end Lexeme

/-- The kind of the token that follows the last one. -/
def endOfFile : String := "end of file"

/-- A token and the place of its first character. -/
structure Token where
  lexeme : Lexeme
  pos : Position
  deriving Repr, DecidableEq, Inhabited

/-- A source text cut into tokens, and the place where it ends. -/
structure TokenList where
  tokens : List Token
  finish : Position
  deriving Repr, DecidableEq, Inhabited

end DomainGen.Ddef
