import DomainGen.Ddef.Parser

/-!
# Derivations of the model language

The grammar of the model language, with one type of derivation for each of its
rules.  A derivation keeps the place of every token in it, so its tokens can be
read off it, and so can the tree that it stands for.

    document  = element*
    element   = 'package' qualified '{' element* '}'
              | 'datatype' name ['=' qualified ('|' qualified)*]
              | 'entity' name ['extends' qualified] '{' feature* '}'
              | 'enum' name '{' [name (',' name)* [',']] '}'
    feature   = modifiers name ':' qualified
    modifiers = any order of at most one 'many' and at most one 'nonNullable'
    qualified = name ('.' name)*

Nothing here looks at the functions that read a model from its tokens.
-/

namespace DomainGen.Ddef

/-- The place of the first of some tokens. -/
def firstPos (tokens : List Token) : Position := (tokens.head?.map (·.pos)).getD {}

@[simp] theorem firstPos_cons (token : Token) (rest : List Token) :
    firstPos (token :: rest) = token.pos := rfl

/-- A name. -/
structure NamePhrase where
  text : String
  pos : Position
  deriving Repr, DecidableEq

/-- The token of a name. -/
def NamePhrase.token (name : NamePhrase) : Token := ⟨.name name.text, name.pos⟩

/-- Phrases with a mark between each two of them.  Each phrase but the first has
the place of the mark in front of it. -/
structure Separated (α : Type) where
  first : α
  rest : List (Position × α)
  deriving Repr, DecidableEq

namespace Separated

variable {α β : Type}

/-- The tokens of one mark and the phrase behind it. -/
def nextTokens (mark : Symbol) (spell : α → List Token) (next : Position × α) : List Token :=
  ⟨.symbol mark, next.1⟩ :: spell next.2

/-- The tokens of the phrases and of the marks between them. -/
def tokens (mark : Symbol) (spell : α → List Token) (phrases : Separated α) : List Token :=
  spell phrases.first ++ phrases.rest.flatMap (nextTokens mark spell)

/-- The phrases without the marks. -/
def toList (phrases : Separated α) : List α := phrases.first :: phrases.rest.map (·.2)

end Separated

/-- A dotted name. -/
abbrev QualifiedPhrase := Separated NamePhrase

namespace QualifiedPhrase

/-- The tokens of a dotted name. -/
def tokens (phrase : QualifiedPhrase) : List Token :=
  Separated.tokens .dot (fun name => [name.token]) phrase

/-- A dotted name as it is written. -/
def text (phrase : QualifiedPhrase) : String :=
  Text.join "." (phrase.toList.map (·.text))

/-- A dotted name as a reference that nothing has been found for yet. -/
def ref (phrase : QualifiedPhrase) : Ref := ⟨phrase.text, firstPos phrase.tokens, none⟩

end QualifiedPhrase

/-- A datatype: its keyword and its name and, behind an equals sign, the members
of a union. -/
structure DataTypePhrase where
  keyword : Position
  name : NamePhrase
  union : Option (Position × Separated QualifiedPhrase)
  deriving Repr, DecidableEq

namespace DataTypePhrase

/-- The tokens of the members of a union and of the equals sign. -/
def unionTokens (union : Position × Separated QualifiedPhrase) : List Token :=
  ⟨.symbol .equals, union.1⟩ :: union.2.tokens .bar QualifiedPhrase.tokens

/-- The tokens of a datatype. -/
def tokens (phrase : DataTypePhrase) : List Token :=
  ⟨.keyword .datatype, phrase.keyword⟩ :: phrase.name.token ::
    phrase.union.elim [] unionTokens

/-- The datatype that is declared. -/
def tree (phrase : DataTypePhrase) : DataType where
  name := phrase.name.text
  members := phrase.union.elim [] fun union => union.2.toList.map (·.ref)
  pos := firstPos phrase.tokens

end DataTypePhrase

/-- What can be said about a feature in front of its name. -/
inductive Modifier where
  | many
  | nonNullable
  deriving Repr, DecidableEq

/-- The word for a modifier. -/
def Modifier.keyword : Modifier → Keyword
  | many => .many
  | nonNullable => .nonNullable

/-- The token of a modifier. -/
def Modifier.token (mark : Modifier × Position) : Token := ⟨.keyword mark.1.keyword, mark.2⟩

/-- The modifiers of a feature, in any order and none of them twice. -/
structure ModifiersPhrase where
  marks : List (Modifier × Position)
  distinct : (marks.map (·.1)).Nodup
  deriving Repr, DecidableEq

namespace ModifiersPhrase

/-- The tokens of the modifiers. -/
def tokens (phrase : ModifiersPhrase) : List Token := phrase.marks.map Modifier.token

/-- Whether a modifier is given. -/
def has (phrase : ModifiersPhrase) (modifier : Modifier) : Bool :=
  (phrase.marks.map (·.1)).contains modifier

end ModifiersPhrase

/-- A feature. -/
structure FeaturePhrase where
  modifiers : ModifiersPhrase
  name : NamePhrase
  colon : Position
  type : QualifiedPhrase
  deriving Repr, DecidableEq

namespace FeaturePhrase

/-- The tokens of a feature. -/
def tokens (phrase : FeaturePhrase) : List Token :=
  phrase.modifiers.tokens ++
    phrase.name.token :: ⟨.symbol .colon, phrase.colon⟩ :: phrase.type.tokens

/-- The feature that is declared. -/
def tree (phrase : FeaturePhrase) : Feature where
  name := phrase.name.text
  type := phrase.type.ref
  many := phrase.modifiers.has .many
  nonNullable := phrase.modifiers.has .nonNullable
  pos := firstPos phrase.tokens

end FeaturePhrase

/-- An entity: its keyword and its name, a supertype if there is one, and features
between braces. -/
structure EntityPhrase where
  keyword : Position
  name : NamePhrase
  super : Option (Position × QualifiedPhrase)
  opening : Position
  features : List FeaturePhrase
  closing : Position
  deriving Repr, DecidableEq

namespace EntityPhrase

/-- The tokens of a supertype and of the keyword in front of it. -/
def superTokens (super : Position × QualifiedPhrase) : List Token :=
  ⟨.keyword .extending, super.1⟩ :: super.2.tokens

/-- The tokens of an entity. -/
def tokens (phrase : EntityPhrase) : List Token :=
  ⟨.keyword .entity, phrase.keyword⟩ :: phrase.name.token ::
    (phrase.super.elim [] superTokens ++
      ⟨.symbol .openBrace, phrase.opening⟩ ::
        (phrase.features.flatMap (·.tokens) ++ [⟨.symbol .closeBrace, phrase.closing⟩]))

/-- The entity that is declared. -/
def tree (phrase : EntityPhrase) : Entity where
  name := phrase.name.text
  super := phrase.super.map fun super => super.2.ref
  features := phrase.features.map (·.tree)
  pos := firstPos phrase.tokens

end EntityPhrase

/-- The literals of an enum, of which there is at least one.  A comma may follow
the last. -/
structure LiteralsPhrase where
  names : Separated NamePhrase
  trailing : Option Position
  deriving Repr, DecidableEq

/-- The tokens of literals. -/
def LiteralsPhrase.tokens (phrase : LiteralsPhrase) : List Token :=
  phrase.names.tokens .comma (fun name => [name.token]) ++
    phrase.trailing.toList.map fun pos => ⟨.symbol .comma, pos⟩

/-- A literal that is declared. -/
def NamePhrase.literal (name : NamePhrase) : Literal := ⟨name.text, firstPos [name.token]⟩

/-- An enum: its keyword and its name, and literals between braces. -/
structure EnumPhrase where
  keyword : Position
  name : NamePhrase
  opening : Position
  literals : Option LiteralsPhrase
  closing : Position
  deriving Repr, DecidableEq

namespace EnumPhrase

/-- The tokens of an enum. -/
def tokens (phrase : EnumPhrase) : List Token :=
  ⟨.keyword .enum, phrase.keyword⟩ :: phrase.name.token ::
    ⟨.symbol .openBrace, phrase.opening⟩ ::
      (phrase.literals.elim [] (·.tokens) ++ [⟨.symbol .closeBrace, phrase.closing⟩])

/-- The enum that is declared. -/
def tree (phrase : EnumPhrase) : Enum where
  name := phrase.name.text
  literals := phrase.literals.elim [] fun literals => literals.names.toList.map (·.literal)
  pos := firstPos phrase.tokens

end EnumPhrase

/-- An element.  A document is a list of them. -/
inductive ElementPhrase where
  | package (keyword : Position) (name : QualifiedPhrase) (opening : Position)
      (elements : List ElementPhrase) (closing : Position)
  | dataType (phrase : DataTypePhrase)
  | entity (phrase : EntityPhrase)
  | enum (phrase : EnumPhrase)
  deriving Repr

mutual

/-- The tokens of an element. -/
def ElementPhrase.tokens : ElementPhrase → List Token
  | .package keyword name opening elements closing =>
      ⟨.keyword .package, keyword⟩ :: (name.tokens ++
        ⟨.symbol .openBrace, opening⟩ ::
          (tokensOf elements ++ [⟨.symbol .closeBrace, closing⟩]))
  | .dataType phrase => phrase.tokens
  | .entity phrase => phrase.tokens
  | .enum phrase => phrase.tokens

/-- The tokens of elements. -/
def tokensOf : List ElementPhrase → List Token
  | [] => []
  | element :: rest => element.tokens ++ tokensOf rest

end

mutual

/-- The element that is declared. -/
def ElementPhrase.tree : ElementPhrase → Element
  | .package keyword name opening elements closing =>
      .package name.text
        (firstPos (ElementPhrase.package keyword name opening elements closing).tokens)
        (treesOf elements)
  | .dataType phrase => .type (.dataType phrase.tree)
  | .entity phrase => .type (.entity phrase.tree)
  | .enum phrase => .type (.enum phrase.tree)

/-- The elements that are declared. -/
def treesOf : List ElementPhrase → List Element
  | [] => []
  | element :: rest => element.tree :: treesOf rest

end

/-- Whether tokens, taken without their places, are those of a document. -/
def IsSentence (lexemes : List Lexeme) : Prop :=
  ∃ document : List ElementPhrase, (tokensOf document).map (·.lexeme) = lexemes

end DomainGen.Ddef
