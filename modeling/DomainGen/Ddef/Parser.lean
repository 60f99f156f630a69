import DomainGen.Ddef.Lexer

/-!
# Reading a model from its tokens

One function per phrase of the language.  Each takes the tokens that are left
and returns what it read with the tokens after it; nothing is read past the
first token that does not fit, and the error is placed there.  Functions that
repeat a phrase end because each phrase takes up at least one token.

References in the result are unresolved.
-/

namespace DomainGen.Ddef

/-- The error for tokens that do not continue as wanted.  `finish` is the place
where the source ends. -/
def unexpected (finish : Position) (wanted : Expectation) : List Token → SyntaxError
  | [] => ⟨.unexpected wanted none, finish⟩
  | token :: _ => ⟨.unexpected wanted (some token.lexeme), token.pos⟩

/-- What a phrase yields: a value and the tokens after it. -/
abbrev Read (α : Type) := Except SyntaxError (α × List Token)

/-- Read one symbol. -/
def readSymbol (finish : Position) (mark : Symbol) (tokens : List Token) :
    Except SyntaxError (List Token) :=
  match tokens with
  | ⟨.symbol found, pos⟩ :: rest =>
      if found = mark then .ok rest
      else .error (unexpected finish (.symbol mark) (⟨.symbol found, pos⟩ :: rest))
  | other => .error (unexpected finish (.symbol mark) other)

/-- Read one name, and its place. -/
def readName (finish : Position) (role : NameRole) : List Token → Read (String × Position)
  | ⟨.name text, pos⟩ :: rest => .ok ((text, pos), rest)
  | other => .error (unexpected finish (.name role) other)

/-- Read the further parts of a dotted name. -/
def readDottedTail (finish : Position) (role : NameRole) : List Token → Read (List String)
  | ⟨.symbol .dot, _⟩ :: ⟨.name text, _⟩ :: rest =>
      match readDottedTail finish role rest with
      | .ok (parts, rest) => .ok (text :: parts, rest)
      | .error error => .error error
  | ⟨.symbol .dot, _⟩ :: rest => .error (unexpected finish (.name role) rest)
  | other => .ok ([], other)

/-- Read a dotted name, and its place. -/
def readQualifiedName (finish : Position) (role : NameRole) (tokens : List Token) :
    Read (String × Position) :=
  match readName finish role tokens with
  | .error error => .error error
  | .ok ((first, pos), rest) =>
      match readDottedTail finish role rest with
      | .error error => .error error
      | .ok (parts, rest) => .ok ((Text.join "." (first :: parts), pos), rest)

/-- Read a reference to a type. -/
def readRef (finish : Position) (role : NameRole) (tokens : List Token) : Read Ref :=
  match readQualifiedName finish role tokens with
  | .error error => .error error
  | .ok ((text, pos), rest) => .ok (⟨text, pos, none⟩, rest)

theorem readName_length {finish role tokens value rest}
    (read : readName finish role tokens = .ok (value, rest)) :
    rest.length < tokens.length := by
  unfold readName at read
  split at read
  · cases read; simp
  · contradiction

theorem readDottedTail_length {finish role tokens value rest}
    (read : readDottedTail finish role tokens = .ok (value, rest)) :
    rest.length ≤ tokens.length := by
  fun_induction readDottedTail finish role tokens generalizing value rest with
  | case1 _ _ _ _ parts after tail ih =>
      cases read
      have := ih tail
      simp only [List.length_cons]
      omega
  | case2 => contradiction
  | case3 => contradiction
  | case4 => cases read; simp

theorem readQualifiedName_length {finish role tokens value rest}
    (read : readQualifiedName finish role tokens = .ok (value, rest)) :
    rest.length < tokens.length := by
  unfold readQualifiedName at read
  split at read
  · contradiction
  · next first =>
    split at read
    · contradiction
    · next tail =>
      cases read
      have := readName_length first
      have := readDottedTail_length tail
      omega

theorem readRef_length {finish role tokens value rest}
    (read : readRef finish role tokens = .ok (value, rest)) :
    rest.length < tokens.length := by
  unfold readRef at read
  split at read
  · contradiction
  · next name => cases read; exact readQualifiedName_length name

/-- Read the members of a union, separated by bars. -/
def readMembers (finish : Position) (tokens : List Token) : Read (List Ref) :=
  match _first : readRef finish .unionMember tokens with
  | .error error => .error error
  | .ok (ref, ⟨.symbol .bar, _⟩ :: rest) =>
      match readMembers finish rest with
      | .error error => .error error
      | .ok (refs, rest) => .ok (ref :: refs, rest)
  | .ok (ref, rest) => .ok ([ref], rest)
  termination_by tokens.length
  decreasing_by
    have := readRef_length _first
    simp only [List.length_cons] at this
    omega

/-- Read the part of a datatype after its keyword: a name and, after an equals
sign, members. -/
def readDataType (finish : Position) (pos : Position) (tokens : List Token) :
    Read DataType :=
  match readName finish .datatype tokens with
  | .error error => .error error
  | .ok ((name, _), ⟨.symbol .equals, _⟩ :: rest) =>
      match readMembers finish rest with
      | .error error => .error error
      | .ok (members, rest) => .ok ({ name, members, pos }, rest)
  | .ok ((name, _), rest) => .ok ({ name, pos }, rest)

/-- Skip the modifiers in front of a feature's name.  Each may stand once, in any
order; a repeated one is left for the name to stumble over. -/
def readModifiers (many nonNullable : Bool) : List Token → (Bool × Bool) × List Token
  | ⟨.keyword .many, pos⟩ :: rest =>
      if many then ((many, nonNullable), ⟨.keyword .many, pos⟩ :: rest)
      else readModifiers true nonNullable rest
  | ⟨.keyword .nonNullable, pos⟩ :: rest =>
      if nonNullable then ((many, nonNullable), ⟨.keyword .nonNullable, pos⟩ :: rest)
      else readModifiers many true rest
  | other => ((many, nonNullable), other)

/-- The place of the first token, or the end of the source. -/
def startOf (finish : Position) : List Token → Position
  | [] => finish
  | token :: _ => token.pos

/-- Read a feature: modifiers, a name, a colon and a type. -/
def readFeature (finish : Position) (tokens : List Token) : Read Feature :=
  match readModifiers false false tokens with
  | ((many, nonNullable), rest) =>
      if rest.isEmpty then .error (unexpected finish (.symbol .closeBrace) rest)
      else match readName finish .feature rest with
        | .error error => .error error
        | .ok ((name, _), rest) =>
            match readSymbol finish .colon rest with
            | .error error => .error error
            | .ok rest =>
                match readRef finish .featureType rest with
                | .error error => .error error
                | .ok (type, rest) =>
                    .ok (⟨name, type, many, nonNullable, startOf finish tokens⟩, rest)

theorem readSymbol_length {finish mark tokens rest}
    (read : readSymbol finish mark tokens = .ok rest) : rest.length < tokens.length := by
  unfold readSymbol at read
  split at read
  · split at read
    · cases read; simp
    · contradiction
  · contradiction

theorem readModifiers_length (many nonNullable : Bool) (tokens : List Token) :
    (readModifiers many nonNullable tokens).2.length ≤ tokens.length := by
  fun_induction readModifiers many nonNullable tokens <;> simp_all <;> omega

theorem readFeature_length {finish tokens feature rest}
    (read : readFeature finish tokens = .ok (feature, rest)) :
    rest.length < tokens.length := by
  unfold readFeature at read
  have modifiers := readModifiers_length false false tokens
  repeat' split at read
  all_goals first
    | contradiction
    | skip
  next after _ _ _ _ _ name _ _ colon _ _ _ type =>
    cases read
    have := readName_length name
    have := readSymbol_length colon
    have := readRef_length type
    simp_all
    omega

/-- Read the features of an entity through the closing brace. -/
def readFeatures (finish : Position) (tokens : List Token) : Read (List Feature) :=
  match tokens with
  | ⟨.symbol .closeBrace, _⟩ :: rest => .ok ([], rest)
  | tokens =>
      match _first : readFeature finish tokens with
      | .error error => .error error
      | .ok (feature, rest) =>
          match readFeatures finish rest with
          | .error error => .error error
          | .ok (features, rest) => .ok (feature :: features, rest)
  termination_by tokens.length
  decreasing_by exact readFeature_length _first

/-- Read the supertype of an entity, if there is one. -/
def readSupertype (finish : Position) : List Token → Read (Option Ref)
  | ⟨.keyword .extending, _⟩ :: rest =>
      match readRef finish .supertype rest with
      | .error error => .error error
      | .ok (ref, rest) => .ok (some ref, rest)
  | other => .ok (none, other)

/-- Read the part of an entity after its keyword. -/
def readEntity (finish : Position) (pos : Position) (tokens : List Token) : Read Entity :=
  match readName finish .entity tokens with
  | .error error => .error error
  | .ok ((name, _), rest) =>
      match readSupertype finish rest with
      | .error error => .error error
      | .ok (super, rest) =>
          match readSymbol finish .openBrace rest with
          | .error error => .error error
          | .ok rest =>
              match readFeatures finish rest with
              | .error error => .error error
              | .ok (features, rest) => .ok (⟨name, super, features, pos⟩, rest)

/-- Read the literals of an enum through the closing brace.  A comma may follow
the last one. -/
def readLiterals (finish : Position) : List Token → Read (List Literal)
  | ⟨.symbol .closeBrace, _⟩ :: rest => .ok ([], rest)
  | ⟨.name name, pos⟩ :: ⟨.symbol .comma, _⟩ :: rest =>
      match readLiterals finish rest with
      | .error error => .error error
      | .ok (literals, rest) => .ok (⟨name, pos⟩ :: literals, rest)
  | ⟨.name name, pos⟩ :: ⟨.symbol .closeBrace, _⟩ :: rest => .ok ([⟨name, pos⟩], rest)
  | ⟨.name _, _⟩ :: rest => .error (unexpected finish .commaOrClose rest)
  | other => .error (unexpected finish (.name .literal) other)

/-- Read the part of an enum after its keyword. -/
def readEnum (finish : Position) (pos : Position) (tokens : List Token) : Read Enum :=
  match readName finish .enum tokens with
  | .error error => .error error
  | .ok ((name, _), rest) =>
      match readSymbol finish .openBrace rest with
      | .error error => .error error
      | .ok rest =>
          match readLiterals finish rest with
          | .error error => .error error
          | .ok (literals, rest) => .ok (⟨name, literals, pos⟩, rest)

/-- Read a type declaration whose first token has already been looked at. -/
def readDecl (finish : Position) (tokens : List Token) : Read TypeDecl :=
  match tokens with
  | ⟨.keyword .datatype, pos⟩ :: rest =>
      (readDataType finish pos rest).map fun (type, rest) => (.dataType type, rest)
  | ⟨.keyword .entity, pos⟩ :: rest =>
      (readEntity finish pos rest).map fun (type, rest) => (.entity type, rest)
  | ⟨.keyword .enum, pos⟩ :: rest =>
      (readEnum finish pos rest).map fun (type, rest) => (.enum type, rest)
  | other => .error (unexpected finish .element other)

theorem readMembers_length {finish tokens members rest}
    (read : readMembers finish tokens = .ok (members, rest)) :
    rest.length < tokens.length := by
  fun_induction readMembers finish tokens generalizing members rest with
  | case1 => contradiction
  | case2 => contradiction
  | case3 _ _ _ _ first _ _ more ih =>
      cases read
      have := readRef_length first
      have := ih more
      simp_all
      omega
  | case4 _ _ _ _ first => cases read; exact readRef_length first

theorem readDataType_length {finish pos tokens type rest}
    (read : readDataType finish pos tokens = .ok (type, rest)) :
    rest.length < tokens.length := by
  unfold readDataType at read
  split at read
  · contradiction
  · next name =>
    split at read
    · contradiction
    · next members =>
      cases read
      have := readName_length name
      have := readMembers_length members
      simp_all
      omega
  · next name => cases read; exact readName_length name

theorem readFeatures_length {finish tokens features rest}
    (read : readFeatures finish tokens = .ok (features, rest)) :
    rest.length < tokens.length := by
  fun_induction readFeatures finish tokens generalizing features rest with
  | case1 => cases read; simp
  | case2 => contradiction
  | case3 => contradiction
  | case4 _ _ _ _ first _ _ more ih =>
      cases read
      have := readFeature_length first
      have := ih more
      omega

theorem readSupertype_length {finish tokens super rest}
    (read : readSupertype finish tokens = .ok (super, rest)) :
    rest.length ≤ tokens.length := by
  unfold readSupertype at read
  split at read
  · split at read
    · contradiction
    · next type =>
      cases read
      have := readRef_length type
      simp only [List.length_cons]
      omega
  · cases read; simp

theorem readEntity_length {finish pos tokens type rest}
    (read : readEntity finish pos tokens = .ok (type, rest)) :
    rest.length < tokens.length := by
  unfold readEntity at read
  repeat' split at read
  all_goals first
    | contradiction
    | skip
  next name _ _ _ super _ _ brace _ _ _ features =>
    cases read
    have := readName_length name
    have := readSupertype_length super
    have := readSymbol_length brace
    have := readFeatures_length features
    omega

theorem readLiterals_length {finish tokens literals rest}
    (read : readLiterals finish tokens = .ok (literals, rest)) :
    rest.length < tokens.length := by
  fun_induction readLiterals finish tokens generalizing literals rest with
  | case1 => cases read; simp
  | case2 => contradiction
  | case3 _ _ _ _ _ _ more ih =>
      cases read
      have := ih more
      simp only [List.length_cons]
      omega
  | case4 => cases read; simp only [List.length_cons]; omega
  | case5 => contradiction
  | case6 => contradiction

theorem readEnum_length {finish pos tokens type rest}
    (read : readEnum finish pos tokens = .ok (type, rest)) :
    rest.length < tokens.length := by
  unfold readEnum at read
  repeat' split at read
  all_goals first
    | contradiction
    | skip
  next name _ _ brace _ _ _ literals =>
    cases read
    have := readName_length name
    have := readSymbol_length brace
    have := readLiterals_length literals
    omega

theorem readDecl_length {finish tokens decl rest}
    (read : readDecl finish tokens = .ok (decl, rest)) : rest.length < tokens.length := by
  unfold readDecl at read
  split at read
  · next pos after =>
    cases inner : readDataType finish pos after with
    | error => simp [inner, Except.map] at read
    | ok result =>
        obtain ⟨_, _⟩ := result
        have := readDataType_length inner
        simp [inner, Except.map] at read
        simp only [List.length_cons, ← read.2]
        omega
  · next pos after =>
    cases inner : readEntity finish pos after with
    | error => simp [inner, Except.map] at read
    | ok result =>
        obtain ⟨_, _⟩ := result
        have := readEntity_length inner
        simp [inner, Except.map] at read
        simp only [List.length_cons, ← read.2]
        omega
  · next pos after =>
    cases inner : readEnum finish pos after with
    | error => simp [inner, Except.map] at read
    | ok result =>
        obtain ⟨_, _⟩ := result
        have := readEnum_length inner
        simp [inner, Except.map] at read
        simp only [List.length_cons, ← read.2]
        omega
  · contradiction

/-- Elements together with tokens that are no more than there were. -/
abbrev ElementsRead (tokens : List Token) :=
  { result : List Element × List Token // result.2.length ≤ tokens.length }

/-- Read elements: inside a package through its closing brace, else to the end of
the source. -/
def readElements (finish : Position) (nested : Bool) (tokens : List Token) :
    Except SyntaxError (ElementsRead tokens) :=
  match tokens with
  | [] =>
      if nested then .error (unexpected finish (.symbol .closeBrace) [])
      else .ok ⟨([], []), Nat.le_refl _⟩
  | ⟨.symbol .closeBrace, pos⟩ :: rest =>
      if nested then .ok ⟨([], rest), by simp⟩
      else .error (unexpected finish .element (⟨.symbol .closeBrace, pos⟩ :: rest))
  | ⟨.keyword .package, pos⟩ :: rest =>
      match named : readQualifiedName finish .package rest with
      | .error error => .error error
      | .ok ((name, _), afterName) =>
          match opened : readSymbol finish .openBrace afterName with
          | .error error => .error error
          | .ok body =>
              have bodyShorter : body.length < rest.length := by
                have := readQualifiedName_length named
                have := readSymbol_length opened
                omega
              match readElements finish true body with
              | .error error => .error error
              | .ok ⟨(inner, afterPackage), innerShorter⟩ =>
                  match readElements finish nested afterPackage with
                  | .error error => .error error
                  | .ok ⟨(elements, left), leftShorter⟩ =>
                      .ok ⟨(.package name pos inner :: elements, left), by
                        simp only [List.length_cons] at *
                        omega⟩
  | token :: rest =>
      match declared : readDecl finish (token :: rest) with
      | .error error => .error error
      | .ok (decl, afterDecl) =>
          match readElements finish nested afterDecl with
          | .error error => .error error
          | .ok ⟨(elements, left), leftShorter⟩ =>
              .ok ⟨(.type decl :: elements, left), by
                have := readDecl_length declared
                simp only [List.length_cons] at *
                omega⟩
  termination_by tokens.length
  decreasing_by
    · simp only [List.length_cons]; omega
    · simp only [List.length_cons] at *; omega
    · have := readDecl_length declared
      simp only [List.length_cons] at *
      omega

/-- Read a model from its source text. -/
def parse (source : List Char) : Except SyntaxError Definitions :=
  match lex source with
  | .error error => .error error
  | .ok list =>
      match readElements list.finish false list.tokens with
      | .error error => .error error
      | .ok ⟨(elements, _), _⟩ => .ok { elements }

end DomainGen.Ddef
