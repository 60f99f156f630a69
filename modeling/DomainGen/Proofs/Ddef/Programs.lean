import DomainGen.Proofs.Ddef.Reading

/-!
# Reading phrases as programs

The functions that read phrases are programs over the tokens that are left.  A program
takes a token, goes by the next one, or refuses it, and programs are put together by
running one after the other.  Each function is equal to such a program (`…_eq`), so that
what holds of all programs of this kind holds of it.
-/

namespace DomainGen.Ddef

/-- A program that reads tokens. -/
abbrev Reader (α : Type) := StateT (List Token) (Except SyntaxError) α

section Programs

variable {α : Type}

/-- Refuse the tokens that come next. -/
def refuse (finish : Position) (wanted : Expectation) : Reader α :=
  fun tokens => .error (unexpected finish wanted tokens)

/-- Take the next token if it is a certain one, and go on in one way; otherwise go on in
the other. -/
def ifNext (lexeme : Lexeme) (found : Position → Reader α) (other : Reader α) : Reader α :=
  fun tokens =>
    match tokens with
    | [] => other []
    | token :: rest =>
        if token.lexeme = lexeme then found token.pos rest else other (token :: rest)

/-- Go on in one way at the end of the tokens, and in the other before it. -/
def ifEnd (ended other : Reader α) : Reader α :=
  fun tokens => if tokens.isEmpty then ended tokens else other tokens

end Programs

variable {α β : Type} (finish : Position) (role : NameRole)

/-- A sequence of programs fails with its first part, or goes on behind it. -/
theorem bind_apply (first : Reader α) (second : α → Reader β) (tokens : List Token) :
    (first >>= second) tokens =
      match first tokens with
      | .error error => .error error
      | .ok (value, rest) => second value rest := by
  change (first tokens).bind _ = _
  cases first tokens with
  | error error => rfl
  | ok result => rfl

theorem pure_apply (value : α) (tokens : List Token) :
    (pure value : Reader α) tokens = .ok (value, tokens) := rfl

/-! ## Symbols and names -/

/-- Read one symbol. -/
def takeSymbol (mark : Symbol) : Reader Unit :=
  fun tokens => (readSymbol finish mark tokens).map ((), ·)

theorem takeSymbol_eq (mark : Symbol) :
    takeSymbol finish mark =
      ifNext (.symbol mark) (fun _ => pure ()) (refuse finish (.symbol mark)) := by
  funext tokens
  cases tokens with
  | nil => rfl
  | cons token rest =>
      obtain ⟨lexeme, pos⟩ := token
      cases lexeme with
      | symbol found =>
          by_cases same : found = mark
          · simp [takeSymbol, readSymbol, ifNext, same, Except.map, pure_apply]
          · simp [takeSymbol, readSymbol, ifNext, same, Except.map, refuse]
      | name text => rfl
      | keyword word => rfl

theorem readDottedTail_eq :
    readDottedTail finish role = ifNext (.symbol .dot)
      (fun _ => do
        let name ← (readName finish role : Reader _)
        let parts ← (readDottedTail finish role : Reader _)
        pure (name.1 :: parts))
      (pure []) := by
  funext tokens
  cases tokens with
  | nil => rfl
  | cons token rest =>
      obtain ⟨lexeme, pos⟩ := token
      by_cases dot : lexeme = .symbol .dot
      · subst dot
        simp only [ifNext, if_true, bind_apply]
        cases rest with
        | nil => rfl
        | cons next rest =>
            obtain ⟨lexeme, place⟩ := next
            cases lexeme with
            | name text =>
                simp only [readDottedTail, readName]
                cases readDottedTail finish role rest with
                | error error => rfl
                | ok result => rfl
            | keyword word => rfl
            | symbol mark => rfl
      · rw [ifNext, if_neg dot, readDottedTail.eq_def]
        split
        · next same => cases same; contradiction
        · next same => cases same; contradiction
        · rfl

theorem readQualifiedName_eq :
    readQualifiedName finish role = (do
      let name ← (readName finish role : Reader _)
      let parts ← (readDottedTail finish role : Reader _)
      pure (Text.join "." (name.1 :: parts), name.2) : Reader _) := by
  funext tokens
  simp only [readQualifiedName, bind_apply]
  cases readName finish role tokens with
  | error error => rfl
  | ok result =>
      dsimp only
      cases readDottedTail finish role result.2 with
      | error error => rfl
      | ok result => rfl

theorem readRef_eq :
    readRef finish role = (do
      let name ← (readQualifiedName finish role : Reader _)
      pure ⟨name.1, name.2, none⟩ : Reader _) := by
  funext tokens
  simp only [readRef, bind_apply]
  cases readQualifiedName finish role tokens with
  | error error => rfl
  | ok result => rfl

/-! ## Types -/

theorem readMembers_eq :
    readMembers finish = (do
      let ref ← (readRef finish .unionMember : Reader _)
      ifNext (.symbol .bar)
        (fun _ => do
          let refs ← (readMembers finish : Reader _)
          pure (ref :: refs))
        (pure [ref]) : Reader _) := by
  funext tokens
  rw [readMembers.eq_def, bind_apply]
  cases readRef finish .unionMember tokens with
  | error error => rfl
  | ok result =>
      obtain ⟨ref, rest⟩ := result
      cases rest with
      | nil => rfl
      | cons token rest =>
          obtain ⟨lexeme, pos⟩ := token
          by_cases bar : lexeme = .symbol .bar
          · subst bar
            simp only [ifNext, if_true, bind_apply]
            cases readMembers finish rest with
            | error error => rfl
            | ok result => rfl
          · simp only [ifNext, if_neg bar]
            split
            · contradiction
            · next same => cases same; contradiction
            · next same => cases same; rfl

theorem readDataType_eq (pos : Position) :
    readDataType finish pos = (do
      let name ← (readName finish .datatype : Reader _)
      ifNext (.symbol .equals)
        (fun _ => do
          let members ← (readMembers finish : Reader _)
          pure { name := name.1, members, pos })
        (pure { name := name.1, pos }) : Reader _) := by
  funext tokens
  rw [readDataType, bind_apply]
  cases readName finish .datatype tokens with
  | error error => rfl
  | ok result =>
      obtain ⟨name, rest⟩ := result
      cases rest with
      | nil => rfl
      | cons token rest =>
          obtain ⟨lexeme, place⟩ := token
          by_cases equals : lexeme = .symbol .equals
          · subst equals
            simp only [ifNext, if_true, bind_apply]
            cases readMembers finish rest with
            | error error => rfl
            | ok result => rfl
          · simp only [ifNext, if_neg equals]
            split
            · contradiction
            · next same => cases same; contradiction
            · next same => cases same; rfl

/-- The place of the next token. -/
def nextPlace : Reader Position := fun tokens => .ok (startOf finish tokens, tokens)

/-- Skip modifiers. -/
def takeModifiers (many nonNullable : Bool) : Reader (Bool × Bool) :=
  fun tokens => .ok (readModifiers many nonNullable tokens)

theorem takeModifiers_eq (many nonNullable : Bool) :
    takeModifiers many nonNullable =
      (if many then id else ifNext (.keyword .many) fun _ => takeModifiers true nonNullable)
        ((if nonNullable then id
            else ifNext (.keyword .nonNullable) fun _ => takeModifiers many true)
          (pure (many, nonNullable))) := by
  funext tokens
  rw [takeModifiers, readModifiers.eq_def]
  split
  · cases many <;> cases nonNullable <;> simp [ifNext, takeModifiers, pure_apply]
  · cases many <;> cases nonNullable <;> simp [ifNext, takeModifiers, pure_apply]
  · next notMany notNonNullable =>
    cases tokens with
    | nil => cases many <;> cases nonNullable <;> rfl
    | cons token rest =>
        obtain ⟨lexeme, pos⟩ := token
        have first : lexeme ≠ .keyword .many := fun same => notMany pos rest (by rw [same])
        have second : lexeme ≠ .keyword .nonNullable :=
          fun same => notNonNullable pos rest (by rw [same])
        cases many <;> cases nonNullable <;> simp [ifNext, first, second, pure_apply]

theorem readFeature_eq :
    readFeature finish = (do
      let pos ← nextPlace finish
      let flags ← takeModifiers false false
      let name ← ifEnd (refuse finish (.symbol .closeBrace))
        (readName finish .feature : Reader (String × Position))
      let _ ← takeSymbol finish .colon
      let type ← (readRef finish .featureType : Reader _)
      pure ⟨name.1, type, flags.1, flags.2, pos⟩ : Reader _) := by
  funext tokens
  simp only [readFeature, bind_apply, nextPlace, takeModifiers, ifEnd, takeSymbol]
  generalize readModifiers false false tokens = result
  obtain ⟨⟨many, nonNullable⟩, rest⟩ := result
  dsimp only
  split
  · rfl
  · cases readName finish .feature rest with
    | error error => rfl
    | ok result =>
        dsimp only
        cases readSymbol finish .colon result.2 with
        | error error => rfl
        | ok after =>
            simp only [Except.map]
            cases readRef finish .featureType after with
            | error error => rfl
            | ok type => rfl

theorem readFeatures_eq :
    readFeatures finish = ifNext (.symbol .closeBrace) (fun _ => pure []) (do
      let feature ← (readFeature finish : Reader _)
      let more ← (readFeatures finish : Reader _)
      pure (feature :: more)) := by
  funext tokens
  have goesOn : (∀ pos rest, tokens ≠ ⟨.symbol .closeBrace, pos⟩ :: rest) →
      readFeatures finish tokens = (do
        let feature ← (readFeature finish : Reader _)
        let more ← (readFeatures finish : Reader _)
        pure (feature :: more) : Reader _) tokens := by
    intro unclosed
    rw [readFeatures.eq_def, bind_apply]
    split
    · next pos rest => exact absurd rfl (unclosed pos rest)
    · cases readFeature finish tokens with
      | error error => rfl
      | ok result =>
          dsimp only
          rw [bind_apply]
          cases readFeatures finish result.2 with
          | error error => rfl
          | ok more => rfl
  cases tokens with
  | nil =>
      apply goesOn
      intro pos rest same
      cases same
  | cons token rest =>
      obtain ⟨lexeme, pos⟩ := token
      by_cases closed : lexeme = .symbol .closeBrace
      · subst closed
        rw [readFeatures]
        rfl
      · rw [goesOn, ifNext]
        · exact (if_neg closed).symm
        · intro place after same
          cases same
          contradiction

theorem readSupertype_eq :
    readSupertype finish = ifNext (.keyword .extending)
      (fun _ => do
        let ref ← (readRef finish .supertype : Reader _)
        pure (some ref))
      (pure none) := by
  funext tokens
  cases tokens with
  | nil => rfl
  | cons token rest =>
      obtain ⟨lexeme, pos⟩ := token
      by_cases extending : lexeme = .keyword .extending
      · subst extending
        simp only [ifNext, if_true, bind_apply, readSupertype]
        cases readRef finish .supertype rest with
        | error error => rfl
        | ok result => rfl
      · rw [ifNext, if_neg extending, readSupertype.eq_def]
        split
        · next same => cases same; contradiction
        · rfl

theorem readEntity_eq (pos : Position) :
    readEntity finish pos = (do
      let name ← (readName finish .entity : Reader _)
      let super ← (readSupertype finish : Reader _)
      let _ ← takeSymbol finish .openBrace
      let features ← (readFeatures finish : Reader _)
      pure ⟨name.1, super, features, pos⟩ : Reader _) := by
  funext tokens
  simp only [readEntity, bind_apply, takeSymbol]
  cases readName finish .entity tokens with
  | error error => rfl
  | ok name =>
      dsimp only
      cases readSupertype finish name.2 with
      | error error => rfl
      | ok super =>
          dsimp only
          cases readSymbol finish .openBrace super.2 with
          | error error => rfl
          | ok body =>
              simp only [Except.map]
              cases readFeatures finish body with
              | error error => rfl
              | ok features => rfl

theorem readLiterals_eq :
    readLiterals finish = ifNext (.symbol .closeBrace) (fun _ => pure []) (do
      let name ← (readName finish .literal : Reader _)
      ifNext (.symbol .comma)
        (fun _ => do
          let literals ← (readLiterals finish : Reader _)
          pure (⟨name.1, name.2⟩ :: literals))
        (ifNext (.symbol .closeBrace) (fun _ => pure [⟨name.1, name.2⟩])
          (refuse finish .commaOrClose))) := by
  funext tokens
  cases tokens with
  | nil => rfl
  | cons token rest =>
      obtain ⟨lexeme, pos⟩ := token
      cases lexeme with
      | symbol mark => cases mark <;> rfl
      | keyword word => rfl
      | name text =>
          cases rest with
          | nil => rfl
          | cons next rest =>
              obtain ⟨lexeme, place⟩ := next
              cases lexeme with
              | name other => rfl
              | keyword word => rfl
              | symbol mark =>
                  cases mark with
                  | comma =>
                      simp only [readLiterals, ifNext, bind_apply, readName]
                      cases readLiterals finish rest with
                      | error error => rfl
                      | ok result => rfl
                  | _ => rfl

theorem readEnum_eq (pos : Position) :
    readEnum finish pos = (do
      let name ← (readName finish .enum : Reader _)
      let _ ← takeSymbol finish .openBrace
      let literals ← (readLiterals finish : Reader _)
      pure ⟨name.1, literals, pos⟩ : Reader _) := by
  funext tokens
  simp only [readEnum, bind_apply, takeSymbol]
  cases readName finish .enum tokens with
  | error error => rfl
  | ok name =>
      dsimp only
      cases readSymbol finish .openBrace name.2 with
      | error error => rfl
      | ok body =>
          simp only [Except.map]
          cases readLiterals finish body with
          | error error => rfl
          | ok literals => rfl

theorem readDecl_eq :
    readDecl finish = ifNext (.keyword .datatype)
      (fun pos => do
        let type ← (readDataType finish pos : Reader _)
        pure (.dataType type))
      (ifNext (.keyword .entity)
        (fun pos => do
          let type ← (readEntity finish pos : Reader _)
          pure (.entity type))
        (ifNext (.keyword .enum)
          (fun pos => do
            let type ← (readEnum finish pos : Reader _)
            pure (.enum type))
          (refuse finish .element))) := by
  funext tokens
  cases tokens with
  | nil => rfl
  | cons token rest =>
      obtain ⟨lexeme, pos⟩ := token
      cases lexeme with
      | name text => rfl
      | symbol mark => rfl
      | keyword word =>
          cases word with
          | datatype =>
              simp only [readDecl, ifNext, if_true, bind_apply]
              cases readDataType finish pos rest with
              | error error => rfl
              | ok result => rfl
          | entity =>
              simp only [readDecl, ifNext, if_true, bind_apply]
              cases readEntity finish pos rest with
              | error error => rfl
              | ok result => rfl
          | enum =>
              simp only [readDecl, ifNext, if_true, bind_apply]
              cases readEnum finish pos rest with
              | error error => rfl
              | ok result => rfl
          | _ => rfl

/-! ## Elements -/

/-- Read elements, without the note that there are no more tokens than before. -/
def takeElements (nested : Bool) : Reader (List Element) :=
  fun tokens => (readElements finish nested tokens).map (·.1)

/-- Read an element, and the elements behind it. -/
def takeElementAndMore (nested : Bool) : Reader (List Element) :=
  ifNext (.keyword .package)
    (fun pos => do
      let name ← (readQualifiedName finish .package : Reader _)
      let _ ← takeSymbol finish .openBrace
      let inner ← takeElements finish true
      let more ← takeElements finish nested
      pure (.package name.1 pos inner :: more))
    (do
      let decl ← (readDecl finish : Reader _)
      let more ← takeElements finish nested
      pure (.type decl :: more))

theorem takeElements_package (nested : Bool) (pos : Position) (rest : List Token) :
    takeElements finish nested (⟨.keyword .package, pos⟩ :: rest) =
      takeElementAndMore finish nested (⟨.keyword .package, pos⟩ :: rest) := by
  simp only [takeElementAndMore, ifNext, if_true, bind_apply, takeSymbol, takeElements]
  rw [readElements]
  split
  · next error named =>
    simp only [named]
    rfl
  · next name place afterName named =>
    simp only [named]
    split
    · next error opened =>
      simp only [opened]
      rfl
    · next body opened =>
      simp only [opened, Except.map]
      cases readElements finish true body with
      | error error => rfl
      | ok inner =>
          dsimp only
          cases readElements finish nested inner.1.2 with
          | error error => rfl
          | ok more => rfl

theorem takeElements_decl (nested : Bool) {token : Token} (rest : List Token)
    (unopened : token.lexeme ≠ .keyword .package)
    (unclosed : token.lexeme ≠ .symbol .closeBrace) :
    takeElements finish nested (token :: rest) =
      takeElementAndMore finish nested (token :: rest) := by
  simp only [takeElementAndMore, ifNext, if_neg unopened, bind_apply, takeElements]
  rw [readElements]
  · split
    · next error declared =>
      simp only [declared]
      rfl
    · next decl after declared =>
      simp only [declared, Except.map]
      cases readElements finish nested after with
      | error error => rfl
      | ok more => rfl
  · intro pos same
    exact unclosed (congrArg Token.lexeme same)
  · intro pos same
    exact unopened (congrArg Token.lexeme same)

/-- Inside a package, a brace ends the elements; outside, the end of the source does. -/
theorem takeElements_eq (nested : Bool) :
    takeElements finish nested =
      if nested then
        ifEnd (refuse finish (.symbol .closeBrace))
          (ifNext (.symbol .closeBrace) (fun _ => pure []) (takeElementAndMore finish nested))
      else ifEnd (pure []) (takeElementAndMore finish nested) := by
  funext tokens
  cases tokens with
  | nil =>
      rw [takeElements, readElements]
      cases nested with
      | true => rfl
      | false => rfl
  | cons token rest =>
      obtain ⟨lexeme, pos⟩ := token
      by_cases closed : lexeme = .symbol .closeBrace
      · subst closed
        rw [takeElements, readElements]
        cases nested with
        | true => rfl
        | false => rfl
      · have element : takeElements finish nested (⟨lexeme, pos⟩ :: rest) =
            takeElementAndMore finish nested (⟨lexeme, pos⟩ :: rest) := by
          by_cases opened : lexeme = .keyword .package
          · subst opened
            exact takeElements_package finish nested pos rest
          · exact takeElements_decl finish nested rest opened closed
        rw [element]
        cases nested with
        | true => exact (if_neg closed).symm
        | false => rfl

/-- A model is the elements that are read from all tokens. -/
theorem parse_eq_map {source : List Char} {list : TokenList} (cut : lex source = .ok list) :
    parse source = (takeElements list.finish false list.tokens).map
      fun result => { elements := result.1 } := by
  simp only [parse, cut, takeElements]
  cases readElements list.finish false list.tokens with
  | error error => rfl
  | ok result => rfl

end DomainGen.Ddef
