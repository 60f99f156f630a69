import DomainGen.Proofs.Ddef.Cursor

/-!
# Reading phrases by an index

The functions that read names, references and types, as programs that go by an index.  They look
at more than they take: a loop over features or literals stops in front of the brace that closes
it, and at the end of a truncated text nothing is taken any more, so that only a function inside
the loop can notice it.  Each of them does what its counterpart on the tokens that are left does
(`tracks_…`).
-/

namespace DomainGen.Ddef

/-! ## The functions -/

namespace Cursor

variable (slots : List Slot) (limit : Nat) (role : NameRole)

/-- Read one symbol. -/
def symbol (mark : Symbol) : Cursor Unit := do
  if ← nextIs slots (.symbol mark) then
    let _ ← advance slots
  else refuse slots (.symbol mark)

/-- Read one name, and its place. -/
def name : Cursor (String × Position) := do
  match ← peek slots with
  | .token ⟨.name text, pos⟩ => do
      let _ ← advance slots
      return (text, pos)
  | _ => refuse slots (.name role)

/-- Read a dot and the part behind it, if there is a dot. -/
def partRound (parts : List String) : Cursor (List String ⊕ List String) := do
  if ← nextIs slots (.symbol .dot) then
    let _ ← advance slots
    let next ← name slots role
    return .inl (parts ++ [next.1])
  else return .inr parts

/-- Read a dotted name, and its place. -/
def qualifiedName : Cursor (String × Position) := do
  let first ← name slots role
  let parts ← repeatedly (partRound slots role) limit [first.1]
  return (Text.join "." parts, first.2)

/-- Read a reference to a type. -/
def ref : Cursor Ref := do
  let name ← qualifiedName slots limit role
  return ⟨name.1, name.2, none⟩

/-- Read a member of a union, and whether another is to follow. -/
def memberRound (members : List Ref) : Cursor (List Ref ⊕ List Ref) := do
  let ref ← ref slots limit .unionMember
  if ← nextIs slots (.symbol .bar) then
    let _ ← advance slots
    return .inl (members ++ [ref])
  else return .inr (members ++ [ref])

/-- Read a datatype from its keyword on. -/
def dataType : Cursor DataType := do
  let pos ← skip slots
  let name ← name slots .datatype
  if ← nextIs slots (.symbol .equals) then
    let _ ← advance slots
    let members ← repeatedly (memberRound slots limit) limit []
    return { name := name.1, members, pos }
  else return { name := name.1, pos }

/-- Read a modifier that has not been read before. -/
def modifierRound (flags : Bool × Bool) : Cursor ((Bool × Bool) ⊕ (Bool × Bool)) := do
  let many ← nextIs slots (.keyword .many)
  if many && !flags.1 then
    let _ ← advance slots
    return .inl (true, flags.2)
  else
    let nonNullable ← nextIs slots (.keyword .nonNullable)
    if nonNullable && !flags.2 then
      let _ ← advance slots
      return .inl (flags.1, true)
    else return .inr flags

/-- Read the name of a feature.  At the end it is the brace that is missed. -/
def featureName : Cursor (String × Position) := do
  match ← peek slots with
  | .finish _ => refuse slots (.symbol .closeBrace)
  | .token _ => name slots .feature

/-- Read a feature. -/
def feature : Cursor Feature := do
  let pos ← place slots
  let flags ← repeatedly (modifierRound slots) limit (false, false)
  let name ← featureName slots
  symbol slots .colon
  let type ← ref slots limit .featureType
  return ⟨name.1, type, flags.1, flags.2, pos⟩

/-- Read a feature, unless a brace is next. -/
def featureRound (features : List Feature) : Cursor (List Feature ⊕ List Feature) := do
  if ← nextIs slots (.symbol .closeBrace) then return .inr features
  else
    let feature ← feature slots limit
    return .inl (features ++ [feature])

/-- Read the supertype of an entity, if there is one. -/
def supertype : Cursor (Option Ref) := do
  if ← nextIs slots (.keyword .extending) then
    let _ ← advance slots
    let ref ← ref slots limit .supertype
    return some ref
  else return none

/-- Read an entity from its keyword on. -/
def entity : Cursor Entity := do
  let pos ← skip slots
  let name ← name slots .entity
  let super ← supertype slots limit
  symbol slots .openBrace
  let features ← repeatedly (featureRound slots limit) limit []
  let _ ← advance slots
  return ⟨name.1, super, features, pos⟩

/-- Read a literal and what separates it from the next, unless a brace is next. -/
def literalRound (literals : List Literal) : Cursor (List Literal ⊕ List Literal) := do
  if ← nextIs slots (.symbol .closeBrace) then return .inr literals
  else
    let name ← name slots .literal
    if ← nextIs slots (.symbol .comma) then
      let _ ← advance slots
      return .inl (literals ++ [⟨name.1, name.2⟩])
    else if ← nextIs slots (.symbol .closeBrace) then
      return .inl (literals ++ [⟨name.1, name.2⟩])
    else refuse slots .commaOrClose

/-- Read an enum from its keyword on. -/
def enum : Cursor Enum := do
  let pos ← skip slots
  let name ← name slots .enum
  symbol slots .openBrace
  let literals ← repeatedly (literalRound slots) limit []
  let _ ← advance slots
  return ⟨name.1, literals, pos⟩

end Cursor

/-! ## Their counterparts -/

section Readers

variable {α β : Type}

theorem ifNext_bind (lexeme : Lexeme) (found : Position → Reader α) (other : Reader α)
    (next : α → Reader β) :
    ifNext lexeme found other >>= next =
      ifNext lexeme (fun pos => found pos >>= next) (other >>= next) := by
  funext tokens
  cases tokens with
  | nil => rfl
  | cons token rest =>
      by_cases same : token.lexeme = lexeme
      · simp only [bind_apply, ifNext, if_pos same]
      · simp only [bind_apply, ifNext, if_neg same]

/-- A sequence that succeeds has parts that do. -/
theorem exists_of_bind_eq_ok {first : Reader α} {second : α → Reader β} {tokens : List Token}
    {result : β × List Token} (read : (first >>= second) tokens = .ok result) :
    ∃ value rest, first tokens = .ok (value, rest) ∧ second value rest = .ok result := by
  rw [bind_apply] at read
  cases taken : first tokens with
  | error error =>
      rw [taken] at read
      cases read
  | ok taken' =>
      rw [taken] at read
      exact ⟨taken'.1, taken'.2, rfl, read⟩

theorem of_ifNext_eq_ok {lexeme : Lexeme} {found : Position → Reader α} {other : Reader α}
    {tokens : List Token} {result : α × List Token}
    (read : ifNext lexeme found other tokens = .ok result) :
    (∃ pos rest, tokens = ⟨lexeme, pos⟩ :: rest ∧ found pos rest = .ok result) ∨
      other tokens = .ok result := by
  by_cases starts : Starts lexeme tokens
  · obtain ⟨pos, rest, rfl⟩ := starts.exists_eq_cons
    refine .inl ⟨pos, rest, rfl, ?_⟩
    rw [← read]
    exact (if_pos rfl).symm
  · rw [ifNext_of_not_starts starts] at read
    exact .inr read

theorem of_ifUnless_eq_ok {seen : Bool} {lexeme : Lexeme} {found : Position → Reader α}
    {other : Reader α} {tokens : List Token} {result : α × List Token}
    (read : (if seen then id else ifNext lexeme found) other tokens = .ok result) :
    (∃ pos rest, tokens = ⟨lexeme, pos⟩ :: rest ∧ found pos rest = .ok result) ∨
      other tokens = .ok result := by
  cases seen with
  | false => exact of_ifNext_eq_ok read
  | true => exact .inr read

theorem refuse_bind (finish : Position) (wanted : Expectation) (next : α → Reader β) :
    refuse finish wanted >>= next = refuse finish wanted := rfl

theorem ahead_bind (lexeme : Lexeme) (found other : Reader α) (next : α → Reader β) :
    ahead lexeme found other >>= next = ahead lexeme (found >>= next) (other >>= next) := by
  funext tokens
  by_cases starts : Starts lexeme tokens
  · simp only [bind_apply, ahead_of_starts starts]
  · simp only [bind_apply, ahead, ifNext_of_not_starts starts]

/-- A token that is left where it is can be taken by what follows. -/
theorem ahead_eq_ifNext {lexeme : Lexeme} {found other : Reader α} {taken : Position → Reader α}
    (takes : ∀ pos rest, found (⟨lexeme, pos⟩ :: rest) = taken pos rest) :
    ahead lexeme found other = ifNext lexeme taken other := by
  funext tokens
  by_cases starts : Starts lexeme tokens
  · rw [ahead_of_starts starts]
    obtain ⟨pos, rest, rfl⟩ := starts.exists_eq_cons
    exact (takes pos rest).trans (if_pos rfl).symm
  · rw [ahead, ifNext_of_not_starts starts, ifNext_of_not_starts starts]

theorem of_ahead_eq_ok {lexeme : Lexeme} {found other : Reader α} {tokens : List Token}
    {result : α × List Token} (read : ahead lexeme found other tokens = .ok result) :
    found tokens = .ok result ∨ other tokens = .ok result := by
  obtain ⟨pos, rest, -, read⟩ | read := of_ifNext_eq_ok read
  · exact .inl read
  · exact .inr read

/-- Put what is read behind what has been read before. -/
def behind (before : List α) (read : Reader (List α)) : Reader (List α) := do
  let more ← read
  pure (before ++ more)

@[simp] theorem behind_nil (read : Reader (List α)) : behind [] read = read := by
  simp only [behind, List.nil_append, bind_pure]

end Readers

/-! ## Names and references -/

section Tracks

variable {list : TokenList} {outer limit : Nat} (enough : list.tokens.length < limit)
  (role : NameRole) (start : Nat)

open Cursor

theorem tracks_symbol (mark : Symbol) :
    Tracks list outer (fun _ => []) (symbol list.slots mark) (takeSymbol list.finish mark)
      start := by
  rw [takeSymbol_eq]
  exact .branch (fun pos => .pure () rfl) (.refuse _)

theorem tracks_name :
    Tracks list outer (fun _ => []) (name list.slots role) (readName list.finish role) start := by
  refine .peek ?_
  cases found : list.tokens.drop start with
  | nil => exact (Tracks.refuse _).congr (by rw [found]; rfl)
  | cons token rest =>
      obtain ⟨lexeme, pos⟩ := token
      cases lexeme with
      | name text => exact .take found rfl (.pure (text, pos) rfl)
      | keyword word => exact (Tracks.refuse _).congr (by rw [found]; rfl)
      | symbol mark => exact (Tracks.refuse _).congr (by rw [found]; rfl)

theorem tracks_featureName :
    Tracks list outer (fun _ => []) (featureName list.slots)
      (ifEnd (refuse list.finish (.symbol .closeBrace))
        (readName list.finish .feature : Reader (String × Position))) start := by
  refine .peek ?_
  cases found : list.tokens.drop start with
  | nil => exact (Tracks.refuse _).congr (by rw [found]; rfl)
  | cons token rest => exact (tracks_name _ _).congr (by rw [found]; rfl)

include enough

/-- What a round over the parts of a name takes. -/
def takePart (finish : Position) (parts : List String) : Reader (List String ⊕ List String) :=
  ifNext (.symbol .dot)
    (fun _ => do
      let next ← (readName finish role : Reader _)
      pure (.inl (parts ++ [next.1])))
    (pure (.inr parts))

theorem tracks_parts (parts : List String) :
    Tracks list outer (fun _ => []) (repeatedly (partRound list.slots role) limit parts)
      (behind parts (readDottedTail list.finish role)) start := by
  refine .repeatedly (takePart role list.finish)
    (fun parts => behind parts (readDottedTail list.finish role)) ?_ ?_ ?_ parts start
    (Nat.lt_add_left _ enough)
  · intro parts start
    exact .branch (fun pos => .bind (tracks_name role _) fun next middle _ _ => .pure _ rfl)
      (.pure _ rfl)
  · intro parts
    conv_lhs => rw [readDottedTail_eq]
    simp only [takePart, behind, ifNext_bind, bind_assoc, pure_bind, Sum.elim_inl, Sum.elim_inr,
      List.append_assoc, List.singleton_append, List.append_nil]
  · intro parts tokens next rest read
    obtain ⟨pos, behind, rfl, read⟩ | read := of_ifNext_eq_ok read
    · obtain ⟨name, after, named, read⟩ := exists_of_bind_eq_ok read
      cases read
      exact (readName_length named).trans (Nat.lt_succ_self _)
    · cases read

theorem tracks_qualifiedName :
    Tracks list outer (fun _ => []) (qualifiedName list.slots limit role)
      (readQualifiedName list.finish role) start := by
  rw [readQualifiedName_eq]
  refine .bind (tracks_name role start) fun first middle _ _ => ?_
  have same :
      (do
        let parts ← (readDottedTail list.finish role : Reader _)
        pure (Text.join "." (first.1 :: parts), first.2) : Reader (String × Position)) =
      (do
        let parts ← behind [first.1] (readDottedTail list.finish role)
        pure (Text.join "." parts, first.2)) := by
    simp only [behind, bind_assoc, pure_bind, List.singleton_append]
  rw [same]
  exact .bind (tracks_parts enough role middle _) fun parts further _ _ => .pure _ rfl

theorem tracks_ref :
    Tracks list outer (fun _ => []) (ref list.slots limit role) (readRef list.finish role)
      start := by
  rw [readRef_eq]
  exact .bind (tracks_qualifiedName enough role start) fun name middle _ _ => .pure _ rfl

/-! ## Types -/

/-- What a round over the members of a union takes. -/
def takeMember (finish : Position) (members : List Ref) : Reader (List Ref ⊕ List Ref) := do
  let ref ← (readRef finish .unionMember : Reader _)
  ifNext (.symbol .bar) (fun _ => pure (.inl (members ++ [ref]))) (pure (.inr (members ++ [ref])))

theorem tracks_members (members : List Ref) :
    Tracks list outer (fun _ => []) (repeatedly (memberRound list.slots limit) limit members)
      (behind members (readMembers list.finish)) start := by
  refine .repeatedly (takeMember list.finish)
    (fun members => behind members (readMembers list.finish)) ?_ ?_ ?_ members start
    (Nat.lt_add_left _ enough)
  · intro members start
    refine .bind (tracks_ref enough _ _) fun ref middle _ _ => ?_
    exact .branch (fun pos => .pure _ rfl) (.pure _ rfl)
  · intro members
    conv_lhs => rw [readMembers_eq]
    simp only [takeMember, behind, ifNext_bind, bind_assoc, pure_bind, Sum.elim_inl, Sum.elim_inr,
      List.append_assoc, List.singleton_append]
  · intro members tokens next rest read
    obtain ⟨ref, after, named, read⟩ := exists_of_bind_eq_ok read
    have shorter := readRef_length named
    obtain ⟨pos, behind, rfl, read⟩ | read := of_ifNext_eq_ok read
    · cases read
      exact (Nat.lt_succ_self _).trans shorter
    · cases read

theorem tracks_dataType :
    Tracks list outer (fun _ => []) (dataType list.slots limit)
      (skip list.finish >>= readDataType list.finish) start := by
  refine .bind .skip fun pos _ _ _ => ?_
  rw [readDataType_eq, ← behind_nil (readMembers list.finish)]
  exact .bind (tracks_name _ _) fun name _ _ _ =>
    .branch (fun place => .bind (tracks_members enough _ _) fun members _ _ _ => .pure _ rfl)
      (.pure _ rfl)

/-- What a round over modifiers takes. -/
def takeModifier (flags : Bool × Bool) : Reader ((Bool × Bool) ⊕ (Bool × Bool)) :=
  (if flags.1 then id else ifNext (.keyword .many) fun _ => pure (.inl (true, flags.2)))
    ((if flags.2 then id else ifNext (.keyword .nonNullable) fun _ => pure (.inl (flags.1, true)))
      (pure (.inr flags)))

theorem tracks_modifiers (flags : Bool × Bool) :
    Tracks list outer (fun _ => []) (repeatedly (modifierRound list.slots) limit flags)
      (takeModifiers flags.1 flags.2) start := by
  refine .repeatedly takeModifier (fun flags => takeModifiers flags.1 flags.2) ?_ ?_ ?_ flags start
    (Nat.lt_add_left _ enough)
  · intro flags start
    exact .branchUnless (fun pos => .pure _ rfl)
      (.branchUnless (fun pos => .pure _ rfl) (.pure _ rfl))
  · intro flags
    rw [takeModifiers_eq]
    obtain ⟨many, nonNullable⟩ := flags
    cases many <;> cases nonNullable <;>
      simp [takeModifier, ifNext_bind]
  · intro flags tokens next rest read
    obtain ⟨pos, behind, rfl, many⟩ | other := of_ifUnless_eq_ok read
    · cases many
      exact Nat.lt_succ_self _
    · obtain ⟨pos, behind, rfl, nonNullable⟩ | none := of_ifUnless_eq_ok other
      · cases nonNullable
        exact Nat.lt_succ_self _
      · cases none

theorem tracks_feature :
    Tracks list outer (fun _ => []) (feature list.slots limit) (readFeature list.finish)
      start := by
  rw [readFeature_eq]
  exact .bind .place fun pos _ _ _ =>
    .bind (tracks_modifiers enough _ _) fun flags _ _ _ =>
      .bind (tracks_featureName _) fun name _ _ _ =>
        .bind (tracks_symbol _ _) fun _ _ _ _ =>
          .bind (tracks_ref enough _ _) fun type _ _ _ => .pure _ rfl

/-- What a round over the features of an entity takes. -/
def takeFeature (finish : Position) (features : List Feature) :
    Reader (List Feature ⊕ List Feature) :=
  ifNext (.symbol .closeBrace) (fun _ => pure (.inr features)) (do
    let feature ← (readFeature finish : Reader _)
    pure (.inl (features ++ [feature])))

theorem tracks_features (features : List Feature) :
    Tracks list outer (fun _ => [.symbol .closeBrace])
      (repeatedly (featureRound list.slots limit) limit features)
      (behind features (readFeatures list.finish)) start := by
  refine .repeatedly (takeFeature list.finish)
    (fun features => behind features (readFeatures list.finish)) ?_ ?_ ?_ features start
    (Nat.lt_add_left _ enough)
  · intro features start
    exact .leave rfl (.bind (tracks_feature enough _) fun feature _ _ _ => .pure _ rfl)
  · intro features
    conv_lhs => rw [readFeatures_eq]
    simp only [takeFeature, behind, ifNext_bind, bind_assoc, pure_bind, Sum.elim_inl, Sum.elim_inr,
      List.append_assoc, List.singleton_append, List.append_nil]
  · intro features tokens next rest read
    obtain ⟨pos, behind, rfl, read⟩ | read := of_ifNext_eq_ok read
    · cases read
    · obtain ⟨feature, after, one, read⟩ := exists_of_bind_eq_ok read
      cases read
      exact readFeature_length one

theorem tracks_supertype :
    Tracks list outer (fun _ => []) (supertype list.slots limit) (readSupertype list.finish)
      start := by
  rw [readSupertype_eq]
  exact .branch (fun pos => .bind (tracks_ref enough _ _) fun ref _ _ _ => .pure _ rfl)
    (.pure _ rfl)

theorem tracks_entity :
    Tracks list outer (fun _ => []) (entity list.slots limit)
      (skip list.finish >>= readEntity list.finish) start := by
  refine .bind .skip fun pos _ _ _ => ?_
  rw [readEntity_eq, ← behind_nil (readFeatures list.finish)]
  exact .bind (tracks_name _ _) fun name _ _ _ =>
    .bind (tracks_supertype enough _) fun super _ _ _ =>
      .bind (tracks_symbol _ _) fun _ _ _ _ =>
        .close (tracks_features enough _ _) fun features _ _ _ => .pure _ rfl

/-- What a round over the literals of an enum takes. -/
def takeLiteral (finish : Position) (literals : List Literal) :
    Reader (List Literal ⊕ List Literal) :=
  ifNext (.symbol .closeBrace) (fun _ => pure (.inr literals)) (do
    let name ← (readName finish .literal : Reader _)
    let literals := literals ++ [⟨name.1, name.2⟩]
    ifNext (.symbol .comma) (fun _ => pure (.inl literals))
      (ahead (.symbol .closeBrace) (pure (.inl literals)) (refuse finish .commaOrClose)))

theorem tracks_literals (literals : List Literal) :
    Tracks list outer (fun _ => [.symbol .closeBrace])
      (repeatedly (literalRound list.slots) limit literals)
      (behind literals (readLiterals list.finish)) start := by
  refine .repeatedly (takeLiteral list.finish)
    (fun literals => behind literals (readLiterals list.finish)) ?_ ?_ ?_ literals start
    (Nat.lt_add_left _ enough)
  · intro literals start
    refine .leave rfl (.bind (tracks_name _ _) fun name middle _ _ => ?_)
    exact .branch (fun pos => .pure _ rfl) (.ahead (.pure _ rfl) (.refuse _))
  · intro literals
    -- Behind a last literal the round leaves the brace, and the next one ends the loop there.
    have closing (literals : List Literal) (other : Reader (List Literal)) :
        ahead (.symbol .closeBrace) (behind literals (readLiterals list.finish)) other =
          ifNext (.symbol .closeBrace) (fun _ => pure literals) other := by
      refine ahead_eq_ifNext fun pos rest => ?_
      rw [behind, readLiterals_eq, ifNext_bind, ifNext, if_pos rfl, pure_bind, List.append_nil]
    conv_lhs => rw [readLiterals_eq]
    simp only [takeLiteral, ifNext_bind, ahead_bind, refuse_bind, bind_assoc, pure_bind,
      Sum.elim_inl, Sum.elim_inr, closing]
    simp only [behind, ifNext_bind, refuse_bind, bind_assoc, pure_bind, List.append_assoc,
      List.singleton_append, List.append_nil]
  · intro literals tokens next rest read
    obtain ⟨pos, behind, rfl, read⟩ | read := of_ifNext_eq_ok read
    · cases read
    · obtain ⟨name, after, one, read⟩ := exists_of_bind_eq_ok read
      have shorter := readName_length one
      obtain ⟨pos, behind, rfl, read⟩ | read := of_ifNext_eq_ok read
      · cases read
        exact (Nat.lt_succ_self _).trans shorter
      · obtain read | read := of_ahead_eq_ok read
        · cases read
          exact shorter
        · cases read

theorem tracks_enum :
    Tracks list outer (fun _ => []) (enum list.slots limit)
      (skip list.finish >>= readEnum list.finish) start := by
  refine .bind .skip fun pos _ _ _ => ?_
  rw [readEnum_eq, ← behind_nil (readLiterals list.finish)]
  exact .bind (tracks_name _ _) fun name _ _ _ =>
    .bind (tracks_symbol _ _) fun _ _ _ _ =>
      .close (tracks_literals enough _ _) fun literals _ _ _ => .pure _ rfl

end Tracks

end DomainGen.Ddef
