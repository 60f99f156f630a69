import DomainGen.Proofs.Ddef.Programs
import DomainGen.Proofs.Model.Places

/-!
# Reading the same tokens at other places

Two lists of tokens can say the same and have their tokens at other places.  Programs that
read phrases do the same on both (`Agree`): they take as many tokens and yield values that
are equal up to places, or they refuse the same at the token of the same number.  Hence
models are read alike (`agree_takeElements`).

What programs are put together from keeps this: one program after the other (`bind`), and
alternatives that go by the next token (`ifNext`, `ifEnd`).
-/

namespace DomainGen.Ddef

/-- Two lists of tokens say the same, one token after the other. -/
def SaySame (tokens others : List Token) : Prop :=
  tokens.map (·.lexeme) = others.map (·.lexeme)

namespace SaySame

variable {tokens others : List Token}

theorem length (same : SaySame tokens others) : others.length = tokens.length := by
  have lengths := congrArg List.length same
  rw [List.length_map, List.length_map] at lengths
  exact lengths.symm

theorem drop (same : SaySame tokens others) (count : Nat) :
    SaySame (tokens.drop count) (others.drop count) := by
  rw [SaySame, List.map_drop, List.map_drop, same]

theorem nil (same : SaySame [] others) : others = [] :=
  List.map_eq_nil_iff.mp same.symm

theorem cons {token : Token} (same : SaySame (token :: tokens) others) :
    ∃ place rest, others = ⟨token.lexeme, place⟩ :: rest ∧ SaySame tokens rest := by
  cases others with
  | nil => cases same
  | cons other others =>
      obtain ⟨lexeme, place⟩ := other
      obtain ⟨rfl, rest⟩ := List.cons.inj same
      exact ⟨place, others, rfl, rest⟩

end SaySame

/-- Two programs on two lists of tokens.  `alike` says which values count as the same.  The
programs take as many tokens and yield values that are alike, or they refuse the same
behind as many tokens. -/
inductive Agree {α : Type} (finish ending : Position) (alike : α → α → Prop)
    (read twin : Reader α) (tokens others : List Token) : Prop
  | takes (count : Nat) (value other : α) (same : alike value other)
      (one : read tokens = .ok (value, tokens.drop count))
      (two : twin others = .ok (other, others.drop count))
  | refuses (count : Nat) (wanted : Expectation)
      (one : read tokens = .error (unexpected finish wanted (tokens.drop count)))
      (two : twin others = .error (unexpected ending wanted (others.drop count)))

namespace Agree

variable {α β : Type} {finish ending : Position} {alike : α → α → Prop}
  {further : β → β → Prop} {tokens others : List Token}

theorem pure {value other : α} (same : alike value other) :
    Agree finish ending alike (pure value) (pure other) tokens others :=
  .takes 0 value other same rfl rfl

theorem refuse (wanted : Expectation) :
    Agree finish ending alike (refuse finish wanted) (refuse ending wanted) tokens others :=
  .refuses 0 wanted rfl rfl

/-- One program after another.  The second starts behind as many tokens in both lists. -/
theorem bind {first firstTwin : Reader α} {second secondTwin : α → Reader β}
    (one : Agree finish ending alike first firstTwin tokens others)
    (two : ∀ count value other, first tokens = .ok (value, tokens.drop count) →
      alike value other →
        Agree finish ending further (second value) (secondTwin other) (tokens.drop count)
          (others.drop count)) :
    Agree finish ending further (first >>= second) (firstTwin >>= secondTwin) tokens others := by
  cases one with
  | refuses count wanted refused refusedTwin =>
      refine .refuses count wanted ?_ ?_
      · rw [bind_apply, refused]
      · rw [bind_apply, refusedTwin]
  | takes count value other same taken takenTwin =>
      have start : (first >>= second) tokens = second value (tokens.drop count) := by
        rw [bind_apply, taken]
      have startTwin : (firstTwin >>= secondTwin) others =
          secondTwin other (others.drop count) := by
        rw [bind_apply, takenTwin]
      cases two count value other taken same with
      | refuses more wanted refused refusedTwin =>
          rw [List.drop_drop] at refused refusedTwin
          exact .refuses (count + more) wanted (start.trans refused) (startTwin.trans refusedTwin)
      | takes more result twin same taken takenTwin =>
          rw [List.drop_drop] at taken takenTwin
          exact .takes (count + more) result twin same (start.trans taken)
            (startTwin.trans takenTwin)

/-- What is done with the values keeps them alike. -/
theorem map {read twin : Reader α} (agree : Agree finish ending alike read twin tokens others)
    {change changeTwin : α → β}
    (same : ∀ value other, alike value other → further (change value) (changeTwin other)) :
    Agree finish ending further (read >>= fun value => Pure.pure (change value))
      (twin >>= fun value => Pure.pure (changeTwin value)) tokens others :=
  agree.bind fun _ value other _ alike => pure (same value other alike)

/-- Programs that take a token first. -/
theorem cons {read twin next nextTwin : Reader α} {token other : Token}
    {rest left : List Token} (agree : Agree finish ending alike next nextTwin rest left)
    (one : read (token :: rest) = next rest) (two : twin (other :: left) = nextTwin left) :
    Agree finish ending alike read twin (token :: rest) (other :: left) := by
  cases agree with
  | takes count value result same taken takenTwin =>
      exact .takes (count + 1) value result same (one.trans taken) (two.trans takenTwin)
  | refuses count wanted refused refusedTwin =>
      exact .refuses (count + 1) wanted (one.trans refused) (two.trans refusedTwin)

/-- Programs that do on these tokens what others do. -/
theorem congr {read twin same sameTwin : Reader α}
    (agree : Agree finish ending alike same sameTwin tokens others)
    (one : read tokens = same tokens) (two : twin others = sameTwin others) :
    Agree finish ending alike read twin tokens others := by
  cases agree with
  | takes count value result same taken takenTwin =>
      exact .takes count value result same (one.trans taken) (two.trans takenTwin)
  | refuses count wanted refused refusedTwin =>
      exact .refuses count wanted (one.trans refused) (two.trans refusedTwin)

/-- Alternatives that are told apart by the next token. -/
theorem ifNext {lexeme : Lexeme} {found foundTwin : Position → Reader α}
    {other otherTwin : Reader α} (same : SaySame tokens others)
    (yes : ∀ pos place rest left, tokens = ⟨lexeme, pos⟩ :: rest →
      SaySame rest left → Agree finish ending alike (found pos) (foundTwin place) rest left)
    (no : Agree finish ending alike other otherTwin tokens others) :
    Agree finish ending alike (ifNext lexeme found other) (ifNext lexeme foundTwin otherTwin)
      tokens others := by
  cases tokens with
  | nil =>
      cases same.nil
      exact no.congr rfl rfl
  | cons token rest =>
      obtain ⟨place, left, rfl, behind⟩ := same.cons
      obtain ⟨word, pos⟩ := token
      by_cases next : word = lexeme
      · subst next
        exact (yes pos place rest left rfl behind).cons (if_pos rfl) (if_pos rfl)
      · exact no.congr (if_neg next) (if_neg next)

/-- Alternatives that are told apart by whether there is a next token. -/
theorem ifEnd {ended endedTwin other otherTwin : Reader α} (same : SaySame tokens others)
    (yes : Agree finish ending alike ended endedTwin tokens others)
    (no : Agree finish ending alike other otherTwin tokens others) :
    Agree finish ending alike (ifEnd ended other) (ifEnd endedTwin otherTwin) tokens others := by
  cases tokens with
  | nil =>
      cases same.nil
      exact yes.congr rfl rfl
  | cons token rest =>
      obtain ⟨place, left, rfl, -⟩ := same.cons
      exact no.congr rfl rfl

/-- Programs that repeat themselves do so on fewer tokens. -/
theorem ofShorter {read twin : Reader α}
    (step : ∀ tokens others : List Token, SaySame tokens others →
      (∀ rest left : List Token, rest.length < tokens.length → SaySame rest left →
        Agree finish ending alike read twin rest left) →
      Agree finish ending alike read twin tokens others)
    {tokens others : List Token} (same : SaySame tokens others) :
    Agree finish ending alike read twin tokens others :=
  step tokens others same fun _ _ _ same => ofShorter step same
termination_by tokens.length

end Agree

/-- Values are alike if they look the same in some view. -/
def Alike {α β : Type} (view : α → β) (value other : α) : Prop := view value = view other

theorem Alike.cons {α β : Type} {view : α → β} {value other : α} {values others : List α}
    (first : Alike view value other) (rest : Alike (List.map view) values others) :
    Alike (List.map view) (value :: values) (other :: others) :=
  List.cons_eq_cons.mpr ⟨first, rest⟩

variable {finish ending : Position} {tokens others : List Token}

/-! ## Symbols and names -/

theorem agree_readName (role : NameRole) (same : SaySame tokens others) :
    Agree finish ending (Alike Prod.fst) (readName finish role) (readName ending role)
      tokens others := by
  cases tokens with
  | nil =>
      cases same.nil
      exact .refuses 0 (.name role) rfl rfl
  | cons token rest =>
      obtain ⟨place, left, rfl, -⟩ := same.cons
      obtain ⟨lexeme, pos⟩ := token
      cases lexeme with
      | name text => exact .takes 1 (text, pos) (text, place) rfl rfl rfl
      | keyword word => exact .refuses 0 (.name role) rfl rfl
      | symbol mark => exact .refuses 0 (.name role) rfl rfl

theorem agree_takeSymbol (mark : Symbol) (same : SaySame tokens others) :
    Agree finish ending Eq (takeSymbol finish mark) (takeSymbol ending mark) tokens others := by
  rw [takeSymbol_eq finish, takeSymbol_eq ending]
  exact .ifNext same (fun _ _ _ _ _ _ => .pure rfl) (.refuse _)

theorem agree_readDottedTail (role : NameRole) (same : SaySame tokens others) :
    Agree finish ending Eq (readDottedTail finish role) (readDottedTail ending role)
      tokens others := by
  apply Agree.ofShorter _ same
  intro tokens others same shorter
  rw [readDottedTail_eq finish, readDottedTail_eq ending]
  apply Agree.ifNext same
  · intro pos place rest left starts behind
    apply (agree_readName role behind).bind
    intro count name twin _ text
    apply Agree.map
    · apply shorter _ _ _ (behind.drop count)
      simp only [starts, List.length_cons, List.length_drop]
      omega
    · intro parts others equal
      rw [show name.1 = twin.1 from text, equal]
  · exact .pure rfl

theorem agree_readQualifiedName (role : NameRole) (same : SaySame tokens others) :
    Agree finish ending (Alike Prod.fst) (readQualifiedName finish role)
      (readQualifiedName ending role) tokens others := by
  rw [readQualifiedName_eq finish, readQualifiedName_eq ending]
  apply (agree_readName role same).bind
  intro count name twin _ text
  apply (agree_readDottedTail role (same.drop count)).map
  rintro parts _ rfl
  change Text.join "." (name.1 :: parts) = Text.join "." (twin.1 :: parts)
  rw [show name.1 = twin.1 from text]

theorem agree_readRef (role : NameRole) (same : SaySame tokens others) :
    Agree finish ending (Alike Ref.unplaced) (readRef finish role) (readRef ending role)
      tokens others := by
  rw [readRef_eq finish, readRef_eq ending]
  apply (agree_readQualifiedName role same).map
  intro name twin text
  change ({ text := name.1 } : Ref) = { text := twin.1 }
  rw [show name.1 = twin.1 from text]

/-! ## Datatypes -/

theorem agree_readMembers (same : SaySame tokens others) :
    Agree finish ending (Alike (List.map Ref.unplaced)) (readMembers finish)
      (readMembers ending) tokens others := by
  apply Agree.ofShorter _ same
  intro tokens others same shorter
  rw [readMembers_eq finish, readMembers_eq ending]
  apply (agree_readRef .unionMember same).bind
  intro count ref twin read alike
  have left := readRef_length read
  apply Agree.ifNext (same.drop count)
  · intro pos place rest behind starts same
    apply Agree.map
    · apply shorter _ _ _ same
      rw [starts, List.length_cons] at left
      omega
    · exact fun _ _ equal => alike.cons equal
  · exact .pure (alike.cons rfl)

theorem agree_readDataType (pos place : Position) (same : SaySame tokens others) :
    Agree finish ending (Alike DataType.unplaced) (readDataType finish pos)
      (readDataType ending place) tokens others := by
  rw [readDataType_eq finish, readDataType_eq ending]
  apply (agree_readName .datatype same).bind
  intro count name twin _ text
  have view : ∀ members others, members.map Ref.unplaced = others.map Ref.unplaced →
      Alike DataType.unplaced { name := name.1, members, pos }
        { name := twin.1, members := others, pos := place } := by
    intro members others equal
    simp only [Alike, DataType.unplaced, equal, show name.1 = twin.1 from text]
  apply Agree.ifNext (same.drop count)
  · intro _ _ rest left _ behind
    exact (agree_readMembers behind).map view
  · exact .pure (view [] [] rfl)

/-! ## Entities -/

/-- Where a phrase starts makes no difference. -/
theorem agree_nextPlace :
    Agree finish ending (fun _ _ => True) (nextPlace finish) (nextPlace ending) tokens others :=
  .takes 0 _ _ trivial rfl rfl

theorem agree_takeModifiers (same : SaySame tokens others) :
    Agree finish ending Eq (takeModifiers false false) (takeModifiers false false)
      tokens others := by
  -- A modifier that was read is not looked for again, so there are two rounds at most.
  have both : ∀ rest left, Agree finish ending Eq (takeModifiers true true)
      (takeModifiers true true) rest left := by
    intro rest left
    rw [takeModifiers_eq]
    exact .pure rfl
  have afterMany : ∀ rest left, SaySame rest left →
      Agree finish ending Eq (takeModifiers true false) (takeModifiers true false) rest left := by
    intro rest left same
    rw [takeModifiers_eq]
    exact .ifNext same (fun _ _ rest left _ _ => both rest left) (.pure rfl)
  have afterNonNullable : ∀ rest left, SaySame rest left →
      Agree finish ending Eq (takeModifiers false true) (takeModifiers false true) rest left := by
    intro rest left same
    rw [takeModifiers_eq]
    exact .ifNext same (fun _ _ rest left _ _ => both rest left) (.pure rfl)
  rw [takeModifiers_eq, if_neg Bool.false_ne_true, if_neg Bool.false_ne_true]
  apply Agree.ifNext same
  · intro _ _ rest left _ behind
    exact afterMany rest left behind
  · apply Agree.ifNext same
    · intro _ _ rest left _ behind
      exact afterNonNullable rest left behind
    · exact .pure rfl

theorem agree_readFeature (same : SaySame tokens others) :
    Agree finish ending (Alike Feature.unplaced) (readFeature finish) (readFeature ending)
      tokens others := by
  rw [readFeature_eq finish, readFeature_eq ending]
  apply agree_nextPlace.bind
  intro start pos place _ _
  have same := same.drop start
  apply (agree_takeModifiers same).bind
  rintro marks flags _ _ rfl
  have same := same.drop marks
  apply (Agree.ifEnd same (.refuse _) (agree_readName .feature same)).bind
  intro named name twin _ text
  have same := same.drop named
  apply (agree_takeSymbol .colon same).bind
  intro colon _ _ _ _
  apply (agree_readRef .featureType (same.drop colon)).map
  intro type other alike
  simp only [Alike, Feature.unplaced, show type.unplaced = other.unplaced from alike,
    show name.1 = twin.1 from text]

theorem agree_readFeatures (same : SaySame tokens others) :
    Agree finish ending (Alike (List.map Feature.unplaced)) (readFeatures finish)
      (readFeatures ending) tokens others := by
  apply Agree.ofShorter _ same
  intro tokens others same shorter
  rw [readFeatures_eq finish, readFeatures_eq ending]
  apply Agree.ifNext same
  · exact fun _ _ _ _ _ _ => .pure rfl
  · apply (agree_readFeature same).bind
    intro count feature twin read alike
    apply Agree.map
    · exact shorter _ _ (readFeature_length read) (same.drop count)
    · exact fun _ _ equal => alike.cons equal

theorem agree_readSupertype (same : SaySame tokens others) :
    Agree finish ending (Alike (Option.map Ref.unplaced)) (readSupertype finish)
      (readSupertype ending) tokens others := by
  rw [readSupertype_eq finish, readSupertype_eq ending]
  apply Agree.ifNext same
  · intro _ _ rest left _ behind
    exact (agree_readRef .supertype behind).map fun _ _ alike => congrArg some alike
  · exact .pure rfl

theorem agree_readEntity (pos place : Position) (same : SaySame tokens others) :
    Agree finish ending (Alike Entity.unplaced) (readEntity finish pos)
      (readEntity ending place) tokens others := by
  rw [readEntity_eq finish, readEntity_eq ending]
  apply (agree_readName .entity same).bind
  intro named name twin _ text
  have same := same.drop named
  apply (agree_readSupertype same).bind
  intro extended super superTwin _ supers
  have same := same.drop extended
  apply (agree_takeSymbol .openBrace same).bind
  intro opened _ _ _ _
  apply (agree_readFeatures (same.drop opened)).map
  intro features others equal
  simp only [Alike, Entity.unplaced, show name.1 = twin.1 from text,
    show super.map Ref.unplaced = superTwin.map Ref.unplaced from supers,
    show features.map Feature.unplaced = others.map Feature.unplaced from equal]

/-! ## Enums -/

theorem agree_readLiterals (same : SaySame tokens others) :
    Agree finish ending (Alike (List.map Literal.unplaced)) (readLiterals finish)
      (readLiterals ending) tokens others := by
  apply Agree.ofShorter _ same
  intro tokens others same shorter
  rw [readLiterals_eq finish, readLiterals_eq ending]
  apply Agree.ifNext same
  · exact fun _ _ _ _ _ _ => .pure rfl
  · apply (agree_readName .literal same).bind
    intro count name twin read text
    have left := readName_length read
    have literal : Alike Literal.unplaced ⟨name.1, name.2⟩ ⟨twin.1, twin.2⟩ :=
      congrArg (fun text => (⟨text, {}⟩ : Literal)) text
    have same := same.drop count
    apply Agree.ifNext same
    · intro _ _ rest behind starts same
      apply Agree.map
      · apply shorter _ _ _ same
        rw [starts, List.length_cons] at left
        omega
      · exact fun _ _ equal => literal.cons equal
    · apply Agree.ifNext same
      · exact fun _ _ _ _ _ _ => .pure (literal.cons rfl)
      · exact .refuse _

theorem agree_readEnum (pos place : Position) (same : SaySame tokens others) :
    Agree finish ending (Alike Enum.unplaced) (readEnum finish pos) (readEnum ending place)
      tokens others := by
  rw [readEnum_eq finish, readEnum_eq ending]
  apply (agree_readName .enum same).bind
  intro named name twin _ text
  have same := same.drop named
  apply (agree_takeSymbol .openBrace same).bind
  intro opened _ _ _ _
  apply (agree_readLiterals (same.drop opened)).map
  intro literals others equal
  simp only [Alike, Enum.unplaced, show name.1 = twin.1 from text,
    show literals.map Literal.unplaced = others.map Literal.unplaced from equal]

/-! ## Elements -/

theorem agree_readDecl (same : SaySame tokens others) :
    Agree finish ending (Alike TypeDecl.unplaced) (readDecl finish) (readDecl ending)
      tokens others := by
  rw [readDecl_eq finish, readDecl_eq ending]
  apply Agree.ifNext same
  · intro pos place rest left _ behind
    exact (agree_readDataType pos place behind).map fun _ _ alike =>
      congrArg TypeDecl.dataType alike
  apply Agree.ifNext same
  · intro pos place rest left _ behind
    exact (agree_readEntity pos place behind).map fun _ _ alike => congrArg TypeDecl.entity alike
  apply Agree.ifNext same
  · intro pos place rest left _ behind
    exact (agree_readEnum pos place behind).map fun _ _ alike => congrArg TypeDecl.enum alike
  · exact .refuse _

theorem agree_takeElementAndMore (nested : Bool) (same : SaySame tokens others)
    (shorter : ∀ (rest left : List Token) (nested : Bool), rest.length < tokens.length →
      SaySame rest left → Agree finish ending (Alike unplacedIn) (takeElements finish nested)
        (takeElements ending nested) rest left) :
    Agree finish ending (Alike unplacedIn) (takeElementAndMore finish nested)
      (takeElementAndMore ending nested) tokens others := by
  apply Agree.ifNext same
  · intro pos place rest left starts same
    apply (agree_readQualifiedName .package same).bind
    intro named name twin _ text
    have same := same.drop named
    apply (agree_takeSymbol .openBrace same).bind
    intro opened _ _ _ _
    have same := same.drop opened
    rw [starts, List.length_cons] at shorter
    apply (shorter _ _ true _ same).bind
    · intro count inner innerTwin _ inside
      apply (shorter _ _ nested _ (same.drop count)).map
      · intro more moreTwin equal
        simp only [Alike, unplacedIn, Element.unplaced, show name.1 = twin.1 from text,
          show unplacedIn inner = unplacedIn innerTwin from inside,
          show unplacedIn more = unplacedIn moreTwin from equal]
      · simp only [List.length_drop]
        omega
    · simp only [List.length_drop]
      omega
  · apply (agree_readDecl same).bind
    intro count decl twin read alike
    apply (shorter _ _ nested (readDecl_length read) (same.drop count)).map
    intro more moreTwin equal
    simp only [Alike, unplacedIn, Element.unplaced,
      show decl.unplaced = twin.unplaced from alike,
      show unplacedIn more = unplacedIn moreTwin from equal]

/-- Elements are read alike wherever their tokens are. -/
theorem agree_takeElements (nested : Bool) {tokens others : List Token}
    (same : SaySame tokens others) :
    Agree finish ending (Alike unplacedIn) (takeElements finish nested)
      (takeElements ending nested) tokens others := by
  have next : Agree finish ending (Alike unplacedIn) (takeElementAndMore finish nested)
      (takeElementAndMore ending nested) tokens others :=
    agree_takeElementAndMore nested same fun rest left nested _ same =>
      agree_takeElements nested same
  rw [takeElements_eq finish, takeElements_eq ending]
  cases nested with
  | true =>
      apply Agree.ifEnd same
      · exact .refuse _
      · exact .ifNext same (fun _ _ _ _ _ _ => .pure rfl) next
  | false => exact .ifEnd same (.pure rfl) next
termination_by tokens.length

end DomainGen.Ddef
