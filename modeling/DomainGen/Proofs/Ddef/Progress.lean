import DomainGen.Proofs.Ddef.Scanning

/-!
# Reading a model ends

Elements are read by functions that call one another: a package holds elements.  The elements of
a package stop in front of its closing brace, which the package then takes.  What is read behind
an element, or inside a package, starts at a later index, and so elements end
(`tracks_elementsFrom`).  With that every function that goes by an index ends, and never leaves the
list (`reading_ends_inside`).
-/

namespace DomainGen.Ddef

/-! ## The functions -/

namespace Cursor

variable (slots : List Slot) (limit : Nat)

/-- Read a package from its keyword on, with a function for the elements in it. -/
def packageOf (inner : Cursor (List Element)) : Cursor Element := do
  let pos ← skip slots
  let name ← qualifiedName slots limit .package
  symbol slots .openBrace
  note (.inner (← index))
  let inner ← inner
  let _ ← advance slots
  return .package name.1 pos inner

/-- Read an element, with a function for the elements in a package. -/
def elementOf (inner : Cursor (List Element)) : Cursor Element := do
  match ← peek slots with
  | .token ⟨.keyword .package, _⟩ => packageOf slots limit inner
  | .token ⟨.keyword .datatype, _⟩ => do
      let type ← dataType slots limit
      return .type (.dataType type)
  | .token ⟨.keyword .entity, _⟩ => do
      let type ← entity slots limit
      return .type (.entity type)
  | .token ⟨.keyword .enum, _⟩ => do
      let type ← enum slots limit
      return .type (.enum type)
  | _ => refuse slots .element

/-- Read elements behind those that have been read: inside a package up to its closing brace, else
to the end.  The first limit is the one of the loops inside an element, the second that of elements
that follow or hold one another. -/
def elementsFrom : Nat → Bool → List Element → Cursor (List Element)
  | 0, _, _ => exhausted
  | depth + 1, nested, before => do
      let start ← index
      match ← peek slots with
      | .finish _ => if nested then refuse slots (.symbol .closeBrace) else return before
      | .token _ =>
          if ← (if nested then nextIs slots (.symbol .closeBrace) else return false) then
            return before
          else do
            let element ← elementOf slots limit (elementsFrom depth true [])
            note (.again start (← index))
            elementsFrom depth nested (before ++ [element])

/-- Read elements. -/
def elements (nested : Bool) : Cursor (List Element) := elementsFrom slots limit limit nested []

/-- Read an element. -/
def element : Cursor Element := elementOf slots limit (elements slots limit true)

/-- Read a package from its keyword on. -/
def package : Cursor Element := packageOf slots limit (elements slots limit true)

end Cursor

/-! ## Their counterparts -/

section Tracks

variable {list : TokenList} {outer limit : Nat} (enough : list.tokens.length < limit)
  (start : Nat)

open Cursor

/-- Read a package behind its keyword. -/
def takePackage (finish pos : Position) : Reader Element := do
  let name ← (readQualifiedName finish .package : Reader _)
  let _ ← takeSymbol finish .openBrace
  let inner ← takeElements finish true
  pure (.package name.1 pos inner)

/-- Read an element. -/
def takeElement (finish : Position) : Reader Element :=
  ifNext (.keyword .package) (takePackage finish) (do
    let decl ← (readDecl finish : Reader _)
    pure (.type decl))

theorem takeElementAndMore_eq (finish : Position) (nested : Bool) :
    takeElementAndMore finish nested = (do
      let element ← takeElement finish
      let more ← takeElements finish nested
      pure (element :: more)) := by
  simp only [takeElementAndMore, takeElement, takePackage, ifNext_bind, bind_assoc, pure_bind]

theorem takeElements_length {finish : Position} {nested : Bool} {tokens rest : List Token}
    {elements : List Element} (read : takeElements finish nested tokens = .ok (elements, rest)) :
    rest.length ≤ tokens.length := by
  rw [takeElements] at read
  cases result : readElements finish nested tokens with
  | error error =>
      rw [result] at read
      cases read
  | ok found =>
      rw [result] at read
      have same : found.1 = (elements, rest) := Except.ok.inj read
      have fewer := found.2
      rwa [same] at fewer

theorem takeSymbol_length {finish : Position} {mark : Symbol} {tokens rest : List Token}
    {value : Unit} (read : takeSymbol finish mark tokens = .ok (value, rest)) :
    rest.length < tokens.length := by
  rw [takeSymbol] at read
  cases result : readSymbol finish mark tokens with
  | error error =>
      rw [result] at read
      cases read
  | ok after =>
      rw [result] at read
      cases read
      exact readSymbol_length result

theorem takeElement_length {finish : Position} {tokens rest : List Token} {element : Element}
    (read : takeElement finish tokens = .ok (element, rest)) : rest.length < tokens.length := by
  obtain ⟨pos, behind, rfl, package⟩ | decl := of_ifNext_eq_ok read
  · obtain ⟨name, named, readName, opened⟩ := exists_of_bind_eq_ok package
    obtain ⟨_, body, readOpening, filled⟩ := exists_of_bind_eq_ok opened
    obtain ⟨inner, after, readInner, closed⟩ := exists_of_bind_eq_ok filled
    cases closed
    calc rest.length
      _ ≤ body.length := takeElements_length readInner
      _ < named.length := takeSymbol_length readOpening
      _ < behind.length := readQualifiedName_length readName
      _ < (⟨.keyword .package, pos⟩ :: behind).length := Nat.lt_succ_self _
  · obtain ⟨decl, after, readDecl, same⟩ := exists_of_bind_eq_ok decl
    cases same
    exact readDecl_length readDecl

/-! ## What they do -/

/-- The elements of a package are read, whatever index behind a certain one they start at. -/
def TracksInner (list : TokenList) (inner : Cursor (List Element)) (start : Nat) : Prop :=
  ∀ index, start < index → Tracks list index (fun _ => [.symbol .closeBrace]) inner
    (takeElements list.finish true) index

theorem behind_takeElements_cons (finish : Position) (before : List Element) (token : Token)
    (rest : List Token) :
    behind before (takeElements finish true) (token :: rest) =
      ifNext (.symbol .closeBrace) (fun _ => pure before)
        (behind before (takeElementAndMore finish true)) (token :: rest) := by
  have unended : takeElements finish true (token :: rest) =
      ifNext (.symbol .closeBrace) (fun _ => pure []) (takeElementAndMore finish true)
        (token :: rest) := by
    rw [takeElements_eq]
    rfl
  have same := ifNext_bind (.symbol .closeBrace) (fun _ => pure [])
    (takeElementAndMore finish true) (fun more => pure (before ++ more))
  simp only [pure_bind, List.append_nil] at same
  rw [behind, behind, ← same, bind_apply, bind_apply, unended]

/-- A type is an element. -/
theorem tracks_decl {γ : Type} {word : Keyword} {pos : Position} {rest : List Token}
    {cursor : Cursor γ} {read : Position → Reader γ} {decl : γ → TypeDecl}
    (tracks : Tracks list outer (fun _ => []) cursor (skip list.finish >>= read) start)
    (found : list.tokens.drop start = ⟨.keyword word, pos⟩ :: rest) (unopened : word ≠ .package)
    (reads : readDecl list.finish (⟨.keyword word, pos⟩ :: rest) =
      (read pos rest).map fun (type, rest) => (decl type, rest)) :
    Tracks list outer (fun _ => [])
      (do
        let type ← cursor
        return Element.type (decl type))
      (takeElement list.finish) start := by
  have asElement : Tracks list outer (fun _ => [])
      (do
        let type ← cursor
        return Element.type (decl type))
      (do
        let type ← skip list.finish >>= read
        pure (Element.type (decl type))) start := tracks.bind fun type _ _ _ => .pure _ rfl
  refine asElement.congr ?_
  have notPackage : ¬ Lexeme.keyword word = .keyword .package :=
    fun same => unopened (Lexeme.keyword.inj same)
  rw [found, takeElement, ifNext, if_neg notPackage]
  simp only [bind_apply, reads, skip, startOf, List.tail_cons]
  cases read pos rest with
  | error error => rfl
  | ok result => rfl

include enough

theorem tracks_packageOf {inner : Cursor (List Element)} (later : TracksInner list inner start) :
    Tracks list start (fun _ => []) (packageOf list.slots limit inner)
      (skip list.finish >>= takePackage list.finish) start := by
  refine .bind .skip fun pos first forward _ =>
    .bind (tracks_qualifiedName enough _ _) fun name named reached readName =>
      .bind (tracks_symbol _ _) fun _ opened further readOpening => .index fun inside => ?_
  have shorter := (takeSymbol_length readOpening).trans (readQualifiedName_length readName)
  rw [List.length_drop, List.length_drop] at shorter
  have ahead : start < opened := by omega
  exact Tracks.after (fun events => run_note _ _) (.inner ahead) (Nat.le_refl _) inside rfl
    (.close ((later opened ahead).mono (Nat.le_of_lt ahead)) fun inner _ _ _ => .pure _ rfl) inside

theorem tracks_elementOf {inner : Cursor (List Element)} (later : TracksInner list inner start) :
    Tracks list start (fun _ => []) (elementOf list.slots limit inner) (takeElement list.finish)
      start := by
  refine .peek ?_
  cases found : list.tokens.drop start with
  | nil => exact (Tracks.refuse _).congr (by rw [found]; rfl)
  | cons token rest =>
      obtain ⟨lexeme, pos⟩ := token
      cases lexeme with
      | name text => exact (Tracks.refuse _).congr (by rw [found]; rfl)
      | symbol mark => exact (Tracks.refuse _).congr (by rw [found]; rfl)
      | keyword word =>
          cases word with
          | package => exact (tracks_packageOf enough start later).congr (by rw [found]; rfl)
          | datatype => exact tracks_decl start (tracks_dataType enough start) found nofun rfl
          | entity => exact tracks_decl start (tracks_entity enough start) found nofun rfl
          | enum => exact tracks_decl start (tracks_enum enough start) found nofun rfl
          | _ => exact (Tracks.refuse _).congr (by rw [found]; rfl)

/-- An element takes tokens, so that what is read behind it starts at a later index. -/
theorem tracks_elementAndMore {inner : Cursor (List Element)}
    {more : List Element → Cursor (List Element)} (nested : Bool) (before : List Element)
    (later : TracksInner list inner start)
    (laterMore : ∀ index elements, start < index →
      Tracks list index (fun _ => if nested then [.symbol .closeBrace] else []) (more elements)
        (behind elements (takeElements list.finish nested)) index) :
    Tracks list start (fun _ => if nested then [.symbol .closeBrace] else [])
      (do
        let element ← elementOf list.slots limit inner
        Cursor.note (.again start (← Cursor.index))
        more (before ++ [element]))
      (behind before (takeElementAndMore list.finish nested)) start := by
  rw [takeElementAndMore_eq, behind, bind_assoc]
  refine .bind (tracks_elementOf enough start later) fun element next reached readElement =>
    .index fun inside => ?_
  have shorter := takeElement_length readElement
  rw [List.length_drop, List.length_drop] at shorter
  have ahead : start < next := by omega
  refine Tracks.after (fun events => run_note _ _) (.again ahead) (Nat.le_refl _) inside ?_
    ((laterMore next (before ++ [element]) ahead).mono (Nat.le_of_lt ahead)) inside
  simp only [behind, bind_assoc, pure_bind, List.append_assoc, List.singleton_append]

/-- Elements end: what is read behind an element, or inside a package, starts at a later index. -/
theorem tracks_elementsFrom {depth : Nat} (nested : Bool) (before : List Element)
    (deep : list.tokens.length < start + depth) :
    Tracks list start (fun _ => if nested then [.symbol .closeBrace] else [])
      (elementsFrom list.slots limit depth nested before)
      (behind before (takeElements list.finish nested)) start := by
  -- Both the elements of a package and those behind it have a smaller depth and a larger index.
  induction depth generalizing start nested before with
  | zero => exact fun inside => absurd inside (Nat.not_le.mpr deep)
  | succ depth ih =>
      have inner : TracksInner list (elementsFrom list.slots limit depth true []) start := by
        intro index ahead
        have elements := ih index true [] (by omega)
        rwa [behind_nil] at elements
      have further := tracks_elementAndMore enough start nested before inner
        fun index elements ahead => ih index nested elements (by omega)
      refine Tracks.index (.peek ?_)
      cases found : list.tokens.drop start with
      | nil =>
          cases nested with
          | true =>
              refine (Tracks.refuse _).congr ?_
              rw [found, takeElements_eq]
              rfl
          | false =>
              refine (Tracks.pure before rfl).congr ?_
              rw [found, takeElements_eq, behind, bind_apply]
              simp [ifEnd, pure_apply]
      | cons token rest =>
          cases nested with
          | true =>
              refine Tracks.congr (.leave ?_ further) ?_
              · exact if_pos rfl
              · rw [found]
                exact behind_takeElements_cons _ _ _ _
          | false =>
              simp only [slotOf, Bool.false_eq_true, if_false, pure_bind]
              refine further.congr ?_
              rw [found, takeElements_eq]
              rfl

theorem tracks_elements (nested : Bool) :
    Tracks list start (fun _ => if nested then [.symbol .closeBrace] else [])
      (elements list.slots limit nested) (takeElements list.finish nested) start := by
  have elements := tracks_elementsFrom enough start nested [] (Nat.lt_add_left start enough)
  rwa [behind_nil] at elements

theorem tracksInner_elements : TracksInner list (elements list.slots limit true) start :=
  fun index _ => tracks_elements enough index true

end Tracks

/-! ## All of them -/

/-- The phrases that have a function to read them. -/
inductive Rule where
  | symbol (mark : Symbol)
  | name (role : NameRole)
  | qualifiedName (role : NameRole)
  | ref (role : NameRole)
  | dataType
  | feature
  | entity
  | enum
  | package
  | element
  | elements (nested : Bool)
  deriving Repr, DecidableEq

namespace Rule

/-- What is read. -/
def Value : Rule → Type
  | symbol _ => Unit
  | name _ => String × Position
  | qualifiedName _ => String × Position
  | ref _ => Ref
  | dataType => DataType
  | feature => Feature
  | entity => Entity
  | enum => Enum
  | package => Element
  | element => Element
  | elements _ => List Element

/-- The function that goes by an index. -/
def cursor (slots : List Slot) (limit : Nat) : (rule : Rule) → Cursor rule.Value
  | symbol mark => Cursor.symbol slots mark
  | name role => Cursor.name slots role
  | qualifiedName role => Cursor.qualifiedName slots limit role
  | ref role => Cursor.ref slots limit role
  | dataType => Cursor.dataType slots limit
  | feature => Cursor.feature slots limit
  | entity => Cursor.entity slots limit
  | enum => Cursor.enum slots limit
  | package => Cursor.package slots limit
  | element => Cursor.element slots limit
  | elements nested => Cursor.elements slots limit nested

/-- What the function does on the tokens that are left.  Functions for phrases with a keyword take
the keyword for granted. -/
def reader (finish : Position) : (rule : Rule) → Reader rule.Value
  | symbol mark => takeSymbol finish mark
  | name role => readName finish role
  | qualifiedName role => readQualifiedName finish role
  | ref role => readRef finish role
  | dataType => skip finish >>= readDataType finish
  | feature => readFeature finish
  | entity => skip finish >>= readEntity finish
  | enum => skip finish >>= readEnum finish
  | package => skip finish >>= takePackage finish
  | element => takeElement finish
  | elements nested => takeElements finish nested

/-- What the function leaves for its caller to take. -/
def unread : Rule → List Lexeme
  | elements nested => if nested then [.symbol .closeBrace] else []
  | _ => []

theorem tracks {list : TokenList} {limit : Nat} (enough : list.tokens.length < limit)
    (start : Nat) (rule : Rule) :
    Tracks list start (fun _ => rule.unread) (rule.cursor list.slots limit)
      (rule.reader list.finish) start := by
  cases rule with
  | symbol mark => exact tracks_symbol start mark
  | name role => exact tracks_name role start
  | qualifiedName role => exact tracks_qualifiedName enough role start
  | ref role => exact tracks_ref enough role start
  | dataType => exact tracks_dataType enough start
  | feature => exact tracks_feature enough start
  | entity => exact tracks_entity enough start
  | enum => exact tracks_enum enough start
  | package => exact tracks_packageOf enough start (tracksInner_elements enough start)
  | element => exact tracks_elementOf enough start (tracksInner_elements enough start)
  | elements nested => exact tracks_elements enough start nested

end Rule

/-- Read a model from its source text by an index. -/
def scan (limit : Nat) (source : List Char) : Option (Except Halt Definitions) :=
  match lex source with
  | .error error => some (.error (.refused error))
  | .ok list =>
      ((Cursor.elements list.slots limit false).run { index := 0 }).map fun (outcome, _) =>
        outcome.map fun elements => { elements }

theorem exists_scan_eq (source : List Char) :
    ∃ least, ∀ more, scan (least + more) source = some ((parse source).mapError .refused) := by
  cases cut : lex source with
  | error error =>
      refine ⟨0, fun more => ?_⟩
      rw [scan, parse, cut]
      rfl
  | ok list =>
      refine ⟨list.slots.length, fun more => ?_⟩
      obtain ⟨stop, trail, goes⟩ :=
        Rule.tracks (list.length_lt_slots_add more) 0 (.elements false) (Nat.zero_le _)
      have ran : (Cursor.elements list.slots (list.slots.length + more) false).run { index := 0 } =
          some (outcomeOf (takeElements list.finish false list.tokens), ⟨stop, [] ++ trail⟩) :=
        goes.run_eq []
      rw [scan, cut, parse_eq_map cut]
      simp only [ran, Option.map_some]
      cases takeElements list.finish false list.tokens with
      | error error => rfl
      | ok result => rfl

/-- Whichever function starts at whichever index inside whichever list, it ends at an index inside
the list, and never looks outside: it does not get to any limit that is as large as the list.  On
the way the index does not go back, no loop goes round without taking a token, and the elements of
packages start behind the index where the function started.  So a model is read by an index from
every text, and the result is the one that taking tokens gives. -/
theorem reading_ends_inside :
    (∀ (list : TokenList) (rule : Rule) (start : Fin list.slots.length) (before : List Event)
        (more : Nat),
      ∃ (stop : Fin list.slots.length) (trail : List Event),
        start ≤ stop ∧ Orderly start start stop trail ∧
        let outcome := outcomeOf (rule.reader list.finish (list.tokens.drop start))
        (rule.cursor list.slots (list.slots.length + more)).run ⟨start, before⟩ =
          some (outcome, ⟨stop, before ++ trail⟩) ∧
        outcome ≠ .error .outOfRange) ∧
    ∀ source, ∃ least, ∀ more,
      scan (least + more) source = some ((parse source).mapError .refused) := by
  refine ⟨fun list rule start before more => ?_, exists_scan_eq⟩
  have size := list.length_slots
  obtain ⟨stop, trail, goes⟩ := rule.tracks (list.length_lt_slots_add more) start
    (Nat.le_of_lt_succ (start.isLt.trans_eq size))
  have within : stop < list.slots.length := (Nat.lt_succ_of_le goes.inside).trans_eq size.symm
  exact ⟨⟨stop, within⟩, trail, goes.le, goes.orderly, goes.run_eq before,
    outcomeOf_ne_outOfRange _⟩

end DomainGen.Ddef
