import DomainGen.Proofs.Ddef.Reading
import DomainGen.Proofs.Model.Packages
import DomainGen.Proofs.Text.Dotted

/-!
# Names in a source text

A name starts with a letter or an underscore and continues with these and with
digits.  Whatever stands for a name in a source text is one, with or without a
caret in front, so that a name is neither empty nor dotted.

It follows how the names in a model that was read are built (`wellNamed`):
every segment of a package path and every declared name is a single name, and
every reference is names joined by dots.
-/

namespace DomainGen.Ddef

/-- A name. -/
def IsName (text : String) : Prop :=
  ∃ first rest, text.toList = first :: rest ∧ isNameStart first ∧ rest.all isNamePart

/-- Names joined by dots. -/
def IsQualified (text : String) : Prop :=
  ∃ parts, parts ≠ [] ∧ (∀ part ∈ parts, IsName part) ∧ text = Text.join "." parts

namespace IsName

variable {text : String}

theorem ne_empty (name : IsName text) : text ≠ "" := by
  rintro rfl
  rcases name with ⟨first, rest, spelled, -⟩
  simp at spelled

theorem dotFree (name : IsName text) : Text.DotFree text := by
  rcases name with ⟨first, rest, spelled, starts, continues⟩
  intro member
  have part : isNamePart '.' := by
    rw [spelled, List.mem_cons] at member
    rcases member with rfl | member
    · simp [isNamePart, starts]
    · exact List.all_eq_true.mp continues _ member
  exact absurd part (by decide)

end IsName

theorem IsQualified.ne_empty {text : String} (qualified : IsQualified text) : text ≠ "" := by
  rcases qualified with ⟨parts, some, names, rfl⟩
  intro empty
  have same : parts = [""] := by
    rw [← Text.segments_join some fun part member => (names part member).dotFree, empty]
    rfl
  exact (names "" (by simp [same])).ne_empty rfl

/-! ## Cutting out names -/

/-- Every name among some tokens is one. -/
def Spelled (tokens : List Token) : Prop :=
  ∀ text pos, ⟨.name text, pos⟩ ∈ tokens → IsName text

theorem Spelled.mono {tokens others : List Token} (spelled : Spelled tokens)
    (within : others ⊆ tokens) : Spelled others :=
  fun text pos member => spelled text pos (within member)

theorem isName_of_firstPiece {c : Char} {rest : List Char} {piece : Piece} {text : String}
    (found : firstPiece c rest = .ok piece) (named : piece.lexeme? = some (.name text)) :
    IsName text := by
  unfold firstPiece at found
  split at found
  · cases found
    contradiction
  split at found
  · cases found
    contradiction
  split at found
  · split at found
    · cases found
      contradiction
    · contradiction
  split at found
  · next starts =>
    cases found
    have same : text = String.ofList (c :: rest.takeWhile isNamePart) := by
      simp only [Piece.lexeme?, Option.some.injEq] at named
      cases word : Keyword.ofText? (String.ofList (c :: rest.takeWhile isNamePart)) with
      | none =>
          rw [word] at named
          exact (Lexeme.name.inj named).symm
      | some keyword =>
          rw [word] at named
          contradiction
    exact ⟨c, rest.takeWhile isNamePart, by simp [same], starts, List.all_takeWhile⟩
  split at found
  · next starts =>
    cases found
    cases rest with
    | nil => simp at starts
    | cons first rest =>
        have starts : isNameStart first := by simp_all
        refine ⟨first, rest.takeWhile isNamePart, ?_, starts, List.all_takeWhile⟩
        cases named
        rw [List.takeWhile_cons_of_pos (by simp [isNamePart, starts]), String.toList_ofList]
  split at found
  · cases found
    simp [Piece.lexeme?] at named
  · contradiction

theorem spelled_of_tokensFrom {pos : Position} {source : List Char} {list : TokenList}
    (cut : tokensFrom pos source = .ok list) : Spelled list.tokens := by
  fun_induction tokensFrom pos source generalizing list with
  | case1 =>
      cases cut
      intro text pos member
      simp at member
  | case2 => contradiction
  | case3 => contradiction
  | case4 pos c rest piece found more after skipped ih =>
      cases cut
      exact ih after
  | case5 pos c rest piece found more after lexeme taken ih =>
      cases cut
      intro text place member
      rw [List.mem_cons] at member
      rcases member with same | member
      · cases same
        exact isName_of_firstPiece found taken
      · exact ih after text place member

/-! ## Names of a model -/

theorem QualifiedPhrase.parts {phrase : QualifiedPhrase} (spelled : Spelled phrase.tokens) :
    ∀ part ∈ phrase.toList.map (·.text), IsName part := by
  intro part member
  rw [List.mem_map] at member
  rcases member with ⟨name, listed, rfl⟩
  have within : [name.token] ⊆ phrase.tokens :=
    phrase.tokens_subset .dot (fun name => [name.token]) listed
  exact spelled name.text name.pos (within (by simp [NamePhrase.token]))

theorem QualifiedPhrase.isQualified {phrase : QualifiedPhrase}
    (spelled : Spelled phrase.tokens) : IsQualified phrase.text :=
  ⟨phrase.toList.map (·.text), by simp [Separated.toList], parts spelled, rfl⟩

theorem isName_of_tree {phrase : ElementPhrase} {decl : TypeDecl}
    (declared : phrase.tree = .type decl) (spelled : Spelled phrase.tokens) :
    IsName decl.name := by
  cases phrase with
  | package => simp [ElementPhrase.tree] at declared
  | dataType phrase =>
      cases declared
      exact spelled phrase.name.text phrase.name.pos
        (by simp [ElementPhrase.tokens, DataTypePhrase.tokens, NamePhrase.token])
  | entity phrase =>
      cases declared
      exact spelled phrase.name.text phrase.name.pos
        (by simp [ElementPhrase.tokens, EntityPhrase.tokens, NamePhrase.token])
  | enum phrase =>
      cases declared
      exact spelled phrase.name.text phrase.name.pos
        (by simp [ElementPhrase.tokens, EnumPhrase.tokens, NamePhrase.token])

theorem packagePath_phrase {phrase : QualifiedPhrase} (spelled : Spelled phrase.tokens)
    (path : List String) :
    packagePath path phrase.text = path ++ phrase.toList.map (·.text) := by
  have names := QualifiedPhrase.parts spelled
  exact packagePath_join path (by simp [Separated.toList])
    (fun part member => (names part member).dotFree)
    (fun part member => (names part member).ne_empty)

/-- A visit to a place with a name: the path that is open there is made of names, and a
package does open one. -/
structure NamedVisit (visit : Visit) : Prop where
  inner : ∀ segment ∈ visit.inner, IsName segment
  opens : visit.isPackage → visit.inner ≠ []

mutual

theorem ElementPhrase.namedVisit (phrase : ElementPhrase) (path : List String)
    (spelled : Spelled phrase.tokens) (around : ∀ segment ∈ path, IsName segment)
    (visit : Visit) (member : visit ∈ phrase.tree.visits path) : NamedVisit visit := by
  cases phrase with
  | package keyword name opening phrases closing =>
      rw [ElementPhrase.tokens] at spelled
      have named : Spelled name.tokens := spelled.mono (by simp +contextual [List.subset_def])
      have inside : Spelled (tokensOf phrases) :=
        spelled.mono (by simp +contextual [List.subset_def])
      have opened := packagePath_phrase named path
      have names : ∀ segment ∈ packagePath path name.text, IsName segment := by
        rw [opened]
        intro segment member
        rw [List.mem_append] at member
        rcases member with member | member
        · exact around segment member
        · exact QualifiedPhrase.parts named segment member
      rw [ElementPhrase.tree, Element.visits, List.mem_cons] at member
      rcases member with rfl | member
      · refine ⟨names, fun _ => ?_⟩
        change packagePath path name.text ≠ []
        rw [opened]
        simp [Separated.toList]
      · exact namedVisit phrases _ inside names visit member
  | dataType phrase =>
      rw [ElementPhrase.tree, Element.visits, List.mem_singleton] at member
      rw [member]
      exact ⟨around, nofun⟩
  | entity phrase =>
      rw [ElementPhrase.tree, Element.visits, List.mem_singleton] at member
      rw [member]
      exact ⟨around, nofun⟩
  | enum phrase =>
      rw [ElementPhrase.tree, Element.visits, List.mem_singleton] at member
      rw [member]
      exact ⟨around, nofun⟩

theorem namedVisit (phrases : List ElementPhrase) (path : List String)
    (spelled : Spelled (tokensOf phrases)) (around : ∀ segment ∈ path, IsName segment)
    (visit : Visit) (member : visit ∈ visitsIn path (treesOf phrases)) : NamedVisit visit := by
  cases phrases with
  | nil => simp [treesOf, visitsIn] at member
  | cons phrase phrases =>
      rw [treesOf, visitsIn, List.mem_append] at member
      rw [tokensOf] at spelled
      rcases member with member | member
      · exact phrase.namedVisit path (spelled.mono (List.subset_append_left _ _))
          around visit member
      · exact namedVisit phrases path (spelled.mono (List.subset_append_right _ _))
          around visit member

end

/-- What is read from a source text is the tree of a derivation whose names are
names. -/
theorem exists_spelled_of_parse {source : List Char} {defs : Definitions}
    (parsed : parse source = .ok defs) :
    ∃ document, defs = { elements := treesOf document } ∧ Spelled (tokensOf document) := by
  cases cut : lex source with
  | error error => simp [parse, cut] at parsed
  | ok list =>
      rcases (parse_eq_ok_iff cut).mp parsed with ⟨document, tokens, rfl⟩
      exact ⟨document, rfl, tokens ▸ spelled_of_tokensFrom cut⟩

end DomainGen.Ddef

namespace DomainGen

/-- How the names of a model are built, and that nothing is known yet about what its
references mean. -/
structure Definitions.WellNamed (defs : Definitions) : Prop where
  path : ∀ path decl, (path, decl) ∈ defs.locatedTypes → ∀ segment ∈ path, Ddef.IsName segment
  name : ∀ path decl, (path, decl) ∈ defs.locatedTypes → Ddef.IsName decl.name
  text : ∀ path decl, (path, decl) ∈ defs.locatedTypes →
    ∀ use ref, (use, ref) ∈ decl.refs → Ddef.IsQualified ref.text
  unresolved : ∀ path decl, (path, decl) ∈ defs.locatedTypes →
    ∀ use ref, (use, ref) ∈ decl.refs → ref.target = none

theorem Ddef.namedVisit_of_parse {source : List Char} {defs : Definitions}
    (parsed : parse source = .ok defs) {visit : Visit} (member : visit ∈ defs.visits) :
    NamedVisit visit := by
  rcases exists_spelled_of_parse parsed with ⟨document, rfl, spelled⟩
  exact namedVisit document [] spelled (by simp) visit member

theorem Ddef.wellNamed {source : List Char} {defs : Definitions}
    (parsed : parse source = .ok defs) : defs.WellNamed := by
  rcases exists_spelled_of_parse parsed with ⟨document, rfl, spelled⟩
  constructor
  · intro path decl located
    simp only [Definitions.locatedTypes, Definitions.visits, List.mem_filterMap,
      Option.map_eq_some_iff, Prod.mk.injEq] at located
    rcases located with ⟨visit, visited, _, -, rfl, -⟩
    have named := namedVisit document [] spelled (by simp) visit visited
    exact fun segment member => named.inner segment (visit.path_subset_inner member)
  · intro path decl located
    rcases exists_phrase_of_mem_locatedTypes located with ⟨phrase, declared, within⟩
    exact isName_of_tree declared (spelled.mono within)
  · intro path decl located use ref member
    rcases exists_phrase_of_mem_locatedTypes located with ⟨phrase, declared, within⟩
    rcases exists_qualified_of_mem_refs declared member with ⟨name, rfl, inside⟩
    exact QualifiedPhrase.isQualified (spelled.mono (List.Subset.trans inside within))
  · intro path decl located use ref member
    rcases exists_phrase_of_mem_locatedTypes located with ⟨phrase, declared, -⟩
    rcases exists_qualified_of_mem_refs declared member with ⟨name, rfl, -⟩
    rfl

/-- Every type of a source text is of a kind that is known. -/
theorem Ddef.ne_foreign_of_parse {source : List Char} {defs : Definitions}
    (parsed : parse source = .ok defs) {path : List String} {decl : TypeDecl}
    (located : (path, decl) ∈ defs.locatedTypes) (name : String) : decl ≠ .foreign name := by
  obtain ⟨document, rfl, -⟩ := exists_spelled_of_parse parsed
  obtain ⟨phrase, declared, -⟩ := exists_phrase_of_mem_locatedTypes located
  rintro rfl
  cases phrase with
  | package keyword name opening elements closing => simp [ElementPhrase.tree] at declared
  | dataType phrase => simp [ElementPhrase.tree] at declared
  | entity phrase => simp [ElementPhrase.tree] at declared
  | enum phrase => simp [ElementPhrase.tree] at declared

/-- The datatypes of a source text are marked as their names say. -/
theorem Ddef.primitive_of_parse {source : List Char} {defs : Definitions}
    (parsed : parse source = .ok defs) {path : List String} {type : DataType}
    (located : (path, .dataType type) ∈ defs.locatedTypes) :
    type.primitive = Primitive.classify type.name := by
  obtain ⟨document, rfl, -⟩ := exists_spelled_of_parse parsed
  obtain ⟨phrase, declared, -⟩ := exists_phrase_of_mem_locatedTypes located
  exact primitive_of_tree declared

end DomainGen
