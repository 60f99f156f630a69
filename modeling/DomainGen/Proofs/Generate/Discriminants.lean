import DomainGen.Ddef.Parser
import DomainGen.Generate.TypeScript
import DomainGen.Link.Resolve
import DomainGen.Proofs.Analysis.Supertypes

/-!
# Discriminants nest along supertypes

The interface of an entity lists, as its discriminant, the entity and all of its
subtypes.  An interface may extend another one only if it narrows the
discriminant, so every literal of an interface has to be one of the interface it
extends (`discriminant_subset_super`).

A subtype of the extending entity reaches the extended one too.  In a cyclic
hierarchy it may be the extended entity itself, which is not among its own
subtypes; then its name is the first literal.
-/

namespace DomainGen

theorem Scope.type?_ofDocuments {docs : List Document} {position : Nat} {doc : Document}
    {defs : Definitions} (found : docs[position]? = some doc)
    (model : doc.definitions = some defs) (index : Nat) :
    (Scope.ofDocuments docs).type? ⟨position, index⟩ = defs.types[index]? := by
  simp [Scope.type?, Scope.ofDocuments, found, Document.types, model]

namespace TypeScript

/-- The declaration that the module has for the type at an index of the model. -/
def declarationAt? (scope : Scope) (document : Nat) (defs : Definitions) (index : Nat) :
    Option String :=
  (defs.types[index]?).bind
    (renderType? scope ((subtypes scope document defs).of ⟨document, index⟩))

/-- The literals of the discriminant of the entity at an index of the model. -/
def literalsAt (scope : Scope) (document : Nat) (defs : Definitions) (index : Nat)
    (entity : Entity) : List String :=
  discriminant scope entity ((subtypes scope document defs).of ⟨document, index⟩)

/-- A text that declares an interface: its name, the interface it extends if there is
one, and the literals of its discriminant. -/
def IsInterface (text name : String) (super : Option String) (literals : List String) : Prop :=
  ∃ rest, text = "export interface " ++ name ++ super.elim "" (" extends " ++ ·) ++ " \x7b\n" ++
    "    " ++ "$type: " ++ quotedUnion literals ++ ";\n" ++ rest

variable {scope : Scope} {document : Nat} {defs : Definitions} {index : Nat}

theorem mem_declarations_of_declarationAt? {text : String}
    (emitted : declarationAt? scope document defs index = some text) :
    text ∈ declarations scope document defs := by
  rcases Option.bind_eq_some_iff.mp emitted with ⟨decl, declared, rendered⟩
  rw [declarations, List.mem_filterMap]
  exact ⟨(decl, index), List.mem_zipIdx_iff_getElem?.mpr declared, rendered⟩

/-- The module declares an interface for every entity of the model. -/
theorem exists_interface {entity : Entity} (declared : defs.types[index]? = some (.entity entity)) :
    ∃ text ∈ declarations scope document defs,
      declarationAt? scope document defs index = some text ∧
      IsInterface text entity.name ((scope.superOf? entity).map (·.2.name))
        (literalsAt scope document defs index entity) := by
  have emitted : declarationAt? scope document defs index =
      some (renderInterface scope entity ((subtypes scope document defs).of ⟨document, index⟩) ++
        "\n" ++ renderFactory entity) := by
    rw [declarationAt?, declared]
    rfl
  refine ⟨_, mem_declarations_of_declarationAt? emitted, emitted, ?_⟩
  refine ⟨String.join (entity.features.map (renderFeature scope)) ++ "\x7d\n" ++ "\n" ++
    renderFactory entity, ?_⟩
  unfold renderInterface literalsAt
  simp only [Option.elim_map, Function.comp_def, String.append_assoc]
  rfl

/-- A name in a discriminant is that of the entity or of an entity that reaches it. -/
theorem mem_literalsAt_iff
    (complete : ∀ index, scope.type? ⟨document, index⟩ = defs.types[index]?)
    {entity : Entity} {literal : String} :
    literal ∈ literalsAt scope document defs index entity ↔
      literal = entity.name ∨
        ∃ place decl, defs.types[place]? = some decl ∧ decl.name = literal ∧
          scope.Reaches ⟨document, place⟩ ⟨document, index⟩ ∧ place ≠ index := by
  rw [literalsAt, discriminant, List.mem_cons, List.mem_filterMap]
  refine or_congr_right ?_
  constructor
  · rintro ⟨⟨_, place⟩, listed, named⟩
    rcases (mem_subtypes_iff complete).mp listed with ⟨rfl, reached, apart⟩
    rw [complete, Option.map_eq_some_iff] at named
    rcases named with ⟨decl, declared, named⟩
    exact ⟨place, decl, declared, named, reached, fun same => apart (by rw [same])⟩
  · rintro ⟨place, decl, declared, named, reached, apart⟩
    refine ⟨⟨document, place⟩, (mem_subtypes_iff complete).mpr ⟨rfl, reached, ?_⟩, ?_⟩
    · exact fun same => apart (TypeId.mk.inj same).2.symm
    · rw [complete, declared, Option.map_some, named]

/-- Every entity whose supertype is in the same document is declared as an interface
that extends the interface of the supertype, and each literal of its discriminant is one
of the supertype's. -/
theorem discriminant_subset_super (docs : List Document) (position : Nat) (doc : Document)
    (defs : Definitions) (found : docs[position]? = some doc)
    (model : doc.definitions = some defs) (index place : Nat) (entity super : Entity)
    (declared : defs.types[index]? = some (.entity entity))
    (extended : (Scope.ofDocuments docs).superOf? entity = some (⟨position, place⟩, super)) :
    let scope := Scope.ofDocuments docs
    let literals := literalsAt scope position defs index entity
    let superLiterals := literalsAt scope position defs place super
    (∃ text ∈ declarations scope position defs,
      declarationAt? scope position defs index = some text ∧
      IsInterface text entity.name (some super.name) literals) ∧
    (∃ text ∈ declarations scope position defs,
      declarationAt? scope position defs place = some text ∧
      IsInterface text super.name ((scope.superOf? super).map (·.2.name)) superLiterals) ∧
    ∀ literal ∈ literals, literal ∈ superLiterals := by
  intro scope literals superLiterals
  have complete := Scope.type?_ofDocuments found model
  have superDeclared : defs.types[place]? = some (.entity super) := by
    rw [← complete]
    exact Scope.type?_of_superOf? extended
  have step : scope.Extends ⟨position, index⟩ ⟨position, place⟩ :=
    ⟨entity, super, by rw [complete, declared], extended⟩
  refine ⟨?_, exists_interface superDeclared, ?_⟩
  · have emitted : ∃ text ∈ declarations scope position defs,
        declarationAt? scope position defs index = some text ∧
          IsInterface text entity.name ((scope.superOf? entity).map (·.2.name)) literals :=
      exists_interface declared
    rwa [extended] at emitted
  · intro literal listed
    rw [mem_literalsAt_iff complete] at listed ⊢
    -- Either the entity itself or one of its subtypes: both reach the supertype.
    obtain ⟨origin, decl, originDeclared, named, reached⟩ : ∃ origin decl,
        defs.types[origin]? = some decl ∧ decl.name = literal ∧
          scope.Reaches ⟨position, origin⟩ ⟨position, place⟩ := by
      rcases listed with rfl | ⟨origin, decl, originDeclared, named, reached, -⟩
      · exact ⟨index, _, declared, rfl, .single step⟩
      · exact ⟨origin, decl, originDeclared, named, reached.tail step⟩
    by_cases same : origin = place
    · subst same
      rw [superDeclared] at originDeclared
      cases originDeclared
      exact .inl named.symm
    · exact .inr ⟨origin, decl, originDeclared, named, reached, same⟩

/-- A cyclic hierarchy that passes through a second document, and an entity that runs
into the cycle. -/
def cyclicDocs : List Document :=
  ["entity A extends B \x7b \x7d entity B extends C \x7b \x7d entity D extends A \x7b \x7d",
    "entity C extends A \x7b \x7d"].map fun source =>
      { definitions := (Ddef.parse source.toList).toOption }

theorem discriminant_subset_super_cyclicDocs :
    ∃ doc defs entity super, (link [0, 1] cyclicDocs)[0]? = some doc ∧
      doc.definitions = some defs ∧ defs.types[0]? = some (.entity entity) ∧
      let scope := Scope.ofDocuments (link [0, 1] cyclicDocs)
      scope.superOf? entity = some (⟨0, 1⟩, super) ∧
      literalsAt scope 0 defs 0 entity = ["A", "B", "D"] ∧
      literalsAt scope 0 defs 1 super = ["B", "A", "D"] ∧
      ∀ literal ∈ literalsAt scope 0 defs 0 entity, literal ∈ literalsAt scope 0 defs 1 super := by
  have computed : ((link [0, 1] cyclicDocs)[0]?).any fun doc =>
      doc.definitions.any fun defs =>
        (defs.types[0]?).any fun decl =>
          decl.entity?.any fun entity =>
            let scope := Scope.ofDocuments (link [0, 1] cyclicDocs)
            (scope.superOf? entity).any fun super =>
              super.1 = ⟨0, 1⟩ && literalsAt scope 0 defs 0 entity = ["A", "B", "D"] &&
                literalsAt scope 0 defs 1 super.2 = ["B", "A", "D"] := by
    decide +kernel
  simp only [Option.any_eq_true, Bool.and_eq_true, decide_eq_true_eq] at computed
  rcases computed with ⟨doc, found, defs, model, decl, declared, entity, isEntity, ⟨id, super⟩,
    extended, ⟨rfl, literals⟩, superLiterals⟩
  rw [TypeDecl.entity?_eq_some_iff] at isEntity
  subst isEntity
  exact ⟨doc, defs, entity, super, found, model, declared, extended, literals, superLiterals,
    (discriminant_subset_super _ 0 doc defs found model 0 1 entity super declared extended).2.2⟩

end TypeScript

end DomainGen
