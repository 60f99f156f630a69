import DomainGen.Model.Yaml
import DomainGen.Proofs.Ddef.Names
import DomainGen.Proofs.Model.Places

/-!
# The form of a model loses nothing

Writing a model down as data and reading it back gives the same model, without
the places and the targets of its references.  All that it takes is that
nothing is empty that has to be written down, and that datatypes are marked as
their names say (`FilledIn`), which holds of every model that was read from a
source text.

Where a form was read does not matter for what it stands for
(`elementsOf_unplacedForms`).
-/

namespace DomainGen

/-! ## Writing and reading back -/

mutual

/-- Nothing is empty that has to be written down: the names of elements and
features, the types of features and supertypes.  Datatypes have the mark that their
names call for.  There is nothing of a foreign kind. -/
def Element.Filled : Element → Prop
  | .package name _ elements => name ≠ "" ∧ FilledIn elements
  | .type (.dataType type) => type.name ≠ "" ∧ type.primitive = Primitive.classify type.name
  | .type (.entity type) =>
      type.name ≠ "" ∧ (∀ super, type.super = some super → super.text ≠ "") ∧
        ∀ feature ∈ type.features, feature.name ≠ "" ∧ feature.type.text ≠ ""
  | .type (.enum type) => type.name ≠ ""
  | .type (.foreign _) => False
  | .foreign _ => False

/-- Every element is filled. -/
def FilledIn : List Element → Prop
  | [] => True
  | element :: rest => element.Filled ∧ FilledIn rest

end

/-- The feature as data. -/
def Feature.form (feature : Feature) : FeatureForm :=
  ⟨feature.name, feature.type.text, feature.many, feature.nonNullable⟩

/-- Features are read one after the other, up to the first that is incomplete. -/
theorem ElementForm.featuresAt_cons (pos : Position) (entity : String) (form : FeatureForm)
    (forms : List FeatureForm) :
    featuresAt pos entity (form :: forms) =
      if form.name = "" || form.type = "" then .error (.incompleteFeature entity, pos)
      else (featuresAt pos entity forms).map
        (⟨form.name, ⟨form.type, pos, none⟩, form.many, form.nonNullable, pos⟩ :: ·) := by
  unfold featuresAt
  rw [List.mapM_cons]
  split
  · rfl
  · rfl

theorem ElementForm.featuresAt_form (entity : String) (features : List Feature)
    (filled : ∀ feature ∈ features, feature.name ≠ "" ∧ feature.type.text ≠ "") :
    featuresAt {} entity (features.map (·.form)) =
      .ok (features.map fun feature =>
        { feature with type := feature.type.unlinked }.unplaced) := by
  induction features with
  | nil => rfl
  | cons feature features ih =>
      have first := filled feature (by simp)
      have rest := ih fun feature member => filled feature (by simp [member])
      rw [List.map_cons, featuresAt_cons, rest, if_neg (by simp [Feature.form, first])]
      rfl

/-- The form of an element stands for the element, as far as that is written down. -/
def Element.Rereads (path : List String) (element : Element) : Prop :=
  ∃ form, element.form? = some form ∧
    form.element = .ok (element.mapRefs (fun _ _ => Ref.unlinked) path).unplaced

theorem DataType.rereads (path : List String) (type : DataType) (named : type.name ≠ "")
    (marked : type.primitive = Primitive.classify type.name) :
    (Element.type (.dataType type)).Rereads path := by
  let form : ElementForm := { dataType := type.name, members := type.members.map (·.text) }
  have kinds : form.kinds = ["datatype"] := by
    simp [form, ElementForm.kinds, named]
  refine ⟨form, rfl, ?_⟩
  rw [Element.mapRefs, Element.unplaced]
  simp only [form, ElementForm.element, ElementForm.decl] at kinds ⊢
  simp only [kinds, TypeDecl.mapRefs, TypeDecl.unplaced, DataType.unplaced, List.map_map, marked]
  rfl

theorem Entity.rereads (path : List String) (type : Entity) (named : type.name ≠ "")
    (extending : ∀ super, type.super = some super → super.text ≠ "")
    (filled : ∀ feature ∈ type.features, feature.name ≠ "" ∧ feature.type.text ≠ "") :
    (Element.type (.entity type)).Rereads path := by
  let form : ElementForm :=
    { entity := type.name
      super := (type.super.map (·.text)).getD ""
      features := type.features.map (·.form) }
  have kinds : form.kinds = ["entity"] := by
    simp [form, ElementForm.kinds, named]
  have features := ElementForm.featuresAt_form type.name type.features filled
  refine ⟨form, rfl, ?_⟩
  rw [Element.mapRefs, Element.unplaced]
  simp only [form, ElementForm.element, ElementForm.decl] at kinds ⊢
  simp only [kinds, features, TypeDecl.mapRefs, TypeDecl.unplaced, Entity.unplaced, List.map_map]
  -- An empty text stands for no supertype, so a supertype must not be empty.
  cases super : type.super with
  | none => rfl
  | some ref =>
      rw [Option.map_some, Option.getD_some, if_neg (extending ref super)]
      rfl

theorem Enum.rereads (path : List String) (type : Enum) (named : type.name ≠ "") :
    (Element.type (.enum type)).Rereads path := by
  let form : ElementForm := { enum := type.name, literals := type.literals.map (·.name) }
  have kinds : form.kinds = ["enum"] := by
    simp [form, ElementForm.kinds, named]
  refine ⟨form, rfl, ?_⟩
  rw [Element.mapRefs, Element.unplaced]
  simp only [form, ElementForm.element, ElementForm.decl] at kinds ⊢
  simp only [kinds, TypeDecl.mapRefs, TypeDecl.unplaced, Enum.unplaced, List.map_map]
  rfl

theorem rereads_package (path : List String) (name : String) (pos : Position)
    (elements : List Element) (named : name ≠ "")
    (inside : elementsOf (formsOf elements) = .ok (unplacedIn
      (mapRefsIn (fun _ _ => Ref.unlinked) (packagePath path name) elements))) :
    (Element.package name pos elements).Rereads path := by
  let form : ElementForm := { package := name, elements := formsOf elements }
  have kinds : form.kinds = ["package"] := by
    simp [form, ElementForm.kinds, named]
  refine ⟨form, by rw [Element.form?], ?_⟩
  rw [Element.mapRefs, Element.unplaced]
  simp only [form, ElementForm.element] at kinds ⊢
  rw [kinds, inside]
  rfl

mutual

theorem Element.rereads (path : List String) (element : Element) (filled : element.Filled) :
    element.Rereads path := by
  cases element with
  | package name pos elements =>
      rw [Element.Filled] at filled
      exact rereads_package path name pos elements filled.1
        (elementsOf_formsOf (packagePath path name) elements filled.2)
  | type decl =>
      cases decl with
      | dataType type => exact type.rereads path filled.1 filled.2
      | entity type => exact type.rereads path filled.1 filled.2.1 filled.2.2
      | enum type => exact type.rereads path filled
      | foreign name => exact absurd filled (by simp [Element.Filled])
  | foreign name => exact absurd filled (by simp [Element.Filled])

theorem elementsOf_formsOf (path : List String) (elements : List Element)
    (filled : FilledIn elements) :
    elementsOf (formsOf elements) =
      .ok (unplacedIn (mapRefsIn (fun _ _ => Ref.unlinked) path elements)) := by
  cases elements with
  | nil => rfl
  | cons element elements =>
      rw [FilledIn] at filled
      rcases element.rereads path filled.1 with ⟨form, written, read⟩
      have rest := elementsOf_formsOf path elements filled.2
      simp only [formsOf, written, elementsOf, read, rest, mapRefsIn, unplacedIn]
      rfl

end
/-- The elements as they are written down: without places, and without the targets
of references. -/
def bareIn (elements : List Element) : List Element :=
  unplacedIn (mapRefsIn (fun _ _ => Ref.unlinked) [] elements)

/-! ## Places of forms -/

mutual

/-- The form without places. -/
def ElementForm.unplaced : ElementForm → ElementForm
  | ⟨package, dataType, entity, enum, elements, members, super, features, literals, _⟩ =>
      ⟨package, dataType, entity, enum, unplacedForms elements, members, super, features,
        literals, {}⟩

/-- The forms without places. -/
def unplacedForms : List ElementForm → List ElementForm
  | [] => []
  | form :: rest => form.unplaced :: unplacedForms rest

end

/-- Forms that differ at most in where they were read. -/
def SameForms (forms others : List ElementForm) : Prop :=
  unplacedForms forms = unplacedForms others

mutual

theorem Element.unplaced_form (element : Element) {form : ElementForm}
    (written : element.form? = some form) : form.unplaced = form := by
  cases element with
  | package name pos elements =>
      rw [Element.form?] at written
      cases written
      rw [ElementForm.unplaced, unplacedForms_formsOf]
  | type decl =>
      cases decl with
      | dataType type => cases written; rfl
      | entity type => cases written; rfl
      | enum type => cases written; rfl
      | foreign name => contradiction
  | foreign name => contradiction

/-- The forms of a model have no places. -/
theorem unplacedForms_formsOf (elements : List Element) :
    unplacedForms (formsOf elements) = formsOf elements := by
  cases elements with
  | nil => rfl
  | cons element elements =>
      rw [formsOf]
      split
      · next form written =>
        rw [unplacedForms, Element.unplaced_form element written, unplacedForms_formsOf]
      · exact unplacedForms_formsOf elements

end

/-- What came of reading forms, without places. -/
def unplacedOutcome {α : Type} (strip : α → α) :
    Except (FormFault × Position) α → Except (FormFault × Position) α
  | .ok value => .ok (strip value)
  | .error (fault, _) => .error (fault, {})

theorem featuresAt_unplaced (pos : Position) (entity : String) (forms : List FeatureForm) :
    ElementForm.featuresAt {} entity forms =
      unplacedOutcome (List.map Feature.unplaced) (ElementForm.featuresAt pos entity forms) := by
  induction forms with
  | nil => rfl
  | cons form forms ih =>
      rw [ElementForm.featuresAt_cons, ElementForm.featuresAt_cons, ih]
      split
      · rfl
      · cases ElementForm.featuresAt pos entity forms with
        | error fault => rfl
        | ok features => rfl

theorem ElementForm.kinds_unplaced (form : ElementForm) : form.unplaced.kinds = form.kinds := by
  rcases form with
    ⟨package, dataType, entity, enum, elements, members, super, features, literals, pos⟩
  rw [ElementForm.unplaced]
  rfl

theorem ElementForm.decl_unplaced (form : ElementForm) :
    form.unplaced.decl = unplacedOutcome TypeDecl.unplaced form.decl := by
  have kinds := form.kinds_unplaced
  rcases form with
    ⟨package, dataType, entity, enum, elements, members, super, features, literals, pos⟩
  rw [ElementForm.unplaced] at kinds ⊢
  simp only [ElementForm.decl, kinds]
  split
  · simp [unplacedOutcome, TypeDecl.unplaced, DataType.unplaced, Ref.unplaced]
  · rw [featuresAt_unplaced pos]
    cases ElementForm.featuresAt pos entity features with
    | error fault => rfl
    | ok features =>
        by_cases empty : super = ""
        · simp [empty]
          rfl
        · simp [empty]
          rfl
  · simp [unplacedOutcome, TypeDecl.unplaced, Enum.unplaced, Literal.unplaced]
  · rfl

mutual

theorem ElementForm.element_unplaced (form : ElementForm) :
    form.unplaced.element = unplacedOutcome Element.unplaced form.element := by
  have kinds := form.kinds_unplaced
  have decl := form.decl_unplaced
  rcases form with
    ⟨package, dataType, entity, enum, elements, members, super, features, literals, pos⟩
  rw [ElementForm.unplaced] at kinds decl ⊢
  rw [ElementForm.element, ElementForm.element]
  simp only [kinds, decl]
  split
  · rw [elementsOf_unplacedForms]
    cases elementsOf elements with
    | error fault => rfl
    | ok inner => simp [unplacedOutcome, bind, Except.bind, pure, Except.pure, Element.unplaced]
  · generalize ElementForm.decl _ = declared
    cases declared with
    | error fault => rfl
    | ok decl => simp [unplacedOutcome, bind, Except.bind, pure, Except.pure, Element.unplaced]

theorem elementsOf_unplacedForms (forms : List ElementForm) :
    elementsOf (unplacedForms forms) = unplacedOutcome unplacedIn (elementsOf forms) := by
  cases forms with
  | nil => rfl
  | cons form forms =>
      rw [unplacedForms, elementsOf, elementsOf, ElementForm.element_unplaced,
        elementsOf_unplacedForms]
      cases form.element with
      | error fault => rfl
      | ok element =>
          cases elementsOf forms with
          | error fault => rfl
          | ok elements => rfl

end

/-! ## Models from source texts -/

namespace Ddef

mutual

/-- References of a phrase have no target that could be lost. -/
theorem ElementPhrase.mapRefs_unlinked (path : List String) (phrase : ElementPhrase) :
    phrase.tree.mapRefs (fun _ _ => Ref.unlinked) path = phrase.tree := by
  cases phrase with
  | package keyword name opening phrases closing =>
      rw [ElementPhrase.tree, Element.mapRefs, mapRefsIn_unlinked]
  | dataType phrase =>
      rcases phrase with ⟨pos, name, _ | ⟨equals, members⟩⟩
      · rfl
      · simp only [ElementPhrase.tree, DataTypePhrase.tree, Element.mapRefs, TypeDecl.mapRefs,
          Option.elim_some, List.map_map]
        rfl
  | entity phrase =>
      rcases phrase with ⟨pos, name, super, opening, features, closing⟩
      simp only [ElementPhrase.tree, EntityPhrase.tree, Element.mapRefs, TypeDecl.mapRefs,
        Option.map_map, List.map_map]
      rfl
  | enum phrase => rfl

theorem mapRefsIn_unlinked (path : List String) (phrases : List ElementPhrase) :
    mapRefsIn (fun _ _ => Ref.unlinked) path (treesOf phrases) = treesOf phrases := by
  cases phrases with
  | nil => rfl
  | cons phrase phrases =>
      rw [treesOf, mapRefsIn, ElementPhrase.mapRefs_unlinked, mapRefsIn_unlinked]

end

theorem isName_of_mem_features {phrase : EntityPhrase} (spelled : Spelled phrase.tokens)
    {feature : Feature} (member : feature ∈ phrase.tree.features) : IsName feature.name := by
  rw [EntityPhrase.tree, List.mem_map] at member
  rcases member with ⟨inner, listed, rfl⟩
  have inFeature : inner.name.token ∈ inner.tokens := by
    simp [FeaturePhrase.tokens]
  have inFeatures : inner.name.token ∈ phrase.features.flatMap (·.tokens) :=
    List.mem_flatMap.mpr ⟨inner, listed, inFeature⟩
  have inPhrase : inner.name.token ∈ phrase.tokens := by
    simp [EntityPhrase.tokens, inFeatures]
  exact spelled inner.name.text inner.name.pos inPhrase

theorem filled_of_tree {phrase : ElementPhrase} {decl : TypeDecl}
    (declared : phrase.tree = .type decl) (spelled : Spelled phrase.tokens) :
    (Element.type decl).Filled := by
  have named := (isName_of_tree declared spelled).ne_empty
  have written : ∀ use ref, (use, ref) ∈ decl.refs → ref.text ≠ "" := by
    intro use ref member
    rcases exists_qualified_of_mem_refs declared member with ⟨name, rfl, within⟩
    exact (QualifiedPhrase.isQualified (spelled.mono within)).ne_empty
  cases phrase with
  | package => simp [ElementPhrase.tree] at declared
  | dataType phrase =>
      cases declared
      exact ⟨named, rfl⟩
  | entity phrase =>
      cases declared
      refine ⟨named, ?_, ?_⟩
      · intro super found
        exact written .supertype super (by simp [TypeDecl.refs, found])
      · intro feature member
        refine ⟨?_, written .anyType feature.type ?_⟩
        · exact (isName_of_mem_features spelled member).ne_empty
        · simp only [TypeDecl.refs, List.mem_append, List.mem_map]
          exact .inr ⟨feature, member, rfl⟩
  | enum phrase =>
      cases declared
      exact named

mutual

theorem ElementPhrase.filled (phrase : ElementPhrase) (spelled : Spelled phrase.tokens) :
    phrase.tree.Filled := by
  cases phrase with
  | package keyword name opening phrases closing =>
      rw [ElementPhrase.tokens] at spelled
      have named : Spelled name.tokens := spelled.mono (by simp +contextual [List.subset_def])
      have inside : Spelled (tokensOf phrases) :=
        spelled.mono (by simp +contextual [List.subset_def])
      rw [ElementPhrase.tree, Element.Filled]
      exact ⟨(QualifiedPhrase.isQualified named).ne_empty, filledIn_treesOf phrases inside⟩
  | dataType phrase => exact filled_of_tree rfl spelled
  | entity phrase => exact filled_of_tree rfl spelled
  | enum phrase => exact filled_of_tree rfl spelled

theorem filledIn_treesOf (phrases : List ElementPhrase) (spelled : Spelled (tokensOf phrases)) :
    FilledIn (treesOf phrases) := by
  cases phrases with
  | nil => rw [treesOf, FilledIn]; trivial
  | cons phrase phrases =>
      rw [tokensOf] at spelled
      rw [treesOf, FilledIn]
      exact ⟨phrase.filled (spelled.mono (List.subset_append_left _ _)),
        filledIn_treesOf phrases (spelled.mono (List.subset_append_right _ _))⟩

end

end Ddef

/-- A model that was read from a source text can be written down. -/
theorem filledIn_of_parse {source : List Char} {defs : Definitions}
    (parsed : Ddef.parse source = .ok defs) : FilledIn defs.elements := by
  rcases Ddef.exists_spelled_of_parse parsed with ⟨document, rfl, spelled⟩
  exact Ddef.filledIn_treesOf document spelled

theorem bareIn_of_parse {source : List Char} {defs : Definitions}
    (parsed : Ddef.parse source = .ok defs) : bareIn defs.elements = unplacedIn defs.elements := by
  rcases Ddef.exists_spelled_of_parse parsed with ⟨document, rfl, -⟩
  rw [bareIn, Ddef.mapRefsIn_unlinked]

/-- Reading the forms of a source text's model, wherever these forms stand, gives the
model up to places. -/
theorem exists_elementsOf_of_parse {source : List Char} {defs : Definitions}
    (parsed : Ddef.parse source = .ok defs) {forms : List ElementForm}
    (same : SameForms forms (formsOf defs.elements)) :
    ∃ elements, elementsOf forms = .ok elements ∧
      unplacedIn elements = unplacedIn defs.elements := by
  have read := elementsOf_unplacedForms forms
  rw [same, unplacedForms_formsOf, elementsOf_formsOf [] defs.elements (filledIn_of_parse parsed),
    ← bareIn, bareIn_of_parse parsed] at read
  cases result : elementsOf forms with
  | error fault =>
      rw [result] at read
      contradiction
  | ok elements =>
      rw [result] at read
      exact ⟨elements, rfl, (Except.ok.inj read).symm⟩

/-- Decoding the YAML document of a model gives the forms that it was encoded from, up
to places. -/
def Definitions.Decodes (defs : Definitions) : Prop :=
  ∃ forms, formsOfYaml defs.toYaml.toUTF8.toList = .ok forms ∧
    SameForms forms (formsOf defs.elements)

/-- The data form of a model loses nothing but places and targets, and so a source text
that is converted to YAML still means the same. -/
theorem ofYaml_toYaml_of_parse :
    (∀ elements, FilledIn elements → elementsOf (formsOf elements) = .ok (bareIn elements)) ∧
      ∀ source defs, Ddef.parse source = .ok defs →
        FilledIn defs.elements ∧
          (defs.Decodes → ∃ read, Definitions.ofYaml defs.toYaml.toUTF8.toList = .ok read ∧
            unplacedIn read.elements = unplacedIn defs.elements) := by
  constructor
  · intro elements filled
    exact elementsOf_formsOf [] elements filled
  · intro source defs parsed
    refine ⟨filledIn_of_parse parsed, ?_⟩
    rintro ⟨forms, decoded, same⟩
    rcases exists_elementsOf_of_parse parsed same with ⟨elements, read, unplaced⟩
    refine ⟨{ elements }, ?_, unplaced⟩
    rw [Definitions.ofYaml, decoded]
    simp only [bind, Except.bind, read]
    rfl

/-- An entity in a package, with a supertype and a feature. -/
def writtenSource : List Char :=
  "package p \x7b entity E extends B \x7b many x: T \x7d \x7d".toList

/-- The forms of that source. -/
def writtenForms : List ElementForm :=
  [{ package := "p"
     elements := [{ entity := "E", super := "B", features := [⟨"x", "T", true, false⟩] }] }]

/-- Whether forms are those of the source. -/
def areWrittenForms : List ElementForm → Bool
  | [⟨package, "", "", "", [⟨"", "", entity, "", [], [], super, features, [], inner⟩], [], "",
      [], [], outer⟩] =>
      package == "p" && entity == "E" && super == "B" && features == [⟨"x", "T", true, false⟩] &&
        inner == {} && outer == {}
  | _ => false

theorem eq_writtenForms {forms : List ElementForm} (are : areWrittenForms forms = true) :
    forms = writtenForms := by
  unfold areWrittenForms at are
  split at are
  · simp only [Bool.and_eq_true, beq_iff_eq] at are
    rcases are with ⟨⟨⟨⟨⟨rfl, rfl⟩, rfl⟩, rfl⟩, rfl⟩, rfl⟩
    rfl
  · contradiction

theorem ofYaml_toYaml_of_parse_written :
    ∃ defs read, Ddef.parse writtenSource = .ok defs ∧ defs.Decodes ∧
      elementsOf (formsOf defs.elements) = .ok (bareIn defs.elements) ∧
      Definitions.ofYaml defs.toYaml.toUTF8.toList = .ok read ∧
      unplacedIn read.elements = unplacedIn defs.elements := by
  obtain ⟨defs, parsed⟩ : ∃ defs, Ddef.parse writtenSource = .ok defs :=
    exists_eq_ok_of_isSome (by decide +kernel)
  have encoded : (Ddef.parse writtenSource).toOption.any
      fun defs => areWrittenForms (formsOf defs.elements) := by decide +kernel
  have decoded : (Ddef.parse writtenSource).toOption.any fun defs =>
      (formsOfYaml defs.toYaml.toUTF8.toList).toOption.any
        fun forms => areWrittenForms (unplacedForms forms) := by decide +kernel
  rw [parsed] at encoded decoded
  have decodes : defs.Decodes := by
    simp only [Except.toOption, Option.any_some] at encoded decoded
    cases result : formsOfYaml defs.toYaml.toUTF8.toList with
    | error error =>
        rw [result] at decoded
        contradiction
    | ok forms =>
        simp only [result, Option.any_some] at decoded
        refine ⟨forms, result, ?_⟩
        rw [SameForms, eq_writtenForms decoded, eq_writtenForms encoded]
        rfl
  have lossless := ofYaml_toYaml_of_parse
  rcases lossless.2 writtenSource defs parsed with ⟨filled, converted⟩
  rcases converted decodes with ⟨read, succeeded, same⟩
  exact ⟨defs, read, parsed, decodes, lossless.1 defs.elements filled, succeeded, same⟩

end DomainGen
