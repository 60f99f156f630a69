import DomainGen.Proofs.Model.Forms
import DomainGen.Proofs.Outcome

/-!
# Which forms are accepted

A form can hold any combination of keys, and of what it holds only a part is looked at: a package
is entered, and nothing else is.  The forms that are reached so (`reachedIn`), from the outside
in and in the order in which they stand, decide the outcome: if all of them are sound, the forms
stand for elements, and otherwise the first that is not gives the fault and its place
(`map_formsOf_elementsOf`).

What is not looked at is lost (`prunedForms`), and nothing else.
-/

namespace DomainGen

/-! ## Sound forms -/

namespace FeatureForm

/-- A feature with a name and a type. -/
def Complete (form : FeatureForm) : Prop := form.name ≠ "" ∧ form.type ≠ ""

instance (form : FeatureForm) : Decidable form.Complete :=
  inferInstanceAs (Decidable (_ ∧ _))

theorem not_complete_iff (form : FeatureForm) :
    ¬ form.Complete ↔ form.name = "" ∨ form.type = "" := by
  rw [Complete, Decidable.not_and_iff_not_or_not, Decidable.not_not, Decidable.not_not]

end FeatureForm

namespace ElementForm

variable (form : ElementForm)

/-- The values of the four keys that name a kind. -/
def names : List String := [form.package, form.dataType, form.entity, form.enum]

/-- A form of exactly one kind.  If it is an entity, its features are complete. -/
structure Sound : Prop where
  single : form.names.countP (· ≠ "") = 1
  complete : form.entity ≠ "" → ∀ feature ∈ form.features, feature.Complete

instance : Decidable form.Sound :=
  decidable_of_iff (_ ∧ _) ⟨fun ⟨single, complete⟩ => ⟨single, complete⟩,
    fun sound => ⟨sound.single, sound.complete⟩⟩

/-- What is wrong with a form that is not sound. -/
def fault : FormFault :=
  if form.names.countP (· ≠ "") = 1 then .incompleteFeature form.entity else .kinds form.kinds

end ElementForm

mutual

/-- The forms that are reached from a form, itself first. -/
def ElementForm.reached : ElementForm → List ElementForm
  | ⟨package, dataType, entity, enum, elements, members, super, features, literals, pos⟩ =>
      ⟨package, dataType, entity, enum, elements, members, super, features, literals, pos⟩ ::
        if package = "" then [] else reachedIn elements

/-- The forms that are reached from forms, one after the other. -/
def reachedIn : List ElementForm → List ElementForm
  | [] => []
  | form :: rest => form.reached ++ reachedIn rest

end

/-- The outcome of looking at forms one after the other. -/
def judged (forms : List ElementForm) : Except (FormFault × Position) Unit :=
  match forms.find? (¬ ·.Sound) with
  | none => .ok ()
  | some form => .error (form.fault, form.pos)

@[simp] theorem judged_nil : judged [] = .ok () := rfl

theorem judged_append (forms others : List ElementForm) :
    judged (forms ++ others) = (judged forms).bind fun _ => judged others := by
  unfold judged
  rw [List.find?_append]
  cases forms.find? (¬ ·.Sound) with
  | none => rfl
  | some form => rfl

theorem judged_cons_of_sound {form : ElementForm} (sound : form.Sound)
    (forms : List ElementForm) : judged (form :: forms) = judged forms := by
  rw [judged, List.find?_cons_of_neg (by simpa using sound), ← judged]

theorem judged_cons_of_not_sound {form : ElementForm} (unsound : ¬ form.Sound)
    (forms : List ElementForm) : judged (form :: forms) = .error (form.fault, form.pos) := by
  rw [judged, List.find?_cons_of_pos (by simpa using unsound)]

theorem judged_eq_ok_iff {forms : List ElementForm} :
    judged forms = .ok () ↔ ∀ form ∈ forms, form.Sound := by
  unfold judged
  cases first : forms.find? (¬ ·.Sound) with
  | none => simpa using first
  | some form =>
      have unsound := List.find?_some first
      simp only [decide_eq_true_eq] at unsound
      constructor
      · intro same
        cases same
      · intro sound
        exact absurd (sound form (List.mem_of_find?_eq_some first)) unsound

/-! ## What belongs to a kind -/

mutual

/-- A form without what does not belong to its kind. -/
def ElementForm.pruned : ElementForm → ElementForm
  | ⟨package, dataType, entity, enum, elements, members, super, features, literals, pos⟩ =>
      { package, dataType, entity, enum, pos
        elements := if package = "" then [] else prunedForms elements
        members := if dataType = "" then [] else members
        super := if entity = "" then "" else super
        features := if entity = "" then [] else features
        literals := if enum = "" then [] else literals }

/-- Forms without what does not belong to their kinds, also inside packages. -/
def prunedForms : List ElementForm → List ElementForm
  | [] => []
  | form :: rest => form.pruned :: prunedForms rest

end

namespace ElementForm

variable (form : ElementForm)

theorem length_kinds : form.kinds.length = form.names.countP (· ≠ "") := by
  unfold kinds names
  by_cases package : form.package = "" <;> by_cases dataType : form.dataType = "" <;>
    by_cases entity : form.entity = "" <;> by_cases enum : form.enum = "" <;>
      simp [package, dataType, entity, enum]

/-- A form has one of the four kinds, or not exactly one. -/
inductive Kinded : Prop where
  | package (kind : form.kinds = ["package"]) (named : form.package ≠ "")
      (others : form.dataType = "" ∧ form.entity = "" ∧ form.enum = "")
  | dataType (kind : form.kinds = ["datatype"]) (named : form.dataType ≠ "")
      (others : form.package = "" ∧ form.entity = "" ∧ form.enum = "")
  | entity (kind : form.kinds = ["entity"]) (named : form.entity ≠ "")
      (others : form.package = "" ∧ form.dataType = "" ∧ form.enum = "")
  | enum (kind : form.kinds = ["enum"]) (named : form.enum ≠ "")
      (others : form.package = "" ∧ form.dataType = "" ∧ form.entity = "")
  | many (many : form.kinds.length ≠ 1)

theorem kinded : form.Kinded := by
  by_cases single : form.kinds.length = 1
  case neg => exact .many single
  unfold kinds at single
  by_cases package : form.package = "" <;> by_cases dataType : form.dataType = "" <;>
    by_cases entity : form.entity = "" <;> by_cases enum : form.enum = "" <;>
      simp [package, dataType, entity, enum] at single
  · exact .enum (by simp [kinds, package, dataType, entity, enum]) enum ⟨package, dataType, entity⟩
  · exact .entity (by simp [kinds, package, dataType, entity, enum]) entity
      ⟨package, dataType, enum⟩
  · exact .dataType (by simp [kinds, package, dataType, entity, enum]) dataType
      ⟨package, entity, enum⟩
  · exact .package (by simp [kinds, package, dataType, entity, enum]) package
      ⟨dataType, entity, enum⟩

theorem reached_eq :
    form.reached = form :: if form.package = "" then [] else reachedIn form.elements := by
  cases form
  rw [reached]

theorem pruned_eq :
    form.pruned =
      { form with
        elements := if form.package = "" then [] else prunedForms form.elements
        members := if form.dataType = "" then [] else form.members
        super := if form.entity = "" then "" else form.super
        features := if form.entity = "" then [] else form.features
        literals := if form.enum = "" then [] else form.literals } := by
  cases form
  rw [pruned]

theorem kinds_pruned : form.pruned.kinds = form.kinds := by
  rw [pruned_eq]
  rfl

theorem unplaced_pruned :
    form.pruned.unplaced =
      { package := form.package
        dataType := form.dataType
        entity := form.entity
        enum := form.enum
        elements := if form.package = "" then [] else unplacedForms (prunedForms form.elements)
        members := if form.dataType = "" then [] else form.members
        super := if form.entity = "" then "" else form.super
        features := if form.entity = "" then [] else form.features
        literals := if form.enum = "" then [] else form.literals } := by
  cases form
  rw [pruned, unplaced]
  split
  · rfl
  · rfl

/-! ## The element of a form, kind by kind -/

variable {form}

theorem element_of_package (kind : form.kinds = ["package"]) :
    form.element = (elementsOf form.elements).map (.package form.package form.pos) := by
  cases form
  rw [element]
  simp only [kind]
  rfl

theorem element_of_dataType (kind : form.kinds = ["datatype"]) :
    form.element = .ok (.type (.dataType
      { name := form.dataType
        members := form.members.map (⟨·, form.pos, none⟩)
        pos := form.pos })) := by
  cases form
  rw [element]
  simp only [kind, decl]
  rfl

theorem element_of_entity (kind : form.kinds = ["entity"]) :
    form.element = (featuresAt form.pos form.entity form.features).map fun features =>
      .type (.entity ⟨form.entity,
        if form.super = "" then none else some ⟨form.super, form.pos, none⟩, features,
        form.pos⟩) := by
  cases form
  rw [element]
  simp only [kind, decl]
  rename_i pos
  cases featuresAt pos _ _ with
  | error fault => rfl
  | ok features => rfl

theorem element_of_enum (kind : form.kinds = ["enum"]) :
    form.element = .ok (.type (.enum
      ⟨form.enum, form.literals.map (⟨·, form.pos⟩), form.pos⟩)) := by
  cases form
  rw [element]
  simp only [kind, decl]
  rfl

theorem element_of_many (many : form.kinds.length ≠ 1) :
    form.element = .error (.kinds form.kinds, form.pos) := by
  have other : ∀ kind, form.kinds ≠ [kind] := by
    intro kind same
    rw [same] at many
    exact many rfl
  cases form
  rw [element]
  simp only [decl]
  split
  · next kind => exact absurd kind (other _)
  · split
    · next kind => exact absurd kind (other _)
    · next kind => exact absurd kind (other _)
    · next kind => exact absurd kind (other _)
    · rfl

theorem featuresAt_eq (pos : Position) (entity : String) (forms : List FeatureForm) :
    featuresAt pos entity forms =
      if ∀ form ∈ forms, form.Complete then
        .ok (forms.map fun form =>
          ⟨form.name, ⟨form.type, pos, none⟩, form.many, form.nonNullable, pos⟩)
      else .error (.incompleteFeature entity, pos) := by
  induction forms with
  | nil => rfl
  | cons form forms ih =>
      rw [featuresAt_cons, ih]
      simp only [List.forall_mem_cons]
      by_cases complete : form.Complete
      · have filled : ¬ (form.name = "" || form.type = "") := by
          simpa [FeatureForm.Complete] using complete
        rw [if_neg filled]
        simp only [complete, true_and]
        split
        · rfl
        · rfl
      · have empty : (form.name = "" || form.type = "") := by
          simpa using form.not_complete_iff.mp complete
        rw [if_pos empty, if_neg (fun every => complete every.1)]

/-! ## One form -/

/-- What does not belong to the kind of a form has no part in its element. -/
theorem element_pruned_of
    (inside : elementsOf (prunedForms form.elements) = elementsOf form.elements) :
    form.pruned.element = form.element := by
  have same := form.kinds_pruned
  cases form.kinded with
  | package kind named _ =>
      rw [element_of_package kind, element_of_package (same.trans kind), pruned_eq]
      simp only [if_neg named, inside]
  | dataType kind named _ =>
      rw [element_of_dataType kind, element_of_dataType (same.trans kind), pruned_eq]
      simp only [if_neg named]
  | entity kind named _ =>
      rw [element_of_entity kind, element_of_entity (same.trans kind), pruned_eq]
      simp only [if_neg named]
  | enum kind named _ =>
      rw [element_of_enum kind, element_of_enum (same.trans kind), pruned_eq]
      simp only [if_neg named]
  | many many => rw [element_of_many many, element_of_many (same.symm ▸ many), same, pruned_eq]

theorem sound_of_length_kinds (single : form.kinds.length = 1)
    (complete : form.entity ≠ "" → ∀ feature ∈ form.features, feature.Complete) : form.Sound :=
  ⟨by rwa [← length_kinds], complete⟩

theorem fault_of_length_kinds (single : form.kinds.length = 1) :
    form.fault = .incompleteFeature form.entity := by
  rw [fault, ← length_kinds, if_pos single]

theorem fault_of_many (many : form.kinds.length ≠ 1) : form.fault = .kinds form.kinds := by
  rw [fault, ← length_kinds, if_neg many]

/-- Reading a form, and writing down the element again, keeps what belongs to its kind. -/
def Settles (form : ElementForm) : Prop :=
  form.element.map Element.form? =
    (judged form.reached).map fun _ => some form.pruned.unplaced

/-- An empty text stands for no supertype, and no supertype is written as one. -/
theorem text_super (pos : Position) (super : String) :
    (Option.map (·.text) (if super = "" then none else some (⟨super, pos, none⟩ : Ref))).getD "" =
      super := by
  split
  · next empty => exact empty.symm
  · rfl

theorem settles_package (kind : form.kinds = ["package"]) (named : form.package ≠ "")
    (others : form.dataType = "" ∧ form.entity = "" ∧ form.enum = "")
    (inside : (elementsOf form.elements).map formsOf =
      (judged (reachedIn form.elements)).map fun _ => unplacedForms (prunedForms form.elements)) :
    form.Settles := by
  have sound : form.Sound :=
    form.sound_of_length_kinds (by rw [kind]; rfl) (absurd others.2.1)
  have written : form.element.map Element.form? =
      ((elementsOf form.elements).map formsOf).map fun inner =>
        some { package := form.package, elements := inner } := by
    rw [element_of_package kind]
    cases elementsOf form.elements with
    | error fault => rfl
    | ok inner => simp only [Except.map, Element.form?]
  rw [Settles, written, inside, reached_eq, judged_cons_of_sound sound, unplaced_pruned]
  simp only [named, others, if_true, if_false]
  cases judged (reachedIn form.elements) with
  | error fault => rfl
  | ok _ => rfl

theorem settles_dataType (kind : form.kinds = ["datatype"]) (named : form.dataType ≠ "")
    (others : form.package = "" ∧ form.entity = "" ∧ form.enum = "") : form.Settles := by
  have sound : form.Sound := form.sound_of_length_kinds (by rw [kind]; rfl) (absurd others.2.1)
  rw [Settles, element_of_dataType kind, reached_eq, judged_cons_of_sound sound, if_pos others.1,
    unplaced_pruned]
  simp [named, others, Except.map, Element.form?, Function.comp_def]

theorem settles_entity (kind : form.kinds = ["entity"]) (named : form.entity ≠ "")
    (others : form.package = "" ∧ form.dataType = "" ∧ form.enum = "") : form.Settles := by
  rw [Settles, element_of_entity kind, featuresAt_eq, reached_eq, if_pos others.1]
  by_cases complete : ∀ feature ∈ form.features, feature.Complete
  · have sound : form.Sound :=
      form.sound_of_length_kinds (by rw [kind]; rfl) fun _ => complete
    rw [if_pos complete, judged_cons_of_sound sound, unplaced_pruned]
    simp [named, others, Except.map, Element.form?, Function.comp_def, text_super]
  · have unsound : ¬ form.Sound := fun sound => complete (sound.complete named)
    rw [if_neg complete, judged_cons_of_not_sound unsound,
      fault_of_length_kinds (by rw [kind]; rfl)]
    rfl

theorem settles_enum (kind : form.kinds = ["enum"]) (named : form.enum ≠ "")
    (others : form.package = "" ∧ form.dataType = "" ∧ form.entity = "") : form.Settles := by
  have sound : form.Sound :=
    form.sound_of_length_kinds (by rw [kind]; rfl) (absurd others.2.2)
  rw [Settles, element_of_enum kind, reached_eq, judged_cons_of_sound sound, if_pos others.1,
    unplaced_pruned]
  simp [named, others, Except.map, Element.form?, Function.comp_def]

theorem settles_many (many : form.kinds.length ≠ 1) : form.Settles := by
  have unsound : ¬ form.Sound := by
    intro sound
    rw [length_kinds] at many
    exact many sound.single
  rw [Settles, element_of_many many, reached_eq, judged_cons_of_not_sound unsound,
    fault_of_many many]
  rfl

theorem settles_of (inside : (elementsOf form.elements).map formsOf =
      (judged (reachedIn form.elements)).map fun _ => unplacedForms (prunedForms form.elements)) :
    form.Settles := by
  cases form.kinded with
  | package kind named others => exact settles_package kind named others inside
  | dataType kind named others => exact settles_dataType kind named others
  | entity kind named others => exact settles_entity kind named others
  | enum kind named others => exact settles_enum kind named others
  | many many => exact settles_many many

end ElementForm

/-! ## Many forms -/

mutual

theorem ElementForm.element_pruned (form : ElementForm) : form.pruned.element = form.element := by
  rcases form with
    ⟨package, dataType, entity, enum, elements, members, super, features, literals, pos⟩
  exact ElementForm.element_pruned_of (elementsOf_prunedForms elements)

/-- What does not belong to their kinds has no part in what forms stand for. -/
theorem elementsOf_prunedForms (forms : List ElementForm) :
    elementsOf (prunedForms forms) = elementsOf forms := by
  cases forms with
  | nil => rfl
  | cons form forms =>
      rw [prunedForms, elementsOf, elementsOf, ElementForm.element_pruned,
        elementsOf_prunedForms]

end

mutual

theorem ElementForm.settles (form : ElementForm) : form.Settles := by
  rcases form with
    ⟨package, dataType, entity, enum, elements, members, super, features, literals, pos⟩
  exact ElementForm.settles_of (map_formsOf_elementsOf elements)

/-- Reading forms, and writing down what they stand for, comes down to the forms that are
reached: the first that is not sound ends the reading, and otherwise all that belongs to the
kinds of the forms is kept. -/
theorem map_formsOf_elementsOf (forms : List ElementForm) :
    (elementsOf forms).map formsOf =
      (judged (reachedIn forms)).map fun _ => unplacedForms (prunedForms forms) := by
  cases forms with
  | nil => rw [elementsOf, reachedIn, prunedForms, judged_nil]; rfl
  | cons form forms =>
      have first := ElementForm.settles form
      have rest := map_formsOf_elementsOf forms
      rw [ElementForm.Settles] at first
      rw [elementsOf, reachedIn, prunedForms, unplacedForms, judged_append]
      cases read : form.element with
      | error fault =>
          rw [read] at first
          rw [eq_error_of_map_eq first.symm]
          rfl
      | ok element =>
          rw [read] at first
          obtain ⟨⟨⟩, verdict, shape⟩ := exists_of_map_eq_ok first.symm
          rw [verdict]
          cases read : elementsOf forms with
          | error fault =>
              rw [read] at rest
              simp only [bind, Except.bind]
              rw [eq_error_of_map_eq rest.symm]
              rfl
          | ok elements =>
              rw [read] at rest
              obtain ⟨⟨⟩, verdict, shapes⟩ := exists_of_map_eq_ok rest.symm
              simp only [bind, Except.bind, pure, Except.pure, Except.map, verdict, formsOf,
                ← shape, shapes]

end

/-! ## Writing down without places -/

mutual

theorem Element.form?_unplaced (element : Element) : element.unplaced.form? = element.form? := by
  cases element with
  | package name pos elements =>
      rw [Element.unplaced, Element.form?, Element.form?, formsOf_unplacedIn]
  | type decl =>
      rw [Element.unplaced]
      cases decl with
      | dataType type => simp [TypeDecl.unplaced, DataType.unplaced, Element.form?]
      | entity type =>
          simp [TypeDecl.unplaced, Entity.unplaced, Feature.unplaced, Element.form?,
            Function.comp_def]
      | enum type =>
          simp [TypeDecl.unplaced, Enum.unplaced, Literal.unplaced, Element.form?,
            Function.comp_def]
      | foreign name => rfl
  | foreign name => rw [Element.unplaced]

/-- Places are not written down. -/
theorem formsOf_unplacedIn (elements : List Element) :
    formsOf (unplacedIn elements) = formsOf elements := by
  cases elements with
  | nil => rfl
  | cons element elements =>
      rw [unplacedIn, formsOf, formsOf, Element.form?_unplaced, formsOf_unplacedIn]

end

/-! ## Acceptance -/

/-- Forms are accepted exactly if every form that is reached is sound, and otherwise the first
that is not gives the fault and its place.  The elements of accepted forms are written down as
the forms without what does not belong to their kinds; reading these gives the same elements
without places, which are written down alike. -/
theorem elementsOf_accepts (forms : List ElementForm) :
    ((∃ elements, elementsOf forms = .ok elements) ↔ ∀ form ∈ reachedIn forms, form.Sound) ∧
      (∀ form, (reachedIn forms).find? (¬ ·.Sound) = some form →
        elementsOf forms = .error (form.fault, form.pos)) ∧
      ∀ elements, elementsOf forms = .ok elements →
        formsOf elements = unplacedForms (prunedForms forms) ∧
          elementsOf (formsOf elements) = .ok (unplacedIn elements) ∧
            formsOf (unplacedIn elements) = formsOf elements := by
  have written := map_formsOf_elementsOf forms
  refine ⟨⟨?accepted, ?sound⟩, ?refused, ?kept⟩
  case accepted =>
    intro ⟨elements, read⟩
    rw [read] at written
    obtain ⟨⟨⟩, verdict, -⟩ := exists_of_map_eq_ok written.symm
    exact judged_eq_ok_iff.mp verdict
  case sound =>
    intro sound
    rw [judged_eq_ok_iff.mpr sound] at written
    obtain ⟨elements, read, -⟩ := exists_of_map_eq_ok written
    exact ⟨elements, read⟩
  case refused =>
    intro form first
    rw [judged, first] at written
    exact eq_error_of_map_eq written
  case kept =>
    intro elements read
    rw [read] at written
    obtain ⟨⟨⟩, -, shapes⟩ := exists_of_map_eq_ok written.symm
    refine ⟨shapes.symm, ?_, formsOf_unplacedIn elements⟩
    rw [← shapes, elementsOf_unplacedForms, elementsOf_prunedForms, read]
    rfl

/-- The diagnostic for a document that is not accepted stands at that form. -/
theorem ofYaml_of_unsound {bytes : List UInt8} {forms : List ElementForm}
    (decoded : formsOfYaml bytes = .ok forms) {form : ElementForm}
    (first : (reachedIn forms).find? (¬ ·.Sound) = some form) :
    Definitions.ofYaml bytes = .error (form.fault.diagnostic form.pos) := by
  have written := map_formsOf_elementsOf forms
  rw [judged, first] at written
  rw [Definitions.ofYaml, decoded]
  simp only [bind, Except.bind, eq_error_of_map_eq written]
  rfl

end DomainGen
