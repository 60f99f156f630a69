import DomainGen.Proofs.Generate.Places
import DomainGen.Proofs.Model.Forms

/-!
# Converting a model keeps the generated code

Two workspaces that are equal without places are linked, checked and generated
alike (`link_congr`, `artifactsAt_congr`, `findingsAt_congr`).  A model that was
converted to its data form and back differs from the original in places only,
so it can stand in for it: the code is the same, and so are the findings.
-/

namespace DomainGen

/-- The output for the document at a position of a workspace. -/
def artifactsAt (target : Target) (options : GenerateOptions) (docs : List Document)
    (position : Nat) : List Artifact :=
  let scope := Scope.ofDocuments docs
  let defs := ((docs[position]?).bind (·.definitions)).getD {}
  target.generate scope position (analyze scope position defs) defs options

/-- What has been found out about the document at a position, without places: what each
finding concerns, how serious it is and what it says. -/
def findingsAt (docs : List Document) (position : Nat) : List Diagnostic :=
  (docs[position]?).elim [] fun doc => doc.diagnostics.map (·.unplaced)

theorem artifactsAt_unplaced (target : Target) (options : GenerateOptions)
    (docs : List Document) (position : Nat) :
    artifactsAt target options (docs.map (·.unplaced)) position =
      artifactsAt target options docs position := by
  have defs : (((docs.map (·.unplaced))[position]?).bind (·.definitions)).getD {} =
      (((docs[position]?).bind (·.definitions)).getD {}).unplaced := by
    rw [List.getElem?_map]
    cases docs[position]? with
    | none => rfl
    | some doc =>
        rw [Option.map_some, Option.bind_some, Option.bind_some, Document.unplaced]
        cases doc.definitions with
        | none => rfl
        | some defs => rfl
  simp only [artifactsAt, defs, Scope.ofDocuments_unplaced, analyze_unplaced,
    Target.generate_unplaced]

theorem findingsAt_eq (docs : List Document) (position : Nat) :
    findingsAt docs position =
      ((docs.map (·.unplaced))[position]?).elim [] (·.diagnostics) := by
  rw [findingsAt, List.getElem?_map, Option.elim_map]
  rfl

section Alike

variable {docs others : List Document}
  (alike : docs.map (·.unplaced) = others.map (·.unplaced))
include alike

theorem link_congr (group : List Nat) :
    (link group docs).map (·.unplaced) = (link group others).map (·.unplaced) := by
  rw [← link_unplaced, alike, link_unplaced]

theorem check_congr :
    (docs.map (·.check)).map (·.unplaced) = (others.map (·.check)).map (·.unplaced) := by
  have commutes : ∀ docs : List Document,
      (docs.map (·.check)).map (·.unplaced) = (docs.map (·.unplaced)).map (·.check) := by
    intro docs
    simp [Function.comp_def, Document.check_unplaced]
  rw [commutes, alike, commutes]

theorem artifactsAt_congr (target : Target) (options : GenerateOptions) (position : Nat) :
    artifactsAt target options docs position = artifactsAt target options others position := by
  rw [← artifactsAt_unplaced, alike, artifactsAt_unplaced]

theorem findingsAt_congr (position : Nat) :
    findingsAt docs position = findingsAt others position := by
  rw [findingsAt_eq, alike, findingsAt_eq]

end Alike

/-- A document can be replaced by one that is equal without places. -/
theorem set_alike {docs : List Document} {position : Nat} {doc other : Document}
    (found : docs[position]? = some doc) (alike : other.unplaced = doc.unplaced) :
    (docs.set position other).map (·.unplaced) = docs.map (·.unplaced) := by
  rw [List.map_set, alike]
  apply List.ext_getElem?
  intro place
  rw [List.getElem?_set, List.getElem?_map]
  split
  · next same =>
    subst same
    rcases List.getElem?_eq_some_iff.mp found with ⟨inside, rfl⟩
    simp [inside]
  · rfl

/-- Put the model that forms stand for in the place of a document's own model.  The
converted document may stand in another file. -/
def Document.converted (doc : Document) (path origin : String) (elements : List Element) :
    Document :=
  { doc with path, definitions := some { source := origin, elements } }

/-- A model that was read from a source text, written down as data and read back, takes
the place of the original in every workspace: the generated code and the findings are
the same. -/
theorem converted_artifacts_findings (source : List Char) (defs : Definitions)
    (parsed : Ddef.parse source = .ok defs) (forms : List ElementForm)
    (same : SameForms forms (formsOf defs.elements)) :
    ∃ elements, elementsOf forms = .ok elements ∧
      ∀ (group : List Nat) (docs : List Document) (position : Nat) (doc : Document)
        (path origin : String),
        docs[position]? = some doc → doc.definitions = some defs →
        let linked := link group docs
        let relinked := link group (docs.set position (doc.converted path origin elements))
        (∀ target options place,
          artifactsAt target options relinked place = artifactsAt target options linked place) ∧
        (∀ place, findingsAt relinked place = findingsAt linked place) ∧
        ∀ place, findingsAt (relinked.map (·.check)) place =
          findingsAt (linked.map (·.check)) place := by
  rcases exists_elementsOf_of_parse parsed same with ⟨elements, read, unplaced⟩
  refine ⟨elements, read, ?_⟩
  intro group docs position doc path origin found model linked relinked
  have alike : (doc.converted path origin elements).unplaced = doc.unplaced := by
    simp only [Document.converted, Document.unplaced, model, Option.map_some,
      Definitions.unplaced, unplaced]
  have alike : relinked.map (·.unplaced) = linked.map (·.unplaced) :=
    link_congr (set_alike found alike) group
  exact ⟨artifactsAt_congr alike, findingsAt_congr alike, findingsAt_congr (check_congr alike)⟩

theorem converted_artifacts_findings_written :
    ∃ defs elements, Ddef.parse writtenSource = .ok defs ∧
      elementsOf (formsOf defs.elements) = .ok elements ∧
      let doc : Document := { path := "a.ddef", definitions := some defs }
      let linked := link [0] [doc]
      let relinked := link [0] [doc.converted "a.yaml" "" elements]
      (artifactsAt .java {} linked 0).length = 2 ∧ (findingsAt linked 0).length = 2 ∧
        (∀ target options,
          artifactsAt target options relinked 0 = artifactsAt target options linked 0) ∧
        findingsAt relinked 0 = findingsAt linked 0 := by
  obtain ⟨defs, parsed⟩ : ∃ defs, Ddef.parse writtenSource = .ok defs :=
    exists_eq_ok_of_isSome (by decide +kernel)
  have output : (Ddef.parse writtenSource).toOption.all fun defs =>
      let linked := link [0] [{ path := "a.ddef", definitions := some defs }]
      (artifactsAt .java {} linked 0).length == 2 && (findingsAt linked 0).length == 2 := by
    decide +kernel
  rw [parsed] at output
  simp only [Except.toOption, Option.all_some, Bool.and_eq_true, beq_iff_eq] at output
  rcases converted_artifacts_findings writtenSource defs parsed (formsOf defs.elements) rfl with
    ⟨elements, read, kept⟩
  rcases kept [0] [{ path := "a.ddef", definitions := some defs }] 0 _ "a.yaml" "" rfl rfl with
    ⟨artifacts, findings, -⟩
  exact ⟨defs, elements, parsed, read, output.1, output.2,
    fun target options => artifacts target options 0, findings 0⟩

end DomainGen
