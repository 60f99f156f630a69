import DomainGen.Ddef.Parser
import DomainGen.Proofs.Link.Effect

/-!
# Runs of linking and checking

A workspace is used step by step: some of its documents are linked, or one of them
is checked, in any order and any number of times.  However long the run, a
document only ever advances.  Open references get targets among the types that the
linked documents declare, findings are appended, and nothing else changes
(`Document.Advances`).

Linking the same group once more finds nothing new and reports the same again
(`getElem?_link_link`).
-/

namespace DomainGen

/-! ## Advancing -/

/-- A document and a later state of it.  Open references may have got targets for which
`declared` holds, and findings may have been appended. -/
structure Document.Advances (declared : TypeId → Prop) (before after : Document) : Prop where
  path : after.path = before.path
  definitions : ∃ found : List String → RefUse → Ref → Option TypeId,
    (∀ path use ref id, found path use ref = some id → declared id) ∧
      after.definitions = before.definitions.map
        (·.mapRefs fun path use ref => ref.filled (found path use ref))
  diagnostics : before.diagnostics <+: after.diagnostics

theorem Ref.filled_none (ref : Ref) : ref.filled none = ref := by
  rw [Ref.filled, Option.or_none]

namespace Document.Advances

variable {declared : TypeId → Prop} {before between after : Document}

theorem ofReport (doc : Document) (findings : List Diagnostic) :
    doc.Advances declared (doc.reportAll findings) := by
  refine ⟨rfl, ⟨fun _ _ _ => none, nofun, ?_⟩, List.prefix_append _ _⟩
  simp only [Ref.filled_none, Definitions.mapRefs, mapRefsIn_self]
  exact (Option.map_id' ..).symm

theorem refl (doc : Document) : doc.Advances declared doc := by
  simpa using ofReport doc []

theorem trans (one : before.Advances declared between) (two : between.Advances declared after) :
    before.Advances declared after := by
  obtain ⟨first, firstDeclared, model⟩ := one.definitions
  obtain ⟨second, secondDeclared, further⟩ := two.definitions
  refine ⟨two.path.trans one.path, ⟨fun path use ref => (first path use ref).or
    (second path use (ref.filled (first path use ref))), ?_, ?_⟩,
    one.diagnostics.trans two.diagnostics⟩
  · intro path use ref id found
    rcases Option.or_eq_some_iff.mp found with found | ⟨-, found⟩
    · exact firstDeclared path use ref id found
    · exact secondDeclared path use _ id found
  · rw [further, model, Option.map_map]
    simp only [Function.comp_def, Definitions.mapRefs_mapRefs, Ref.filled, Option.or_assoc]

theorem mono {wider : TypeId → Prop} (imply : ∀ id, declared id → wider id)
    (advances : before.Advances declared after) : before.Advances wider after := by
  obtain ⟨found, foundDeclared, model⟩ := advances.definitions
  refine ⟨advances.path, ⟨found, ?_, model⟩, advances.diagnostics⟩
  intro path use ref id target
  exact imply id (foundDeclared path use ref id target)

/-- What linking looks at in the types of a document does not change. -/
theorem headings (advances : before.Advances declared after) :
    after.locatedTypes.map heading = before.locatedTypes.map heading := by
  obtain ⟨found, -, model⟩ := advances.definitions
  unfold locatedTypes
  rw [model]
  cases before.definitions with
  | none => rfl
  | some defs =>
      rw [Option.map_some, Option.elim_some, Option.elim_some, Definitions.locatedTypes_mapRefs,
        List.map_map]
      apply List.map_congr_left
      intro located member
      simp only [Function.comp_apply, heading, locatedKey, TypeDecl.name_mapRefs,
        TypeDecl.isEntity_mapRefs, TypeDecl.pos_mapRefs]

end Document.Advances

/-! ## Steps -/

/-- One use of a workspace: linking documents with each other, or checking one. -/
inductive Step where
  | link (group : List Nat)
  | check (position : Nat)
  deriving Repr, DecidableEq

namespace Step

/-- What a step makes of a workspace. -/
def run : Step → List Document → List Document
  | link group, docs => DomainGen.link group docs
  | check position, docs => docs.modify position (·.check)

/-- The step names the document at a position. -/
def Names : Step → Nat → Prop
  | link group, position => position ∈ group
  | check checked, position => checked = position

/-- The step links a document that declares the type at a position. -/
def Declares (docs : List Document) : Step → TypeId → Prop
  | link group, id => ∃ declaration ∈ declarations group docs, declaration.id = id
  | check _, _ => False

end Step

/-- What a run of steps makes of a workspace. -/
def runSteps (steps : List Step) (docs : List Document) : List Document :=
  steps.foldl (fun docs step => step.run docs) docs

/-! ## What a step does -/

/-- A step makes a document advance, and leaves it alone unless it names it. -/
theorem Step.run_advances (step : Step) (docs : List Document) (position : Nat) :
    ∃ change : Document → Document, (step.run docs)[position]? = (docs[position]?).map change ∧
      ∀ doc, doc.Advances (step.Declares docs) (change doc) ∧
        (¬ step.Names position → change doc = doc) := by
  cases step with
  | link group =>
      refine ⟨_, getElem?_link_eq group docs position, ?_⟩
      intro doc
      constructor
      · refine .trans ?_ (.ofReport _ _)
        split
        · refine ⟨rfl, ⟨fun path use ref => (declareGroup group docs).1.lookup path use ref.text,
            ?_, ?_⟩, List.prefix_refl _⟩
          · intro path use ref id found
            exact exists_declaration_of_lookup found
          · simp only [Document.resolved, ← Index.resolve_eq]
        · exact .refl doc
      · intro unnamed
        have unlisted : position ∉ group := unnamed
        rw [if_neg unlisted, linkFindings_of_not_mem unlisted, Document.reportAll_nil]
  | check checked =>
      refine ⟨_, List.getElem?_modify _ checked docs position, ?_⟩
      intro doc
      constructor
      · split
        · rw [Document.check_eq_reportAll]
          exact .ofReport _ _
        · exact .refl doc
      · intro unnamed
        exact if_neg unnamed

theorem Step.headings_run (step : Step) (docs : List Document) (position : Nat) :
    (typesAt (step.run docs) position).map heading = (typesAt docs position).map heading := by
  obtain ⟨change, changed, advances⟩ := step.run_advances docs position
  unfold typesAt
  rw [changed]
  cases docs[position]? with
  | none => rfl
  | some doc => exact (advances doc).1.headings

/-- A step declares the same types at any time. -/
theorem Step.declares_run (step first : Step) (docs : List Document) (id : TypeId) :
    step.Declares (first.run docs) id ↔ step.Declares docs id := by
  cases step with
  | check position => exact Iff.rfl
  | link group =>
      have byEntries : ∀ docs, (Step.link group).Declares docs id ↔
          id ∈ ((declarations group docs).map fun declaration =>
            (declaration.key, declaration.entry)).map (·.2.id) := by
        intro docs
        rw [List.map_map, List.mem_map]
        rfl
      rw [byEntries, byEntries, declarations_entries (first.headings_run docs) group]

/-! ## What a run does -/

theorem runSteps_append (front back : List Step) (docs : List Document) :
    runSteps (front ++ back) docs = runSteps back (runSteps front docs) :=
  List.foldl_append

theorem runSteps_advances (steps : List Step) (docs : List Document) (position : Nat) :
    ∃ change : Document → Document,
      (runSteps steps docs)[position]? = (docs[position]?).map change ∧
      ∀ doc, doc.Advances (fun id => ∃ step ∈ steps, step.Declares docs id) (change doc) ∧
        ((∀ step ∈ steps, ¬ step.Names position) → change doc = doc) := by
  induction steps generalizing docs with
  | nil => exact ⟨id, by simp [runSteps], fun doc => ⟨.refl doc, fun _ => rfl⟩⟩
  | cons first steps ih =>
      obtain ⟨once, changed, advances⟩ := first.run_advances docs position
      obtain ⟨further, changedFurther, advancesFurther⟩ := ih (first.run docs)
      refine ⟨further ∘ once, ?_, ?_⟩
      · have run : runSteps (first :: steps) docs = runSteps steps (first.run docs) := rfl
        rw [run, changedFurther, changed, Option.map_map]
      · intro doc
        constructor
        · refine .trans ((advances doc).1.mono ?_) ((advancesFurther (once doc)).1.mono ?_)
          · intro id declares
            exact ⟨first, List.mem_cons_self, declares⟩
          · intro id declares
            obtain ⟨step, member, declares⟩ := declares
            exact ⟨step, List.mem_cons_of_mem _ member,
              (step.declares_run first docs id).mp declares⟩
        · intro unnamed
          have kept := (advances doc).2 (unnamed first List.mem_cons_self)
          rw [Function.comp_apply, kept]
          exact (advancesFurther doc).2 fun step member =>
            unnamed step (List.mem_cons_of_mem _ member)

/-! ## Linking twice -/

theorem headings_link (group : List Nat) (docs : List Document) (position : Nat) :
    (typesAt (link group docs) position).map heading = (typesAt docs position).map heading :=
  (Step.link group).headings_run docs position

theorem resolve_declareGroup_link (group : List Nat) (docs : List Document) :
    (declareGroup group (link group docs)).1.resolve = (declareGroup group docs).1.resolve :=
  Index.resolve_congr (find?_declareGroup_congr (headings_link group docs) group)

/-- The same findings are reported when the group is linked again. -/
theorem linkFindings_link (group : List Nat) (docs : List Document) (position : Nat) :
    linkFindings group (link group docs) position = linkFindings group docs position := by
  unfold linkFindings
  rw [takenWarningsAt_congr (headings_link group docs)]
  by_cases listed : position ∈ group
  · rw [getElem?_link_eq]
    cases docs[position]? with
    | none => rfl
    | some doc =>
        have same := resolve_declareGroup_link group docs
        simp only [Option.map_some, Option.elim_some, if_pos listed,
          Document.unresolvedWarnings_reportAll, Document.unresolvedWarnings_congr same,
          Document.unresolvedWarnings_resolved]
  · rw [List.count_eq_zero.mpr listed]
    rfl

/-- Linking a group again leaves the models as they are and reports the same again. -/
theorem getElem?_link_link (group : List Nat) (docs : List Document) (position : Nat) :
    (link group (link group docs))[position]? =
      ((link group docs)[position]?).map (·.reportAll (linkFindings group docs position)) := by
  have same := resolve_declareGroup_link group docs
  rw [getElem?_link_eq group (link group docs), linkFindings_link, getElem?_link_eq group docs,
    Option.map_map, Option.map_map]
  congr 1
  funext doc
  by_cases listed : position ∈ group
  · simp only [Function.comp_apply, if_pos listed, Document.resolved_reportAll,
      Document.resolved_congr same, Document.resolved_resolved]
  · simp only [Function.comp_apply, if_neg listed]

theorem length_eq_of_getElem? {docs others : List Document}
    (changed : ∀ position : Nat, ∃ change : Document → Document,
      others[position]? = (docs[position]?).map change) : others.length = docs.length := by
  apply Nat.le_antisymm
  · obtain ⟨change, last⟩ := changed docs.length
    rw [List.getElem?_eq_none (Nat.le_refl _), Option.map_none] at last
    exact List.getElem?_eq_none_iff.mp last
  · obtain ⟨change, last⟩ := changed others.length
    rw [List.getElem?_eq_none (Nat.le_refl _), eq_comm, Option.map_eq_none_iff] at last
    exact List.getElem?_eq_none_iff.mp last

/-- However documents are linked and checked, from any moment of a run to any later one
each document advances: targets that are set stay, new ones are types that a linked
document declares, findings are appended, and a document that no step names stays as it
is.  Linking a group twice in a row leaves the models of the first time and reports the
same findings again. -/
theorem runSteps_stable (docs : List Document) (front back : List Step) :
    let earlier := runSteps front docs
    let later := runSteps (front ++ back) docs
    later.length = earlier.length ∧
      (∀ (position : Nat) (doc : Document), earlier[position]? = some doc →
        ∃ after, later[position]? = some after ∧
          doc.Advances (fun id => ∃ step ∈ back, step.Declares earlier id) after ∧
          ((∀ step ∈ back, ¬ step.Names position) → after = doc)) ∧
      ∀ (group : List Nat) (position : Nat) (doc : Document), earlier[position]? = some doc →
        ∃ once findings, (link group earlier)[position]? = some once ∧
          once.diagnostics = doc.diagnostics ++ findings ∧
          (link group (link group earlier))[position]? =
            some { once with diagnostics := once.diagnostics ++ findings } := by
  intro earlier later
  have run : ∀ position : Nat, ∃ change : Document → Document,
      later[position]? = (earlier[position]?).map change ∧
      ∀ doc, doc.Advances (fun id => ∃ step ∈ back, step.Declares earlier id) (change doc) ∧
        ((∀ step ∈ back, ¬ step.Names position) → change doc = doc) := by
    intro position
    have divided : later = runSteps back earlier := runSteps_append front back docs
    rw [divided]
    exact runSteps_advances back earlier position
  refine ⟨?_, ?_, ?_⟩
  · apply length_eq_of_getElem?
    intro position
    obtain ⟨change, changed, -⟩ := run position
    exact ⟨change, changed⟩
  · intro position doc found
    obtain ⟨change, changed, advances⟩ := run position
    rw [found, Option.map_some] at changed
    exact ⟨change doc, changed, advances doc⟩
  · intro group position doc found
    have first := getElem?_link_eq group earlier position
    have second := getElem?_link_link group earlier position
    rw [found, Option.map_some] at first
    rw [first, Option.map_some] at second
    refine ⟨_, (linkFindings group earlier position).map (·.placedIn doc.path), first, ?_, ?_⟩
    · rw [Document.diagnostics_reportAll]
      split
      · rfl
      · rfl
    · rw [second, Document.reportAll]
      split
      · rfl
      · rfl

/-- Three documents, of which the first refers to a type of the second and to one that
none of them declares. -/
def growingDocs : List Document :=
  ["entity b \x7b x: A y: C \x7d", "entity A \x7b \x7d entity A \x7b \x7d", "enum D \x7b \x7d"].map
    fun source => { definitions := (Ddef.parse source.toList).toOption }

theorem runSteps_stable_growingDocs :
    let targets := fun doc : Document => doc.locatedRefs.map (·.2.2.target)
    ∃ doc after, (runSteps [.link [0, 2]] growingDocs)[0]? = some doc ∧
      (runSteps ([.link [0, 2]] ++ [.link [1, 0], .check 0]) growingDocs)[0]? = some after ∧
      doc.Advances (fun id => ∃ step ∈ [Step.link [1, 0], .check 0],
        step.Declares (runSteps [.link [0, 2]] growingDocs) id) after ∧
      targets doc = [none, none] ∧ targets after = [some ⟨1, 0⟩, none] ∧
      doc.diagnostics.length = 2 ∧ after.diagnostics.length = 4 := by
  intro targets
  obtain ⟨-, advances, -⟩ :=
    runSteps_stable growingDocs [.link [0, 2]] [.link [1, 0], .check 0]
  have before : ((runSteps [.link [0, 2]] growingDocs)[0]?).map (fun doc =>
      (targets doc, doc.diagnostics.length)) = some ([none, none], 2) := by
    decide +kernel
  obtain ⟨doc, found, seen⟩ := Option.map_eq_some_iff.mp before
  obtain ⟨after, later, advance, -⟩ := advances 0 doc found
  have final : ((runSteps ([.link [0, 2]] ++ [.link [1, 0], .check 0]) growingDocs)[0]?).map
      (fun doc => (targets doc, doc.diagnostics.length)) = some ([some ⟨1, 0⟩, none], 4) := by
    decide +kernel
  rw [later, Option.map_some, Option.some.injEq] at final
  exact ⟨doc, after, found, later, advance, (Prod.mk.inj seen).1, (Prod.mk.inj final).1,
    (Prod.mk.inj seen).2, (Prod.mk.inj final).2⟩

end DomainGen
