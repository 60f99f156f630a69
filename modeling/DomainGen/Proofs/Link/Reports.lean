import DomainGen.Proofs.Link.Stability
import Mathlib.Data.List.Nodup

/-!
# What is reported, exactly

The findings of linking and checking can be read off the models.  A type is told of when
its qualified name was declared before: by a document that was linked earlier, or further
to the front in its own document.  A reference is told of when it has no target in the
linked model.  A type is told of by a check when its name does not start with a capital.

Linking a document that nothing was found out about reports the types and then the
references (`diagnostics_link`), and all that linking and checking ever add are warnings
(`runSteps_adds`).
-/

namespace DomainGen

/-- A warning about a place in a file. -/
def Diagnostic.warningIn (file : String) (concern : Concern) (pos : Position)
    (message : String) : Diagnostic :=
  { concern, severity := .warning, message, file, line := pos.line, column := pos.column }

theorem Diagnostic.placedIn_warningAt (file : String) (concern : Concern) (pos : Position)
    (message : String) :
    (warningAt concern pos message).placedIn file = warningIn file concern pos message :=
  if_pos rfl

/-- The findings about the types of a document whose qualified names were declared before:
they are among the given names, or belong to types further to the front. -/
def duplicateFindings (file : String) (before : List String)
    (located : List (List String × TypeDecl)) : List Diagnostic :=
  (located.zipIdx.filter fun (type, index) =>
    locatedKey type ∈ before ++ (located.take index).map locatedKey).map fun (type, _) =>
      .warningIn file .semantic type.2.pos
        ("Duplicate type name '" ++ locatedKey type ++ "'; the first declaration wins.")

/-- The findings about the references of a model that have no target. -/
def unresolvedFindings (file : String) (defs : Definitions) : List Diagnostic :=
  (defs.refs.filter (·.2.target = none)).map fun (use, ref) =>
    .warningIn file .linking ref.pos
      ("Could not resolve reference to " ++ use.word ++ " named '" ++ ref.text ++ "'.")

/-- The findings about the types whose names start with a character that is not its own
upper case. -/
def capitalFindings (file : String) (types : List TypeDecl) : List Diagnostic :=
  (types.filter fun decl => decl.name.toList.head?.any fun first => Text.upper first ≠ first).map
    fun decl => .warningIn file .semantic decl.pos "Type name should start with a capital."

/-! ## Names that are taken -/

/-- A type meets the names before it in its document after those of the documents before. -/
theorem map_takenWarnings (file : String) (before : List String)
    (located : List (List String × TypeDecl)) :
    (takenWarnings before located).map (·.placedIn file) =
      duplicateFindings file before located := by
  induction located generalizing before with
  | nil => rfl
  | cons first rest ih =>
      -- For the types behind it, the name of the first one is as good as taken before.
      have later : ∀ entry : (List String × TypeDecl) × Nat,
          locatedKey entry.1 ∈ before ++ ((first :: rest).take (entry.2 + 1)).map locatedKey ↔
            locatedKey entry.1 ∈
              (before ++ [locatedKey first]) ++ (rest.take entry.2).map locatedKey := by
        intro entry
        rw [List.take_succ_cons, List.map_cons, List.append_assoc, List.singleton_append]
      rw [takenWarnings, List.map_append, ih, duplicateFindings, duplicateFindings,
        List.zipIdx_cons, List.zipIdx_succ, List.filter_cons, List.filter_map]
      simp only [Function.comp_def, later]
      by_cases taken : locatedKey first ∈ before
      · simp [taken, duplicateWarning, Diagnostic.placedIn_warningAt]
      · simp [taken]

/-- The qualified names that some documents of a workspace declare. -/
def namesOf (docs : List Document) (group : List Nat) : List String :=
  group.flatMap fun position => (typesAt docs position).map locatedKey

/-- A document that is linked once meets the names of the documents before it. -/
theorem takenWarningsAt_eq {types : Nat → List (List String × TypeDecl)} {front back : List Nat}
    {position : Nat} (distinct : (front ++ position :: back).Nodup) (taken : List String) :
    takenWarningsAt types taken (front ++ position :: back) position =
      takenWarnings (taken ++ front.flatMap fun first => (types first).map locatedKey)
        (types position) := by
  induction front generalizing taken with
  | nil =>
      rw [List.nil_append, List.nodup_cons] at distinct
      rw [List.nil_append, takenWarningsAt, if_pos rfl, takenWarningsAt_of_not_mem distinct.1,
        List.append_nil, List.flatMap_nil, List.append_nil]
  | cons first front ih =>
      rw [List.cons_append, List.nodup_cons] at distinct
      have apart : first ≠ position := by
        rintro rfl
        exact distinct.1 (List.mem_append_right front List.mem_cons_self)
      rw [List.cons_append, takenWarningsAt, if_neg apart, List.nil_append, ih distinct.2,
        List.flatMap_cons, List.append_assoc]

/-! ## Linking -/

theorem Definitions.unresolvedRefs_eq (defs : Definitions) :
    defs.unresolvedRefs = defs.refs.filter (·.2.target = none) := by
  rw [unresolvedRefs]
  congr 1
  funext located
  simp only [Ref.isResolved]
  cases located.2.target with
  | none => rfl
  | some id => rfl

theorem map_unresolvedWarnings {doc : Document} {defs : Definitions}
    (model : doc.definitions = some defs) (index : Index) (file : String) :
    (doc.unresolvedWarnings index).map (·.placedIn file) =
      unresolvedFindings file (defs.mapRefs index.resolve) := by
  rw [← Document.map_unresolvedRefs_mapRefs model, List.map_map, unresolvedFindings,
    Definitions.unresolvedRefs_eq]
  simp only [Function.comp_def, unresolvedWarning, Diagnostic.placedIn_warningAt]

/-- What linking reports on a document of a group: the types whose names were declared
before, then the references that are left without a target. -/
theorem diagnostics_link {docs : List Document} {front back : List Nat} {position : Nat}
    (distinct : (front ++ position :: back).Nodup) {doc : Document} {defs : Definitions}
    (found : docs[position]? = some doc) (model : doc.definitions = some defs) :
    ∃ after linked, (link (front ++ position :: back) docs)[position]? = some after ∧
      after.definitions = some linked ∧ after.path = doc.path ∧
      after.diagnostics = doc.diagnostics ++
        (duplicateFindings doc.path (namesOf docs front) doc.locatedTypes ++
          unresolvedFindings doc.path linked) := by
  have result := getElem?_link_eq (front ++ position :: back) docs position
  have listed : position ∈ front ++ position :: back :=
    List.mem_append_right front List.mem_cons_self
  have once : (front ++ position :: back).count position = 1 :=
    List.count_eq_one_of_mem distinct listed
  rw [found, Option.map_some, if_pos listed] at result
  refine ⟨_, defs.mapRefs (declareGroup (front ++ position :: back) docs).1.resolve, result,
    ?_, rfl, ?_⟩
  · rw [Document.reportAll, Document.resolved, model, Option.map_some]
  · have types : typesAt docs position = doc.locatedTypes := by
      rw [typesAt, found, Option.elim_some]
    have named := map_takenWarnings doc.path (namesOf docs front) doc.locatedTypes
    have left := map_unresolvedWarnings model
      (declareGroup (front ++ position :: back) docs).1 doc.path
    rw [Document.diagnostics_reportAll, linkFindings, takenWarningsAt_eq distinct, once, found,
      types, Option.elim_some, List.replicate_one, List.flatten_singleton, List.map_append,
      List.nil_append, ← named, ← left]
    rfl

/-- Every reference without a target is told of once, and as nothing else. -/
theorem countP_linking (file : String) (before : List String)
    (located : List (List String × TypeDecl)) (defs : Definitions) :
    (duplicateFindings file before located ++ unresolvedFindings file defs).countP
      (·.concern = .linking) = defs.summary.unresolved := by
  have types : (duplicateFindings file before located).countP (·.concern = .linking) = 0 := by
    rw [List.countP_eq_zero]
    intro finding member
    obtain ⟨type, -, rfl⟩ := List.mem_map.mp member
    exact Bool.false_ne_true
  have refs : (unresolvedFindings file defs).countP (·.concern = .linking) =
      (unresolvedFindings file defs).length := by
    rw [List.countP_eq_length]
    intro finding member
    obtain ⟨ref, -, rfl⟩ := List.mem_map.mp member
    rfl
  rw [List.countP_append, types, refs, Nat.zero_add, unresolvedFindings, List.length_map,
    Definitions.summary, Definitions.unresolvedRefs_eq]

/-! ## Checking -/

theorem diagnostics_check (doc : Document) :
    doc.check.diagnostics = doc.diagnostics ++ capitalFindings doc.path doc.types := by
  have small : ∀ decl : TypeDecl, (!startsWithCapital decl.name) =
      decl.name.toList.head?.any fun first => Text.upper first ≠ first := by
    intro decl
    rw [startsWithCapital]
    cases decl.name.toList with
    | nil => rfl
    | cons first rest => simp [Bool.beq_eq_decide_eq]
  rw [Document.check_eq_reportAll, Document.diagnostics_reportAll, Document.capitalWarnings,
    capitalFindings, List.map_map]
  simp only [small, Function.comp_def, Diagnostic.placedIn_warningAt]

/-! ## Warnings only -/

/-- A later state of a document, to which nothing but warnings was added. -/
def Document.Warned (before after : Document) : Prop :=
  ∃ added, after.diagnostics = before.diagnostics ++ added ∧
    ∀ finding ∈ added, finding.severity = .warning

namespace Document.Warned

theorem refl (doc : Document) : doc.Warned doc :=
  ⟨[], (List.append_nil _).symm, nofun⟩

theorem trans {before between after : Document} (one : before.Warned between)
    (two : between.Warned after) : before.Warned after := by
  obtain ⟨added, first, warnings⟩ := one
  obtain ⟨further, second, others⟩ := two
  refine ⟨added ++ further, ?_, ?_⟩
  · rw [second, first, List.append_assoc]
  · intro finding member
    exact (List.mem_append.mp member).elim (warnings finding) (others finding)

theorem reportAll {before doc : Document} (same : doc.diagnostics = before.diagnostics)
    {findings : List Diagnostic} (warnings : ∀ finding ∈ findings, finding.severity = .warning) :
    before.Warned (doc.reportAll findings) := by
  refine ⟨findings.map (·.placedIn doc.path), ?_, ?_⟩
  · rw [diagnostics_reportAll, same]
  · intro placed member
    obtain ⟨finding, listed, rfl⟩ := List.mem_map.mp member
    rw [Diagnostic.placedIn]
    split
    · exact warnings finding listed
    · exact warnings finding listed

end Document.Warned

theorem severity_takenWarnings {taken : List String} {located : List (List String × TypeDecl)}
    {finding : Diagnostic} (member : finding ∈ takenWarnings taken located) :
    finding.severity = .warning := by
  induction located generalizing taken with
  | nil => contradiction
  | cons first rest ih =>
      rw [takenWarnings, List.mem_append] at member
      rcases member with member | member
      · split at member
        · rw [List.mem_singleton.mp member]
          rfl
        · contradiction
      · exact ih member

theorem severity_takenWarningsAt {types : Nat → List (List String × TypeDecl)}
    {taken : List String} {group : List Nat} {position : Nat} {finding : Diagnostic}
    (member : finding ∈ takenWarningsAt types taken group position) :
    finding.severity = .warning := by
  induction group generalizing taken with
  | nil => contradiction
  | cons first group ih =>
      rw [takenWarningsAt, List.mem_append] at member
      rcases member with member | member
      · split at member
        · exact severity_takenWarnings member
        · contradiction
      · exact ih member

theorem severity_linkFindings {group : List Nat} {docs : List Document} {position : Nat}
    {finding : Diagnostic} (member : finding ∈ linkFindings group docs position) :
    finding.severity = .warning := by
  rw [linkFindings, List.mem_append] at member
  rcases member with member | member
  · exact severity_takenWarningsAt member
  · obtain ⟨findings, copied, listed⟩ := List.mem_flatten.mp member
    rw [List.eq_of_mem_replicate copied] at listed
    cases found : docs[position]? with
    | none => simp [found] at listed
    | some doc =>
        rw [found, Option.elim_some] at listed
        obtain ⟨located, -, rfl⟩ := List.mem_map.mp listed
        rfl

theorem severity_capitalWarnings {doc : Document} {finding : Diagnostic}
    (member : finding ∈ doc.capitalWarnings) : finding.severity = .warning := by
  obtain ⟨decl, -, rfl⟩ := List.mem_map.mp member
  rfl

/-- A step adds warnings to a document, if anything. -/
theorem Step.run_adds (step : Step) (docs : List Document) {position : Nat} {doc : Document}
    (found : docs[position]? = some doc) :
    ∃ after, (step.run docs)[position]? = some after ∧ doc.Warned after := by
  cases step with
  | link group =>
      have result := getElem?_link_eq group docs position
      rw [found, Option.map_some] at result
      refine ⟨_, result, .reportAll ?_ fun finding => severity_linkFindings⟩
      split
      · rfl
      · rfl
  | check checked =>
      have result := List.getElem?_modify (·.check) checked docs position
      rw [found, Option.map_eq_map, Option.map_some] at result
      refine ⟨_, result, ?_⟩
      by_cases same : checked = position
      · rw [if_pos same, Document.check_eq_reportAll]
        exact .reportAll rfl fun finding => severity_capitalWarnings
      · rw [if_neg same]
        exact .refl doc

/-- However documents are linked and checked, nothing but warnings is added. -/
theorem runSteps_adds (steps : List Step) (docs : List Document) {position : Nat}
    {doc : Document} (found : docs[position]? = some doc) :
    ∃ after, (runSteps steps docs)[position]? = some after ∧ doc.Warned after := by
  induction steps generalizing docs doc with
  | nil => exact ⟨doc, found, .refl doc⟩
  | cons first steps ih =>
      obtain ⟨between, once, warned⟩ := first.run_adds docs found
      obtain ⟨after, result, further⟩ := ih (first.run docs) once
      exact ⟨after, result, warned.trans further⟩

end DomainGen
