import DomainGen.Proofs.Link.Findings

/-!
# The effect of linking on one document

Linking treats the documents of a group one by one, in two rounds.  This module
says in one equation what becomes of each of them (`getElem?_link_eq`): its
references are resolved, and it receives findings that can be read off the models
of the group.  Neither part looks at what was found out before, and naming a
document twice only repeats its findings.

Resolving is stable: what one round resolves or leaves open, a second one does, too
(`Index.resolve_resolve`).
-/

namespace DomainGen

/-! ## Reporting -/

/-- The finding as a document with the given path records it. -/
def Diagnostic.placedIn (diagnostic : Diagnostic) (path : String) : Diagnostic :=
  if diagnostic.file = "" then diagnostic.inFile path else diagnostic

theorem Diagnostic.concern_placedIn (diagnostic : Diagnostic) (path : String) :
    (diagnostic.placedIn path).concern = diagnostic.concern := by
  unfold Diagnostic.placedIn
  split
  · rfl
  · rfl

namespace Document

/-- The document with further findings. -/
def reportAll (doc : Document) (findings : List Diagnostic) : Document :=
  { doc with diagnostics := doc.diagnostics ++ findings.map (·.placedIn doc.path) }

variable (doc : Document)

theorem diagnostics_reportAll (findings : List Diagnostic) :
    (doc.reportAll findings).diagnostics =
      doc.diagnostics ++ findings.map (·.placedIn doc.path) := rfl

@[simp] theorem reportAll_nil : doc.reportAll [] = doc := by
  simp [reportAll]

@[simp] theorem reportAll_reportAll (findings further : List Diagnostic) :
    (doc.reportAll findings).reportAll further = doc.reportAll (findings ++ further) := by
  simp [reportAll]

/-- Reporting findings one by one. -/
theorem foldl_report {α : Type} (items : List α) (finding : α → Diagnostic) :
    items.foldl (fun doc item => doc.report (finding item)) doc =
      doc.reportAll (items.map finding) := by
  induction items generalizing doc with
  | nil => rw [List.foldl_nil, List.map_nil, reportAll_nil]
  | cons item items ih =>
      have step : doc.report (finding item) = doc.reportAll [finding item] := rfl
      rw [List.foldl_cons, ih, step, reportAll_reportAll, List.map_cons, List.singleton_append]

end Document

/-! ## Names that are taken -/

/-- The types of the document at a position of a workspace. -/
def typesAt (docs : List Document) (position : Nat) : List (List String × TypeDecl) :=
  (docs[position]?).elim [] (·.locatedTypes)

theorem typesAt_congr {docs others : List Document}
    (same : docs.map (·.definitions) = others.map (·.definitions)) :
    typesAt docs = typesAt others := by
  have byDefinitions : ∀ docs, typesAt docs = fun position =>
      ((docs.map (·.definitions))[position]?).elim [] fun definitions =>
        ({ definitions } : Document).locatedTypes := by
    intro docs
    funext position
    simp only [List.getElem?_map, Option.elim_map]
    rfl
  rw [byDefinitions, same, byDefinitions]

/-- The warnings about types with a name that is taken: by one of the names before, or
by a type further to the front. -/
def takenWarnings : List String → List (List String × TypeDecl) → List Diagnostic
  | _, [] => []
  | taken, located :: rest =>
      (if locatedKey located ∈ taken then [duplicateWarning located.2 (locatedKey located)]
        else []) ++ takenWarnings (taken ++ [locatedKey located]) rest

/-- The warnings about taken names on the document at a position, when the documents of
a group declare their types in turn. -/
def takenWarningsAt (types : Nat → List (List String × TypeDecl)) :
    List String → List Nat → Nat → List Diagnostic
  | _, [], _ => []
  | taken, first :: group, position =>
      (if first = position then takenWarnings taken (types first) else []) ++
        takenWarningsAt types (taken ++ (types first).map locatedKey) group position

/-- The index has entries for these names and no others. -/
def Index.Knows (index : Index) (names : List String) : Prop :=
  ∀ name, (index.find? name).isSome ↔ name ∈ names

namespace Index

variable {index : Index} {taken : List String} (knows : index.Knows taken)

theorem knows_nil : Index.Knows [] [] := by
  intro name
  simp [find?]

include knows

theorem Knows.declare (document : Nat) (doc : Document)
    (located : (List String × TypeDecl) × Nat) :
    (Index.declare document (index, doc) located).1.Knows (taken ++ [locatedKey located.1]) := by
  intro name
  have own : (firstEntry [.ofLocated document located] name).isSome ↔
      name = locatedKey located.1 := by
    rw [firstEntry, Option.isSome_map, List.find?_isSome]
    simp only [List.mem_singleton, exists_eq_left, beq_iff_eq]
    exact eq_comm
  rw [find?_declare, Option.isSome_or, Bool.or_eq_true, knows name, own, List.mem_append,
    List.mem_singleton]

theorem Knows.declare_reports (document : Nat) (doc : Document)
    (located : (List String × TypeDecl) × Nat) :
    (Index.declare document (index, doc) located).2 =
      doc.reportAll (if locatedKey located.1 ∈ taken then
        [duplicateWarning located.1.2 (locatedKey located.1)] else []) := by
  have known : (index.find? (qualify located.1.1 located.1.2.name)).isSome ↔
      locatedKey located.1 ∈ taken := knows _
  by_cases member : locatedKey located.1 ∈ taken
  · obtain ⟨declared, found⟩ := Option.isSome_iff_exists.mp (known.mpr member)
    rw [if_pos member]
    simp only [Index.declare, found]
    rfl
  · have missing : index.find? (qualify located.1.1 located.1.2.name) = none := by
      rw [← Option.not_isSome_iff_eq_none, known]
      exact member
    rw [if_neg member, Document.reportAll_nil]
    simp only [Index.declare, missing]

theorem Knows.foldl_declare (document : Nat) (doc : Document)
    (located : List ((List String × TypeDecl) × Nat)) :
    (located.foldl (Index.declare document) (index, doc)).1.Knows
        (taken ++ located.map (locatedKey ·.1)) ∧
      (located.foldl (Index.declare document) (index, doc)).2 =
        doc.reportAll (takenWarnings taken (located.map (·.1))) := by
  induction located generalizing index doc taken with
  | nil =>
      constructor
      · simpa using knows
      · exact doc.reportAll_nil.symm
  | cons first located ih =>
      obtain ⟨further, reported⟩ := ih (knows.declare document doc first)
        (Index.declare document (index, doc) first).2
      rw [List.foldl_cons]
      constructor
      · rw [List.map_cons, ← List.singleton_append, ← List.append_assoc]
        exact further
      · rw [knows.declare_reports, Document.reportAll_reportAll] at reported
        rw [List.map_cons, takenWarnings, ← reported, ← knows.declare_reports document doc first]

end Index

section Declaring

variable {index : Index} {taken : List String} (knows : index.Knows taken)
include knows

theorem Index.Knows.declareAt (docs : List Document) (first : Nat) :
    (declareAt (index, docs) first).1.Knows (taken ++ (typesAt docs first).map locatedKey) ∧
      (DomainGen.declareAt (index, docs) first).2 =
        docs.modify first (·.reportAll (takenWarnings taken (typesAt docs first))) := by
  cases found : docs[first]? with
  | none =>
      have outside : docs.length ≤ first := List.getElem?_eq_none_iff.mp found
      have types : typesAt docs first = [] := by rw [typesAt, found, Option.elim_none]
      simp only [DomainGen.declareAt, found, types, List.modify_eq_self outside]
      constructor
      · simpa using knows
      · trivial
  | some doc =>
      have types : typesAt docs first = doc.locatedTypes := by
        rw [typesAt, found, Option.elim_some]
      have keys : doc.locatedTypes.zipIdx.map (locatedKey ·.1) =
          doc.locatedTypes.map locatedKey := by
        calc
          _ = (doc.locatedTypes.zipIdx.map Prod.fst).map locatedKey := (List.map_map ..).symm
          _ = _ := by rw [List.zipIdx_map_fst]
      obtain ⟨further, reported⟩ := knows.foldl_declare first doc doc.locatedTypes.zipIdx
      rw [keys] at further
      rw [List.zipIdx_map_fst] at reported
      simp only [DomainGen.declareAt, found, types, List.modify_eq_set, Option.getD_some,
        Index.declareAll]
      exact ⟨further, congrArg (docs.set first) reported⟩

/-- What a round of declarations reports. -/
theorem Index.Knows.foldl_declareAt (docs : List Document) (group : List Nat) (position : Nat) :
    (group.foldl DomainGen.declareAt (index, docs)).2[position]? =
      (docs[position]?).map
        (·.reportAll (takenWarningsAt (typesAt docs) taken group position)) := by
  induction group generalizing index docs taken with
  | nil => simp [takenWarningsAt]
  | cons first group ih =>
      obtain ⟨further, reported⟩ := knows.declareAt docs first
      have types := typesAt_congr (definitions_declareAt index docs first)
      rw [List.foldl_cons, ← Prod.eta (DomainGen.declareAt (index, docs) first), ih further, types,
        reported, List.getElem?_modify, takenWarningsAt]
      cases docs[position]? with
      | none => rfl
      | some doc =>
          by_cases same : first = position
          · simp [same]
          · simp [same]

end Declaring

/-! ## Resolving twice -/

/-- The reference with the target that it has, or else the given one. -/
def Ref.filled (ref : Ref) (target : Option TypeId) : Ref :=
  { ref with target := ref.target.or target }

namespace Index

variable (index : Index) (path : List String) (use : RefUse) (ref : Ref)

/-- A reference keeps the target it has; without one, it gets what is looked up. -/
theorem resolve_eq :
    index.resolve path use ref = ref.filled (index.lookup path use ref.text) := by
  cases ref with
  | mk text pos target =>
      cases target with
      | none => rfl
      | some id => rfl

theorem resolve_resolve :
    index.resolve path use (index.resolve path use ref) = index.resolve path use ref := by
  simp only [resolve_eq, Ref.filled, Option.or_assoc, Option.or_self]

end Index

theorem unresolvedWarning_resolve (index : Index) (path : List String) (use : RefUse) (ref : Ref) :
    unresolvedWarning use (index.resolve path use ref) = unresolvedWarning use ref := by
  rw [Index.resolve_eq]
  rfl

/-- What there is to say about the references of a document that an index leaves
open. -/
def Document.unresolvedWarnings (doc : Document) (index : Index) : List Diagnostic :=
  (doc.locatedRefs.filter fun (path, use, ref) => !(index.resolve path use ref).isResolved).map
    fun (_, use, ref) => unresolvedWarning use ref

theorem Document.concern_unresolvedWarnings (doc : Document) (index : Index)
    {warning : Diagnostic} (member : warning ∈ doc.unresolvedWarnings index) :
    warning.concern = .linking := by
  obtain ⟨located, -, rfl⟩ := List.mem_map.mp member
  rfl

/-- The document with its references resolved. -/
def Document.resolved (doc : Document) (index : Index) : Document :=
  { doc with definitions := doc.definitions.map (·.mapRefs index.resolve) }

namespace Document

variable (doc : Document) (index : Index)

theorem locatedTypes_resolved :
    (doc.resolved index).locatedTypes =
      doc.locatedTypes.map fun (path, decl) => (path, decl.mapRefs (index.resolve path)) := by
  unfold resolved locatedTypes
  cases doc.definitions with
  | none => rfl
  | some defs => exact defs.locatedTypes_mapRefs _

theorem locatedRefs_resolved :
    (doc.resolved index).locatedRefs =
      doc.locatedRefs.map fun (path, use, ref) => (path, use, index.resolve path use ref) :=
  locatedRefs_eq_map (doc.locatedTypes_resolved index)

@[simp] theorem resolved_reportAll (findings : List Diagnostic) :
    (doc.reportAll findings).resolved index = (doc.resolved index).reportAll findings := rfl

@[simp] theorem unresolvedWarnings_reportAll (findings : List Diagnostic) :
    (doc.reportAll findings).unresolvedWarnings index = doc.unresolvedWarnings index := rfl

@[simp] theorem resolved_resolved : (doc.resolved index).resolved index = doc.resolved index := by
  simp only [resolved, Option.map_map, Function.comp_def, Definitions.mapRefs_mapRefs,
    Index.resolve_resolve]

@[simp] theorem unresolvedWarnings_resolved :
    (doc.resolved index).unresolvedWarnings index = doc.unresolvedWarnings index := by
  simp only [unresolvedWarnings, locatedRefs_resolved, List.filter_map, List.map_map,
    Function.comp_def, Index.resolve_resolve, unresolvedWarning_resolve]

theorem map_snd_locatedRefs {doc : Document} {defs : Definitions}
    (found : doc.definitions = some defs) : doc.locatedRefs.map (·.2) = defs.refs := by
  simp only [locatedRefs, locatedTypes, found, Option.elim_some, Definitions.refs,
    Definitions.types, List.map_flatMap, List.flatMap_map, List.map_map]
  congr 1
  funext located
  exact List.map_id _

/-- The references that an index leaves open are those without a target in the resolved
model. -/
theorem map_unresolvedRefs_mapRefs {doc : Document} {defs : Definitions}
    (found : doc.definitions = some defs) (index : Index) :
    (defs.mapRefs index.resolve).unresolvedRefs.map
        (fun located => unresolvedWarning located.1 located.2) = doc.unresolvedWarnings index := by
  have model : (doc.resolved index).definitions = some (defs.mapRefs index.resolve) := by
    rw [resolved, found, Option.map_some]
  rw [Definitions.unresolvedRefs, ← map_snd_locatedRefs model, locatedRefs_resolved]
  simp only [List.map_map, List.filter_map, Function.comp_def, unresolvedWarnings,
    unresolvedWarning_resolve]

/-- Resolving the references of a document, and reporting those that are left. -/
theorem resolve_eq_reportAll :
    doc.resolve index = (doc.resolved index).reportAll (doc.unresolvedWarnings index) := by
  cases found : doc.definitions with
  | none =>
      have same : doc.resolved index = doc := by
        cases doc
        cases found
        rfl
      have nothing : doc.unresolvedWarnings index = [] := by
        simp [unresolvedWarnings, locatedRefs, locatedTypes, found]
      rw [same, nothing, reportAll_nil, resolve, found]
  | some defs =>
      have reported : doc.resolve index =
          (defs.mapRefs index.resolve).unresolvedRefs.foldl
            (fun doc located => doc.report (unresolvedWarning located.1 located.2))
            (doc.resolved index) := by
        rw [resolve, found, resolved, found]
        rfl
      rw [reported, foldl_report, map_unresolvedRefs_mapRefs found]

end Document

/-! ## Linking -/

/-- A round of resolving: each mention of a document resolves its references, and reports
those that are left. -/
theorem getElem?_foldl_resolve (index : Index) (group : List Nat) (docs : List Document)
    (position : Nat) :
    (group.foldl (fun docs position => docs.modify position (·.resolve index)) docs)[position]? =
      (docs[position]?).map fun doc =>
        (if position ∈ group then doc.resolved index else doc).reportAll
          (List.replicate (group.count position) (doc.unresolvedWarnings index)).flatten := by
  induction group generalizing docs with
  | nil => simp
  | cons first group ih =>
      rw [List.foldl_cons, ih, List.getElem?_modify, Option.map_eq_map, Option.map_map]
      congr 1
      funext doc
      by_cases same : first = position
      · subst same
        -- A further mention of the document resolves nothing new, but it reports again.
        simp only [Function.comp_apply, if_true, Document.resolve_eq_reportAll,
          Document.resolved_reportAll, Document.resolved_resolved, List.mem_cons, true_or,
          Document.unresolvedWarnings_reportAll, Document.unresolvedWarnings_resolved, ite_self,
          List.count_cons_self, List.replicate_succ, List.flatten_cons,
          Document.reportAll_reportAll]
      · have apart : position ≠ first := Ne.symm same
        simp [same, apart]

/-- What linking a group reports about the document at a position: first the types with
a name that is taken, then the references that are left open. -/
def linkFindings (group : List Nat) (docs : List Document) (position : Nat) : List Diagnostic :=
  takenWarningsAt (typesAt docs) [] group position ++
    (List.replicate (group.count position) ((docs[position]?).elim []
      (·.unresolvedWarnings (declareGroup group docs).1))).flatten

theorem takenWarningsAt_of_not_mem {group : List Nat} {position : Nat}
    (unlisted : position ∉ group) (types : Nat → List (List String × TypeDecl))
    (taken : List String) : takenWarningsAt types taken group position = [] := by
  induction group generalizing taken with
  | nil => rfl
  | cons first group ih =>
      rw [List.mem_cons, not_or] at unlisted
      rw [takenWarningsAt, if_neg (Ne.symm unlisted.1), ih unlisted.2, List.append_nil]

theorem linkFindings_of_not_mem {group : List Nat} {position : Nat} (unlisted : position ∉ group)
    (docs : List Document) : linkFindings group docs position = [] := by
  rw [linkFindings, takenWarningsAt_of_not_mem unlisted, List.count_eq_zero.mpr unlisted]
  rfl

/-- The first document of a group is told about repeated names of its own only. -/
theorem linkFindings_first {position : Nat} {more : List Nat} (once : position ∉ more)
    {docs : List Document} {doc : Document} (found : docs[position]? = some doc) :
    linkFindings (position :: more) docs position =
      takenWarnings [] doc.locatedTypes ++
        doc.unresolvedWarnings (declareGroup (position :: more) docs).1 := by
  rw [linkFindings, takenWarningsAt, takenWarningsAt_of_not_mem once, List.count_cons_self,
    List.count_eq_zero.mpr once, typesAt, found]
  simp

/-- Linking resolves the references of the documents in the group and reports its
findings on them. -/
theorem getElem?_link_eq (group : List Nat) (docs : List Document) (position : Nat) :
    (link group docs)[position]? =
      (docs[position]?).map fun doc =>
        (if position ∈ group then doc.resolved (declareGroup group docs).1 else doc).reportAll
          (linkFindings group docs position) := by
  have linked : link group docs = group.foldl
      (fun current position => current.modify position (·.resolve (declareGroup group docs).1))
      (declareGroup group docs).2 := rfl
  have declared : (declareGroup group docs).2[position]? = (docs[position]?).map
      (·.reportAll (takenWarningsAt (typesAt docs) [] group position)) := by
    rw [declareGroup_eq_foldl]
    exact Index.knows_nil.foldl_declareAt docs group position
  rw [linked, getElem?_foldl_resolve, declared, Option.map_map]
  cases found : docs[position]? with
  | none => rfl
  | some doc =>
      rw [Option.map_some, Option.map_some, linkFindings, found, Option.elim_some,
        ← Document.reportAll_reportAll]
      by_cases listed : position ∈ group
      · simp [listed]
      · simp [listed]

/-! ## What linking looks at -/

/-- What linking looks at in a type: its qualified name, whether it is an entity, and
where it stands. -/
def heading (located : List String × TypeDecl) : String × Bool × Position :=
  (locatedKey located, located.2.isEntity, located.2.pos)

theorem takenWarnings_congr {located others : List (List String × TypeDecl)}
    (same : located.map heading = others.map heading) (taken : List String) :
    takenWarnings taken located = takenWarnings taken others := by
  induction located generalizing others taken with
  | nil =>
      rw [List.map_eq_nil_iff.mp same.symm]
  | cons first located ih =>
      cases others with
      | nil => contradiction
      | cons other others =>
          rw [List.map_cons, List.map_cons, List.cons.injEq] at same
          obtain ⟨key, -, pos⟩ : locatedKey first = locatedKey other ∧
              first.2.isEntity = other.2.isEntity ∧ first.2.pos = other.2.pos := by
            simpa [heading] using same.1
          rw [takenWarnings, takenWarnings, key, ih same.2]
          simp only [duplicateWarning, pos]

section SameHeadings

variable {docs others : List Document}
  (same : ∀ position, (typesAt docs position).map heading = (typesAt others position).map heading)
include same

theorem takenWarningsAt_congr (taken : List String) (group : List Nat) (position : Nat) :
    takenWarningsAt (typesAt docs) taken group position =
      takenWarningsAt (typesAt others) taken group position := by
  induction group generalizing taken with
  | nil => rfl
  | cons first group ih =>
      have keys : (typesAt docs first).map locatedKey = (typesAt others first).map locatedKey := by
        have fields := congrArg (List.map (·.1)) (same first)
        rwa [List.map_map, List.map_map] at fields
      rw [takenWarningsAt, takenWarningsAt, keys, ih, takenWarnings_congr (same first)]

/-- The entries of the index are determined by the headings of the types. -/
theorem declarations_entries (group : List Nat) :
    (declarations group docs).map (fun declaration => (declaration.key, declaration.entry)) =
      (declarations group others).map fun declaration => (declaration.key, declaration.entry) := by
  have byHeading : ∀ docs, (declarations group docs).map
      (fun declaration => (declaration.key, declaration.entry)) =
        group.flatMap fun position => ((typesAt docs position).map heading).zipIdx.map
          fun entry => (entry.1.1, ⟨⟨position, entry.2⟩, entry.1.2.1⟩) := by
    intro docs
    rw [declarations, List.map_flatMap]
    congr 1
    funext position
    rw [typesAt]
    cases docs[position]? with
    | none => rfl
    | some doc =>
        rw [Option.elim_some, Option.elim_some, Document.declarations, List.zipIdx_map,
          List.map_map, List.map_map]
        rfl
  simp only [byHeading, same]

theorem find?_declareGroup_congr (group : List Nat) (name : String) :
    (declareGroup group docs).1.find? name = (declareGroup group others).1.find? name := by
  have byEntries : ∀ declared : List Declaration, firstEntry declared name =
      ((declared.map fun declaration => (declaration.key, declaration.entry)).find?
        (·.1 == name)).map (·.2) := by
    intro declared
    rw [firstEntry, List.find?_map, Option.map_map]
    rfl
  rw [find?_declareGroup, find?_declareGroup, byEntries, byEntries,
    declarations_entries same group]

end SameHeadings

/-- Only what an index finds counts for resolving. -/
theorem Index.resolve_congr {index other : Index}
    (same : ∀ name, index.find? name = other.find? name) : index.resolve = other.resolve := by
  funext path use ref
  simp only [resolve, lookup, same]

theorem Document.resolved_congr {index other : Index} (same : index.resolve = other.resolve)
    (doc : Document) : doc.resolved index = doc.resolved other := by
  rw [resolved, same, resolved]

theorem Document.unresolvedWarnings_congr {index other : Index}
    (same : index.resolve = other.resolve) (doc : Document) :
    doc.unresolvedWarnings index = doc.unresolvedWarnings other := by
  rw [unresolvedWarnings, same, unresolvedWarnings]

/-- What is looked up has been declared. -/
theorem exists_declaration_of_lookup {group : List Nat} {docs : List Document}
    {path : List String} {use : RefUse} {text : String} {id : TypeId}
    (found : (declareGroup group docs).1.lookup path use text = some id) :
    ∃ declaration ∈ declarations group docs, declaration.id = id := by
  obtain ⟨scope, -, found⟩ := List.exists_of_findSome?_eq_some found
  rw [find?_declareGroup, firstEntry] at found
  cases first : (declarations group docs).find? (·.key == qualify scope text) with
  | none => simp [first] at found
  | some declaration =>
      simp only [first, Option.map_some, Declaration.entry] at found
      split at found
      · exact ⟨declaration, List.mem_of_find?_eq_some first, Option.some.inj found⟩
      · contradiction

/-! ## Checking -/

/-- The warnings about types whose names do not start with a capital. -/
def Document.capitalWarnings (doc : Document) : List Diagnostic :=
  (doc.types.filter (!startsWithCapital ·.name)).map fun decl =>
    .warningAt .semantic decl.pos "Type name should start with a capital."

theorem Document.check_eq_reportAll (doc : Document) :
    doc.check = doc.reportAll doc.capitalWarnings :=
  doc.foldl_report _ _

end DomainGen
