import DomainGen.Cli.Program
import DomainGen.Proofs.Cli.Generating
import DomainGen.Proofs.Link.Reports
import DomainGen.Proofs.Link.Widening

/-!
# What parsing tells

A command that parses a model links and checks it, and shows what was found out.  It would
fail if there were an error among the findings.  But a parsed model has no findings, and
only warnings are added to it, so the command succeeds whenever the model can be loaded
(`run_runParse`).
-/

namespace DomainGen

/-- The document was read from a file, in either format, and nothing else was done to it. -/
def Document.IsParsed (doc : Document) : Prop := ∃ path bytes, documentOf? path bytes = some doc

theorem Document.IsParsed.exists_eq {doc : Document} (parsed : doc.IsParsed) :
    doc.diagnostics = [] ∧ ∃ defs, doc.definitions = some defs := by
  obtain ⟨path, bytes, read⟩ := parsed
  rw [documentOf?] at read
  split at read
  · obtain ⟨defs, -, rfl⟩ := Option.map_eq_some_iff.mp read
    exact ⟨rfl, defs, rfl⟩
  · contradiction

namespace LoadedModel

theorem warned_document_linked (document : Document) (siblings : List Document) :
    document.Warned (linked { document, siblings }).document := by
  rw [document_linked]
  apply Document.Warned.reportAll rfl
  intro finding member
  rw [List.mem_append, List.mem_append] at member
  rcases member with (taken | left) | small
  · exact severity_takenWarnings taken
  · obtain ⟨located, -, rfl⟩ := List.mem_map.mp left
    rfl
  · exact severity_capitalWarnings small

end LoadedModel

namespace Cli

open Machine

/-- A model that was loaded has warnings, if anything. -/
theorem severity_of_load {path root : String} {machine between : Machine} {model : LoadedModel}
    (loaded : Machine.run (load path root) machine = (.ok model, between)) :
    ∀ finding ∈ model.document.diagnostics, finding.severity = .warning := by
  have seen := (toOption_run_load path root machine).1
  rw [loaded] at seen
  obtain ⟨bytes, document, _, siblings, -, read, -, rfl⟩ :=
    ModelsSeen.exists_of_model? seen.symm
  have parsed : document.IsParsed := ⟨path, bytes, read⟩
  obtain ⟨added, diagnostics, warnings⟩ :=
    LoadedModel.warned_document_linked document siblings
  rw [diagnostics, parsed.exists_eq.1, List.nil_append]
  exact warnings

/-- A model that can be loaded can be shown. -/
theorem run_runParse {call : Call} {machine between : Machine} {model : LoadedModel}
    (loaded : Machine.run (load call.word (call.given.text "root" "")) machine =
      (.ok model, between)) :
    ∃ after, Machine.run (runParse call) machine = (.ok (), after) := by
  have faultless : (model.document.diagnostics.filter (!·.isWarning)).length = 0 := by
    rw [List.length_eq_zero_iff, List.filter_eq_nil_iff]
    intro finding member
    rw [Diagnostic.isWarning, severity_of_load loaded finding member]
    decide
  have shown : Machine.run (reported call.voice false
      (load call.word (call.given.text "root" ""))) machine = (.ok model, between) := by
    rw [run_reported, loaded]
  unfold runParse
  rw [run_bind_ok shown]
  simp only [faultless]
  split
  · exact ⟨_, rfl⟩
  · split
    · exact ⟨_, rfl⟩
    · exact ⟨_, rfl⟩

/-- The findings about models.  Linking a document that was parsed, once and with others,
reports the types whose qualified names were declared before, by the documents in front of
it or in the document itself, and then the references that the linked model leaves without a
target, both in the order of the model and at their places in the file of the document.  As
many references are told of as the summary of the model counts.  Checking a document only
adds a finding about each type whose name does not start with a capital.  However documents
are linked and checked, only warnings are added, and so a model that can be loaded is parsed
without an error. -/
theorem findings_exact :
    (∀ (docs : List Document) (front : List Nat) (position : Nat) (back : List Nat)
        (doc : Document), (front ++ position :: back).Nodup → docs[position]? = some doc →
      doc.IsParsed →
      ∃ after defs, (link (front ++ position :: back) docs)[position]? = some after ∧
        after.definitions = some defs ∧
        after.diagnostics =
          duplicateFindings doc.path (namesOf docs front) doc.locatedTypes ++
            unresolvedFindings doc.path defs ∧
        after.diagnostics.countP (·.concern = .linking) = defs.summary.unresolved) ∧
      (∀ doc : Document, doc.check = { doc with
        diagnostics := doc.diagnostics ++ capitalFindings doc.path doc.types }) ∧
      (∀ (docs : List Document) (steps : List Step) (position : Nat) (doc : Document),
        docs[position]? = some doc →
        ∃ after added, (runSteps steps docs)[position]? = some after ∧
          after.diagnostics = doc.diagnostics ++ added ∧
          ∀ finding ∈ added, finding.severity = .warning) ∧
      ∀ (machine between : Machine) (call : Call) (model : LoadedModel),
        Machine.run (load call.word (call.given.text "root" "")) machine = (.ok model, between) →
        ∃ after, Machine.run (runParse call) machine = (.ok (), after) := by
  refine ⟨?_, ?_, ?_, ?_⟩
  · intro docs front position back doc distinct found parsed
    obtain ⟨nothing, before, model⟩ := parsed.exists_eq
    obtain ⟨after, defs, linked, result, -, reported⟩ := diagnostics_link distinct found model
    rw [nothing, List.nil_append] at reported
    refine ⟨after, defs, linked, result, reported, ?_⟩
    rw [reported, countP_linking]
  · intro doc
    rw [← diagnostics_check, Document.check_eq_reportAll]
    rfl
  · intro docs steps position doc found
    obtain ⟨after, result, added, reported, warnings⟩ := runSteps_adds steps docs found
    exact ⟨after, added, result, reported, warnings⟩
  · intro machine between call model loaded
    exact run_runParse loaded

/-- Two files in the two formats.  The second declares a name of the first, and a name of
its own twice; it has references of each kind that mean nothing. -/
def mixedDocs : List Document :=
  [("a.yaml", "elements:\n  - entity: A\n"),
    ("b.ddef", "entity A \x7b \x7d " ++
      "package p \x7b entity b extends C \x7b x: A y: Ghost \x7d \x7d " ++
      "datatype U = p.b | Nope enum U \x7b \x7d")].filterMap
    fun (path, text) => documentOf? path text.toUTF8.toList

theorem findings_exact_mixedDocs :
    ∃ doc after defs, mixedDocs[1]? = some doc ∧ doc.IsParsed ∧
      (link ([0] ++ 1 :: []) mixedDocs)[1]? = some after ∧ after.definitions = some defs ∧
      after.diagnostics = duplicateFindings doc.path (namesOf mixedDocs [0]) doc.locatedTypes ++
        unresolvedFindings doc.path defs ∧
      after.diagnostics.countP (·.concern = .linking) = 3 ∧ defs.summary.unresolved = 3 ∧
      after.check.diagnostics.map (·.text) =
        ["b.ddef:1:1: Duplicate type name 'A'; the first declaration wins.",
          "b.ddef:1:89: Duplicate type name 'U'; the first declaration wins.",
          "b.ddef:1:43: Could not resolve reference to Entity named 'C'.",
          "b.ddef:1:55: Could not resolve reference to Type named 'Ghost'.",
          "b.ddef:1:84: Could not resolve reference to Type named 'Nope'.",
          "b.ddef:1:26: Type name should start with a capital."] := by
  have computed : ((link ([0] ++ 1 :: []) mixedDocs)[1]?).any fun after =>
      after.definitions.any (·.summary.unresolved = 3) && after.check.diagnostics.map (·.text) =
        ["b.ddef:1:1: Duplicate type name 'A'; the first declaration wins.",
          "b.ddef:1:89: Duplicate type name 'U'; the first declaration wins.",
          "b.ddef:1:43: Could not resolve reference to Entity named 'C'.",
          "b.ddef:1:55: Could not resolve reference to Type named 'Ghost'.",
          "b.ddef:1:84: Could not resolve reference to Type named 'Nope'.",
          "b.ddef:1:26: Type name should start with a capital."] := by
    decide +kernel
  obtain ⟨doc, found⟩ := Option.isSome_iff_exists.mp
    (show (mixedDocs[1]?).isSome by decide +kernel)
  have parsed : doc.IsParsed := by
    obtain ⟨⟨path, text⟩, -, read⟩ := List.mem_filterMap.mp (List.mem_of_getElem? found)
    exact ⟨path, _, read⟩
  obtain ⟨after, defs, result, model, reported, count⟩ :=
    findings_exact.1 mixedDocs [0] 1 [] doc (by decide) found parsed
  simp only [result, Option.any_some, model, Bool.and_eq_true, decide_eq_true_eq] at computed
  exact ⟨doc, after, defs, found, parsed, result, model, reported, count.trans computed.1,
    computed.1, computed.2⟩

end Cli

end DomainGen
