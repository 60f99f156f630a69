import DomainGen.Link.Index
import DomainGen.Text.Case

/-!
# Linking and checking

Linking resolves the references of a group of documents against the types that
all of them declare.  A reference that has a target keeps it.  A reference
that cannot be resolved is reported as a warning on its document.

Checking looks for questionable declarations.
-/

namespace DomainGen

/-- Give a reference its target, unless it has one. -/
def Index.resolve (index : Index) (path : List String) (use : RefUse) (ref : Ref) : Ref :=
  match ref.target with
  | some _ => ref
  | none => { ref with target := index.lookup path use ref.text }

/-- The warning about a reference without a target. -/
def unresolvedWarning (use : RefUse) (ref : Ref) : Diagnostic :=
  .warningAt .linking ref.pos
    ("Could not resolve reference to " ++ use.word ++ " named '" ++ ref.text ++ "'.")

/-- Resolve the references of a document and report those that are left. -/
def Document.resolve (doc : Document) (index : Index) : Document :=
  match doc.definitions with
  | none => doc
  | some defs =>
      let resolved := defs.mapRefs index.resolve
      resolved.unresolvedRefs.foldl
        (fun doc (use, ref) => doc.report (unresolvedWarning use ref))
        { doc with definitions := some resolved }

/-- Declare the types of the documents at the given positions, in that order. -/
def declareGroup (group : List Nat) (docs : List Document) : Index × List Document :=
  group.foldl
    (fun (index, docs) position =>
      match docs[position]? with
      | none => (index, docs)
      | some doc =>
          let (index, doc) := index.declareAll position doc
          (index, docs.set position doc))
    ([], docs)

/-- Link the documents at the given positions of a workspace with each other. -/
def link (group : List Nat) (docs : List Document) : List Document :=
  let (index, docs) := declareGroup group docs
  group.foldl (fun docs position => docs.modify position (·.resolve index)) docs

/-- Link all documents of a workspace. -/
def linkAll (docs : List Document) : List Document := link (List.range docs.length) docs

/-- Whether a type's name starts as it should: with a character that is its own
upper case. -/
def startsWithCapital (name : String) : Bool :=
  match name.toList with
  | [] => true
  | first :: _ => Text.upper first == first

/-- Report every type whose name does not start with a capital. -/
def Document.check (doc : Document) : Document :=
  (doc.types.filter (!startsWithCapital ·.name)).foldl
    (fun doc decl =>
      doc.report (.warningAt .semantic decl.pos "Type name should start with a capital."))
    doc

end DomainGen
