import DomainGen.Model.Walk

/-!
# Packages come before what they hold

A package opens a path that continues the one it lies in.  In visiting order,
whatever lies in a package comes after it (`exists_package_before`).

The types of a package are those of its elements, one after the other; that they
lie in a package shows in their paths only (`locatedIn_package`).  Inside further
packages the same elements are visited, at longer paths (`visitsIn_append_path`).
-/

namespace DomainGen

/-- The path that a visited element opens: that of the package, if it is one, and
otherwise the path that it lies in. -/
def Visit.inner (visit : Visit) : List String :=
  match visit.element with
  | .package name _ _ => packagePath visit.path name
  | _ => visit.path

theorem Visit.path_subset_inner (visit : Visit) : visit.path ⊆ visit.inner := by
  unfold Visit.inner
  split
  · exact List.subset_append_left _ _
  · exact List.Subset.refl _

/-- Whether the visited element is a package. -/
def Visit.isPackage (visit : Visit) : Bool := visit.element matches .package ..

theorem packagePath_append (root path : List String) (name : String) :
    packagePath (root ++ path) name = root ++ packagePath path name :=
  List.append_assoc root path _

/-! ## Types in packages -/

/-- Every type at or below the elements of the package at `path`, with the path of its own
package. -/
def locatedIn (path : List String) (elements : List Element) : List (List String × TypeDecl) :=
  (visitsIn path elements).filterMap fun visit => visit.element.decl?.map (visit.path, ·)

theorem Definitions.types_eq_filterMap (defs : Definitions) :
    defs.types = defs.visits.filterMap (·.element.decl?) := by
  rw [types, locatedTypes, List.map_filterMap]
  simp only [Option.map_map, Function.comp_def, Option.map_id']

theorem visitsIn_eq_flatMap (path : List String) (elements : List Element) :
    visitsIn path elements = elements.flatMap (·.visits path) := by
  induction elements with
  | nil => rfl
  | cons element elements ih => rw [visitsIn, ih, List.flatMap_cons]

theorem locatedIn_append (path : List String) (elements others : List Element) :
    locatedIn path (elements ++ others) = locatedIn path elements ++ locatedIn path others := by
  simp only [locatedIn, visitsIn_eq_flatMap, List.flatMap_append, List.filterMap_append]

theorem locatedIn_cons (path : List String) (element : Element) (elements : List Element) :
    locatedIn path (element :: elements) = locatedIn path [element] ++ locatedIn path elements :=
  locatedIn_append path [element] elements

theorem locatedIn_package (path : List String) (name : String) (pos : Position)
    (elements : List Element) :
    locatedIn path [.package name pos elements] = locatedIn (packagePath path name) elements := by
  simp [locatedIn, visitsIn, Element.visits, Element.decl?]

/-! ## Longer paths -/

/-- The visited element inside further packages. -/
def Visit.inside (root : List String) (visit : Visit) : Visit :=
  { visit with path := root ++ visit.path }

mutual

theorem Element.visits_append_path (root path : List String) (element : Element) :
    element.visits (root ++ path) = (element.visits path).map (·.inside root) := by
  cases element with
  | package name pos elements =>
      rw [Element.visits, Element.visits, packagePath_append, visitsIn_append_path]
      rfl
  | type decl => rfl
  | foreign name => rfl

theorem visitsIn_append_path (root path : List String) (elements : List Element) :
    visitsIn (root ++ path) elements = (visitsIn path elements).map (·.inside root) := by
  cases elements with
  | nil => rfl
  | cons element elements =>
      rw [visitsIn, visitsIn, List.map_append, Element.visits_append_path, visitsIn_append_path]

end

theorem locatedIn_append_path (root path : List String) (elements : List Element) :
    locatedIn (root ++ path) elements =
      (locatedIn path elements).map fun (path, decl) => (root ++ path, decl) := by
  rw [locatedIn, visitsIn_append_path, List.filterMap_map, locatedIn, List.map_filterMap]
  congr 1
  funext visit
  simp [Visit.inside, Function.comp_def]

mutual

theorem Element.mem_inner (path : List String) (element : Element) {visit : Visit}
    (visited : visit ∈ element.visits path) {segment : String} (member : segment ∈ visit.inner) :
    segment ∈ path ∨ ∃ name, segment ∈ packagePath [] name := by
  cases element with
  | package name pos elements =>
      have opened : ∀ segment, segment ∈ packagePath path name →
          segment ∈ path ∨ ∃ name, segment ∈ packagePath [] name := by
        intro segment member
        rw [← List.append_nil path, packagePath_append, List.mem_append] at member
        exact member.imp_right fun member => ⟨name, member⟩
      rw [Element.visits, List.mem_cons] at visited
      cases visited with
      | inl same =>
          rw [same] at member
          exact opened segment member
      | inr visited =>
          cases mem_inner (packagePath path name) elements visited member with
          | inl member => exact opened segment member
          | inr named => exact .inr named
  | type decl =>
      rw [Element.visits, List.mem_singleton] at visited
      rw [visited] at member
      exact .inl member
  | foreign name =>
      rw [Element.visits, List.mem_singleton] at visited
      rw [visited] at member
      exact .inl member

/-- The segments of a path are those of the path that the visit started from, and parts of
the names of packages. -/
theorem mem_inner (path : List String) (elements : List Element) {visit : Visit}
    (visited : visit ∈ visitsIn path elements) {segment : String}
    (member : segment ∈ visit.inner) :
    segment ∈ path ∨ ∃ name, segment ∈ packagePath [] name := by
  cases elements with
  | nil => contradiction
  | cons element elements =>
      rw [visitsIn, List.mem_append] at visited
      cases visited with
      | inl visited => exact element.mem_inner path visited member
      | inr visited => exact mem_inner path elements visited member

end

/-! ## Packages before types -/

mutual

theorem Element.exists_package_before (element : Element) (path : List String)
    {front back : List Visit} {visit : Visit}
    (visited : element.visits path = front ++ visit :: back) :
    visit.path = path ∨ ∃ opened ∈ front, opened.isPackage ∧ opened.inner = visit.path := by
  cases element with
  | package name pos elements =>
      rw [Element.visits] at visited
      cases front with
      | nil =>
          cases visited
          exact .inl rfl
      | cons opened front =>
          rw [List.cons_append, List.cons.injEq] at visited
          rcases visited with ⟨rfl, inside⟩
          rcases exists_package_before elements (packagePath path name) inside with
            direct | ⟨further, member, isPackage, opens⟩
          · exact .inr ⟨_, List.mem_cons_self, rfl, direct.symm⟩
          · exact .inr ⟨further, List.mem_cons_of_mem _ member, isPackage, opens⟩
  | type decl =>
      have member : visit ∈ front ++ visit :: back := by simp
      rw [← visited, Element.visits, List.mem_singleton] at member
      rw [member]
      exact .inl rfl
  | foreign name =>
      have member : visit ∈ front ++ visit :: back := by simp
      rw [← visited, Element.visits, List.mem_singleton] at member
      rw [member]
      exact .inl rfl

theorem exists_package_before (elements : List Element) (path : List String)
    {front back : List Visit} {visit : Visit}
    (visited : visitsIn path elements = front ++ visit :: back) :
    visit.path = path ∨ ∃ opened ∈ front, opened.isPackage ∧ opened.inner = visit.path := by
  cases elements with
  | nil => simp [visitsIn] at visited
  | cons element elements =>
      rw [visitsIn, List.append_eq_append_iff] at visited
      rcases visited with ⟨middle, rfl, later⟩ | ⟨middle, first, later⟩
      · rcases exists_package_before elements path later with
          direct | ⟨opened, member, isPackage, opens⟩
        · exact .inl direct
        · exact .inr ⟨opened, List.mem_append_right _ member, isPackage, opens⟩
      · cases middle with
        | nil =>
            have later : visitsIn path elements = [] ++ visit :: back := later.symm
            rcases exists_package_before elements path later with direct | ⟨_, member, _⟩
            · exact .inl direct
            · contradiction
        | cons same middle =>
            cases later
            exact element.exists_package_before path first

end

end DomainGen
