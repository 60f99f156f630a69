import DomainGen.Proofs.Model.Packages
import DomainGen.Proofs.Outcome

/-!
# Walking a model

Every element of a model has an address: the indices that lead to it from the outermost elements
on.  Visiting order is the lexicographic order of the addresses, in which a package comes right
before what it holds (`isVisitingOrder_placements`).

A walk calls its action in this order, each time from the state that the call before has left,
and stops with the first call that fails (`walk_calls`).  What is never reached this way is all
that comes later, and so everything inside a package that was refused.
-/

namespace DomainGen

/-! ## Where elements stand -/

/-- An element at its place: the indices that lead to it, and the names of the packages that
enclose it, both from outside in. -/
structure Placement where
  address : List Nat
  packages : List String
  element : Element

namespace Placement

/-- The path of the packages that enclose the element: the parts of their names that are not
empty. -/
def path (place : Placement) : List String :=
  place.packages.flatMap fun name => (Text.segments '.' name).filter (· ≠ "")

/-- What a walk sees of the place. -/
def visit (place : Placement) : Visit := ⟨place.path, place.element⟩

/-- The place inside one more package, which has an index of its own. -/
def inside (index : Nat) (name : String) (place : Placement) : Placement :=
  ⟨index :: place.address, name :: place.packages, place.element⟩

theorem visit_inside (index : Nat) (name : String) (place : Placement) :
    (place.inside index name).visit = place.visit.inside (packagePath [] name) := by
  simp [visit, inside, path, Visit.inside, packagePath]

end Placement

/-- An element stands somewhere among elements: it is one of them, or it stands among those of a
package. -/
inductive Stands : List Element → Placement → Prop
  | here {elements : List Element} {index : Nat} {element : Element}
      (found : elements[index]? = some element) : Stands elements ⟨[index], [], element⟩
  | inside {elements inner : List Element} {index : Nat} {name : String} {pos : Position}
      {place : Placement} (found : elements[index]? = some (.package name pos inner))
      (stands : Stands inner place) : Stands elements (place.inside index name)

/-- Places are all those among some elements, by their addresses in lexicographic order. -/
structure IsVisitingOrder (elements : List Element) (places : List Placement) : Prop where
  ordered : places.Pairwise (·.address < ·.address)
  complete : ∀ place, place ∈ places ↔ Stands elements place

/-! ## All places in order -/

mutual

/-- The places at and below an element that has an index. -/
def Element.placements (index : Nat) : Element → List Placement
  | .package name pos elements =>
      ⟨[index], [], .package name pos elements⟩ ::
        (placementsFrom 0 elements).map (·.inside index name)
  | .type decl => [⟨[index], [], .type decl⟩]
  | .foreign name => [⟨[index], [], .foreign name⟩]

/-- The places at and below elements whose indices start somewhere. -/
def placementsFrom (index : Nat) : List Element → List Placement
  | [] => []
  | element :: rest => element.placements index ++ placementsFrom (index + 1) rest

end

/-- All places of a model. -/
def Definitions.placements (defs : Definitions) : List Placement := placementsFrom 0 defs.elements

mutual

theorem Element.map_visit_placements (index : Nat) (element : Element) :
    (element.placements index).map Placement.visit = element.visits [] := by
  cases element with
  | package name pos elements =>
      have opened := visitsIn_append_path (packagePath [] name) [] elements
      rw [List.append_nil, ← map_visit_placementsFrom 0 elements] at opened
      rw [Element.placements, Element.visits, opened, List.map_cons, List.map_map, List.map_map]
      have seen : Placement.visit ∘ Placement.inside index name =
          Visit.inside (packagePath [] name) ∘ Placement.visit :=
        funext (Placement.visit_inside index name)
      rw [seen]
      rfl
  | type decl => rfl
  | foreign name => rfl

/-- A model is visited place by place. -/
theorem map_visit_placementsFrom (index : Nat) (elements : List Element) :
    (placementsFrom index elements).map Placement.visit = visitsIn [] elements := by
  cases elements with
  | nil => rfl
  | cons element rest =>
      rw [placementsFrom, visitsIn, List.map_append, Element.map_visit_placements,
        map_visit_placementsFrom]

end

/-! ### Every place is listed -/

/-- The place with its outermost index moved on. -/
def Placement.shifted (count : Nat) (place : Placement) : Placement :=
  { place with address := place.address.modifyHead (· + count) }

theorem Placement.shifted_zero (place : Placement) : place.shifted 0 = place := by
  obtain ⟨address, packages, element⟩ := place
  cases address with
  | nil => rfl
  | cons index rest => rfl

theorem Placement.shifted_shifted (first second : Nat) (place : Placement) :
    (place.shifted first).shifted second = place.shifted (first + second) := by
  obtain ⟨address, packages, element⟩ := place
  cases address with
  | nil => rfl
  | cons index rest => simp [Placement.shifted, Nat.add_assoc]

theorem not_stands_nil (place : Placement) : ¬ Stands [] place := by
  intro stands
  cases stands with
  | here found => simp at found
  | inside found _ => simp at found

/-- A place is in the first element, or in a later one, where its index is one more. -/
theorem stands_cons_iff {element : Element} {rest : List Element} {place : Placement} :
    Stands (element :: rest) place ↔
      Stands [element] place ∨ ∃ later, Stands rest later ∧ place = later.shifted 1 := by
  constructor
  · intro stands
    cases stands with
    | @here _ index _ found =>
        cases index with
        | zero => exact .inl (.here found)
        | succ index => exact .inr ⟨_, .here found, rfl⟩
    | @inside _ inner index name pos below found stands =>
        cases index with
        | zero => exact .inl (.inside found stands)
        | succ index => exact .inr ⟨_, .inside found stands, rfl⟩
  · rintro (stands | ⟨later, stands, rfl⟩)
    · cases stands with
      | @here _ index _ found =>
          cases index with
          | zero => exact .here found
          | succ index => simp at found
      | @inside _ inner index name pos below found stands =>
          cases index with
          | zero => exact .inside found stands
          | succ index => simp at found
    · cases stands with
      | here found => exact .here found
      | inside found stands => exact .inside found stands

theorem stands_package_iff {name : String} {pos : Position} {inner : List Element}
    {place : Placement} :
    Stands [.package name pos inner] place ↔ place = ⟨[0], [], .package name pos inner⟩ ∨
      ∃ below, Stands inner below ∧ place = below.inside 0 name := by
  constructor
  · intro stands
    cases stands with
    | @here _ index _ found =>
        cases index with
        | zero => cases found; exact .inl rfl
        | succ index => simp at found
    | @inside _ _ index _ _ below found stands =>
        cases index with
        | zero => cases found; exact .inr ⟨below, stands, rfl⟩
        | succ index => simp at found
  · rintro (rfl | ⟨below, stands, rfl⟩)
    · exact .here rfl
    · exact .inside rfl stands

/-- An element that is not a package has one place. -/
theorem stands_singleton_iff {element : Element} {place : Placement}
    (plain : ∀ name pos inner, element ≠ .package name pos inner) :
    Stands [element] place ↔ place = ⟨[0], [], element⟩ := by
  constructor
  · intro stands
    cases stands with
    | @here _ index _ found =>
        cases index with
        | zero => cases found; rfl
        | succ index => simp at found
    | @inside _ inner index name pos _ found _ =>
        cases index with
        | zero => cases found; exact absurd rfl (plain name pos inner)
        | succ index => simp at found
  · rintro rfl
    exact .here rfl

theorem mem_singleton_iff_shifted {element : Element} {index : Nat} {place : Placement}
    (plain : ∀ name pos inner, element ≠ .package name pos inner) :
    place ∈ [(⟨[index], [], element⟩ : Placement)] ↔
      ∃ first, Stands [element] first ∧ place = first.shifted index := by
  rw [List.mem_singleton]
  simp [stands_singleton_iff plain, Placement.shifted]

mutual

theorem Element.mem_placements_iff (index : Nat) (element : Element) {place : Placement} :
    place ∈ element.placements index ↔
      ∃ first, Stands [element] first ∧ place = first.shifted index := by
  cases element with
  | package name pos elements =>
      have moved : ∀ below : Placement, (below.inside 0 name).shifted index =
          below.inside index name := by
        intro below
        simp [Placement.shifted, Placement.inside]
      have below : ∀ place, place ∈ placementsFrom 0 elements ↔ Stands elements place := by
        intro place
        simp [mem_placementsFrom_iff 0 elements, Placement.shifted_zero]
      rw [Element.placements, List.mem_cons, List.mem_map]
      simp only [below, stands_package_iff]
      constructor
      · rintro (rfl | ⟨inner, stands, rfl⟩)
        · exact ⟨_, .inl rfl, by simp [Placement.shifted]⟩
        · exact ⟨_, .inr ⟨inner, stands, rfl⟩, (moved inner).symm⟩
      · rintro ⟨first, rfl | ⟨inner, stands, rfl⟩, rfl⟩
        · exact .inl (by simp [Placement.shifted])
        · exact .inr ⟨inner, stands, (moved inner).symm⟩
  | type decl => exact mem_singleton_iff_shifted nofun
  | foreign name => exact mem_singleton_iff_shifted nofun

theorem mem_placementsFrom_iff (index : Nat) (elements : List Element) {place : Placement} :
    place ∈ placementsFrom index elements ↔
      ∃ first, Stands elements first ∧ place = first.shifted index := by
  cases elements with
  | nil => simp [placementsFrom, not_stands_nil]
  | cons element rest =>
      rw [placementsFrom, List.mem_append, Element.mem_placements_iff,
        mem_placementsFrom_iff (index + 1) rest]
      constructor
      · rintro (⟨first, stands, rfl⟩ | ⟨later, stands, rfl⟩)
        · exact ⟨first, stands_cons_iff.mpr (.inl stands), rfl⟩
        · refine ⟨later.shifted 1, stands_cons_iff.mpr (.inr ⟨later, stands, rfl⟩), ?_⟩
          rw [Placement.shifted_shifted, Nat.add_comm]
      · rintro ⟨first, stands, rfl⟩
        rcases stands_cons_iff.mp stands with here | ⟨later, there, rfl⟩
        · exact .inl ⟨first, here, rfl⟩
        · refine .inr ⟨later, there, ?_⟩
          rw [Placement.shifted_shifted, Nat.add_comm]

end

/-! ### Places are listed in order -/

theorem Stands.exists_address {elements : List Element} {place : Placement}
    (stands : Stands elements place) :
    ∃ index rest, place.address = index :: rest ∧ index < elements.length := by
  cases stands with
  | here found =>
      obtain ⟨within, -⟩ := List.getElem?_eq_some_iff.mp found
      exact ⟨_, _, rfl, within⟩
  | inside found _ =>
      obtain ⟨within, -⟩ := List.getElem?_eq_some_iff.mp found
      exact ⟨_, _, rfl, within⟩

/-- What is listed for an element comes before what is listed for those behind it. -/
theorem lt_of_mem_placements {index : Nat} {element : Element} {rest : List Element}
    {place later : Placement} (member : place ∈ element.placements index)
    (listed : later ∈ placementsFrom (index + 1) rest) : place.address < later.address := by
  obtain ⟨first, stands, rfl⟩ := (element.mem_placements_iff index).mp member
  obtain ⟨second, behind, rfl⟩ := (mem_placementsFrom_iff (index + 1) rest).mp listed
  obtain ⟨start, address, same, within⟩ := stands.exists_address
  obtain ⟨other, further, sameLater, -⟩ := behind.exists_address
  rw [List.length_singleton, Nat.lt_one_iff] at within
  simp only [Placement.shifted, same, sameLater, List.modifyHead_cons, within]
  exact List.cons_lt_cons_iff.mpr (.inl (by omega))

mutual

theorem Element.pairwise_placements (index : Nat) (element : Element) :
    (element.placements index).Pairwise (·.address < ·.address) := by
  cases element with
  | package name pos elements =>
      rw [Element.placements, List.pairwise_cons, List.pairwise_map]
      constructor
      · intro place member
        obtain ⟨below, listed, rfl⟩ := List.mem_map.mp member
        obtain ⟨first, stands, rfl⟩ := (mem_placementsFrom_iff 0 elements).mp listed
        obtain ⟨start, address, same, -⟩ := stands.exists_address
        simp [Placement.inside, Placement.shifted, same]
      · refine (pairwise_placementsFrom 0 elements).imp ?_
        intro one other before
        exact List.cons_lt_cons_iff.mpr (.inr ⟨rfl, before⟩)
  | type decl => exact List.pairwise_singleton _ _
  | foreign name => exact List.pairwise_singleton _ _

theorem pairwise_placementsFrom (index : Nat) (elements : List Element) :
    (placementsFrom index elements).Pairwise (·.address < ·.address) := by
  cases elements with
  | nil => exact List.Pairwise.nil
  | cons element rest =>
      rw [placementsFrom, List.pairwise_append]
      exact ⟨Element.pairwise_placements index element, pairwise_placementsFrom (index + 1) rest,
        fun place member later listed => lt_of_mem_placements member listed⟩

end

theorem isVisitingOrder_placements (defs : Definitions) :
    IsVisitingOrder defs.elements defs.placements where
  ordered := pairwise_placementsFrom 0 defs.elements
  complete place := by
    rw [Definitions.placements, mem_placementsFrom_iff]
    simp [Placement.shifted_zero]

theorem visits_eq_map_placements (defs : Definitions) :
    defs.visits = defs.placements.map Placement.visit :=
  (map_visit_placementsFrom 0 defs.elements).symm

/-! ## Walking -/

section Walking

variable {m : Type → Type} [Monad m] [LawfulMonad m] (visit : List String → Element → m Unit)

mutual

theorem Element.walk_eq_forM (path : List String) (element : Element) :
    element.walk visit path =
      forM (element.visits path) fun seen => visit seen.path seen.element := by
  cases element with
  | package name pos elements =>
      rw [Element.walk, Element.visits, List.forM_cons, walkIn_eq_forM]
  | type decl => simp [Element.walk, Element.visits]
  | foreign name => simp [Element.walk, Element.visits]

/-- A walk performs its action at one visit after the other. -/
theorem walkIn_eq_forM (path : List String) (elements : List Element) :
    walkIn visit path elements =
      forM (visitsIn path elements) fun seen => visit seen.path seen.element := by
  cases elements with
  | nil => rw [walkIn, visitsIn, List.forM_nil]
  | cons element rest =>
      rw [walkIn, visitsIn, List.forM_append, Element.walk_eq_forM, walkIn_eq_forM]

end

/-- Perform an action at one place after the other. -/
def performAt (places : List Placement) : m Unit :=
  forM places fun place => visit place.path place.element

theorem walk_eq_performAt (defs : Definitions) :
    defs.walk visit = performAt visit defs.placements := by
  rw [Definitions.walk, walkIn_eq_forM, ← Definitions.visits, visits_eq_map_placements,
    List.forM_map]
  rfl

end Walking

/-! ## Calls -/

section Calls

variable {ε σ : Type} (visit : List String → Element → ExceptT ε (StateM σ) Unit)

/-- One call of an action, and how it ended. -/
structure Call (ε : Type) where
  visit : Visit
  outcome : Except ε Unit

/-- The action, with its calls put on record behind those there are. -/
def recorded (path : List String) (element : Element) :
    ExceptT ε (StateM (σ × List (Call ε))) Unit :=
  fun state =>
    let (outcome, after) := (visit path element).run state.1
    (outcome, after, state.2 ++ [⟨⟨path, element⟩, outcome⟩])

/-- Calls are made until one fails, and its failure is that of all of them. -/
inductive Ended {ε : Type} : List (Call ε) → Except ε Unit → Prop
  | finished {calls : List (Call ε)} (fine : ∀ call ∈ calls, call.outcome = .ok ()) :
      Ended calls (.ok ())
  | stopped {front : List (Call ε)} {last : Call ε} {failure : ε}
      (fine : ∀ call ∈ front, call.outcome = .ok ()) (fails : last.outcome = .error failure) :
      Ended (front ++ [last]) (.error failure)

theorem Ended.cons {first : Call ε} {calls : List (Call ε)} {outcome : Except ε Unit}
    (ended : Ended calls outcome) (fine : first.outcome = .ok ()) :
    Ended (first :: calls) outcome := by
  cases ended with
  | finished rest => exact .finished (List.forall_mem_cons.mpr ⟨fine, rest⟩)
  | stopped rest fails =>
      rw [← List.cons_append]
      exact .stopped (List.forall_mem_cons.mpr ⟨fine, rest⟩) fails

/-- What an action performed at places yields, the state it leaves, and the calls it makes: one
at each of the first places, up to the one that fails. -/
theorem exists_calls (places : List Placement) (state : σ) (before : List (Call ε)) :
    ∃ outcome after called rest calls,
      (performAt visit places).run state = (outcome, after) ∧
      (performAt (recorded visit) places).run (state, before) =
        (outcome, (after, before ++ calls)) ∧
      places = called ++ rest ∧ calls.map (·.visit) = called.map Placement.visit ∧
      Ended calls outcome ∧ (outcome = .ok () → rest = []) := by
  induction places generalizing state before with
  | nil =>
      refine ⟨.ok (), state, [], [], [], rfl, ?_, rfl, rfl, .finished nofun, fun _ => rfl⟩
      rw [List.append_nil]
      rfl
  | cons place places ih =>
      simp only [performAt, List.forM_cons, run_bind_stateM]
      have noted : (recorded visit place.path place.element).run (state, before) =
          (((visit place.path place.element).run state).1,
            ((visit place.path place.element).run state).2,
            before ++ [⟨place.visit, ((visit place.path place.element).run state).1⟩]) := rfl
      rw [noted]
      cases called : (visit place.path place.element).run state with
      | mk outcome after =>
          cases outcome with
          | error failure =>
              refine ⟨.error failure, after, [place], places, [⟨place.visit, .error failure⟩], rfl,
                rfl, rfl, rfl, ?_, nofun⟩
              rw [← List.nil_append [_]]
              exact .stopped nofun rfl
          | ok value =>
              obtain ⟨outcome, last, called, rest, calls, ran, noted, same, seen, ended, whole⟩ :=
                ih after (before ++ [⟨place.visit, .ok ()⟩])
              refine ⟨outcome, last, place :: called, rest, ⟨place.visit, .ok ()⟩ :: calls, ran, ?_,
                ?_, ?_, ended.cons rfl, whole⟩
              · rw [← List.append_cons] at noted
                exact noted
              · rw [same, List.cons_append]
              · rw [List.map_cons, List.map_cons, seen]

end Calls

/-! ## Types -/

/-- Note every type behind those there are. -/
def collect {ε : Type} (_ : List String) (element : Element) :
    ExceptT ε (StateM (List TypeDecl)) Unit :=
  fun types => (.ok (), types ++ element.decl?.toList)

theorem run_performAt_collect {ε : Type} (places : List Placement) (types : List TypeDecl) :
    (performAt (collect (ε := ε)) places).run types =
      (.ok (), types ++ places.filterMap (·.element.decl?)) := by
  induction places generalizing types with
  | nil => simp [performAt]; rfl
  | cons place places ih =>
      have noted : (collect (ε := ε) place.path place.element).run types =
          (.ok (), types ++ place.element.decl?.toList) := rfl
      rw [performAt, List.forM_cons, run_bind_stateM, noted]
      refine (ih _).trans ?_
      cases found : place.element.decl? with
      | none => simp [found]
      | some decl => simp [found]

theorem types_eq_filterMap_placements (defs : Definitions) :
    defs.types = defs.placements.filterMap (·.element.decl?) := by
  rw [Definitions.types_eq_filterMap, visits_eq_map_placements, List.filterMap_map]
  rfl

/-- A walk calls its action at the places of a model in visiting order, up to the first call that
fails, whose failure it returns.  If no call fails, it calls the action at every place.  Of what
lies in a package it calls nothing if the call for the package fails.  The types of a model are
those at its places, in this order, and those that a walk comes by. -/
theorem walk_calls {ε σ : Type} (defs : Definitions)
    (visit : List String → Element → ExceptT ε (StateM σ) Unit) (state : σ) :
    IsVisitingOrder defs.elements defs.placements ∧
    (∃ outcome after called rest calls,
      (defs.walk visit).run state = (outcome, after) ∧
      (defs.walk (recorded visit)).run (state, []) = (outcome, (after, calls)) ∧
      defs.placements = called ++ rest ∧ calls.map (·.visit) = called.map Placement.visit ∧
      ((outcome = .ok () ∧ rest = [] ∧ ∀ call ∈ calls, call.outcome = .ok ()) ∨
        ∃ front last failure, calls = front ++ [last] ∧
          (∀ call ∈ front, call.outcome = .ok ()) ∧ last.outcome = .error failure ∧
          outcome = .error failure ∧
          ∃ reached refused, called = reached ++ [refused] ∧
            ∀ place ∈ called, refused.address <+: place.address → place = refused)) ∧
    defs.types = defs.placements.filterMap (·.element.decl?) ∧
    defs.entities = defs.placements.filterMap (·.element.decl?.bind (·.entity?)) ∧
    defs.dataTypes = defs.placements.filterMap (·.element.decl?.bind (·.dataType?)) ∧
    (defs.walk (collect (ε := ε))).run [] = (.ok (), defs.types) := by
  have order := isVisitingOrder_placements defs
  have types := types_eq_filterMap_placements defs
  refine ⟨order, ?calls, types, ?entities, ?dataTypes, ?collected⟩
  case entities => rw [Definitions.entities, types, List.filterMap_filterMap]
  case dataTypes => rw [Definitions.dataTypes, types, List.filterMap_filterMap]
  case collected => rw [walk_eq_performAt, run_performAt_collect, List.nil_append, types]
  case calls =>
    obtain ⟨outcome, after, called, rest, calls, ran, noted, same, seen, ended, whole⟩ :=
      exists_calls visit defs.placements state []
    rw [← walk_eq_performAt] at ran noted
    refine ⟨outcome, after, called, rest, calls, ran, noted, same, seen, ?_⟩
    cases ended with
    | finished fine => exact .inl ⟨rfl, whole rfl, fine⟩
    | @stopped front last failure fine fails =>
        refine .inr ⟨front, last, failure, rfl, fine, fails, rfl, ?_⟩
        rw [List.map_append, List.map_singleton] at seen
        obtain ⟨reached, others, rfl, -, alone⟩ := List.map_eq_append_iff.mp seen.symm
        obtain ⟨refused, rfl, -⟩ := List.map_eq_singleton_iff.mp alone
        refine ⟨reached, refused, rfl, fun place member below => ?_⟩
        rcases List.mem_append.mp member with earlier | latest
        · -- What is called before is at a smaller address.
          have ordered := order.ordered
          rw [same, List.append_assoc, List.pairwise_append] at ordered
          have before := ordered.2.2 place earlier refused (by simp)
          exact absurd before below.le
        · exact List.mem_singleton.mp latest

end DomainGen
