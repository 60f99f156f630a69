import DomainGen.Config.Store
import DomainGen.Proofs.Host.Directories
import DomainGen.Proofs.Text.Climbing
import Mathlib.Data.List.Basic

/-!
# The way up to a configuration file

The directories at and above one are those that its first names lead to, the longest path
first, so that the first file that is found in them is the nearest
(`exists_nearest_ancestry`).
-/

namespace DomainGen

open Config (fileName)

/-! ## The way up -/

namespace Path

theorem isAbsolute_clean (path : String) : isAbsolute (clean path) = isAbsolute path := by
  have none : ∀ name ∈ ([] : List String), IsPlain name := nofun
  have rooted := (@spelling_append path [] none).2.1
  rwa [List.append_nil] at rooted

theorem isAbsolute_iff {path : String} : isAbsolute path ↔ path.toList.head? = some '/' := by
  unfold isAbsolute
  split
  · next rest spelled => simp [spelled]
  · next other =>
    cases spelled : path.toList with
    | nil => simp
    | cons c rest =>
        simp only [List.head?_cons, Option.some.injEq, Bool.false_eq_true, false_iff]
        rintro rfl
        exact other rest spelled

/-- The directory of a path from the root is one from the root. -/
theorem isAbsolute_dir {path : String} (rooted : isAbsolute path) : isAbsolute (dir path) := by
  rw [isAbsolute_iff] at rooted
  have slash : '/' ∈ path.toList.reverse :=
    List.mem_reverse.mpr (List.mem_of_mem_head? rooted)
  have some : path.toList.reverse.dropWhile (· ≠ '/') ≠ [] := by
    rw [ne_eq, List.dropWhile_eq_nil_iff]
    intro every
    exact absurd (every '/' slash) (by decide)
  obtain ⟨front, whole⟩ := List.dropWhile_suffix (l := path.toList.reverse) (· ≠ '/')
  -- What stands first in a path is not cut off.
  have first := List.getLast?_append_of_ne_nil front some
  rw [whole, List.getLast?_reverse, rooted] at first
  rw [dir, isAbsolute_clean, isAbsolute_iff, String.toList_ofList, List.head?_reverse, ← first]

/-- The parts of a path from the root are the names on the way to where it leads. -/
theorem parts_eq_way {path : String} (rooted : isAbsolute path) (working : String) :
    parts path = way working path := by
  obtain ⟨ups, names, same, plain, top⟩ := exists_parts path
  rw [top rooted, List.replicate_zero, List.nil_append] at same
  rw [← walk_parts, origin, if_pos rooted, same, walk_plain plain, List.nil_append]

theorem clean_clean (path : String) : clean (clean path) = clean path := by
  rw [clean, isAbsolute_clean, (spelling_clean path).1, ← clean]

/-- The directory of a path that is spelled by its parts has all parts but the last. -/
theorem IsSpelling.dir_ofParts {rooted : Bool} {parts : List String} {last : String}
    (spelling : IsSpelling rooted (parts ++ [last])) :
    dir (ofParts rooted (parts ++ [last])) = ofParts rooted parts := by
  have lastFree := spelling.slashFree last (by simp)
  have cutOff : ∀ front : List Char,
      ((front ++ '/' :: last.toList).reverse.dropWhile (· ≠ '/')).reverse = front ++ ['/'] := by
    intro front
    have reversed : (front ++ '/' :: last.toList).reverse =
        last.toList.reverse ++ ('/' :: front.reverse) := by simp
    rw [reversed, dropWhile_name_reverse lastFree, List.dropWhile_cons_of_neg (by decide)]
    simp
  by_cases top : parts = []
  · cases rooted with
    | true =>
        have spelled : (ofParts true ([] ++ [last])).toList = [] ++ '/' :: last.toList := by
          simp [ofParts, Text.join]
        rw [top, dir, spelled, cutOff]
        decide
    | false =>
        have spelled : (ofParts false ([] ++ [last])).toList.reverse =
            last.toList.reverse ++ [] := by
          simp [ofParts, Text.join]
        rw [top, dir, spelled, dropWhile_name_reverse lastFree]
        decide
  · have spelled : (ofParts rooted (parts ++ [last])).toList =
        (ofParts rooted parts).toList ++ '/' :: last.toList := by
      rw [ofParts_concat top]
      simp
    have slash : String.ofList ((ofParts rooted parts).toList ++ ['/']) =
        ofParts rooted parts ++ "/" ++ "" := by
      have mark : String.ofList ['/'] = "/" := rfl
      rw [String.ofList_append, String.ofList_toList, mark, String.append_empty]
    have before := spelling.init top
    have same := (isBelow_under before.ofParts_ne_empty (by decide : ¬ Climbs "")).spelled
    have none : descent "" = [] := by decide
    rw [under_eq_clean before.ofParts_ne_empty, none, List.append_nil,
      before.isAbsolute_ofParts, before.parts_ofParts] at same
    rw [dir, spelled, cutOff, slash, same]

/-- Joined elements are a clean path that starts where the first of them does. -/
theorem joinAll_cons {first : String} (filled : first ≠ "") (rest : List String) :
    clean (joinAll (first :: rest)) = joinAll (first :: rest) ∧
      isAbsolute (joinAll (first :: rest)) = isAbsolute first := by
  have kept : (first :: rest).dropWhile (· = "") = first :: rest :=
    List.dropWhile_cons_of_neg (by simpa using filled)
  have start : isAbsolute (Text.join "/" (first :: rest)) = isAbsolute first := by
    cases rest with
    | nil => rw [Text.join, String.intercalate_singleton]
    | cons second rest =>
        rw [Text.join, String.intercalate_cons_cons, String.append_assoc,
          isAbsolute_append filled]
  rw [joinAll, kept]
  exact ⟨clean_clean _, (isAbsolute_clean _).trans start⟩

/-- Two clean paths from the root that lead to one place are spelled alike. -/
theorem eq_of_way_eq {path other working : String} (rooted : isAbsolute path)
    (otherRooted : isAbsolute other) (same : way working path = way working other)
    (spelled : clean path = path) (otherSpelled : clean other = other) : path = other := by
  rw [← spelled, ← otherSpelled, clean, clean, rooted, otherRooted, parts_eq_way rooted working,
    parts_eq_way otherRooted working, same]

end Path

namespace Config

open Path (IsPlain ofParts)

/-- The path of the configuration file in a directory, by the names on the way to it. -/
def pathIn (names : List String) : String := ofParts true (names ++ [fileName])

theorem isPlain_fileName : IsPlain fileName := by decide

theorem isAbsolute_rooted (names : List String) : Path.isAbsolute (ofParts true names) := by
  rw [Path.isAbsolute_iff, ofParts, if_pos rfl]
  simp

theorem rooted_ne_empty (names : List String) : ofParts true names ≠ "" := by
  intro empty
  have rooted := isAbsolute_rooted names
  rw [empty] at rooted
  exact absurd rooted (by decide)

section Up

variable {names : List String} (plain : ∀ name ∈ names, IsPlain name)
include plain

theorem parts_rooted : Path.parts (ofParts true names) = names := by
  by_cases top : names = []
  · rw [top]
    decide
  · have spelling : Path.IsSpelling true names :=
      ⟨⟨0, names, rfl, plain, fun _ => rfl⟩, top⟩
    exact spelling.parts_ofParts

theorem under_rooted : Path.under (ofParts true names) fileName = pathIn names := by
  have joined := Path.under_join (List.forall_mem_singleton.mpr isPlain_fileName)
    (List.cons_ne_nil _ []) (rooted_ne_empty names)
  rwa [Text.join, String.intercalate_singleton, isAbsolute_rooted, parts_rooted plain] at joined

theorem dir_rooted {last : String} (lastPlain : IsPlain last) :
    Path.dir (ofParts true (names ++ [last])) = ofParts true names := by
  have every : ∀ name ∈ names ++ [last], IsPlain name :=
    List.forall_mem_append.mpr ⟨plain, List.forall_mem_singleton.mpr lastPlain⟩
  have some : names ++ [last] ≠ [] := List.append_ne_nil_of_right_ne_nil _ (List.cons_ne_nil _ _)
  have spelling : Path.IsSpelling true (names ++ [last]) :=
    ⟨⟨0, names ++ [last], rfl, every, fun _ => rfl⟩, some⟩
  exact spelling.dir_ofParts

theorem length_le_rooted : names.length ≤ (ofParts true names).length := by
  induction names using List.reverseRecOn with
  | nil => exact Nat.zero_le _
  | append_singleton names last ih =>
      rw [List.forall_mem_append, List.forall_mem_singleton] at plain
      by_cases top : names = []
      · have filled : 1 ≤ last.length := by
          rw [Nat.one_le_iff_ne_zero, ne_eq, String.length_eq_zero_iff]
          exact plain.2.ne_empty
        have single : ofParts true [last] = "/" ++ last := by simp [ofParts, Text.join]
        rw [top, List.nil_append, single, String.length_append, List.length_singleton]
        omega
      · have shorter := ih plain.1
        have slash : "/".length = 1 := by decide
        rw [Path.ofParts_concat top, String.length_append, String.length_append, slash,
          List.length_append, List.length_singleton]
        omega

end Up

/-- The directories above one from the root are from the root. -/
theorem isAbsolute_of_mem_ancestry {fuel : Nat} {start directory : String}
    (rooted : Path.isAbsolute start) (member : directory ∈ ancestry fuel start) :
    Path.isAbsolute directory := by
  induction fuel generalizing start with
  | zero =>
      rw [List.mem_singleton.mp member]
      exact rooted
  | succ fuel ih =>
      unfold ancestry at member
      simp only at member
      split at member
      · rw [List.mem_singleton.mp member]
        exact rooted
      · rcases List.mem_cons.mp member with rfl | above
        · exact rooted
        · exact ih (Path.isAbsolute_dir rooted) above

/-! ## The nearest file -/

/-- The nearest place at or above one that has something, if any place has. -/
def IsNearest (has : List String → Prop) (names : List String) : Option (List String) → Prop
  | none => ∀ above, above <+: names → ¬ has above
  | some above =>
      above <+: names ∧ has above ∧
        ∀ further, further <+: names → has further → further <+: above

theorem exists_nearest_ancestry (holds : String → Bool) {names : List String}
    (plain : ∀ name ∈ names, IsPlain name) {fuel : Nat} (enough : names.length ≤ fuel) :
    ∃ found, ((ancestry fuel (ofParts true names)).map (Path.under · fileName)).find? holds =
        Option.map pathIn found ∧
      IsNearest (fun above => holds (pathIn above)) names found := by
  induction names using List.reverseRecOn generalizing fuel with
  | nil =>
      have alone : ancestry fuel (ofParts true []) = [ofParts true []] := by
        cases fuel with
        | zero => rfl
        | succ fuel =>
            have top : Path.dir (ofParts true []) = ofParts true [] := by decide
            rw [ancestry, top, if_pos rfl]
      rw [alone, List.map_singleton, under_rooted plain]
      cases here : holds (pathIn []) with
      | true =>
          refine ⟨some [], by rw [List.find?_cons_of_pos here]; rfl, List.prefix_refl [], here, ?_⟩
          exact fun further isAbove _ => isAbove
      | false =>
          refine ⟨none, by rw [List.find?_cons_of_neg (by simp [here])]; rfl, ?_⟩
          intro above isAbove
          rw [List.prefix_nil.mp isAbove]
          simp [here]
  | append_singleton names last ih =>
      rw [List.length_append, List.length_singleton] at enough
      have below := plain
      rw [List.forall_mem_append, List.forall_mem_singleton] at plain
      obtain ⟨rest, rfl⟩ := Nat.exists_eq_add_of_le' (Nat.le_of_add_left_le enough)
      have differ : ¬ ofParts true names = ofParts true (names ++ [last]) := by
        intro same
        have parts := congrArg (List.length ∘ Path.parts) same
        simp only [Function.comp_apply, parts_rooted plain.1, parts_rooted below,
          List.length_append, List.length_singleton] at parts
        omega
      have up : ancestry (rest + 1) (ofParts true (names ++ [last])) =
          ofParts true (names ++ [last]) :: ancestry rest (ofParts true names) := by
        rw [ancestry, dir_rooted plain.1 plain.2, if_neg differ]
      rw [up, List.map_cons, under_rooted below]
      cases here : holds (pathIn (names ++ [last])) with
      | true =>
          refine ⟨some (names ++ [last]), by rw [List.find?_cons_of_pos here]; rfl,
            List.prefix_refl _, here, ?_⟩
          exact fun further isAbove _ => isAbove
      | false =>
          have enoughRest : names.length ≤ rest := by omega
          obtain ⟨found, same, nearest⟩ := ih plain.1 enoughRest
          refine ⟨found, by rw [List.find?_cons_of_neg (by simp [here]), same], ?_⟩
          have higher : ∀ above, above <+: names ++ [last] → holds (pathIn above) →
              above <+: names := by
            intro above isAbove has
            rcases List.prefix_concat_iff.mp isAbove with rfl | higher
            · rw [here] at has
              cases has
            · exact higher
          cases found with
          | none => exact fun above isAbove has => nearest above (higher above isAbove has) has
          | some above =>
              obtain ⟨isAbove, has, first⟩ := nearest
              refine ⟨isAbove.trans (List.prefix_append _ _), has, ?_⟩
              exact fun further isFurther has => first further (higher further isFurther has) has

end Config

end DomainGen
