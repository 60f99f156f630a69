import DomainGen.Proofs.Config.Loading
import Mathlib.Data.Nat.Find
import Mathlib.Logic.Function.Iterate

/-!
# Searching upwards for a configuration file

The search for a configuration file goes from a path to its directory until that makes no
difference any more.  Going up takes away the last part of a clean path, and the directory of any
path is a clean one, so that the search ends however a path is spelled (`exists_dir_eq_self`).  It
finds the file in the first directory on the way that has one (`findProject_nearest`).
-/

namespace DomainGen

namespace Path

open DomainGen.Text (segments cut)

/-! ## The number of parts -/

theorem length_step_le (rooted : Bool) (kept : List String) (segment : String) :
    (step rooted kept segment).length ≤ kept.length + 1 := by
  unfold step
  split
  · exact Nat.le_succ _
  · split
    · cases kept with
      | nil => cases rooted <;> simp
      | cons last before =>
          dsimp only
          split
          · simp
          · simp only [List.length_cons]
            omega
    · exact Nat.le_refl _

theorem length_foldl_step_le (rooted : Bool) (segments kept : List String) :
    (segments.foldl (step rooted) kept).length ≤ kept.length + segments.length := by
  induction segments generalizing kept with
  | nil => exact Nat.le_refl _
  | cons segment segments ih =>
      have one := length_step_le rooted kept segment
      have rest := ih (step rooted kept segment)
      rw [List.foldl_cons, List.length_cons]
      omega

theorem length_cut_le (separator : Char) (text : List Char) :
    (cut separator text).length ≤ text.length + 1 := by
  fun_induction cut separator text with
  | case1 => exact Nat.le_refl _
  | case2 rest ih => exact Nat.succ_le_succ ih
  | case3 c rest apart empty ih => simp
  | case4 c rest apart segment segments found ih =>
      rw [found] at ih
      simp only [List.length_cons] at ih ⊢
      omega

/-- A path has no more parts than characters, and one more. -/
theorem length_parts_le (path : String) : (parts path).length ≤ path.length + 1 := by
  have kept := length_foldl_step_le (isAbsolute path) (segments '/' path) []
  have pieces := length_cut_le '/' path.toList
  rw [List.length_nil, Nat.zero_add] at kept
  rw [parts, List.length_reverse]
  refine kept.trans ?_
  rwa [segments, List.length_map]

/-! ## The way up ends -/

/-- The directory of a path is spelled by parts. -/
theorem exists_dir_eq_ofParts (path : String) :
    ∃ rooted parts, dir path = ofParts rooted parts ∧
      (parts = [] ∨ IsSpelling rooted parts) ∧ parts.length ≤ path.length + 1 := by
  let front := String.ofList (path.toList.reverse.dropWhile (· ≠ '/')).reverse
  refine ⟨isAbsolute front, parts front, rfl, ?_, ?_⟩
  · by_cases none : parts front = []
    · exact .inl none
    · exact .inr ⟨exists_parts front, none⟩
  · have shorter : front.length ≤ path.length := by
      have cutOff := (List.dropWhile_sublist (l := path.toList.reverse) (· ≠ '/')).length_le
      simpa [front, ← String.length_toList] using cutOff
    exact (length_parts_le front).trans (Nat.succ_le_succ shorter)

theorem dir_ofParts_nil (rooted : Bool) : dir (ofParts rooted []) = ofParts rooted [] := by
  cases rooted with
  | true => decide
  | false => decide

/-- Going up once for each part takes all of them away. -/
theorem iterate_dir_ofParts {rooted : Bool} {parts : List String}
    (spelling : parts = [] ∨ IsSpelling rooted parts) :
    dir^[parts.length] (ofParts rooted parts) = ofParts rooted [] := by
  induction parts using List.reverseRecOn with
  | nil => rfl
  | append_singleton parts last ih =>
      have spelled := spelling.resolve_left
        (List.append_ne_nil_of_right_ne_nil _ (List.cons_ne_nil _ _))
      have before : parts = [] ∨ IsSpelling rooted parts := by
        by_cases none : parts = []
        · exact .inl none
        · exact .inr (spelled.init none)
      rw [List.length_append, List.length_singleton, Function.iterate_succ_apply,
        spelled.dir_ofParts, ih before]

/-- Going up from a path gets to one that is its own directory. -/
theorem exists_dir_eq_self (path : String) :
    ∃ top ≤ path.length + 2, dir (dir^[top] path) = dir^[top] path := by
  obtain ⟨rooted, parts, spelled, spelling, short⟩ := exists_dir_eq_ofParts path
  refine ⟨parts.length + 1, Nat.succ_le_succ short, ?_⟩
  rw [Function.iterate_succ_apply, spelled, iterate_dir_ofParts spelling, dir_ofParts_nil]

/-- The first path on the way up that is its own directory. -/
theorem exists_first_dir_eq_self (path : String) :
    ∃ top ≤ path.length + 2, dir (dir^[top] path) = dir^[top] path ∧
      ∀ n < top, dir (dir^[n] path) ≠ dir^[n] path := by
  have ends : ∃ top, dir (dir^[top] path) = dir^[top] path := by
    obtain ⟨top, -, fixed⟩ := exists_dir_eq_self path
    exact ⟨top, fixed⟩
  obtain ⟨top, short, fixed⟩ := exists_dir_eq_self path
  refine ⟨Nat.find ends, (Nat.find_min' ends fixed).trans short, Nat.find_spec ends, ?_⟩
  intro n before
  exact Nat.find_min ends before

example : (List.range 5).map (fun n => dir^[n] "..//a/./b/") =
    ["..//a/./b/", "../a/b", "../a", "..", "."] := by decide

end Path

namespace Config

/-- The directories that are looked in are those on the way up. -/
theorem ancestry_eq_map_iterate {top fuel : Nat} {start : String} (enough : top ≤ fuel)
    (fixed : Path.dir (Path.dir^[top] start) = Path.dir^[top] start)
    (first : ∀ n < top, Path.dir (Path.dir^[n] start) ≠ Path.dir^[n] start) :
    ancestry fuel start = (List.range (top + 1)).map fun n => Path.dir^[n] start := by
  induction top generalizing fuel start with
  | zero =>
      have same : Path.dir start = start := fixed
      cases fuel with
      | zero => rfl
      | succ fuel =>
          rw [ancestry, if_pos same]
          rfl
  | succ top ih =>
      obtain ⟨fuel, rfl⟩ := Nat.exists_eq_add_of_le' (Nat.le_of_add_left_le enough)
      have differs : Path.dir start ≠ start := first 0 (Nat.succ_pos top)
      have further : ancestry fuel (Path.dir start) =
          (List.range (top + 1)).map fun n => Path.dir^[n] (Path.dir start) :=
        ih (Nat.le_of_succ_le_succ enough) fixed
          fun n before => first (n + 1) (Nat.succ_lt_succ before)
      rw [ancestry, if_neg differs, further, List.range_succ_eq_map (n := top + 1), List.map_cons,
        List.map_map]
      rfl

/-- The search from any path ends, and finds the file in the first directory on the way up that
has one: the path itself, its directory, the directory of that, and so on up to the first that is
its own directory.  If none of these has one, nothing is found. -/
theorem findProject_nearest (start : String) (machine : Machine) :
    ∃ top, Path.dir (Path.dir^[top] start) = Path.dir^[top] start ∧
      (∀ n < top, Path.dir (Path.dir^[n] start) ≠ Path.dir^[n] start) ∧
      let candidate := fun n => Path.under (Path.dir^[n] start) fileName
      ((∃ n ≤ top, machine.hasFile (candidate n) ∧
          (∀ nearer < n, ¬ machine.hasFile (candidate nearer)) ∧
          (findProject start : StateM Machine String) machine = (candidate n, machine)) ∨
        (∀ n ≤ top, ¬ machine.hasFile (candidate n)) ∧
          (findProject start : StateM Machine String) machine = ("", machine)) := by
  obtain ⟨top, short, fixed, first⟩ := Path.exists_first_dir_eq_self start
  refine ⟨top, fixed, first, ?_⟩
  intro candidate
  have searched : (findProject start : StateM Machine String) machine =
      ((((List.range (top + 1)).find? (machine.hasFile ∘ candidate)).map candidate).getD "",
        machine) := by
    have listed : (upwards start).map (Path.under · fileName) =
        (List.range (top + 1)).map candidate := by
      rw [upwards, ancestry_eq_map_iterate short fixed first, List.map_map]
      rfl
    rw [findProject, machine.firstFile_eq, listed, List.find?_map]
  cases found : (List.range (top + 1)).find? (machine.hasFile ∘ candidate) with
  | none =>
      right
      have none := List.find?_eq_none.mp found
      refine ⟨fun n within => none n (List.mem_range.mpr (Nat.lt_succ_of_le within)), ?_⟩
      rw [searched, found]
      rfl
  | some n =>
      left
      obtain ⟨has, within, before⟩ := List.find?_range_eq_some.mp found
      refine ⟨n, Nat.le_of_lt_succ (List.mem_range.mp within), has, ?_, ?_⟩
      · intro nearer less
        simpa using before nearer less
      · rw [searched, found]
        rfl

end Config

end DomainGen
