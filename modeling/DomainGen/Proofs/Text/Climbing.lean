import DomainGen.Proofs.Text.Paths

/-!
# Paths that climb

A path climbs if it goes up, somewhere on its way, more often than it went down before.
Such a path leads out of the directory it starts from, and comes back at most by chance.
A path that does not climb leads from every directory to the same names below it
(`isBelow_under`), so that exactly the paths that do not climb stay within every directory
(`within_under_iff`).

A path without a parent segment does not climb (`parent_mem_of_climbs`).
-/

namespace DomainGen.Text

/-! ## Segments of a text -/

theorem mem_of_mem_cut {separator c : Char} {text piece : List Char}
    (member : piece ∈ cut separator text) (inside : c ∈ piece) : c ∈ text := by
  induction text generalizing piece with
  | nil =>
      rw [cut, List.mem_singleton] at member
      rwa [← member]
  | cons first text ih =>
      rw [cut] at member
      split at member
      · cases List.mem_cons.mp member with
        | inl same =>
            rw [same] at inside
            exact absurd inside List.not_mem_nil
        | inr later => exact List.mem_cons_of_mem _ (ih later inside)
      · split at member
        · next empty => exact absurd empty (cut_ne_nil separator text)
        · next start others found =>
          rw [found] at ih
          cases List.mem_cons.mp member with
          | inl same =>
              rw [same] at inside
              cases List.mem_cons.mp inside with
              | inl here => exact here ▸ List.mem_cons_self
              | inr inside => exact List.mem_cons_of_mem _ (ih List.mem_cons_self inside)
          | inr later => exact List.mem_cons_of_mem _ (ih (List.mem_cons_of_mem _ later) inside)

/-- A segment has no characters of its own. -/
theorem mem_of_mem_segments {separator c : Char} {text segment : String}
    (member : segment ∈ segments separator text) (inside : c ∈ segment.toList) :
    c ∈ text.toList := by
  obtain ⟨piece, cutOut, rfl⟩ := List.mem_map.mp member
  rw [String.toList_ofList] at inside
  exact mem_of_mem_cut cutOut inside

end DomainGen.Text

namespace DomainGen.Path

open DomainGen.Text

/-- The segments of paths that are joined are those of each of them, in order. -/
theorem segments_join_eq_flatMap {paths : List String} (some : paths ≠ []) :
    segments '/' (join "/" paths) = paths.flatMap (segments '/') := by
  induction paths with
  | nil => contradiction
  | cons path paths ih =>
      cases paths with
      | nil => simp [join]
      | cons next paths =>
          have joined : join "/" (path :: next :: paths) =
              path ++ "/" ++ join "/" (next :: paths) := String.intercalate_cons_cons
          rw [joined, segments_append_slash, ih (List.cons_ne_nil _ _),
            List.flatMap_cons (x := path)]

/-- What is put behind a path lengthens its last segment. -/
theorem segments_append_suffix {path last suffix : String} {front : List String}
    (cutOut : segments '/' path = front ++ [last]) (free : '/' ∉ suffix.toList) :
    segments '/' (path ++ suffix) = front ++ [last ++ suffix] := by
  have spelled : path ++ suffix = join "/" (front ++ [last ++ suffix]) := by
    rw [← join_segments_slash path, cutOut]
    by_cases single : front = []
    · simp [single, join]
    · rw [join_concat single, join_concat single]
      simp only [String.append_assoc]
  rw [spelled]
  refine segments_intercalate (by simp) ?_
  intro segment member
  rcases List.mem_append.mp member with member | member
  · have listed : segment ∈ segments '/' path := by simp [cutOut, member]
    exact slashFree_of_mem_segments listed
  · have listed : last ∈ segments '/' path := by simp [cutOut]
    have lastFree := slashFree_of_mem_segments listed
    rw [List.mem_singleton.mp member, String.toList_append, List.mem_append, not_or]
    exact ⟨lastFree, free⟩

/-- A parent segment of a path with an extension is one of the path without it. -/
theorem parent_mem_of_append {path suffix : String} (free : '/' ∉ suffix.toList)
    (long : 2 < suffix.length) (member : ".." ∈ segments '/' (path ++ suffix)) :
    ".." ∈ segments '/' path := by
  obtain ⟨front, last, cutOut⟩ := (List.eq_nil_or_concat (segments '/' path)).resolve_left
    (segments_ne_nil '/' path)
  rw [List.concat_eq_append] at cutOut
  rw [segments_append_suffix cutOut free, List.mem_append, List.mem_singleton] at member
  cases member with
  | inl member =>
      rw [cutOut]
      exact List.mem_append_left _ member
  | inr same =>
      have length : "..".length = last.length + suffix.length := by
        rw [same, String.length_append]
      have two : "..".length = 2 := by decide
      omega

/-! ## Climbing -/

/-- Whether segments never lead above a directory from so many levels below it. -/
def staysBelow : Nat → List String → Bool
  | _, [] => true
  | depth, segment :: rest =>
      if segment = "" || segment = "." then staysBelow depth rest
      else if segment = ".." then 0 < depth && staysBelow (depth - 1) rest
      else staysBelow (depth + 1) rest

/-- A path that leads above the directory it starts from. -/
def Climbs (path : String) : Prop := ¬ staysBelow 0 (segments '/' path)

instance (path : String) : Decidable (Climbs path) :=
  inferInstanceAs (Decidable (¬ staysBelow 0 (segments '/' path)))

/-- The names that a path goes down by, if it does not climb. -/
def descent (path : String) : List String := walk [] (segments '/' path)

theorem staysBelow_of_parent_not_mem {segments : List String} (absent : ".." ∉ segments)
    (depth : Nat) : staysBelow depth segments := by
  induction segments generalizing depth with
  | nil => rfl
  | cons segment rest ih =>
      rw [List.mem_cons, not_or] at absent
      rw [staysBelow]
      split
      · exact ih absent.2 depth
      · rw [if_neg (Ne.symm absent.1)]
        exact ih absent.2 (depth + 1)

theorem parent_mem_of_climbs {path : String} (climbs : Climbs path) :
    ".." ∈ segments '/' path := by
  by_contra absent
  exact climbs (staysBelow_of_parent_not_mem absent 0)

section Step

variable {rooted : Bool} {kept : List String} {segment : String}

theorem step_of_skipped (skipped : segment = "" || segment = ".") :
    step rooted kept segment = kept := if_pos skipped

theorem step_of_proper (proper : ¬ (segment = "" || segment = ".")) (down : segment ≠ "..") :
    step rooted kept segment = segment :: kept := by
  unfold step
  rw [if_neg proper, if_neg down]

/-- A parent segment undoes the name before it. -/
theorem step_parent {last : String} (down : last ≠ "..") :
    step rooted (last :: kept) ".." = kept := by
  unfold step
  rw [if_neg (by decide), if_pos rfl]
  exact if_neg down

end Step

/-- The parts that are worked out from some names on are the names that the segments lead
to, if these never lead above the first name. -/
theorem foldl_step_of_staysBelow {rooted : Bool} {names segments : List String}
    (below : staysBelow names.length segments) (down : ∀ name ∈ names, name ≠ "..")
    (kept : List String) :
    segments.foldl (step rooted) (names.reverse ++ kept) =
      (walk names segments).reverse ++ kept := by
  induction segments generalizing names with
  | nil => rfl
  | cons segment rest ih =>
      rw [staysBelow] at below
      rw [List.foldl_cons, walk]
      split
      · next skipped =>
        rw [if_pos skipped] at below
        rw [step_of_skipped skipped]
        exact ih below down
      · next proper =>
        rw [if_neg proper] at below
        split
        · next parent =>
          rw [if_pos parent, Bool.and_eq_true] at below
          rw [parent]
          rcases List.eq_nil_or_concat names with rfl | ⟨front, last, rfl⟩
          · exact absurd below.1 (by decide)
          · rw [List.concat_eq_append] at below down ⊢
            have lastDown : last ≠ ".." := down last (by simp)
            rw [List.length_append, List.length_singleton, Nat.add_sub_cancel] at below
            rw [List.reverse_concat, List.cons_append, step_parent lastDown, List.dropLast_concat]
            exact ih below.2 fun name member => down name (List.mem_append_left _ member)
        · next proceeds =>
          rw [if_neg proceeds] at below
          have longer : segment :: (names.reverse ++ kept) =
              (names ++ [segment]).reverse ++ kept := by simp
          rw [step_of_proper proper proceeds, longer]
          exact ih (by simpa using below)
            (List.forall_mem_append.mpr ⟨down, List.forall_mem_singleton.mpr proceeds⟩)

theorem foldl_step_of_not_climbs {path : String} (stays : ¬ Climbs path) (rooted : Bool)
    (kept : List String) :
    (segments '/' path).foldl (step rooted) kept = (descent path).reverse ++ kept := by
  have none : ∀ name ∈ ([] : List String), name ≠ ".." := nofun
  have below : staysBelow ([] : List String).length (segments '/' path) := not_not.mp stays
  exact foldl_step_of_staysBelow below none kept

/-- A parent segment that was kept once is never undone. -/
theorem parent_mem_foldl_step {segments kept : List String} (member : ".." ∈ kept) :
    ".." ∈ segments.foldl (step false) kept := by
  induction segments generalizing kept with
  | nil => exact member
  | cons segment rest ih =>
      refine ih ?_
      unfold step
      split
      · exact member
      · split
        · cases kept with
          | nil => cases member
          | cons last before =>
              simp only
              split
              · exact List.mem_cons_self
              · next apart =>
                exact (List.mem_cons.mp member).resolve_left (Ne.symm apart)
        · exact List.mem_cons_of_mem _ member

/-- Where segments lead above the first name, a parent segment is kept. -/
theorem parent_mem_of_not_staysBelow {names segments : List String}
    (above : ¬ staysBelow names.length segments) (down : ∀ name ∈ names, name ≠ "..") :
    ".." ∈ segments.foldl (step false) names.reverse := by
  induction segments generalizing names with
  | nil => exact absurd rfl above
  | cons segment rest ih =>
      rw [staysBelow] at above
      rw [List.foldl_cons]
      split at above
      · next skipped =>
        rw [step_of_skipped skipped]
        exact ih above down
      · next proper =>
        split at above
        · next parent =>
          rw [parent]
          rcases List.eq_nil_or_concat names with rfl | ⟨front, last, rfl⟩
          · exact parent_mem_foldl_step List.mem_cons_self
          · rw [List.concat_eq_append] at above down ⊢
            have lastDown : last ≠ ".." := down last (by simp)
            rw [List.length_append, List.length_singleton, Nat.add_sub_cancel,
              decide_eq_true (Nat.succ_pos _), Bool.true_and] at above
            rw [List.reverse_concat, step_parent lastDown]
            exact ih above fun name member => down name (List.mem_append_left _ member)
        · next proceeds =>
          have longer : segment :: names.reverse = (names ++ [segment]).reverse := by simp
          rw [step_of_proper proper proceeds, longer]
          exact ih (by simpa using above)
            (List.forall_mem_append.mpr ⟨down, List.forall_mem_singleton.mpr proceeds⟩)

theorem parent_mem_foldl_of_climbs {path : String} (climbs : Climbs path) :
    ".." ∈ (segments '/' path).foldl (step false) [] := by
  have none : ∀ name ∈ ([] : List String), name ≠ ".." := nofun
  have above : ¬ staysBelow ([] : List String).length (segments '/' path) := climbs
  exact parent_mem_of_not_staysBelow above none

theorem walk_plain_of_slashFree {segments here : List String}
    (slashFree : ∀ segment ∈ segments, '/' ∉ segment.toList)
    (plain : ∀ name ∈ here, IsPlain name) : ∀ name ∈ walk here segments, IsPlain name := by
  fun_induction walk here segments with
  | case1 here => exact plain
  | case2 here segment rest skipped ih =>
      exact ih (List.forall_mem_cons.mp slashFree).2 plain
  | case3 here rest proper ih =>
      refine ih (List.forall_mem_cons.mp slashFree).2 ?_
      exact fun name member => plain name ((List.dropLast_sublist here).subset member)
  | case4 here segment rest proper down ih =>
      simp only [Bool.or_eq_true, decide_eq_true_eq, not_or] at proper
      have last : IsPlain segment :=
        ⟨proper.1, proper.2, down, slashFree segment List.mem_cons_self⟩
      exact ih (List.forall_mem_cons.mp slashFree).2
        (List.forall_mem_append.mpr ⟨plain, List.forall_mem_singleton.mpr last⟩)

/-! ## Cleaned paths -/

/-- The root and the directory that paths start from have no parts. -/
theorem spelling_nil (rooted : Bool) :
    parts (ofParts rooted []) = [] ∧ isAbsolute (ofParts rooted []) = rooted ∧
      ofParts rooted [] ≠ "" := by
  cases rooted with
  | true => decide
  | false => decide

/-- A directory that is continued by names has its parts and these names. -/
theorem spelling_append {directory : String} {names : List String}
    (plain : ∀ name ∈ names, IsPlain name) :
    parts (ofParts (isAbsolute directory) (parts directory ++ names)) = parts directory ++ names ∧
      isAbsolute (ofParts (isAbsolute directory) (parts directory ++ names)) =
        isAbsolute directory ∧
      ofParts (isAbsolute directory) (parts directory ++ names) ≠ "" := by
  by_cases empty : parts directory ++ names = []
  · rw [empty]
    exact spelling_nil _
  · have spelling := isSpelling_append plain empty
    exact ⟨spelling.parts_ofParts, spelling.isAbsolute_ofParts, spelling.ofParts_ne_empty⟩

theorem spelling_clean (path : String) : parts (clean path) = parts path ∧ clean path ≠ "" := by
  have none : ∀ name ∈ ([] : List String), IsPlain name := nofun
  obtain ⟨same, -, some⟩ := @spelling_append path [] none
  rw [List.append_nil] at same some
  exact ⟨same, some⟩

/-- The shortest spelling of a path leads where the path leads. -/
theorem way_clean (working path : String) : way working (clean path) = way working path := by
  have none : ∀ name ∈ ([] : List String), IsPlain name := nofun
  obtain ⟨same, rooted, -⟩ := @spelling_append path [] none
  rw [List.append_nil] at same rooted
  rw [← walk_parts, ← walk_parts working path, origin, origin, clean, rooted, same]

/-- A path leads to the same place when it is spelled from the root. -/
theorem way_absolute {working : String} (rooted : isAbsolute working) (path : String) :
    way working (absolute working path) = way working path := by
  unfold absolute
  split
  · exact way_clean working path
  · next relative =>
    have spelled : working ≠ "" := by
      rintro rfl
      exact absurd rooted (by decide)
    obtain ⟨ups, names, same, plain, top⟩ := exists_parts working
    rw [top rooted, List.replicate_zero, List.nil_append] at same
    have start : walk [] (segments '/' working) = parts working := by
      have ends := walk_parts working working
      rw [way, origin, if_pos rooted] at ends
      rw [← ends, same, walk_plain plain, List.nil_append]
    rw [under_eq_clean spelled, way_clean, way, origin, String.append_assoc,
      isAbsolute_append spelled, if_pos rooted, ← String.append_assoc, segments_append_slash,
      walk_append, start, way, origin, if_neg relative]

/-! ## Staying within a directory -/

/-- A path that continues a directory by some names. -/
structure IsBelow (directory path : String) (names : List String) : Prop where
  spelled : path = ofParts (isAbsolute directory) (parts directory ++ names)
  plain : ∀ name ∈ names, IsPlain name

/-- A path that leads to a directory or to something below it. -/
def Within (directory path : String) : Prop := ∃ names, IsBelow directory path names

namespace IsBelow

variable {directory path : String} {names : List String} (below : IsBelow directory path names)
include below

theorem parts_eq : parts path = parts directory ++ names := by
  rw [below.spelled, (spelling_append below.plain).1]

theorem way_eq (working : String) : way working path = way working directory ++ names := by
  have start : origin working path = origin working directory := by
    rw [origin, origin, below.spelled, (spelling_append below.plain).2.1]
  rw [← walk_parts, start, below.parts_eq, walk_append, walk_parts, walk_plain below.plain]

end IsBelow

section Under

variable {directory : String} (some : directory ≠ "") (path : String)
include some

theorem isAbsolute_append_slash : isAbsolute (directory ++ "/" ++ path) = isAbsolute directory := by
  rw [String.append_assoc, isAbsolute_append some]

/-- The parts of a path below a directory are worked out from those of the directory on. -/
theorem parts_append_slash :
    parts (directory ++ "/" ++ path) =
      ((segments '/' path).foldl (step (isAbsolute directory))
        (parts directory).reverse).reverse := by
  rw [parts, isAbsolute_append_slash some, segments_append_slash, List.foldl_append, parts,
    List.reverse_reverse]

variable {path}

/-- A path that does not climb leads from every directory to the same names below it. -/
theorem isBelow_under (stays : ¬ Climbs path) :
    IsBelow directory (under directory path) (descent path) := by
  constructor
  · rw [under_eq_clean some, clean, isAbsolute_append_slash some, parts_append_slash some,
      foldl_step_of_not_climbs stays, List.reverse_append, List.reverse_reverse,
      List.reverse_reverse]
  · refine walk_plain_of_slashFree (fun _ => slashFree_of_mem_segments) ?_
    intro name member
    exact absurd member List.not_mem_nil

end Under

/-- A path that climbs leads out of the directory it starts from. -/
theorem not_within_of_climbs {path : String} (climbs : Climbs path) :
    ¬ Within "." (under "." path) := by
  rintro ⟨names, below⟩
  have some : "." ≠ "" := by decide
  have relative : isAbsolute "." = false := by decide
  have here : parts "." = [] := by decide
  have cleaned := (spelling_clean ("." ++ "/" ++ path)).1
  rw [← under_eq_clean some, below.parts_eq, parts_append_slash some, here, relative,
    List.nil_append] at cleaned
  have parent : ".." ∈ names := by
    rw [cleaned, List.mem_reverse]
    exact parent_mem_foldl_of_climbs climbs
  exact (below.plain ".." parent).ne_parent rfl

/-- Exactly the paths that do not climb lead, from every directory, to the directory or to
something below it. -/
theorem within_under_iff {path : String} :
    (∀ directory, directory ≠ "" → Within directory (under directory path)) ↔ ¬ Climbs path := by
  constructor
  · intro within climbs
    exact not_within_of_climbs climbs (within "." (by decide))
  · intro stays directory some
    exact ⟨_, isBelow_under some stays⟩

end DomainGen.Path
