import DomainGen.Proofs.Text.Dotted
import Mathlib.Data.List.TakeWhile
import DomainGen.Text.Path

/-!
# Where paths lead

A path leads from a directory along its segments: a plain name goes down, a
parent segment goes up.  The *way* of a path is where it ends, as the names from
the root on.  Cleaning a path changes how it is spelled, but not its way, so a
path below a directory leads to the names it adds (`way_under`).

The parts of a path are parent segments followed by plain names, and a path that
is spelled by such parts has these parts (`parts_ofParts`).
-/

namespace DomainGen.Path

open DomainGen.Text

/-- A name that goes down by one directory. -/
structure IsPlain (name : String) : Prop where
  ne_empty : name ≠ ""
  ne_current : name ≠ "."
  ne_parent : name ≠ ".."
  slashFree : '/' ∉ name.toList

instance (name : String) : Decidable (IsPlain name) :=
  decidable_of_iff (name ≠ "" ∧ name ≠ "." ∧ name ≠ ".." ∧ '/' ∉ name.toList)
    ⟨fun ⟨ne_empty, ne_current, ne_parent, slashFree⟩ =>
      ⟨ne_empty, ne_current, ne_parent, slashFree⟩,
      fun plain => ⟨plain.ne_empty, plain.ne_current, plain.ne_parent, plain.slashFree⟩⟩

/-! ## Walking along segments -/

/-- Where segments lead from a directory. -/
def walk (here : List String) : List String → List String
  | [] => here
  | segment :: rest =>
      if segment = "" || segment = "." then walk here rest
      else if segment = ".." then walk here.dropLast rest
      else walk (here ++ [segment]) rest

theorem walk_append (here front back : List String) :
    walk here (front ++ back) = walk (walk here front) back := by
  fun_induction walk here front with
  | case1 here => rfl
  | case2 here segment rest skipped ih => rw [List.cons_append, walk, if_pos skipped, ih]
  | case3 here rest kept ih => rw [List.cons_append, walk, if_neg kept, if_pos rfl, ih]
  | case4 here segment rest kept down ih =>
      rw [List.cons_append, walk, if_neg kept, if_neg down, ih]

theorem walk_cons_plain {name : String} (plain : IsPlain name) (here rest : List String) :
    walk here (name :: rest) = walk (here ++ [name]) rest := by
  rw [walk, if_neg (by simp [plain.ne_empty, plain.ne_current]), if_neg plain.ne_parent]

theorem walk_plain {names : List String} (plain : ∀ name ∈ names, IsPlain name)
    (here : List String) : walk here names = here ++ names := by
  induction names generalizing here with
  | nil => simp [walk]
  | cons name names ih =>
      have rest : ∀ name ∈ names, IsPlain name := fun other member => plain other (by simp [member])
      rw [walk_cons_plain (plain name (by simp)), ih rest, List.append_assoc, List.singleton_append]

/-! ## The parts of a path -/

/-- What is kept while the parts of a path are worked out, last part first. -/
def IsKept (rooted : Bool) (kept : List String) : Prop :=
  ∃ names ups, kept = names ++ List.replicate ups ".." ∧ (∀ name ∈ names, IsPlain name) ∧
    (rooted → ups = 0)

theorem IsKept.step {rooted : Bool} {kept : List String} (shape : IsKept rooted kept)
    {segment : String} (slashFree : '/' ∉ segment.toList) :
    IsKept rooted (Path.step rooted kept segment) := by
  rcases shape with ⟨names, ups, rfl, plain, absolute⟩
  unfold Path.step
  split
  · exact ⟨names, ups, rfl, plain, absolute⟩
  next proper =>
  split
  · cases names with
    | nil =>
        cases ups with
        | zero =>
            cases rooted with
            | true => exact ⟨[], 0, rfl, by simp, fun _ => rfl⟩
            | false => exact ⟨[], 1, rfl, by simp, by simp⟩
        | succ ups =>
            refine ⟨[], ups + 2, ?_, by simp, fun isRooted => absurd (absolute isRooted) (by simp)⟩
            simp [List.replicate_succ]
    | cons last names =>
        have down := (plain last (by simp)).ne_parent
        refine ⟨names, ups, ?_, fun name member => plain name (by simp [member]), absolute⟩
        simp [down]
  · next down =>
    simp only [Bool.or_eq_true, decide_eq_true_eq, not_or] at proper
    refine ⟨segment :: names, ups, rfl, ?_, absolute⟩
    intro name member
    rcases List.mem_cons.mp member with rfl | member
    · exact ⟨proper.1, proper.2, down, slashFree⟩
    · exact plain name member

theorem IsKept.foldl {rooted : Bool} {segments : List String}
    (slashFree : ∀ segment ∈ segments, '/' ∉ segment.toList) {kept : List String}
    (shape : IsKept rooted kept) : IsKept rooted (segments.foldl (Path.step rooted) kept) := by
  induction segments generalizing kept with
  | nil => exact shape
  | cons segment segments ih =>
      exact ih (fun other member => slashFree other (by simp [member]))
        (shape.step (slashFree segment (by simp)))

theorem foldl_step_plain {names : List String} (plain : ∀ name ∈ names, IsPlain name)
    (rooted : Bool) (kept : List String) :
    names.foldl (step rooted) kept = names.reverse ++ kept := by
  induction names generalizing kept with
  | nil => rfl
  | cons name names ih =>
      have first := plain name (by simp)
      have one : step rooted kept name = name :: kept := by
        simp [step, first.ne_empty, first.ne_current, first.ne_parent]
      rw [List.foldl_cons, one, ih fun other member => plain other (by simp [member])]
      simp

theorem not_mem_of_mem_cut {separator : Char} {text segment : List Char}
    (member : segment ∈ cut separator text) : separator ∉ segment := by
  induction text generalizing segment with
  | nil =>
      rw [cut, List.mem_singleton] at member
      simp [member]
  | cons c text ih =>
      rw [cut] at member
      split at member
      · rcases List.mem_cons.mp member with rfl | member
        · simp
        · exact ih member
      · next apart =>
        split at member
        · next empty => exact absurd empty (cut_ne_nil separator text)
        · next first others found =>
          rcases List.mem_cons.mp member with rfl | member
          · rw [List.mem_cons, not_or]
            exact ⟨Ne.symm apart, ih (found ▸ List.mem_cons_self)⟩
          · exact ih (found ▸ List.mem_cons_of_mem _ member)

theorem slashFree_of_mem_segments {path segment : String} (member : segment ∈ segments '/' path) :
    '/' ∉ segment.toList := by
  rw [segments, List.mem_map] at member
  rcases member with ⟨text, cutOut, rfl⟩
  rw [String.toList_ofList]
  exact not_mem_of_mem_cut cutOut

/-- The parts of a path are parent segments and then plain names; the path of the root
has no parent. -/
theorem exists_parts (path : String) :
    ∃ ups names, parts path = List.replicate ups ".." ++ names ∧
      (∀ name ∈ names, IsPlain name) ∧ (isAbsolute path → ups = 0) := by
  have start : IsKept (isAbsolute path) [] := ⟨[], 0, rfl, by simp, fun _ => rfl⟩
  have slashFree : ∀ segment ∈ segments '/' path, '/' ∉ segment.toList :=
    fun _ => slashFree_of_mem_segments
  rcases start.foldl slashFree with ⟨names, ups, kept, plain, absolute⟩
  refine ⟨ups, names.reverse, ?_, fun name member => plain name (List.mem_reverse.mp member),
    absolute⟩
  rw [parts, kept, List.reverse_append, List.reverse_replicate]

/-- Working out the parts of a path does not change where it leads. -/
theorem walk_foldl_step {rooted : Bool} {segments : List String}
    (slashFree : ∀ segment ∈ segments, '/' ∉ segment.toList) {kept here : List String}
    (shape : IsKept rooted kept) (root : rooted → here = []) :
    walk here (segments.foldl (step rooted) kept).reverse =
      walk (walk here kept.reverse) segments := by
  induction segments generalizing kept with
  | nil => rfl
  | cons segment segments ih =>
      have apart : '/' ∉ segment.toList := slashFree segment (by simp)
      rw [List.foldl_cons, ih (fun other member => slashFree other (by simp [member]))
        (shape.step apart)]
      have one : walk here (step rooted kept segment).reverse =
          walk (walk here kept.reverse) [segment] := by
        rcases shape with ⟨names, ups, rfl, plain, absolute⟩
        unfold step
        split
        · next skipped => rw [walk, if_pos skipped, walk]
        next proper =>
        split
        · next parent =>
          rw [walk, if_neg proper, if_pos parent, walk]
          cases names with
          | nil =>
              cases ups with
              | zero =>
                  cases rooted with
                  | true => simp [walk, root]
                  | false => simp [walk]
              | succ ups =>
                  simp only [List.nil_append, List.replicate_succ, if_true, List.reverse_cons,
                    walk_append]
                  simp [walk]
          | cons last names =>
              have last := plain last (by simp)
              simp only [List.cons_append, last.ne_parent, if_false, List.reverse_cons,
                walk_append _ _ [_], walk_cons_plain last]
              simp [walk]
        · rw [List.reverse_cons, walk_append]
      rw [one, ← walk_append]
      rfl

/-! ## Ways -/

/-- The directory that a path starts from. -/
def origin (working path : String) : List String :=
  if isAbsolute path then [] else parts working

/-- The names from the root to where a path leads. -/
def way (working path : String) : List String :=
  walk (origin working path) (segments '/' path)

theorem walk_parts (working path : String) :
    walk (origin working path) (parts path) = way working path := by
  have start : IsKept (isAbsolute path) [] := ⟨[], 0, rfl, by simp, fun _ => rfl⟩
  refine walk_foldl_step (fun _ => slashFree_of_mem_segments) start ?_
  intro absolute
  rw [origin, if_pos absolute]

/-! ## Spelling a path by its parts -/

/-- Parts that a path can be spelled by: parent segments, which a path from the root has
none of, and then plain names. -/
structure IsSpelling (rooted : Bool) (parts : List String) : Prop where
  shape : ∃ ups names, parts = List.replicate ups ".." ++ names ∧
    (∀ name ∈ names, IsPlain name) ∧ (rooted → ups = 0)
  ne_nil : parts ≠ []

namespace IsSpelling

variable {rooted : Bool} {parts : List String} (spelling : IsSpelling rooted parts)
include spelling

theorem slashFree : ∀ part ∈ parts, '/' ∉ part.toList := by
  rcases spelling.shape with ⟨ups, names, rfl, plain, -⟩
  intro part member
  rcases List.mem_append.mp member with member | member
  · rw [List.eq_of_mem_replicate member]
    decide
  · exact (plain part member).slashFree

theorem ne_empty : ∀ part ∈ parts, part ≠ "" := by
  rcases spelling.shape with ⟨ups, names, rfl, plain, -⟩
  intro part member
  rcases List.mem_append.mp member with member | member
  · rw [List.eq_of_mem_replicate member]
    decide
  · exact (plain part member).ne_empty

theorem segments_join : segments '/' (join "/" parts) = parts :=
  segments_intercalate spelling.ne_nil spelling.slashFree

theorem segments_ofParts :
    segments '/' (ofParts rooted parts) = if rooted then "" :: parts else parts := by
  cases rooted with
  | true =>
      have joined := spelling.segments_join
      simp only [segments, ofParts, if_true, String.toList_append] at joined ⊢
      have slash : "/".toList = ['/'] := rfl
      rw [slash, List.singleton_append, cut, if_pos rfl, List.map_cons, joined]
  | false => simp [ofParts, spelling.ne_nil, spelling.segments_join]

theorem isAbsolute_ofParts : isAbsolute (ofParts rooted parts) = rooted := by
  cases rooted with
  | true => simp [isAbsolute, ofParts]
  | false =>
      rw [ofParts, if_neg (by simp), if_neg (by simp [spelling.ne_nil])]
      cases listed : parts with
      | nil => exact absurd listed spelling.ne_nil
      | cons first rest =>
          have filled := spelling.ne_empty first (by simp [listed])
          have free := spelling.slashFree first (by simp [listed])
          cases spelled : first.toList with
          | nil => exact absurd (String.toList_eq_nil_iff.mp spelled) filled
          | cons c text =>
              have apart : c ≠ '/' := by
                rintro rfl
                simp [spelled] at free
              have starts : ∃ after, (join "/" (first :: rest)).toList = c :: after := by
                cases rest with
                | nil => exact ⟨text, by simp [join, spelled]⟩
                | cons next rest =>
                    exact ⟨_, by rw [join, String.intercalate_cons_cons, String.toList_append,
                      String.toList_append, spelled]; rfl⟩
              rcases starts with ⟨after, starts⟩
              simp [isAbsolute, starts, apart]

theorem ofParts_ne_empty : ofParts rooted parts ≠ "" := by
  intro empty
  have cutParts := spelling.segments_ofParts
  have cutEmpty : segments '/' "" = [""] := rfl
  rw [empty, cutEmpty] at cutParts
  cases rooted with
  | true => exact spelling.ne_nil (by simpa using cutParts.symm)
  | false =>
      have cutParts : [""] = parts := cutParts
      exact spelling.ne_empty "" (by simp [← cutParts]) rfl

/-- A path that is spelled by parts has these parts. -/
theorem parts_ofParts : Path.parts (ofParts rooted parts) = parts := by
  rcases spelling.shape with ⟨ups, names, shape, plain, absolute⟩
  have skipped : Path.parts (ofParts rooted parts) = (parts.foldl (step rooted) []).reverse := by
    rw [Path.parts, spelling.isAbsolute_ofParts, spelling.segments_ofParts]
    cases rooted with
    | true => simp [step]
    | false => rfl
  have up : ∀ count, (rooted → count = 0) →
      (List.replicate count "..").foldl (step rooted) [] = List.replicate count ".." := by
    intro count absolute
    cases rooted with
    | true => simp [absolute rfl]
    | false =>
        induction count with
        | zero => rfl
        | succ count ih =>
            rw [List.replicate_succ', List.foldl_append, ih (by simp)]
            cases count with
            | zero => rfl
            | succ count =>
                rw [← List.replicate_succ', List.replicate_succ (n := count + 1)]
                simp [step, List.replicate_succ]
  rw [skipped, shape, List.foldl_append, up ups absolute, foldl_step_plain plain,
    List.reverse_append, List.reverse_reverse, List.reverse_replicate]

theorem way_ofParts (working : String) :
    way working (ofParts rooted parts) =
      walk (if rooted then [] else Path.parts working) parts := by
  rw [way, origin, spelling.isAbsolute_ofParts, spelling.segments_ofParts]
  cases rooted with
  | true => simp [walk]
  | false => rfl

end IsSpelling

theorem IsSpelling.init {rooted : Bool} {parts : List String} {last : String}
    (spelling : IsSpelling rooted (parts ++ [last])) (some : parts ≠ []) :
    IsSpelling rooted parts := by
  refine ⟨?_, some⟩
  rcases spelling.shape with ⟨ups, names, shape, plain, absolute⟩
  rcases List.eq_nil_or_concat names with rfl | ⟨names, final, rfl⟩
  · cases ups with
    | zero => exact absurd shape (by simp)
    | succ ups =>
        rw [List.append_nil, List.replicate_succ'] at shape
        refine ⟨ups, [], ?_, by simp, fun rooted => absurd (absolute rooted) (by simp)⟩
        rw [List.append_nil]
        exact (List.append_inj' shape rfl).1
  · rw [List.concat_eq_append, ← List.append_assoc] at shape
    refine ⟨ups, names, (List.append_inj' shape rfl).1, ?_, absolute⟩
    exact fun name member => plain name (by simp [member])

theorem join_concat {parts : List String} (some : parts ≠ []) (last : String) :
    join "/" (parts ++ [last]) = join "/" parts ++ "/" ++ last := by
  rw [join, String.intercalate_append_of_ne_nil some (by simp), String.intercalate_singleton]
  rfl

theorem ofParts_concat {parts : List String} (some : parts ≠ []) (rooted : Bool) (last : String) :
    ofParts rooted (parts ++ [last]) = ofParts rooted parts ++ "/" ++ last := by
  have joined := join_concat some last
  cases rooted with
  | true => simp only [ofParts, if_true, joined, String.append_assoc]
  | false => simp [ofParts, some, joined]

/-! ## Paths below a directory -/

theorem join_segments_slash (path : String) : join "/" (segments '/' path) = path :=
  join_segments '/' path

/-- The extension of a path is that of its last segment. -/
theorem extension_eq_of_segments {path last : String} {front : List String}
    (cutOut : segments '/' path = front ++ [last]) : extension path = extension last := by
  have slashFree : ∀ c ∈ last.toList.reverse, decide (c ≠ '/') := by
    intro c member
    have listed : last ∈ segments '/' path := by simp [cutOut]
    rw [decide_eq_true_eq]
    rintro rfl
    exact slashFree_of_mem_segments listed (List.mem_reverse.mp member)
  have tail : path.toList.reverse.takeWhile (· ≠ '/') = last.toList.reverse := by
    rw [← join_segments_slash path, cutOut]
    by_cases single : front = []
    · rw [single, List.nil_append, join, String.intercalate_singleton]
      exact List.takeWhile_eq_self_iff.mpr slashFree
    · rw [join_concat single, String.toList_append, String.toList_append, List.reverse_append,
        List.reverse_append, List.takeWhile_append_of_pos slashFree]
      simp
  have whole : last.toList.reverse.takeWhile (· ≠ '/') = last.toList.reverse :=
    List.takeWhile_eq_self_iff.mpr slashFree
  simp only [extension, tail, whole]

/-- The extension of a path that ends in a dot and a text without dots and slashes. -/
theorem extension_append (stem : String) {suffix : List Char} (dotFree : '.' ∉ suffix)
    (slashFree : '/' ∉ suffix) :
    extension (stem ++ String.ofList ('.' :: suffix)) = String.ofList ('.' :: suffix) := by
  have free : ∀ mark, mark ∉ suffix → ∀ c ∈ suffix.reverse, decide (c ≠ mark) := by
    intro mark absent c member
    rw [decide_eq_true_eq]
    rintro rfl
    exact absent (List.mem_reverse.mp member)
  have tail : (stem ++ String.ofList ('.' :: suffix)).toList.reverse.takeWhile (· ≠ '/') =
      suffix.reverse ++ '.' :: stem.toList.reverse.takeWhile (· ≠ '/') := by
    rw [String.toList_append, String.toList_ofList, List.reverse_append, List.reverse_cons,
      List.append_assoc, List.takeWhile_append_of_pos (free '/' slashFree)]
    simp
  have dotted :
      (suffix.reverse ++ '.' :: stem.toList.reverse.takeWhile (· ≠ '/')).contains '.' := by
    simp
  have cutOff : (suffix.reverse ++ '.' :: stem.toList.reverse.takeWhile (· ≠ '/')).takeWhile
      (· ≠ '.') = suffix.reverse := by
    rw [List.takeWhile_append_of_pos (free '.' dotFree)]
    simp
  simp only [extension, tail, if_pos dotted, cutOff, List.reverse_reverse]

theorem extension_of_dotFree {path : String} (dotFree : '.' ∉ path.toList) :
    extension path = "" := by
  have absent : ¬ (path.toList.reverse.takeWhile (· ≠ '/')).contains '.' := by
    rw [List.contains_iff_mem]
    intro member
    exact dotFree (List.mem_reverse.mp ((List.takeWhile_sublist _).subset member))
  simp only [extension, if_neg absent]

theorem segments_of_slashFree {name : String} (slashFree : '/' ∉ name.toList) :
    segments '/' name = [name] := by
  have cutOut := segments_intercalate (List.cons_ne_nil name []) (by simpa using slashFree)
  rwa [join, String.intercalate_singleton] at cutOut

theorem segments_join_plain {names : List String} (some : names ≠ [])
    (plain : ∀ name ∈ names, IsPlain name) : segments '/' (join "/" names) = names :=
  segments_intercalate some fun name member => (plain name member).slashFree

theorem segments_append_slash (front back : String) :
    segments '/' (front ++ "/" ++ back) = segments '/' front ++ segments '/' back :=
  segments_append '/' front back

theorem isAbsolute_append {front : String} (some : front ≠ "") (back : String) :
    isAbsolute (front ++ back) = isAbsolute front := by
  cases spelled : front.toList with
  | nil => exact absurd (String.toList_eq_nil_iff.mp spelled) some
  | cons c text =>
      rw [isAbsolute, isAbsolute, String.toList_append, spelled, List.cons_append]
      by_cases slash : c = '/'
      · simp [slash]
      · simp [slash]

theorem under_eq_clean {directory : String} (some : directory ≠ "") (path : String) :
    under directory path = clean (directory ++ "/" ++ path) := by
  rw [under, joinAll, List.dropWhile_cons_of_neg (by simpa using some)]
  rfl

section Below

variable {directory : String} {names : List String} (plain : ∀ name ∈ names, IsPlain name)
include plain

theorem isSpelling_append (some : parts directory ++ names ≠ []) :
    IsSpelling (isAbsolute directory) (parts directory ++ names) := by
  rcases exists_parts directory with ⟨ups, above, same, plainAbove, absolute⟩
  refine ⟨⟨ups, above ++ names, by rw [same, List.append_assoc], ?_, absolute⟩, some⟩
  intro name member
  rcases List.mem_append.mp member with member | member
  · exact plainAbove name member
  · exact plain name member

/-- Names after the parts of a directory lead on from its way. -/
theorem way_append (some : parts directory ++ names ≠ []) (working : String) :
    way working (ofParts (isAbsolute directory) (parts directory ++ names)) =
      way working directory ++ names := by
  have start : (if isAbsolute directory then [] else parts working) =
      origin working directory := rfl
  rw [(isSpelling_append plain some).way_ofParts, walk_append, walk_plain plain, start, walk_parts]

variable (below : names ≠ []) (some : directory ≠ "")
include below some

theorem under_join :
    under directory (join "/" names) =
      ofParts (isAbsolute directory) (parts directory ++ names) := by
  have absolute : isAbsolute (directory ++ "/" ++ join "/" names) = isAbsolute directory := by
    rw [String.append_assoc, isAbsolute_append some]
  have named := segments_join_plain below plain
  rw [under_eq_clean some, clean, absolute, parts, absolute, segments_append_slash, named,
    List.foldl_append, foldl_step_plain plain, List.reverse_append, List.reverse_reverse]
  rfl

/-- A path below a directory leads to the names it adds to the way of the directory. -/
theorem way_under (working : String) :
    way working (under directory (join "/" names)) = way working directory ++ names := by
  rw [under_join plain below some, way_append plain (by simp [below])]

theorem exists_segments_under :
    ∃ front, segments '/' (under directory (join "/" names)) = front ++ names := by
  have spelling : IsSpelling (isAbsolute directory) (parts directory ++ names) :=
    isSpelling_append plain (by simp [below])
  rw [under_join plain below some, spelling.segments_ofParts]
  split
  · exact ⟨"" :: parts directory, rfl⟩
  · exact ⟨parts directory, rfl⟩

theorem parts_under :
    parts (under directory (join "/" names)) = parts directory ++ names := by
  rw [under_join plain below some, (isSpelling_append plain (by simp [below])).parts_ofParts]

omit some in
/-- Joining leaves out the empty path, which has no parts either. -/
theorem under_join_ofParts :
    under directory (join "/" names) =
      ofParts (isAbsolute directory) (parts directory ++ names) := by
  by_cases some : directory = ""
  · have spelling : IsSpelling false names := ⟨⟨0, names, rfl, plain, fun _ => rfl⟩, below⟩
    have joined : join "/" names = ofParts false names := by simp [ofParts, below]
    rw [some, under, joinAll, List.dropWhile_cons_of_pos (by simp), joined,
      List.dropWhile_cons_of_neg (by simpa using spelling.ofParts_ne_empty)]
    change clean (ofParts false names) = ofParts false names
    rw [clean, spelling.isAbsolute_ofParts, spelling.parts_ofParts]
  · exact under_join plain below some

end Below

end DomainGen.Path
