import DomainGen.Link.Index

/-!
# Joining and cutting dotted names

Joining parts with dots and cutting the result gives the parts again, provided
that no part has a dot of its own.  Such a join therefore forgets nothing
(`join_injective`), and neither does a qualified name.
-/

namespace DomainGen.Text

/-- A text without a dot. -/
def DotFree (text : String) : Prop := '.' ∉ text.toList

theorem cut_of_not_mem {separator : Char} {segment : List Char}
    (free : separator ∉ segment) : cut separator segment = [segment] := by
  induction segment with
  | nil => rfl
  | cons c segment ih =>
      rw [List.mem_cons, not_or] at free
      rw [cut, if_neg (Ne.symm free.1), ih free.2]

theorem cut_append_separator {separator : Char} {segment : List Char} (rest : List Char)
    (free : separator ∉ segment) :
    cut separator (segment ++ separator :: rest) = segment :: cut separator rest := by
  induction segment with
  | nil => rw [List.nil_append, cut, if_pos rfl]
  | cons c segment ih =>
      rw [List.mem_cons, not_or] at free
      rw [List.cons_append, cut, if_neg (Ne.symm free.1), ih free.2]

theorem cut_ne_nil (separator : Char) (text : List Char) : cut separator text ≠ [] := by
  induction text with
  | nil => simp [cut]
  | cons c text ih =>
      rw [cut]
      split
      · simp
      · split
        · simp
        · simp

theorem cut_append_of_separator (separator : Char) (front back : List Char) :
    cut separator (front ++ separator :: back) = cut separator front ++ cut separator back := by
  induction front with
  | nil => simp [cut]
  | cons c front ih =>
      rw [List.cons_append, cut, cut]
      split
      · rw [ih, List.cons_append]
      · rw [ih]
        cases found : cut separator front with
        | nil => exact absurd found (cut_ne_nil separator front)
        | cons segment segments => rfl

/-- Cutting at a separator cuts what stands before it and what stands after it. -/
theorem segments_append (separator : Char) (front back : String) :
    segments separator (front ++ String.singleton separator ++ back) =
      segments separator front ++ segments separator back := by
  rw [segments, String.toList_append, String.toList_append, String.toList_singleton,
    List.append_assoc, List.singleton_append, cut_append_of_separator, List.map_append]
  rfl

theorem segments_ne_nil (separator : Char) (text : String) : segments separator text ≠ [] := by
  simpa [segments] using cut_ne_nil separator text.toList

/-- Joining with a separator and cutting there again gives the parts that were
joined. -/
theorem segments_intercalate {separator : Char} {parts : List String} (some : parts ≠ [])
    (free : ∀ part ∈ parts, separator ∉ part.toList) :
    segments separator (join (String.singleton separator) parts) = parts := by
  induction parts with
  | nil => contradiction
  | cons part parts ih =>
      have first : separator ∉ part.toList := free part (by simp)
      cases parts with
      | nil =>
          simp only [segments, join, String.intercalate_singleton]
          rw [cut_of_not_mem first]
          simp
      | cons next parts =>
          have later := ih (by simp) fun part member => free part (by simp [member])
          simp only [segments, join] at later
          simp only [segments, join, String.intercalate_cons_cons, String.toList_append,
            String.toList_singleton]
          rw [List.append_assoc, List.singleton_append, cut_append_separator _ first,
            List.map_cons, later, String.ofList_toList]

/-- Cutting loses nothing: the segments joined give the text again. -/
theorem join_segments (separator : Char) (text : String) :
    join (String.singleton separator) (segments separator text) = text := by
  have whole : ∀ chars : List Char,
      (join (String.singleton separator) ((cut separator chars).map String.ofList)).toList =
        chars := by
    intro chars
    induction chars with
    | nil => rfl
    | cons c chars ih =>
        rw [cut]
        cases found : cut separator chars with
        | nil => exact absurd found (cut_ne_nil separator chars)
        | cons segment segments =>
            rw [found] at ih
            split
            · next same =>
              simp only [join, List.map_cons] at ih ⊢
              rw [String.intercalate_cons_cons, String.toList_append, String.toList_append, ih]
              simp [same]
            · next apart =>
              cases segments with
              | nil => simpa [join] using ih
              | cons next segments =>
                  simp only [join, List.map_cons, String.intercalate_cons_cons,
                    String.toList_append, String.toList_ofList] at ih ⊢
                  rw [← ih]
                  simp
  apply String.toList_injective
  exact whole text.toList

theorem segments_join {parts : List String} (some : parts ≠ [])
    (free : ∀ part ∈ parts, DotFree part) : segments '.' (join "." parts) = parts :=
  segments_intercalate some free

theorem join_injective {parts others : List String} (someParts : parts ≠ [])
    (someOthers : others ≠ []) (freeParts : ∀ part ∈ parts, DotFree part)
    (freeOthers : ∀ part ∈ others, DotFree part)
    (equal : join "." parts = join "." others) : parts = others := by
  rw [← segments_join someParts freeParts, equal, segments_join someOthers freeOthers]

theorem join_append {parts others : List String} (someParts : parts ≠ [])
    (someOthers : others ≠ []) :
    join "." (parts ++ others) = join "." parts ++ "." ++ join "." others :=
  String.intercalate_append_of_ne_nil someParts someOthers

/-- A join of filled parts is not empty. -/
theorem join_ne_empty {separator : String} {parts : List String} (some : parts ≠ [])
    (filled : ∀ part ∈ parts, part ≠ "") : join separator parts ≠ "" := by
  cases parts with
  | nil => contradiction
  | cons part parts =>
      have first : part ≠ "" := filled part (by simp)
      cases parts with
      | nil => rwa [join, String.intercalate_singleton]
      | cons next parts =>
          rw [join, String.intercalate_cons_cons, String.append_assoc]
          intro empty
          exact first (String.append_eq_empty_iff.mp empty).1

end DomainGen.Text

namespace DomainGen

/-- A qualified name is the path and the name joined, also when the name is dotted
itself. -/
theorem qualify_join (path : List String) {parts : List String} (some : parts ≠ []) :
    qualify path (Text.join "." parts) = Text.join "." (path ++ parts) := by
  cases path with
  | nil => simp [qualify]
  | cons segment path =>
      rw [qualify, if_neg (by simp), Text.join_append (by simp) some]

theorem qualify_eq_join (path : List String) (name : String) :
    qualify path name = Text.join "." (path ++ [name]) := by
  have single : Text.join "." [name] = name := String.intercalate_singleton
  rw [← qualify_join path (by simp), single]

/-- The segments of a dotted package name lengthen the path. -/
theorem packagePath_join (path : List String) {parts : List String} (some : parts ≠ [])
    (free : ∀ part ∈ parts, Text.DotFree part) (filled : ∀ part ∈ parts, part ≠ "") :
    packagePath path (Text.join "." parts) = path ++ parts := by
  rw [packagePath, Text.segments_join some free, List.filter_eq_self.mpr]
  intro part member
  simpa using filled part member

/-- A dotted name leads where its parts lead, one after the other. -/
theorem packagePath_dotted (path : List String) (outer inner : String) :
    packagePath path (outer ++ "." ++ inner) = packagePath (packagePath path outer) inner := by
  have cutOut : Text.segments '.' (outer ++ "." ++ inner) =
      Text.segments '.' outer ++ Text.segments '.' inner := Text.segments_append '.' outer inner
  simp only [packagePath, cutOut, List.filter_append, List.append_assoc]

end DomainGen
