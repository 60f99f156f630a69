import DomainGen.Generate.Run
import DomainGen.Proofs.Host.Directories

/-!
# Writing output

Output that was written below a destination lies there: each file has the contents
that were written last under its names, the directories are there, and everything
else is as before (`laid_of_run_writeEach`).

Whether output can be written can be told from the pieces.  If every file goes into
a directory that was made before it and no file stands on the way to a directory,
an empty destination takes it all (`exists_run_writeArtifacts`).
-/

namespace DomainGen

/-! ## Pieces of output by their names -/

/-- The names from the destination to a piece. -/
def Artifact.names (artifact : Artifact) : List String := Text.segments '/' artifact.path

/-- The contents that a piece has for the file with some names. -/
def Artifact.contentAt? (names : List String) : Artifact → Option String
  | .directory _ => none
  | .file path content => if Text.segments '/' path = names then some content else none

/-- The contents that are written last for the file with some names. -/
def contentAt? (artifacts : List Artifact) (names : List String) : Option String :=
  artifacts.reverse.findSome? (Artifact.contentAt? names)

/-- Whether a directory is, or stands on the way to, a piece that is one. -/
def Artifact.makes (names : List String) : Artifact → Bool
  | .directory path => names.isPrefixOf (Text.segments '/' path)
  | .file _ _ => false

@[simp] theorem contentAt?_append (front back : List Artifact) (names : List String) :
    contentAt? (front ++ back) names = (contentAt? back names).or (contentAt? front names) := by
  simp [contentAt?, List.findSome?_append]

theorem exists_of_contentAt? {artifacts : List Artifact} {names : List String} {content : String}
    (found : contentAt? artifacts names = some content) :
    ∃ path, .file path content ∈ artifacts ∧ Text.segments '/' path = names := by
  rcases List.exists_of_findSome?_eq_some found with ⟨artifact, member, found⟩
  cases artifact with
  | directory path => contradiction
  | file path text =>
      rw [Artifact.contentAt?] at found
      split at found
      · next same =>
        cases found
        exact ⟨path, List.mem_reverse.mp member, same⟩
      · contradiction

/-- For every file of the output, some contents are written last. -/
theorem exists_contentAt?_of_mem {artifacts : List Artifact} {path content : String}
    (member : .file path content ∈ artifacts) :
    ∃ last, contentAt? artifacts (Text.segments '/' path) = some last := by
  cases found : contentAt? artifacts (Text.segments '/' path) with
  | some last => exact ⟨last, rfl⟩
  | none =>
      rw [contentAt?, List.findSome?_eq_none_iff] at found
      have missing := found _ (List.mem_reverse.mpr member)
      simp [Artifact.contentAt?] at missing

/-! ## What writing leaves -/

/-- One tree is another with output below a directory. -/
structure Laid (base : List String) (artifacts : List Artifact) (tree other : FileTree) :
    Prop where
  wellFormed : other.WellFormed
  /-- No file becomes a directory, and nothing is removed. -/
  kinds : ∀ names node, tree.find? names = some node →
    (other.find? names).map Node.kind = some node.kind
  outside : ∀ names, ¬ base <+: names → other.find? names = tree.find? names
  file : ∀ names content, contentAt? artifacts names = some content →
    other.find? (base ++ names) = some (.file content.toUTF8.toList)
  directory : ∀ names, contentAt? artifacts names = none → artifacts.any (Artifact.makes names) →
    other.find? (base ++ names) = some .directory
  rest : ∀ names, contentAt? artifacts names = none → ¬ artifacts.any (Artifact.makes names) →
    other.find? (base ++ names) = tree.find? (base ++ names)

namespace Laid

variable {base : List String} {front back artifacts : List Artifact} {tree between other : FileTree}

theorem refl (wellFormed : tree.WellFormed) : Laid base [] tree tree :=
  ⟨wellFormed, by simp +contextual, by simp, by simp [contentAt?], by simp, by simp⟩

/-- Output that is written in two parts. -/
theorem append (one : Laid base front tree between) (two : Laid base back between other) :
    Laid base (front ++ back) tree other := by
  constructor
  · exact two.wellFormed
  · intro names node found
    have kept := one.kinds names node found
    rw [Option.map_eq_some_iff] at kept
    rcases kept with ⟨middle, found, same⟩
    rw [two.kinds names middle found, same]
  · intro names outside
    rw [two.outside names outside, one.outside names outside]
  · intro names content found
    rw [contentAt?_append, Option.or_eq_some_iff] at found
    rcases found with later | ⟨missing, earlier⟩
    · exact two.file names content later
    · have file := one.file names content earlier
      by_cases made : back.any (Artifact.makes names)
      · -- A directory of the second part cannot replace a file of the first.
        have kept := two.kinds _ _ file
        rw [two.directory names missing made] at kept
        exact absurd kept (by simp [Node.kind])
      · rw [two.rest names missing made, file]
  · intro names missing made
    rw [contentAt?_append, Option.or_eq_none_iff] at missing
    rw [List.any_append, Bool.or_eq_true] at made
    by_cases later : back.any (Artifact.makes names)
    · exact two.directory names missing.1 later
    · rw [two.rest names missing.1 later]
      exact one.directory names missing.2 (made.resolve_right later)
  · intro names missing made
    rw [contentAt?_append, Option.or_eq_none_iff] at missing
    rw [List.any_append, Bool.or_eq_true, not_or] at made
    rw [two.rest names missing.1 made.2, one.rest names missing.2 made.1]

theorem directories (laid : Laid base artifacts tree other) : tree.HasDirectories other := by
  intro names found
  have kept := laid.kinds names _ found
  rw [Option.map_eq_some_iff] at kept
  rcases kept with ⟨node, found, kind⟩
  cases node with
  | directory => exact found
  | file bytes => contradiction

/-- The files below the directory are those that were written last, and those that were
there before. -/
theorem find?_eq_file_iff (laid : Laid base artifacts tree other) (names : List String)
    (bytes : Bytes) :
    other.find? (base ++ names) = some (.file bytes) ↔
      (∃ content, contentAt? artifacts names = some content ∧ content.toUTF8.toList = bytes) ∨
        contentAt? artifacts names = none ∧ tree.find? (base ++ names) = some (.file bytes) := by
  cases written : contentAt? artifacts names with
  | some content => simp [laid.file names content written]
  | none =>
      by_cases made : artifacts.any (Artifact.makes names)
      · -- What is a directory now was no file before.
        have directory := laid.directory names written made
        constructor
        · intro file
          rw [directory] at file
          cases file
        · rintro (⟨content, found, -⟩ | ⟨-, file⟩)
          · contradiction
          · have kept := laid.kinds _ _ file
            rw [directory] at kept
            exact absurd kept (by simp [Node.kind])
      · simp [laid.rest names written made]

theorem ofDirectory {path : String} (there : tree.find? base = some .directory)
    (wellFormed : tree.WellFormed) (made : tree.Made (base ++ Text.segments '/' path) other) :
    Laid base [.directory path] tree other := by
  have makes : ∀ names, ([.directory path] : List Artifact).any (Artifact.makes names) ↔
      base ++ names <+: base ++ Text.segments '/' path := by
    intro names
    simp [Artifact.makes, List.prefix_append_right_inj]
  constructor
  · exact made.wellFormed
  · intro names node found
    rw [made.kept names node found, Option.map_some]
  · intro names outside
    rw [made.find?]
    split
    · next above =>
      -- What is on the way but not below the base is above the base.
      have higher : names <+: base := by
        rcases List.prefix_or_prefix_of_prefix above (List.prefix_append _ _) with higher | lower
        · exact higher
        · exact absurd lower outside
      have apart : names ≠ base := fun same => outside (same ▸ List.prefix_refl _)
      exact (wellFormed.find?_above there higher apart).symm
    · rfl
  · intro names content found
    contradiction
  · intro names _ above
    rw [made.find?, if_pos ((makes names).mp above)]
  · intro names _ apart
    rw [made.find?, if_neg (mt (makes names).mpr apart)]

theorem ofFile {path content : String} (wellFormed : tree.WellFormed)
    (plain : ∀ name ∈ base ++ Text.segments '/' path, Path.IsPlain name)
    (inside : tree.find? (base ++ Text.segments '/' path).dropLast = some .directory)
    (free : tree.find? (base ++ Text.segments '/' path) ≠ some .directory) :
    Laid base [.file path content] tree
      (tree.put (base ++ Text.segments '/' path) (.file content.toUTF8.toList)) := by
  have proper : base ++ Text.segments '/' path ≠ [] := by simp [Text.segments_ne_nil]
  constructor
  · exact wellFormed.put proper plain inside (.inr free)
  · intro names node found
    rw [FileTree.find?_put tree proper]
    split
    · next same =>
      subst same
      cases node with
      | directory => exact absurd found free
      | file bytes => rfl
    · rw [found, Option.map_some]
  · intro names outside
    rw [FileTree.find?_put tree proper, if_neg]
    rintro rfl
    exact outside (List.prefix_append _ _)
  · intro names text found
    rcases exists_of_contentAt? found with ⟨other, member, same⟩
    cases List.mem_singleton.mp member
    rw [FileTree.find?_put tree proper, same, if_pos rfl]
  · intro names _ made
    contradiction
  · intro names missing _
    rw [FileTree.find?_put tree proper, if_neg]
    intro same
    simp [contentAt?, Artifact.contentAt?, List.append_cancel_left same] at missing

end Laid

/-! ## Writing one piece -/

namespace Machine

variable {machine after : Machine} {destination : String} {artifact : Artifact}

theorem Sound.of_laid {base : List String} {artifacts : List Artifact} (sound : machine.Sound)
    {tree : FileTree} (laid : Laid base artifacts machine.tree tree) {output : String}
    (left : Leaves machine tree output after) : after.Sound :=
  sound.of_directories laid.wellFormed laid.directories left

section Step

variable (sound : machine.Sound) (spelled : destination ≠ "")
  (there : machine.tree.find? (Path.way machine.working destination) = some .directory)
  (plain : ∀ name ∈ artifact.names, Path.IsPlain name)
include sound spelled there plain

/-- A piece that could be written lies at the destination. -/
theorem laid_of_run_writeArtifact
    (ran : run (writeArtifact destination artifact) machine = (.ok (), after)) :
    FileTree.Fits (Path.under destination artifact.path) ∧
      ∃ tree, Leaves machine tree machine.output after ∧
        Laid (Path.way machine.working destination) [artifact] machine.tree tree := by
  cases artifact with
  | directory path =>
      have plain : ∀ name ∈ Text.segments '/' path, Path.IsPlain name := plain
      have ran : run (Disk.makeDirectories (Path.under destination path).toList) machine =
          (.ok (), after) := run_of_adapt_eq_ok ran
      rw [← Path.join_segments_slash path] at ran
      rcases made_of_run_makeDirectories sound plain (Text.segments_ne_nil '/' path) spelled there
        ran with ⟨fits, tree, rfl, made⟩
      rw [Path.join_segments_slash] at fits
      exact ⟨fits, tree, .ofTree machine tree, .ofDirectory there sound.tree made⟩
  | file path content =>
      rcases exists_of_run_bind_eq_ok ran with ⟨value, between, wrote, noted⟩
      have wrote : run (Disk.writeFile (Path.under destination path) content.toUTF8.toList)
          machine = (.ok value, between) := run_of_adapt_eq_ok wrote
      rw [run_writeFile] at wrote
      cases written : machine.tree.write machine.working
          (Path.under destination path) content.toUTF8.toList with
      | error refusal =>
          rw [written] at wrote
          cases wrote
      | ok tree =>
          rw [written] at wrote
          cases wrote
          have noted := leaves_of_run_note noted
          rcases FileTree.write_eq_ok_iff.mp written with ⟨place, located, -, free, rfl⟩
          have inside := sound.locate_inside located
          have plain : ∀ name ∈ Text.segments '/' path, Path.IsPlain name := plain
          have ends := FileTree.locate_way located
          rw [← Path.join_segments_slash path,
            Path.way_under plain (Text.segments_ne_nil '/' path) spelled] at ends
          rw [ends] at inside free noted
          refine ⟨FileTree.fits_of_locate located, _, ?_,
            .ofFile sound.tree inside.2 inside.1 free⟩
          exact (Leaves.ofTree machine _).trans noted

end Step

section Free

variable (sound : machine.Sound) (spelled : destination ≠ "")
  (there : machine.tree.find? (Path.way machine.working destination) = some .directory)
  {path : String} (plain : ∀ name ∈ Text.segments '/' path, Path.IsPlain name)
  (fits : FileTree.Fits (Path.under destination path))
include sound spelled there plain fits

theorem run_writeArtifact_directory
    (free : ∀ above, above <+: Text.segments '/' path → ∀ bytes,
      machine.tree.find? (Path.way machine.working destination ++ above) ≠ some (.file bytes)) :
    ∃ after, run (writeArtifact destination (.directory path)) machine = (.ok (), after) := by
  have clear : ∀ above,
      above <+: Path.way machine.working destination ++ Text.segments '/' path →
        ∀ bytes, machine.tree.find? above ≠ some (.file bytes) := by
    intro above isAbove bytes
    rcases List.prefix_or_prefix_of_prefix isAbove (List.prefix_append _ _) with higher | lower
    · by_cases same : above = Path.way machine.working destination
      · rw [same, there]
        exact nofun
      · rw [sound.tree.find?_above there higher same]
        exact nofun
    · rcases lower with ⟨rest, rfl⟩
      exact free rest ((List.prefix_append_right_inj _).mp isAbove) bytes
  rw [← Path.join_segments_slash path] at fits
  rcases run_makeDirectories_under sound plain (Text.segments_ne_nil '/' path) spelled there fits
    clear with ⟨tree, ran, -⟩
  rw [Path.join_segments_slash] at ran
  refine ⟨{ machine with tree }, ?_⟩
  change run ((Disk.makeDirectories (Path.under destination path).toList).adapt _) machine = _
  rw [run_adapt, ran]
  rfl

theorem run_writeArtifact_file {content : String}
    (directories : ∀ above, above <+: Text.segments '/' path → above ≠ Text.segments '/' path →
      machine.tree.find? (Path.way machine.working destination ++ above) = some .directory)
    (free : machine.tree.find? (Path.way machine.working destination ++ Text.segments '/' path) ≠
      some .directory) :
    ∃ after, run (writeArtifact destination (.file path content)) machine = (.ok (), after) := by
  have located : machine.tree.locate machine.working (Path.under destination path) =
      .ok ⟨Path.way machine.working destination ++ Text.segments '/' path, false⟩ := by
    have spelling := Path.under_join plain (Text.segments_ne_nil '/' path) spelled
    rw [Path.join_segments_slash] at spelling
    rw [spelling] at fits ⊢
    refine FileTree.locate_append plain (by simp [Text.segments_ne_nil]) fits ?_
    intro above isAbove apart
    rcases List.prefix_or_prefix_of_prefix isAbove (List.prefix_append _ _) with higher | lower
    · by_cases same : above = Path.way machine.working destination
      · rw [same, there]
      · exact sound.tree.find?_above there higher same
    · rcases lower with ⟨rest, rfl⟩
      exact directories rest ((List.prefix_append_right_inj _).mp isAbove) (by simpa using apart)
  obtain ⟨tree, written⟩ : ∃ tree, machine.tree.write machine.working
      (Path.under destination path) content.toUTF8.toList = .ok tree :=
    ⟨_, FileTree.write_eq_ok_iff.mpr ⟨_, located, rfl, free, rfl⟩⟩
  have adapted : run ((Disk.writeFile (Path.under destination path) content.toUTF8.toList).adapt
      (.context ("failed to write " ++ Path.under destination path))) machine =
        (.ok (), { machine with tree }) := by
    rw [run_adapt, run_writeFile, written]
    rfl
  exact ⟨_, run_bind_ok adapted⟩

end Free

/-! ## Writing all pieces -/

theorem run_writeEach_cons (destination : String) (artifact : Artifact) (rest : List Artifact)
    (machine : Machine) :
    run (writeEach (pure false) destination (artifact :: rest)) machine =
      run (writeArtifact destination artifact >>= fun _ =>
        writeEach (pure false) destination rest) machine := rfl

/-- Output that could be written lies at the destination. -/
theorem laid_of_run_writeEach {artifacts : List Artifact} (sound : machine.Sound)
    (spelled : destination ≠ "")
    (there : machine.tree.find? (Path.way machine.working destination) = some .directory)
    (plain : ∀ artifact ∈ artifacts, ∀ name ∈ artifact.names, Path.IsPlain name)
    (ran : run (writeEach (pure false) destination artifacts) machine = (.ok (), after)) :
    (∀ artifact ∈ artifacts, FileTree.Fits (Path.under destination artifact.path)) ∧
      ∃ tree, Leaves machine tree machine.output after ∧
        Laid (Path.way machine.working destination) artifacts machine.tree tree := by
  induction artifacts generalizing machine with
  | nil =>
      cases ran
      exact ⟨by simp, after.tree, .refl after, .refl sound.tree⟩
  | cons artifact rest ih =>
      rw [run_writeEach_cons] at ran
      rcases exists_of_run_bind_eq_ok ran with ⟨_, between, first, later⟩
      rw [List.forall_mem_cons] at plain
      rcases laid_of_run_writeArtifact sound spelled there plain.1 first with
        ⟨fits, middle, left, one⟩
      have still : between.tree.find? (Path.way between.working destination) =
          some .directory := by
        rw [left.tree, left.working]
        exact one.directories _ there
      rcases ih (sound.of_laid one left) still plain.2 later with ⟨fitting, tree, leftLater, two⟩
      rw [left.working, left.tree] at two
      refine ⟨List.forall_mem_cons.mpr ⟨fits, fitting⟩, tree, ?_, one.append two⟩
      rw [left.output] at leftLater
      exact left.trans leftLater

/-- A destination that could be created. -/
structure Prepared (machine : Machine) (destination : String) (prepared : Machine) : Prop where
  sound : prepared.Sound
  leaves : Leaves machine prepared.tree machine.output prepared
  grown : machine.tree.Grown prepared.tree
  spelled : destination ≠ ""
  there : prepared.tree.find? (Path.way prepared.working destination) = some .directory

theorem Sound.prepared {prepared : Machine} (sound : machine.Sound)
    (created : run (Disk.makeDirectories destination.toList) machine = (.ok (), prepared)) :
    Prepared machine destination prepared := by
  rcases sound.makeDirectories_grows destination.toList with ⟨tree, left, grown, ends⟩
  rw [created] at left ends
  cases left
  have found := ends rfl
  rw [String.ofList_toList] at found
  refine ⟨sound.grow grown, .ofTree machine tree, grown, ?_, (FileTree.find?_way_of_node found).2⟩
  rintro rfl
  contradiction

/-- Writing begins once the destination is there. -/
theorem run_writeArtifacts {prepared : Machine}
    (created : run (Disk.makeDirectories destination.toList) machine = (.ok (), prepared))
    (artifacts : List Artifact) :
    run (writeArtifacts (pure false) destination artifacts) machine =
      run (writeEach (pure false) destination artifacts) prepared := by
  have adapted : run ((Disk.makeDirectories destination.toList).adapt
      (.context ("failed to create output directory " ++ destination))) machine =
        (.ok (), prepared) := by
    rw [run_adapt, created]
    rfl
  exact run_bind_ok adapted

/-- Output that could be written lies at the destination, which is there. -/
theorem laid_of_run_writeArtifacts {artifacts : List Artifact} (sound : machine.Sound)
    (plain : ∀ artifact ∈ artifacts, ∀ name ∈ artifact.names, Path.IsPlain name)
    (ran : run (writeArtifacts (pure false) destination artifacts) machine = (.ok (), after)) :
    ∃ prepared, Prepared machine destination prepared ∧
      (∀ artifact ∈ artifacts, FileTree.Fits (Path.under destination artifact.path)) ∧
      Leaves machine after.tree machine.output after ∧
      Laid (Path.way machine.working destination) artifacts prepared.tree after.tree := by
  rcases exists_of_run_bind_eq_ok ran with ⟨_, prepared, created, wrote⟩
  have ready := sound.prepared (run_of_adapt_eq_ok created)
  rcases laid_of_run_writeEach ready.sound ready.spelled ready.there plain wrote with
    ⟨fits, tree, left, laid⟩
  rw [ready.leaves.output] at left
  rw [ready.leaves.working] at laid
  refine ⟨prepared, ready, fits, ?_, ?_⟩
  · rw [left.tree]
    exact ready.leaves.trans left
  · rwa [left.tree]

end Machine

/-- Pieces that can be written one after the other: every file goes into a directory that
is made before it, and no file stands on the way to a directory. -/
structure Orderly (artifacts : List Artifact) : Prop where
  plain : ∀ artifact ∈ artifacts, ∀ name ∈ artifact.names, Path.IsPlain name
  inside : ∀ front path content back, artifacts = front ++ .file path content :: back →
    (Text.segments '/' path).dropLast = [] ∨
      front.any (Artifact.makes (Text.segments '/' path).dropLast)
  apart : ∀ path content, .file path content ∈ artifacts →
    ¬ artifacts.any (Artifact.makes (Text.segments '/' path))

namespace Orderly

variable {artifacts front back : List Artifact} (orderly : Orderly artifacts)
include orderly

/-- Where a directory is made, no file is written. -/
theorem contentAt?_eq_none (parts : artifacts = front ++ back) (names : List String)
    (made : artifacts.any (Artifact.makes names)) : contentAt? front names = none := by
  cases found : contentAt? front names with
  | none => rfl
  | some content =>
      rcases exists_of_contentAt? found with ⟨path, member, rfl⟩
      exact absurd made (orderly.apart path content (by simp [parts, member]))

end Orderly

theorem Artifact.makes_of_prefix {above names : List String} (isAbove : above <+: names)
    {artifact : Artifact} (made : artifact.makes names) : artifact.makes above := by
  cases artifact with
  | directory path =>
      simp only [makes, List.isPrefixOf_iff_prefix] at made ⊢
      exact isAbove.trans made
  | file path content => contradiction

namespace Machine

section Orderly

variable {artifacts : List Artifact} (orderly : Orderly artifacts) {front rest : List Artifact}
  {start : FileTree} {machine : Machine} {destination : String} (sound : machine.Sound)
  (spelled : destination ≠ "")
  (there : machine.tree.find? (Path.way machine.working destination) = some .directory)
  (empty : ∀ names, names ≠ [] →
    start.find? (Path.way machine.working destination ++ names) = none)
  (laid : Laid (Path.way machine.working destination) front start machine.tree)
include orderly sound spelled there empty laid

/-- Where the pieces before it were written into an empty directory, the next piece can be
written. -/
theorem exists_run_writeArtifact {artifact : Artifact}
    (parts : artifacts = front ++ artifact :: rest)
    (fits : FileTree.Fits (Path.under destination artifact.path)) :
    ∃ after, run (writeArtifact destination artifact) machine = (.ok (), after) := by
  have plain := orderly.plain artifact (by simp [parts])
  have made : ∀ names, front.any (Artifact.makes names) →
      machine.tree.find? (Path.way machine.working destination ++ names) = some .directory := by
    intro names made
    have missing := orderly.contentAt?_eq_none parts names
      (by rw [parts, List.any_append, made]; rfl)
    exact laid.directory names missing made
  have unwritten : ∀ names, names ≠ [] → contentAt? front names = none →
      ¬ front.any (Artifact.makes names) →
      machine.tree.find? (Path.way machine.working destination ++ names) = none := by
    intro names proper missing unmade
    rw [laid.rest names missing unmade, empty names proper]
  cases artifact with
  | directory path =>
      refine run_writeArtifact_directory sound spelled there plain fits ?_
      intro above isAbove bytes
      by_cases before : front.any (Artifact.makes above)
      · rw [made above before]
        exact nofun
      by_cases proper : above = []
      · rw [proper, List.append_nil, there]
        exact nofun
      · have makes : Artifact.makes above (.directory path) := by
          simpa [Artifact.makes] using isAbove
        have missing := orderly.contentAt?_eq_none parts above
          (List.any_eq_true.mpr ⟨.directory path, by simp [parts], makes⟩)
        rw [unwritten above proper missing before]
        exact nofun
  | file path content =>
      have plain : ∀ name ∈ Text.segments '/' path, Path.IsPlain name := plain
      refine run_writeArtifact_file sound spelled there plain fits ?_ ?_
      · intro above isAbove apart
        have higher := prefix_dropLast isAbove apart
        rcases orderly.inside front path content rest parts with top | before
        · rw [top, List.prefix_nil] at higher
          rw [higher, List.append_nil, there]
        · rcases List.any_eq_true.mp before with ⟨directory, member, makes⟩
          exact made above (List.any_eq_true.mpr
            ⟨directory, member, Artifact.makes_of_prefix higher makes⟩)
      · cases found : contentAt? front (Text.segments '/' path) with
        | some text =>
            rw [laid.file _ _ found]
            exact nofun
        | none =>
            have unmade : ¬ front.any (Artifact.makes (Text.segments '/' path)) := by
              intro made
              refine orderly.apart path content (by simp [parts]) ?_
              rw [parts, List.any_append, made]
              rfl
            rw [unwritten _ (Text.segments_ne_nil '/' path) found unmade]
            exact nofun

/-- Where the first pieces were written into an empty directory, the others can be written,
if no path is too long. -/
theorem exists_run_writeEach (parts : artifacts = front ++ rest)
    (fits : ∀ artifact ∈ rest, FileTree.Fits (Path.under destination artifact.path)) :
    ∃ after, run (writeEach (pure false) destination rest) machine = (.ok (), after) := by
  induction rest generalizing front machine with
  | nil => exact ⟨machine, rfl⟩
  | cons artifact rest ih =>
      rw [List.forall_mem_cons] at fits
      rcases exists_run_writeArtifact orderly sound spelled there empty laid parts fits.1 with
        ⟨next, step⟩
      have plain := orderly.plain artifact (by simp [parts])
      rcases laid_of_run_writeArtifact sound spelled there plain step with ⟨-, tree, left, one⟩
      have nextSound := sound.of_laid one left
      have standing := one.directories _ there
      have whole := laid.append one
      rw [← left.working] at empty standing whole
      rw [← left.tree] at standing whole
      rcases ih nextSound standing empty whole (by simp [parts]) fits.2 with ⟨after, ran⟩
      refine ⟨after, ?_⟩
      rw [run_writeEach_cons, run_bind_ok step, ran]

end Orderly

/-- An empty destination takes all pieces, if they come in order and no path is too
long. -/
theorem exists_run_writeArtifacts {artifacts : List Artifact} (orderly : Orderly artifacts)
    {machine prepared : Machine} {destination : String} (sound : machine.Sound)
    (created : run (Disk.makeDirectories destination.toList) machine = (.ok (), prepared))
    (empty : ∀ names, names ≠ [] →
      prepared.tree.find? (Path.way machine.working destination ++ names) = none)
    (fits : ∀ artifact ∈ artifacts, FileTree.Fits (Path.under destination artifact.path)) :
    ∃ after, run (writeArtifacts (pure false) destination artifacts) machine = (.ok (), after) ∧
      Leaves machine after.tree machine.output after ∧
      Laid (Path.way machine.working destination) artifacts prepared.tree after.tree := by
  have ready := sound.prepared created
  rw [← ready.leaves.working] at empty ⊢
  rcases exists_run_writeEach orderly ready.sound ready.spelled ready.there empty
    (.refl ready.sound.tree) (List.nil_append artifacts).symm fits with ⟨after, ran⟩
  rcases laid_of_run_writeEach ready.sound ready.spelled ready.there orderly.plain ran with
    ⟨-, tree, left, laid⟩
  rw [ready.leaves.output] at left
  refine ⟨after, by rw [run_writeArtifacts created, ran], ?_, ?_⟩
  · rw [left.tree]
    exact ready.leaves.trans left
  · rwa [left.tree]

end Machine

end DomainGen
