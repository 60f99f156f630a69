import DomainGen.Proofs.Generate.RootPackage
import DomainGen.Proofs.Generate.Runs
import DomainGen.Proofs.Host.Confinement

/-!
# Output that stays within its destination

The paths of the output are made of package segments, which have no dots, and of the names
of types.  A path climbs out of the destination only if a type has a parent segment in its
name (`exists_decl_of_climbs`), which no name in a source text has.  Where no path climbs, a
generation run changes nothing outside of its destination, whether it succeeds or not, apart
from the directories that are created for the destination (`stays_within_destination`).

A name in another format can have any characters, and nothing keeps it from climbing
(`leaves_destination_yamlHost`).
-/

namespace DomainGen

/-! ## Which paths climb -/

theorem ne_parent_of_mem_segments {text : String} (dotFree : Text.DotFree text) :
    ".." ∉ Text.segments '/' text := by
  intro member
  exact dotFree (Text.mem_of_mem_segments member (by decide))

/-- A path that is made of dot-free texts does not climb. -/
theorem not_climbs_join {parts : List String} (dotFree : ∀ part ∈ parts, Text.DotFree part) :
    ¬ Path.Climbs (Text.join "/" parts) := by
  intro climbs
  have parent := Path.parent_mem_of_climbs climbs
  by_cases some : parts = []
  · rw [some] at parent
    exact absurd parent (by decide)
  · rw [Path.segments_join_eq_flatMap some, List.mem_flatMap] at parent
    obtain ⟨part, member, parent⟩ := parent
    exact ne_parent_of_mem_segments (dotFree part member) parent

theorem dotFree_of_mem_packagePath {name segment : String}
    (member : segment ∈ packagePath [] name) : Text.DotFree segment := by
  rw [packagePath, List.nil_append, List.mem_filter] at member
  obtain ⟨piece, cutOut, rfl⟩ := List.mem_map.mp member.1
  rw [Text.DotFree, String.toList_ofList]
  exact Path.not_mem_of_mem_cut cutOut

namespace Java

variable {scope : Scope} {document : Nat} {analysis : Analysis} {defs : Definitions}
  {options : GenerateOptions}

/-- Only the source file of a type with a parent segment in its name has a path that
climbs. -/
theorem exists_decl_of_climbs {artifact : Artifact}
    (member : artifact ∈ generate scope document analysis defs options)
    (climbs : Path.Climbs artifact.path) :
    ∃ path decl content, (path, decl) ∈ defs.locatedTypes ∧
      artifact = .file (Text.join "/" (sourceNames (rootPath options ++ path) decl.name)) content ∧
      ".." ∈ Text.segments '/' decl.name := by
  have rootFree : ∀ segment ∈ rootPath options, Text.DotFree segment :=
    fun segment inside => dotFree_of_mem_packagePath inside
  rw [generate, List.mem_append] at member
  cases member with
  | inl top =>
      split at top
      · cases top
      · rw [List.mem_singleton.mp top] at climbs
        exact absurd climbs (not_climbs_join rootFree)
  | inr member =>
      obtain ⟨visit, visited, place, output⟩ := exists_artifactOf?_of_mem member
      have innerFree : ∀ segment ∈ visit.inner, Text.DotFree segment := by
        intro segment inside
        obtain ⟨name, part⟩ := (mem_inner [] defs.elements visited inside).resolve_left
          List.not_mem_nil
        exact dotFree_of_mem_packagePath part
      have packageFree := List.forall_mem_append.mpr ⟨rootFree, innerFree⟩
      cases visit with
      | mk path element =>
          cases element with
          | foreign name => cases output
          | package name pos elements =>
              cases output
              have directory := not_climbs_join packageFree
              rw [Visit.inner, ← packagePath_append] at directory
              exact absurd climbs directory
          | type decl =>
              simp only [artifactOf?, Option.map_eq_some_iff] at output
              obtain ⟨body, -, rfl⟩ := output
              refine ⟨path, decl, _, ?_, rfl, ?_⟩
              · exact List.mem_filterMap.mpr ⟨_, visited, rfl⟩
              · have parent := Path.parent_mem_of_climbs climbs
                rw [Artifact.path, Path.segments_join_eq_flatMap (by simp),
                  List.flatMap_append, List.mem_append] at parent
                cases parent with
                | inl above =>
                    obtain ⟨part, inside, parent⟩ := List.mem_flatMap.mp above
                    exact absurd parent (ne_parent_of_mem_segments (packageFree part inside))
                | inr last =>
                    rw [List.flatMap_singleton] at last
                    exact Path.parent_mem_of_append (by decide) (by decide) last

end Java

namespace TypeScript

theorem base_eq_or_slashFree (path : String) :
    Path.base path = "/" ∨ '/' ∉ (Path.base path).toList := by
  unfold Path.base
  split
  · exact .inr (by decide)
  · simp only
    split
    · exact .inl rfl
    · right
      rw [String.toList_ofList, List.mem_reverse]
      intro member
      simpa using List.mem_takeWhile_imp member

/-- The path of a module does not climb, whatever the source is called. -/
theorem not_climbs_moduleName (options : GenerateOptions) :
    ¬ Path.Climbs (moduleName options ++ ".ts") := by
  cases base_eq_or_slashFree options.source with
  | inl root =>
      have named : moduleName options = "/" := by
        rw [moduleName, outputName, root]
        decide
      rw [named]
      decide
  | inr baseFree =>
      have nameFree : '/' ∉ (moduleName options).toList := by
        simp only [moduleName]
        split
        · decide
        · rw [outputName, String.toList_ofList]
          exact fun member => baseFree (List.mem_of_mem_take member)
      have slashFree : '/' ∉ (moduleName options ++ ".ts").toList := by
        rw [String.toList_append, List.mem_append, not_or]
        exact ⟨nameFree, by decide⟩
      intro climbs
      have parent := Path.parent_mem_of_climbs climbs
      rw [Path.segments_of_slashFree slashFree, List.mem_singleton] at parent
      have length := congrArg String.length parent
      rw [String.length_append] at length
      have two : "..".length = 2 := by decide
      have three : ".ts".length = 3 := by decide
      omega

end TypeScript

/-- A path of the output climbs only if it is that of a Java file for a type with a parent
segment in its name. -/
theorem LoadedModel.exists_decl_of_climbs {model : LoadedModel} {target : Target}
    {options : GenerateOptions} {artifact : Artifact}
    (member : artifact ∈ model.artifacts target options) (climbs : Path.Climbs artifact.path) :
    target = .java ∧ ∃ path decl content, (path, decl) ∈ model.definitions.locatedTypes ∧
      artifact = .file
        (Text.join "/" (Java.sourceNames (Java.rootPath options ++ path) decl.name)) content ∧
      ".." ∈ Text.segments '/' decl.name := by
  cases target with
  | java => exact ⟨rfl, Java.exists_decl_of_climbs member climbs⟩
  | typeScript =>
      rw [List.mem_singleton.mp member] at climbs
      exact absurd climbs (TypeScript.not_climbs_moduleName options)

/-- No path climbs in the output for a model that was read from a source text. -/
theorem LoadedModel.not_climbs_of_isRead {model : LoadedModel} (read : model.document.IsRead)
    {target : Target} {options : GenerateOptions} {artifact : Artifact}
    (member : artifact ∈ model.linked.artifacts target options) :
    ¬ Path.Climbs artifact.path := by
  intro climbs
  obtain ⟨-, path, decl, content, located, -, parent⟩ := exists_decl_of_climbs member climbs
  obtain ⟨visit, visited, element, -⟩ := Java.exists_visit_of_mem_locatedTypes located
  have named := (segmented_linked read).name visit visited decl (by rw [element]; rfl)
  exact ne_parent_of_mem_segments named.dotFree parent

/-! ## What writing changes -/

namespace Machine

variable {machine : Machine} {destination : String}

theorem Sound.of_confined {base : List String} {tree : FileTree} {output : String}
    {after : Machine} (sound : machine.Sound) (confined : machine.tree.Confined base tree)
    (left : Leaves machine tree output after) : after.Sound :=
  sound.of_directories confined.wellFormed confined.directories left

/-- A file is written as a whole or not at all, and what is done besides is to log. -/
theorem run_writeArtifact_file_eq (machine : Machine) (destination path content : String) :
    let name := Path.under destination path
    let result := run (writeArtifact destination (.file path content)) machine
    match machine.tree.write machine.working name content.toUTF8.toList with
    | .ok tree => Leaves machine tree machine.output result.2
    | .error _ => result.2 = machine := by
  intro name result
  have wrote := run_adapt (.context ("failed to write " ++ name))
    (Disk.writeFile name content.toUTF8.toList) machine
  have parts : result = run ((Disk.writeFile name content.toUTF8.toList).adapt
      (.context ("failed to write " ++ name)) >>= fun _ => (note .debug "typegen" "Wrote artifact"
        [("artifact", .text path), ("path", .text name),
          ("bytes", .int (Text.byteLength content))] : StateM Machine Unit)) machine := rfl
  rw [run_writeFile] at wrote
  rw [parts]
  cases written : machine.tree.write machine.working name content.toUTF8.toList with
  | ok tree =>
      rw [written] at wrote
      rw [run_bind_ok wrote]
      exact (Leaves.ofTree machine tree).noted _ _ _ _
  | error refusal =>
      rw [written] at wrote
      rw [run_bind_error wrote]

/-- Writing a piece whose path does not climb changes nothing outside of the destination,
whether it succeeds or not. -/
theorem Sound.confined_writeArtifact (sound : machine.Sound) (spelled : destination ≠ "")
    (there : machine.tree.find? (Path.way machine.working destination) = some .directory)
    {artifact : Artifact} (stays : ¬ Path.Climbs artifact.path) :
    ∃ tree,
      Leaves machine tree machine.output (run (writeArtifact destination artifact) machine).2 ∧
      machine.tree.Confined (Path.way machine.working destination) tree := by
  have below := Path.isBelow_under spelled stays
  cases artifact with
  | directory path =>
      obtain ⟨tree, left, confined⟩ := sound.confined_makeDirectories below there
      refine ⟨tree, ?_, confined⟩
      have same : (run (writeArtifact destination (.directory path)) machine).2 =
          (run (Disk.makeDirectories (Path.under destination path).toList) machine).2 := rfl
      rw [same]
      exact left ▸ .ofTree machine tree
  | file path content =>
      have ran := run_writeArtifact_file_eq machine destination path content
      simp only at ran
      split at ran
      · next tree written =>
        refine ⟨tree, ran, sound.confined_write written ?_⟩
        exact ⟨_, (below.way_eq machine.working).symm⟩
      · rw [ran]
        exact ⟨machine.tree, .refl machine, .refl sound.tree⟩

theorem Sound.confined_writeEach (sound : machine.Sound) (spelled : destination ≠ "")
    (there : machine.tree.find? (Path.way machine.working destination) = some .directory)
    {artifacts : List Artifact} (stays : ∀ artifact ∈ artifacts, ¬ Path.Climbs artifact.path) :
    ∃ tree, Leaves machine tree machine.output
        (run (writeEach (pure false) destination artifacts) machine).2 ∧
      machine.tree.Confined (Path.way machine.working destination) tree := by
  induction artifacts generalizing machine with
  | nil => exact ⟨machine.tree, .refl machine, .refl sound.tree⟩
  | cons artifact rest ih =>
      rw [List.forall_mem_cons] at stays
      obtain ⟨between, left, confined⟩ := sound.confined_writeArtifact spelled there stays.1
      have later := ih (sound.of_confined confined left)
      rw [left.tree, left.working, left.output] at later
      obtain ⟨tree, leftLater, confinedLater⟩ := later (confined.directories _ there) stays.2
      rw [run_writeEach_cons, run_bind]
      generalize run (writeArtifact destination artifact) machine = result at left leftLater
      obtain ⟨outcome, after⟩ := result
      cases outcome with
      | ok value => exact ⟨tree, left.trans leftLater, confined.trans confinedLater⟩
      | error failure => exact ⟨between, left, confined⟩

end Machine

/-- Outside of a destination everything is as before, but for new directories that its path
spells. -/
def FileTree.StaysWithin (working destination : String) (tree other : FileTree) : Prop :=
  ∀ names, ¬ Path.way working destination <+: names →
    other.find? names = tree.find? names ∨
      tree.find? names = none ∧ other.find? names = some .directory ∧
        ∃ front, Disk.SpelledIn destination.toList front ∧
          names = Path.way working (String.ofList front)

namespace Machine

variable {machine : Machine} (sound : machine.Sound)
include sound

theorem Sound.staysWithin_makeDirectories {destination : String} {tree : FileTree}
    (left : (run (Disk.makeDirectories destination.toList) machine).2 = { machine with tree })
    (grown : machine.tree.Grown tree) :
    machine.tree.StaysWithin machine.working destination tree := by
  intro names _
  cases before : machine.tree.find? names with
  | some node => exact .inl (grown.kept names node before)
  | none =>
      cases after : tree.find? names with
      | none => exact .inl rfl
      | some node =>
          have directory := (grown.added names node after).resolve_left (by simp [before])
          have made := (sound.makeDirectories_adds _ left after).resolve_left (by simp [before])
          exact .inr ⟨rfl, by rw [directory], made⟩

theorem Sound.staysWithin_writeArtifacts (destination : String) {artifacts : List Artifact}
    (stays : ∀ artifact ∈ artifacts, ¬ Path.Climbs artifact.path) :
    machine.tree.StaysWithin machine.working destination
      (run (writeArtifacts (pure false) destination artifacts) machine).2.tree := by
  obtain ⟨between, left, grown, -⟩ := sound.makeDirectories_grows destination.toList
  have made := sound.staysWithin_makeDirectories left grown
  have created : run (Disk.makeDirectories destination.toList) machine =
      ((run (Disk.makeDirectories destination.toList) machine).1,
        { machine with tree := between }) := Prod.ext rfl left
  cases outcome : (run (Disk.makeDirectories destination.toList) machine).1 with
  | error failure =>
      rw [outcome] at created
      rw [writeArtifacts, run_bind, run_adapt, created]
      exact made
  | ok value =>
      rw [outcome] at created
      have ready := sound.prepared created
      obtain ⟨tree, wrote, confined⟩ := ready.sound.confined_writeEach ready.spelled ready.there
        stays
      rw [run_writeArtifacts created, wrote.tree]
      intro names outside
      rw [confined.outside names outside]
      exact made names outside

end Machine

theorem GenerateOptions.resolvedDestination_ne_empty (options : GenerateOptions) :
    options.resolvedDestination ≠ "" := by
  unfold resolvedDestination
  split
  · have beside : Path.dir options.source ≠ "" := (Path.spelling_clean _).2
    rw [defaultDestination, Path.under_eq_clean beside]
    exact (Path.spelling_clean _).2
  · assumption

namespace Machine

variable {machine : Machine} (sound : machine.Sound)
include sound

/-- A generation run changes nothing outside of its destination if no path of its output
climbs, whether it succeeds or not. -/
theorem Sound.staysWithin_runGeneration (target : Target) (model : LoadedModel)
    (options : GenerateOptions)
    (stays : ∀ artifact ∈ model.artifacts target (options.sourced model.document.path),
      ¬ Path.Climbs artifact.path) :
    machine.tree.StaysWithin machine.working
      (options.sourced model.document.path).resolvedDestination
      (run (runGeneration (pure false) target model options) machine).2.tree := by
  obtain ⟨start, noted, described⟩ := run_runGeneration target model options machine
  have written := (sound.of_leaves noted).staysWithin_writeArtifacts
    (options.sourced model.document.path).resolvedDestination stays
  rw [noted.tree, noted.working] at written
  split at described
  · next wrote ran =>
    rw [ran] at written
    obtain ⟨result, after, finished, left⟩ := described
    rw [finished, left.tree]
    exact written
  · next wrote ran =>
    rw [ran] at written
    rw [described]
    exact written

end Machine

/-- A piece of output leads, from every directory, to the directory or to something below it
exactly if its path does not climb.  A path climbs only for a type of the Java output with a
parent segment in its name, and never if the model was read from a source text.  Where no path
climbs, a generation run changes nothing outside of its destination. -/
theorem stays_within_destination (model : LoadedModel) (target : Target)
    (options : GenerateOptions) :
    let options' := options.sourced model.document.path
    let destination := options'.resolvedDestination
    let artifacts := model.artifacts target options'
    (∀ artifact ∈ artifacts,
      ((∀ directory, directory ≠ "" →
          Path.Within directory (Path.under directory artifact.path)) ↔
        ¬ Path.Climbs artifact.path) ∧
      (Path.Climbs artifact.path →
        target = .java ∧ ∃ path decl content, (path, decl) ∈ model.definitions.locatedTypes ∧
          artifact = .file
            (Text.join "/" (Java.sourceNames (Java.rootPath options' ++ path) decl.name))
            content ∧
          ".." ∈ Text.segments '/' decl.name)) ∧
      ((∃ read : LoadedModel, read.document.IsRead ∧ read.linked = model) →
        ∀ artifact ∈ artifacts, ¬ Path.Climbs artifact.path) ∧
      ((∀ artifact ∈ artifacts, ¬ Path.Climbs artifact.path) →
        (∀ artifact ∈ artifacts,
          Path.Within destination (Path.under destination artifact.path)) ∧
        ∀ machine : Machine, machine.Sound →
          machine.tree.StaysWithin machine.working destination
            (Machine.run (runGeneration (pure false) target model options) machine).2.tree) := by
  intro options' destination artifacts
  refine ⟨?_, ?_, ?_⟩
  · intro artifact member
    exact ⟨Path.within_under_iff, LoadedModel.exists_decl_of_climbs member⟩
  · rintro ⟨read, isRead, rfl⟩ artifact member
    exact LoadedModel.not_climbs_of_isRead isRead member
  · intro stays
    constructor
    · intro artifact member
      exact Path.within_under_iff.mpr (stays artifact member) destination
        options'.resolvedDestination_ne_empty
    · intro machine sound
      exact sound.staysWithin_runGeneration target model options stays

/-- A machine with a YAML model of one entity. -/
def yamlHost (name : String) : Machine where
  tree := ⟨[(["work"], .directory),
    (["work", "m.yaml"], .file ("elements:\n  - entity: " ++ name ++ "\n").toUTF8.toList)]⟩
  working := "/work"

/-- The model that is loaded from it. -/
def yamlModel (name : String) : Except Failure LoadedModel :=
  (Machine.run (load "m.yaml" "") (yamlHost name)).1

theorem stays_within_destination_yamlHost :
    ∃ model, yamlModel "a/../X" = .ok model ∧
      (model.artifacts .java { source := "m.yaml", destination := "out" }).map (·.path) =
        ["a/../X.java"] ∧
      Path.Within "out" (Path.under "out" "a/../X.java") ∧
      (yamlHost "a/../X").tree.StaysWithin "/work" "out"
        (Machine.run (runGeneration (pure false) .java model { destination := "out" })
          (yamlHost "a/../X")).2.tree := by
  have computed : (yamlModel "a/../X").toOption.any fun model =>
      model.document.path = "m.yaml" &&
        (model.artifacts .java { source := "m.yaml", destination := "out" }).map (·.path) =
          ["a/../X.java"] := by
    decide +kernel
  simp only [Option.any_eq_true, Bool.and_eq_true, decide_eq_true_eq] at computed
  obtain ⟨model, loaded, source, paths⟩ := computed
  have loaded := eq_ok_of_toOption loaded
  have sourced : ({ destination := "out" } : GenerateOptions).sourced model.document.path =
      { source := "m.yaml", destination := "out" } := by
    rw [source]
    rfl
  obtain ⟨-, -, confined⟩ := stays_within_destination model .java { destination := "out" }
  rw [sourced] at confined
  have stays : ∀ artifact ∈ model.artifacts .java { source := "m.yaml", destination := "out" },
      ¬ Path.Climbs artifact.path := by
    intro artifact member
    have listed := List.mem_map_of_mem (f := (·.path)) member
    rw [paths, List.mem_singleton] at listed
    rw [listed]
    decide
  obtain ⟨within, unchanged⟩ := confined stays
  refine ⟨model, loaded, paths, ?_, unchanged (yamlHost "a/../X") (by decide +kernel)⟩
  have piece : "a/../X.java" ∈ (model.artifacts .java
      { source := "m.yaml", destination := "out" }).map (·.path) := by
    rw [paths]
    exact List.mem_singleton_self _
  obtain ⟨artifact, member, same⟩ := List.mem_map.mp piece
  exact same ▸ within artifact member

/-- A class is written next to the destination, where nothing was before. -/
theorem leaves_destination_yamlHost :
    ∃ model, yamlModel "../X" = .ok model ∧
      (model.artifacts .java { source := "m.yaml", destination := "out" }).map (·.path) =
        ["../X.java"] ∧
      ¬ Path.Within "out" (Path.under "out" "../X.java") ∧
      let after := (Machine.run (runGeneration (pure false) .java model { destination := "out" })
        (yamlHost "../X")).2
      (yamlHost "../X").tree.find? ["work", "X.java"] = none ∧
        after.tree.find? ["work", "X.java"] =
          some (.file "package ;\n\npublic class ../X \x7b\n\x7d\n".toUTF8.toList) ∧
        ¬ (yamlHost "../X").tree.StaysWithin "/work" "out" after.tree := by
  have computed : (yamlModel "../X").toOption.any fun model =>
      (model.artifacts .java { source := "m.yaml", destination := "out" }).map (·.path) =
          ["../X.java"] &&
        (Machine.run (runGeneration (pure false) .java model { destination := "out" })
          (yamlHost "../X")).2.tree.find? ["work", "X.java"] =
            some (.file "package ;\n\npublic class ../X \x7b\n\x7d\n".toUTF8.toList) := by
    decide +kernel
  simp only [Option.any_eq_true, Bool.and_eq_true, decide_eq_true_eq] at computed
  obtain ⟨model, loaded, paths, written⟩ := computed
  have loaded := eq_ok_of_toOption loaded
  have missing : (yamlHost "../X").tree.find? ["work", "X.java"] = none := by decide +kernel
  refine ⟨model, loaded, paths, ?_, missing, written, ?_⟩
  · rintro ⟨names, below⟩
    have parts := below.parts_eq
    have one : Path.parts (Path.under "out" "../X.java") = ["X.java"] := by decide +kernel
    have base : Path.parts "out" = ["out"] := by decide
    rw [one, base, List.singleton_append, List.cons.injEq] at parts
    exact absurd parts.1 (by decide)
  · intro within
    have outside : ¬ Path.way "/work" "out" <+: ["work", "X.java"] := by decide +kernel
    cases within ["work", "X.java"] outside with
    | inl same =>
        rw [written, missing] at same
        cases same
    | inr made =>
        rw [written] at made
        cases made.2.1

end DomainGen
