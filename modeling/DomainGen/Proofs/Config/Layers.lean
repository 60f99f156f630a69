import DomainGen.Config.Decode
import DomainGen.Proofs.Config.Merging

/-!
# Layers of configuration

A setting is what the first layer says that says anything: the variable that is named after
it, the file of the project, the file of the user, the defaults (`Layers.setting`).  No other
setting of a layer matters to it.  The settings of a run, read from merged files, describe the
configuration that has each of its settings from the layers (`decode_settings`).
-/

namespace DomainGen.Config

open Text (segments)
open Toml (Value Table)

/-! ## What the layers say -/

/-- The layers above the defaults: the variables that are set and not empty, and what the files
of the project and of the user say. -/
structure Layers where
  assigned : String → Option String
  project : Table
  user : Table

namespace Layers

/-- The value of a setting: that of the strongest layer that has one. -/
def setting (layers : Layers) (key : String) : Option Value :=
  ((layers.assigned (variableName key)).map .text).or
    ((search layers.project (segments '.' key)).or
      ((search layers.user (segments '.' key)).or (defaults.lookup key)))

/-- Two layerings that say the same of one setting, whatever they say of others. -/
structure AgreeOn (key : String) (layers other : Layers) : Prop where
  assigned : layers.assigned (variableName key) = other.assigned (variableName key)
  project : search layers.project (segments '.' key) = search other.project (segments '.' key)
  user : search layers.user (segments '.' key) = search other.user (segments '.' key)

/-- No other setting matters to a setting. -/
theorem AgreeOn.setting_eq {key : String} {layers other : Layers}
    (agree : AgreeOn key layers other) : layers.setting key = other.setting key := by
  rw [setting, setting, agree.assigned, agree.project, agree.user]

/-- The text that a setting has. -/
def text (layers : Layers) (key : String) : String :=
  match layers.setting key with
  | some (.text value) => value
  | _ => ""

/-- The truth value that a setting has; that of a variable is read from its text. -/
def boolean (layers : Layers) (key : String) : Bool :=
  match layers.setting key with
  | some (.boolean value) => value
  | some (.text value) => (Number.readBool? value).getD false
  | _ => false

/-- The integer that a setting has; that of a variable is read from its text. -/
def integer (layers : Layers) (key : String) : Int :=
  match layers.setting key with
  | some (.integer value) => value
  | some (.text value) => (Number.readInteger 0 value).toOption.getD 0
  | _ => 0

/-- The configuration that has each of its settings from the layers. -/
def config (layers : Layers) : Config where
  target := layers.text "generate.target"
  destination := layers.text "generate.destination"
  root := layers.text "generate.root"
  quiet := layers.boolean "generate.quiet"
  rootPackage := layers.text "java.root_package"
  jsonLog := layers.boolean "log.json"
  verbosity := layers.integer "log.verbosity"
  debounceMs := layers.integer "watch.debounce_ms"

end Layers

/-- Whether the text of a variable is what a setting has to be. -/
def Expected.reads : Expected → String → Bool
  | text, _ => true
  | boolean, word => (Number.readBool? word).isSome
  | integer, word => (Number.readInteger 0 word).toOption.isSome

/-- Layers in which the known settings are what they have to be, and no group of settings is
given a value. -/
structure Layers.WellTyped (layers : Layers) : Prop where
  project : Config.WellTyped layers.project
  user : Config.WellTyped layers.user
  words : ∀ setting ∈ Setting.all,
    (layers.assigned (variableName setting.key)).all setting.expected.reads
  groups : ∀ setting ∈ Setting.all, layers.assigned (variableName setting.group) = none

instance (layers : Layers) : Decidable layers.WellTyped :=
  decidable_of_iff (Config.WellTyped layers.project ∧ Config.WellTyped layers.user ∧
      (∀ setting ∈ Setting.all,
        (layers.assigned (variableName setting.key)).all setting.expected.reads) ∧
      ∀ setting ∈ Setting.all, layers.assigned (variableName setting.group) = none)
    ⟨fun ⟨project, user, words, groups⟩ => ⟨project, user, words, groups⟩,
      fun typed => ⟨typed.project, typed.user, typed.words, typed.groups⟩⟩

/-! ## Settings as they have to be -/

/-- What a setting has to be, as a value or as the text of one. -/
def Expected.Fits (expected : Expected) (value : Value) : Prop :=
  expected.accepts value ∨ ∃ word, value = .text word ∧ expected.reads word

section Convert

variable {layers : Layers} {key : String} {value : Value} (found : layers.setting key = some value)
include found

theorem asText_eq (fits : Expected.text.Fits value) : asText key value = .ok (layers.text key) := by
  rw [Layers.text, found]
  rcases fits with accepted | ⟨word, rfl, -⟩
  · cases value with
    | text word => rfl
    | _ => cases accepted
  · rfl

theorem asBool_eq (fits : Expected.boolean.Fits value) :
    asBool key value = .ok (layers.boolean key) := by
  rw [Layers.boolean, found]
  rcases fits with accepted | ⟨word, rfl, reads⟩
  · cases value with
    | boolean truth => rfl
    | _ => cases accepted
  · obtain ⟨truth, read⟩ := Option.isSome_iff_exists.mp reads
    simp only [asBool, read, Option.getD_some]

theorem asInteger_eq (fits : Expected.integer.Fits value) :
    asInteger key value = .ok (layers.integer key) := by
  rw [Layers.integer, found]
  rcases fits with accepted | ⟨word, rfl, reads⟩
  · cases value with
    | integer number => rfl
    | _ => cases accepted
  · have filled : word ≠ "" := by
      rintro rfl
      exact absurd reads (by decide)
    cases read : Number.readInteger 0 word with
    | error fault =>
        rw [Expected.reads, read] at reads
        cases reads
    | ok number =>
        simp only [asInteger, if_neg filled, read]
        rfl

end Convert

theorem defaults_fit : ∀ setting ∈ Setting.all,
    ∃ value, defaults.lookup setting.key = some value ∧ setting.expected.accepts value := by
  decide

/-- A known setting has a value, and it is what the setting has to be. -/
theorem exists_setting {layers : Layers} (typed : layers.WellTyped) {setting : Setting}
    (known : setting ∈ Setting.all) :
    ∃ value, layers.setting setting.key = some value ∧ setting.expected.Fits value := by
  have path := (segments_key setting known).1
  unfold Layers.setting
  rw [path]
  cases assigned : layers.assigned (variableName setting.key) with
  | some word =>
      have reads := typed.words setting known
      rw [assigned] at reads
      exact ⟨.text word, rfl, .inr ⟨word, rfl, reads⟩⟩
  | none =>
      have inProject := typed.project.accepted setting known
      have inUser := typed.user.accepted setting known
      rw [Option.map_none, Option.none_or]
      cases project : search layers.project setting.path with
      | some value =>
          rw [project] at inProject
          exact ⟨value, rfl, .inl inProject⟩
      | none =>
          cases user : search layers.user setting.path with
          | some value =>
              rw [user] at inUser
              exact ⟨value, rfl, .inl inUser⟩
          | none =>
              obtain ⟨value, found, accepted⟩ := defaults_fit setting known
              exact ⟨value, found, .inl accepted⟩

/-! ## The settings of a run -/

theorem parents_key : ∀ setting ∈ Setting.all, parents setting.key = [setting.group] := by decide

theorem defaults_apart : ∀ name ∈ defaults.map Prod.fst, ∀ setting ∈ Setting.all,
    name = setting.key ∨ Apart (segments '.' name) (segments '.' setting.key) := by
  decide +kernel

section Settings

variable {files : Table} {setting : Setting} (known : setting ∈ Setting.all)
  (apart : ∀ name ∈ settingNames files,
    name = setting.key ∨ Apart (segments '.' name) (segments '.' setting.key))
include known apart

theorem eq_or_apart_of_knownNames {name : String} (member : name ∈ knownNames files) :
    name = setting.key ∨ Apart (segments '.' name) (segments '.' setting.key) := by
  rw [knownNames, List.mem_eraseDups, List.mem_append] at member
  rcases member with own | default
  · exact apart name own
  · exact defaults_apart name (List.mem_of_mem_filter default) setting known

/-- No setting of the files stands above a known one, so that its default is in force. -/
theorem key_mem_knownNames : setting.key ∈ knownNames files := by
  obtain ⟨path, group, -⟩ := segments_key setting known
  have absent : setting.group ∉ settingNames files := by
    intro listed
    have above : [setting.group] <+: setting.path := ⟨[setting.name], rfl⟩
    rcases apart _ listed with same | apart
    · have cutOut := congrArg (segments '.') same
      rw [group, path] at cutOut
      cases cutOut
    · rw [group, path] at apart
      exact apart.1 above
  obtain ⟨value, found, -⟩ := defaults_fit setting known
  have default : setting.key ∈ defaults.map Prod.fst := by
    rw [List.lookup_eq_some_iff] at found
    obtain ⟨front, back, split, -⟩ := found
    simp [split]
  rw [knownNames, List.mem_eraseDups, List.mem_append, List.mem_filter]
  refine .inr ⟨default, ?_⟩
  rw [parents_key setting known, List.any_cons, List.any_nil, Bool.or_false, Bool.not_eq_true',
    List.contains_eq_mem, decide_eq_false absent]

theorem valueAt?_settings (assigned : List (String × String)) :
    (settings assigned files).valueAt? setting.path =
      settingValue assigned files setting.key := by
  have described : settings assigned files =
      tree (named (knownNames files) (settingValue assigned files)) := rfl
  have distinct : (knownNames files).Nodup := nodup_eraseDups _
  rw [← (segments_key setting known).1, described, valueAt?_tree_named distinct,
    if_pos (key_mem_knownNames known apart)]
  intro other member differ
  exact (eq_or_apart_of_knownNames known apart member).resolve_left differ

end Settings

/-- Variables and merged files of a run that say what some layers say. -/
structure Layers.Hold (layers : Layers) (assigned : List (String × String)) (files : Table) :
    Prop where
  words : ∀ setting ∈ Setting.all,
    assigned.lookup (variableName setting.key) = layers.assigned (variableName setting.key) ∧
      assigned.lookup (variableName setting.group) = layers.assigned (variableName setting.group)
  searched : ∀ setting ∈ Setting.all, search files setting.path =
    (search layers.project setting.path).or (search layers.user setting.path)
  clear : ∀ setting ∈ Setting.all, ∀ name ∈ settingNames files,
    name = setting.key ∨ Apart (segments '.' name) (segments '.' setting.key)

section Decode

variable {layers : Layers} {assigned : List (String × String)} {files : Table}
  (typed : layers.WellTyped) (hold : layers.Hold assigned files)
include typed hold

theorem settingValue_eq {setting : Setting} (known : setting ∈ Setting.all) :
    settingValue assigned files setting.key = layers.setting setting.key := by
  obtain ⟨own, group⟩ := hold.words setting known
  unfold settingValue Layers.setting
  rw [own, parents_key setting known, List.any_cons, List.any_nil, group,
    typed.groups setting known, (segments_key setting known).1,
    hold.searched setting known]
  cases layers.assigned (variableName setting.key) with
  | some word => rfl
  | none => exact Option.or_assoc

/-- A known setting is found in its group, and is what the layers say. -/
theorem exists_field {setting : Setting} (known : setting ∈ Setting.all) :
    ∃ entries value, asSection (settings assigned files) setting.group = .ok entries ∧
      entries.get? setting.name = some value ∧ layers.setting setting.key = some value ∧
      setting.expected.Fits value := by
  obtain ⟨value, found, fits⟩ := exists_setting typed known
  have there := valueAt?_settings known (hold.clear setting known) assigned
  rw [settingValue_eq typed hold known, found, Setting.path,
    Toml.Table.valueAt?_cons (List.cons_ne_nil _ [])] at there
  unfold Toml.Table.entriesAt Toml.Table.entriesOf at there
  split at there
  · next entries present =>
    refine ⟨entries, value, ?_, there, found, fits⟩
    rw [asSection, present]
  · cases there

/-- A known setting of a group. -/
theorem asField_eq {α : Type} {setting : Setting} (known : setting ∈ Setting.all)
    (absent : α) {convert : String → Value → Except String α} {result : α}
    (converts : ∀ value, layers.setting setting.key = some value → setting.expected.Fits value →
      convert setting.key value = .ok result) :
    asField ((asSection (settings assigned files) setting.group).toOption.getD []) setting.group
      setting.name absent convert = .ok result := by
  obtain ⟨entries, value, section_, found, held, fits⟩ := exists_field typed hold known
  rw [section_, Except.toOption, Option.getD_some, asField, found]
  exact converts value held fits

section Fields

variable (group name key : String) (spelled : group ++ "." ++ name = key)
include spelled

theorem text_field (known : ⟨group, name, .text⟩ ∈ Setting.all) :
    asField ((asSection (settings assigned files) group).toOption.getD []) group name "" asText =
      .ok (layers.text key) := by
  subst spelled
  exact asField_eq typed hold known "" fun _ found fits => asText_eq found fits

theorem boolean_field (known : ⟨group, name, .boolean⟩ ∈ Setting.all) :
    asField ((asSection (settings assigned files) group).toOption.getD []) group name false
      asBool = .ok (layers.boolean key) := by
  subst spelled
  exact asField_eq typed hold known false fun _ found fits => asBool_eq found fits

theorem integer_field (known : ⟨group, name, .integer⟩ ∈ Setting.all) :
    asField ((asSection (settings assigned files) group).toOption.getD []) group name 0
      asInteger = .ok (layers.integer key) := by
  subst spelled
  exact asField_eq typed hold known 0 fun _ found fits => asInteger_eq found fits

end Fields

/-- Every group of known settings is a section. -/
theorem exists_section {setting : Setting} (known : setting ∈ Setting.all) {group : String}
    (named : setting.group = group) :
    ∃ entries, asSection (settings assigned files) group = .ok entries := by
  obtain ⟨entries, _, found, -⟩ := exists_field typed hold known
  exact ⟨entries, named ▸ found⟩

/-- The settings of a run describe the configuration that the layers have. -/
theorem decode_settings : decode (settings assigned files) = .ok layers.config := by
  have known : ∀ setting ∈ schema.map (·.name), ∃ other ∈ Setting.all, other.group = setting := by
    decide
  have sections : ∀ group ∈ schema.map (·.name),
      ∃ entries, asSection (settings assigned files) group = .ok entries := by
    intro group listed
    obtain ⟨setting, member, named⟩ := known group listed
    exact exists_section typed hold member named
  obtain ⟨_, generate⟩ := sections "generate" (by decide)
  obtain ⟨_, java⟩ := sections "java" (by decide)
  obtain ⟨_, log⟩ := sections "log" (by decide)
  obtain ⟨_, watch⟩ := sections "watch" (by decide)
  have target := text_field typed hold "generate" "target" "generate.target" rfl (by decide)
  have destination := text_field typed hold "generate" "destination" "generate.destination" rfl
    (by decide)
  have root := text_field typed hold "generate" "root" "generate.root" rfl (by decide)
  have quiet := boolean_field typed hold "generate" "quiet" "generate.quiet" rfl (by decide)
  have rootPackage := text_field typed hold "java" "root_package" "java.root_package" rfl
    (by decide)
  have jsonLog := boolean_field typed hold "log" "json" "log.json" rfl (by decide)
  have verbosity := integer_field typed hold "log" "verbosity" "log.verbosity" rfl (by decide)
  have debounceMs := integer_field typed hold "watch" "debounce_ms" "watch.debounce_ms" rfl
    (by decide)
  have decoded : ofSettings (settings assigned files) = .ok layers.config := by
    unfold ofSettings
    simp only [target, destination, root, quiet, rootPackage, jsonLog, verbosity, debounceMs]
    rw [generate, java, log, watch]
    rfl
  rw [decode, decoded]
  rfl

end Decode

end DomainGen.Config
