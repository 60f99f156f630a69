import DomainGen.Host.Machine
import DomainGen.Proofs.Cli.Showing

/-!
# How long a watcher waits

A configuration gives the time to wait in milliseconds, and a watcher keeps it in nanoseconds,
in 64 bits.  The checks of a configuration bound the time from below only, so that not every time
which passes them can be kept.  Those that can are the ones up to `longestWait`
(`debounce_eq_iff_le_longestWait`); a longer one turns into a shorter one or into none at all
(`debounce_wraps`).
-/

namespace DomainGen

/-! ## Watchers -/

namespace Watcher

variable {m : Type → Type} [Monad m] [LawfulMonad m] [Disk m] [Process m]

/-- The time to wait has no part in whether files can be watched. -/
theorem create_eq (files : List String) (debounce : Int) :
    (create files debounce : ExceptT Failure m Watcher) =
      (fun watcher =>
        { watcher with debounce := if debounce ≤ 0 then defaultDebounce else debounce }) <$>
          create files defaultDebounce := by
  unfold create
  by_cases empty : files.isEmpty
  · simp only [empty, if_true, map_bind, map_pure]
  · simp only [empty, Bool.false_eq_true, if_false, map_bind, map_pure]

/-- A time to wait that is positive is kept as it is. -/
theorem create_of_pos (files : List String) {debounce : Int} (positive : 0 < debounce) :
    (create files debounce : ExceptT Failure m Watcher) =
      (fun watcher => { watcher with debounce }) <$> create files defaultDebounce := by
  rw [create_eq, if_neg (not_le_of_gt positive)]

end Watcher

namespace Config

/-! ## Nanoseconds in 64 bits -/

/-- The longest time to wait, in milliseconds, whose nanoseconds are kept in 64 bits. -/
def longestWait : Int := Int64.maxValue.toInt / 1000000

theorem wrap64_eq_iff {value : Int} (positive : 0 < value) :
    wrap64 value = value ↔ value ≤ Int64.maxValue.toInt := by
  have most : Int64.maxValue.toInt = 9223372036854775807 := by decide
  have size : (UInt64.size : Int) = 18446744073709551616 := rfl
  rw [wrap64, most]
  constructor
  · intro kept
    have below := Int.bmod_lt (x := value) (m := UInt64.size) (by decide)
    rw [kept, size] at below
    omega
  · intro within
    apply Int.bmod_eq_of_le
    · rw [size]; omega
    · rw [size]; omega

theorem debounce_of_pos {config : Config} (positive : 0 < config.debounceMs) :
    config.debounce = wrap64 (config.debounceMs * 1000000) :=
  if_neg (not_le_of_gt positive)

theorem debounce_eq_mul_iff {config : Config} (positive : 0 < config.debounceMs) :
    config.debounce = config.debounceMs * 1000000 ↔ config.debounceMs ≤ longestWait := by
  have most : Int64.maxValue.toInt = 9223372036854775807 := by decide
  have scaled : 0 < config.debounceMs * 1000000 := by omega
  rw [debounce_of_pos positive, wrap64_eq_iff scaled, longestWait, most]
  omega

/-! ## Configurations that make sense -/

/-- Of the times to wait that pass the checks, zero means the default.  Any other is kept
exactly if it is no longer than `longestWait`.  In this range the time is positive and grows with
the one that is configured, and a watcher keeps it as it is. -/
theorem debounce_eq_iff_le_longestWait {config : Config} (valid : config.validate = .ok ()) :
    (config.debounceMs = 0 ∧ config.debounce = 300000000 ∨
      0 < config.debounceMs ∧
        (config.debounce = config.debounceMs * 1000000 ↔ config.debounceMs ≤ longestWait)) ∧
    (config.debounceMs ≤ longestWait →
      0 < config.debounce ∧
      (∀ shorter : Config, 0 < shorter.debounceMs → shorter.debounceMs ≤ config.debounceMs →
        shorter.debounce ≤ config.debounce) ∧
      ∀ files : List String,
        (Watcher.create files config.debounce : ExceptT Failure (StateM Machine) Watcher) =
          (fun watcher => { watcher with debounce := config.debounce }) <$>
            Watcher.create files defaultDebounce) := by
  have known : config.debounceMs = 0 ∧ config.debounce = 300000000 ∨
      0 < config.debounceMs ∧
        (config.debounce = config.debounceMs * 1000000 ↔ config.debounceMs ≤ longestWait) := by
    rcases (sensible_of_validate valid).debounce.eq_or_lt with zero | positive
    · exact .inl ⟨zero.symm, if_pos zero.ge⟩
    · exact .inr ⟨positive, debounce_eq_mul_iff positive⟩
  refine ⟨known, fun within => ?_⟩
  have positive : 0 < config.debounce := by
    rcases known with ⟨-, same⟩ | ⟨some, kept⟩
    · rw [same]
      decide
    · rw [kept.mpr within]
      omega
  refine ⟨positive, ?_, fun files => Watcher.create_of_pos files positive⟩
  intro shorter some less
  have below := less.trans within
  have exactly := (debounce_eq_mul_iff (some.trans_le less)).mpr within
  rw [exactly, (debounce_eq_mul_iff some).mpr below]
  exact Int.mul_le_mul_of_nonneg_right less (by decide)

theorem debounce_eq_iff_le_longestWait_longest :
    let config : Config := { debounceMs := 9223372036854 }
    config.validate = .ok () ∧ config.debounce = 9223372036854000000 ∧
      ∃ watcher, ((Watcher.create ["/m.ddef"] config.debounce :
        ExceptT Failure (StateM Machine) Watcher).run {}).1 = .ok watcher ∧
          watcher.debounce = 9223372036854000000 := by
  intro config
  have valid : config.validate = .ok () := rfl
  have within : config.debounceMs ≤ longestWait := by decide
  obtain ⟨known, -, -, kept⟩ := And.imp_right (· within) (debounce_eq_iff_le_longestWait valid)
  have exactly := (known.resolve_left (fun zero => absurd zero.1 (by decide))).2.mpr within
  refine ⟨valid, exactly, { files := ["/m.ddef"], debounce := config.debounce }, ?_, exactly⟩
  rw [kept]
  rfl

/-- A time that passes the checks can turn into a negative one, in place of which a watcher takes
the default, and a longer one into less than a millisecond. -/
theorem debounce_wraps :
    let config : Config := { debounceMs := 9223372036855 }
    let longer : Config := { debounceMs := 18446744073710 }
    config.validate = .ok () ∧ longer.validate = .ok () ∧
      config.debounce = -9223372036854551616 ∧ longer.debounce = 448384 ∧
      ((Watcher.create ["/m.ddef"] config.debounce :
        ExceptT Failure (StateM Machine) Watcher).run {}).1.toOption =
          some { files := ["/m.ddef"], debounce := 300000000 } := by
  decide +kernel

end Config

end DomainGen
