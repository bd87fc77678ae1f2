import Mathlib.Algebra.Order.Field.Power
import Mathlib.Data.Rat.Cast.Order
import Mathlib.Tactic.NormNum
import Mathlib.Tactic.Positivity
import PageMerge.Proofs.Config.Requirements

/-!
# Delays that stop the program

A length of time has less than `2 ^ 64` seconds. A delay that is negative, infinite or no number
means no delay, but one of `2 ^ 64` seconds or more cannot be held, and then the program stops
instead of reporting a problem. The delay is the last value that is looked at, so the program stops
only if nothing else is wrong with the configuration; in every other case there are settings or a
problem.

## Main definitions

* `Binary.value`: the exact value of a finite number
* `TooLong`: a number of seconds that no length of time has

## Main results

* `ofSeconds?_eq_none_iff`: which numbers of seconds are no delay
* `validate_eq_aborted_iff`, `load_eq_aborted_iff`: when the program stops
* `settings_or_problem_iff`: when there are settings or a problem
* `long_delay_stops`: a delay of `1e20` seconds
-/

namespace PageMerge.Decimal

/-- The exact value of a positive finite number. -/
def Binary.value (x : Binary) : ℚ := x.mantissa * (2 : ℚ) ^ x.exponent

/-- The numerator and the denominator of a power of two. -/
theorem power_two (exponent : Int) :
    ((power 2 exponent).1 : ℚ) = (2 : ℚ) ^ exponent * (power 2 exponent).2 := by
  have hexponent : (exponent.toNat : Int) = exponent + (-exponent).toNat := by omega
  simp only [power, Nat.pow_eq, Nat.cast_pow, Nat.cast_ofNat]
  rw [← zpow_natCast, ← zpow_natCast, ← zpow_add₀ (by norm_num), hexponent]

theorem power_zero (base : Nat) : power base 0 = (1, 1) := rfl

/-- A number is at least as large as another one exactly if its numerator is at least as large as
the denominator so many times. -/
theorem Binary.mul_le_ratio_iff (x : Binary) (limit : Nat) :
    limit * (x.ratio 0).2 ≤ (x.ratio 0).1 ↔ (limit : ℚ) ≤ x.value := by
  have hpos : (0 : ℚ) < (power 2 x.exponent).2 := by
    simp only [power, Nat.pow_eq]
    positivity
  rw [ratio, power_zero, value, ← mul_le_mul_iff_left₀ hpos, mul_assoc, ← power_two]
  simp only [mul_one]
  norm_cast

end PageMerge.Decimal

namespace PageMerge.Config

open PageMerge.Files (FileTree Path)

/-! ### Numbers of seconds -/

/-- A finite number of seconds that no length of time has. -/
def TooLong : Decimal.Number → Prop
  | .finite false x => 2 ^ 64 ≤ x.value
  | _ => False

/-- A number of seconds is no delay exactly if it is too long. -/
theorem ofSeconds?_eq_none_iff (seconds : Decimal.Number) :
    Delay.ofSeconds? seconds = none ↔ TooLong seconds := by
  match seconds with
  | .nan => exact iff_of_false nofun id
  | .infinite _ => exact iff_of_false nofun id
  | .zero _ => exact iff_of_false nofun id
  | .finite true _ => exact iff_of_false nofun id
  | .finite false x =>
    have hlimit := x.mul_le_ratio_iff secondsLimit
    have hcast : ((secondsLimit : Nat) : ℚ) = 2 ^ 64 := by norm_num [secondsLimit, UInt64.size]
    rw [hcast] at hlimit
    rw [Delay.ofSeconds?, TooLong, ← hlimit]
    simp only [ite_eq_left_iff, reduceCtorEq, imp_false, not_not]

/-! ### Configurations -/

/-- The program stops at a configuration exactly if it meets all requirements and its delay is too
long. -/
theorem validate_eq_aborted_iff (file : ConfigFile) (tree : FileTree) (account : Account) :
    file.validate tree account = .error .aborted ↔
      (∀ requirement ∈ requirements file tree account, requirement.Met) ∧
        TooLong file.confluence.delaySeconds := by
  have hjudges := validate_judges file tree account
  rw [← ofSeconds?_eq_none_iff]
  rcases forall_met_or_firstUnmet (requirements file tree account) with hmet | ⟨problem, hunmet⟩
  · rcases hjudges.met hmet with ⟨hnone, haborted⟩ | ⟨settings, hsettings, hof⟩
    · exact iff_of_true haborted ⟨hmet, hnone⟩
    · refine iff_of_false (fun haborted => ?_) fun hstops => ?_
      · cases hsettings.symm.trans haborted
      · cases hof.delay.symm.trans hstops.2
  · refine iff_of_false (fun haborted => ?_) fun hstops => hunmet.not_forall_met hstops.1
    cases (hjudges.unmet problem hunmet).symm.trans haborted

/-- The program stops while it loads a file exactly if it stops at the configuration there, with
the article data that are given. -/
theorem load_eq_aborted_iff (tree : FileTree) (path : Path) (account : Account)
    (data : Option Path) :
    load tree path account data = .error .aborted ↔
      ∃ file, loadFile tree path = .ok file ∧
        (file.withData data).validate tree account = .error .aborted := by
  rw [load]
  cases loadFile tree path with
  | error problem => simp [refuse]
  | ok file => simp

/-- Unless the program stops, there are settings or a problem. -/
theorem ne_aborted_iff (result : Except Failure Settings) :
    result ≠ .error .aborted ↔
      (∃ settings, result = .ok settings) ∨ ∃ problem, result = refuse problem := by
  match result with
  | .ok settings => exact iff_of_true nofun (.inl ⟨settings, rfl⟩)
  | .error (.refused problem) => exact iff_of_true nofun (.inr ⟨problem, rfl⟩)
  | .error .aborted =>
    refine iff_of_false (fun hne => hne rfl) ?_
    rintro (⟨_, hok⟩ | ⟨_, hrefused⟩)
    · cases hok
    · cases hrefused

/-- Other article data do not change the delay. -/
theorem delaySeconds_withData (file : ConfigFile) (data : Option Path) :
    (file.withData data).confluence.delaySeconds = file.confluence.delaySeconds := by
  cases data <;> rfl

/-- **Settings or a problem.** A configuration that meets all requirements and whose delay is too
long gives neither settings nor a problem, and any other one gives one of both. A file that is
loaded does so too, unless it holds such a configuration, with the article data that are given. -/
theorem settings_or_problem_iff (tree : FileTree) (account : Account) :
    (∀ file : ConfigFile,
      ((∃ settings, file.validate tree account = .ok settings) ∨
        ∃ problem, file.validate tree account = refuse problem) ↔
      ¬((∀ requirement ∈ requirements file tree account, requirement.Met) ∧
        TooLong file.confluence.delaySeconds)) ∧
    ∀ (path : Path) (data : Option Path),
      ((∃ settings, load tree path account data = .ok settings) ∨
        ∃ problem, load tree path account data = refuse problem) ↔
      ¬∃ file, loadFile tree path = .ok file ∧
        (∀ requirement ∈ requirements (file.withData data) tree account, requirement.Met) ∧
        TooLong file.confluence.delaySeconds := by
  constructor
  · intro file
    rw [← ne_aborted_iff, ne_eq, validate_eq_aborted_iff]
  · intro path data
    rw [← ne_aborted_iff, ne_eq, load_eq_aborted_iff]
    simp only [validate_eq_aborted_iff, delaySeconds_withData]

/-- A configuration that has nothing wrong but its delay of `1e20` seconds. -/
def longDelayText : String :=
  "[confluence]\nbase_url = \"http://wiki/\"\ntemplate_id = \"7\"\n" ++
  "placeholder_character = \"#\"\nescape_character = \"~\"\nupload_space = \"DOCS\"\n" ++
  "api_interaction_delay_seconds = 1e20\n\n[behavior]\noverwrite_existing_articles = false\n\n" ++
  "[data]\ndata_csv = \"data.csv\"\ncsv_delimiter = \";\"\nid_column_header = \"id\"\n"

/-- The configuration is read from a text, but it gives neither settings nor a problem. -/
theorem long_delay_stops :
    ∃ file, ConfigFile.parse longDelayText = .ok file ∧
      let validated := file.validate ⟨[(["data.csv"], .file [])]⟩ ⟨"user", "secret"⟩
      ¬((∃ settings, validated = .ok settings) ∨ ∃ problem, validated = refuse problem) := by
  have hparsed : (ConfigFile.parse longDelayText).toOption.map
      (·.validate ⟨[(["data.csv"], .file [])]⟩ ⟨"user", "secret"⟩) = some (.error .aborted) := by
    decide +kernel
  cases hparse : ConfigFile.parse longDelayText with
  | error problem =>
    rw [hparse] at hparsed
    cases hparsed
  | ok file =>
    rw [hparse] at hparsed
    exact ⟨file, rfl, fun h => (ne_aborted_iff _).mpr h (Option.some.inj hparsed)⟩

end PageMerge.Config
