import BundleGraph.Build.Options

/-!
# What the checks on settings and options let pass

The checks are made one after the other, and all are passed exactly if none of them fails.

## Main definitions

* `Settings.WellFormed` and `BuildOptions.WellFormed` — what passes.
* `Settings.validate_eq_ok_iff` and `BuildOptions.validate_eq_ok_iff` — the checks say so.
-/

namespace BundleGraph

/-- What settings have to keep. -/
structure Settings.WellFormed (s : Settings) : Prop where
  entries_ne : s.entries ≠ []
  entries_plain : ∀ e ∈ s.entries, Text.isBlankText e = false
  one_output : s.outfile.isSome = true → s.outdir.isSome = false
  one_entry : s.outfile.isSome = true → ¬ 1 < s.entries.length
  external_plain : ∀ e ∈ s.external, Text.isBlankText e = false
  loaders_named : ∀ l ∈ s.loaders, (Text.dropDots l.1).isEmpty = false
  maxModules_ne : s.maxModules ≠ 0

/-- What options have to keep. -/
structure BuildOptions.WellFormed (o : BuildOptions) : Prop where
  entries_ne : o.entries ≠ []
  entries_plain : ∀ e ∈ o.entries, Text.isBlankText e = false
  one_output : o.outdir.isSome = true → o.outfile.isSome = false
  one_entry : o.outfile.isSome = true → ¬ 1 < o.entries.length
  maxModules_ne : o.maxModules ≠ 0

/-- A check that comes first is passed if it does not fail. -/
theorem check_eq_ok_iff {ε : Type} {c : Prop} [Decidable c] {e : ε} {checks : Except ε Unit} :
    (if c then .error e else checks) = .ok () ↔ ¬ c ∧ checks = .ok () := by
  by_cases h : c <;> simp [h]

theorem Settings.validate_eq_ok_iff {s : Settings} : s.validate = .ok () ↔ s.WellFormed := by
  simp only [validate, check_eq_ok_iff, List.isEmpty_iff, List.any_eq_true, Bool.and_eq_true,
    decide_eq_true_eq, not_exists, not_and, Bool.not_eq_true]
  constructor
  · rintro ⟨h₁, h₂, h₃, h₄, h₅, h₆, h₇, -⟩
    exact ⟨h₁, h₂, h₃, h₄, h₅, h₆, h₇⟩
  · rintro ⟨h₁, h₂, h₃, h₄, h₅, h₆, h₇⟩
    exact ⟨h₁, h₂, h₃, h₄, h₅, h₆, h₇, trivial⟩

theorem BuildOptions.validate_eq_ok_iff {o : BuildOptions} :
    o.validate = .ok () ↔ o.WellFormed := by
  simp only [validate, check_eq_ok_iff, List.isEmpty_iff, List.any_eq_true, Bool.and_eq_true,
    decide_eq_true_eq, not_exists, not_and, Bool.not_eq_true]
  constructor
  · rintro ⟨h₁, h₂, h₃, h₄, h₅, -⟩
    exact ⟨h₁, h₂, h₃, h₄, h₅⟩
  · rintro ⟨h₁, h₂, h₃, h₄, h₅⟩
    exact ⟨h₁, h₂, h₃, h₄, h₅, trivial⟩

end BundleGraph
