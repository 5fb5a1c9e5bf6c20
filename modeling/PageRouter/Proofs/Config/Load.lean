import PageRouter.Config.Load
import PageRouter.Proofs.Result

/-!
# What is loaded has no faults

A configuration is checked against the standard views on every way by which it is loaded, so that
whoever holds a loaded configuration need not check it again.
-/

set_option autoImplicit false

namespace PageRouter.Config

variable {c d : Config}

theorem checked_eq_ok_iff : checked d = .ok c ↔ d = c ∧ c.faults .standard = [] := by
  rw [checked]
  cases h : d.validate .standard with
  | error faults =>
    refine ⟨(nomatch ·), fun ⟨heq, hfaults⟩ => ?_⟩
    rw [heq, validate_eq_ok_iff.2 hfaults] at h
    exact nomatch h
  | ok u =>
    have hfaults := validate_eq_ok_iff.1 h
    constructor
    · intro heq
      rw [← Except.ok.inj heq]
      exact ⟨rfl, hfaults⟩
    · rintro ⟨rfl, _⟩
      rfl

theorem faults_of_parse {text : String} (h : parse text = .ok c) : c.faults .standard = [] := by
  rw [parse] at h
  split at h
  · exact (checked_eq_ok_iff.1 h).2
  · exact nomatch h

/-- **A configuration that is loaded has no faults.** -/
theorem faults_of_loadOrStandard {file : Option File} (h : loadOrStandard file = .ok c) :
    c.faults .standard = [] := by
  cases file with
  | none =>
    have hchecked : checked standard = .ok c := h
    exact (checked_eq_ok_iff.1 hchecked).2
  | some file =>
    obtain ⟨text, _, hparse⟩ := Result.bind_eq_ok_iff.1 h
    exact faults_of_parse hparse

end PageRouter.Config
