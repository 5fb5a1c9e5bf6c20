import PageRouter.Proofs.Pattern.Covering

/-!
# Patterns with room behind them

A pattern that need not use the whole path matches paths of every length from its own on.  Those of
one length are the ones that an exact pattern matches: the same segments with parameters put behind
them, up to that length (`Pattern.extendedTo`).

* `isSome_match?_extendedTo_iff`: what the longer pattern matches.
* `coversLeading_extendedTo`: how much room there is makes no difference to a pattern that is short
  enough.
-/

set_option autoImplicit false

namespace PageRouter.Pattern

variable {caseSensitive : Bool}

/-- A pattern with parameters put behind it, up to a number of segments. -/
def extendedTo (p : Pattern) (n : Nat) : Pattern :=
  .ofSegments (p.segments ++ List.replicate (n - p.segments.length) (.param "rest"))

theorem segments_extendedTo (p : Pattern) (n : Nat) :
    (p.extendedTo n).segments =
      p.segments ++ List.replicate (n - p.segments.length) (.param "rest") := rfl

theorem length_segments_extendedTo {p : Pattern} {n : Nat} (h : p.segments.length ≤ n) :
    (p.extendedTo n).segments.length = n := by
  rw [segments_extendedTo, List.length_append, List.length_replicate]
  omega

theorem mem_segments_of_literal_mem_extendedTo {p : Pattern} {n : Nat} {text : String}
    (h : .literal text ∈ (p.extendedTo n).segments) : .literal text ∈ p.segments := by
  rw [segments_extendedTo, List.mem_append] at h
  exact h.resolve_right fun hmem => nomatch List.eq_of_mem_replicate hmem

theorem extendedTo_extendedTo {p : Pattern} {m n : Nat} (hm : p.segments.length ≤ m) (hmn : m ≤ n) :
    (p.extendedTo n).segments =
      (p.extendedTo m).segments ++ List.replicate (n - m) (.param "rest") := by
  have hn : n - p.segments.length = (m - p.segments.length) + (n - m) := by omega
  rw [segments_extendedTo, segments_extendedTo, List.append_assoc, hn, List.replicate_add]

/-! ## What the longer pattern matches -/

theorem admitsLeading_replicate_param_iff {name : String} {k : Nat} {parts : List String} :
    admitsLeading caseSensitive (List.replicate k (.param name)) parts = true ↔
      k ≤ parts.length := by
  induction k generalizing parts with
  | zero => simp [admitsLeading]
  | succ k ih =>
    cases parts with
    | nil => simp [List.replicate_succ, admitsLeading]
    | cons part parts =>
      rw [List.replicate_succ, admitsLeading, Segment.admits, Bool.true_and, ih, List.length_cons,
        Nat.succ_le_succ_iff]

/-- Parameters at the end ask for no more than room. -/
theorem admitsLeading_append_params_iff {name : String} {k : Nat} {segments : List Segment}
    {parts : List String} :
    admitsLeading caseSensitive (segments ++ List.replicate k (.param name)) parts = true ↔
      admitsLeading caseSensitive segments parts = true ∧ segments.length + k ≤ parts.length := by
  induction segments generalizing parts with
  | nil => simp [admitsLeading_replicate_param_iff, admitsLeading]
  | cons s segments ih =>
    cases parts with
    | nil => simp [admitsLeading]
    | cons part parts =>
      rw [List.cons_append, admitsLeading, admitsLeading, Bool.and_eq_true, Bool.and_eq_true, ih,
        and_assoc, List.length_cons, List.length_cons, Nat.add_right_comm, Nat.succ_le_succ_iff]

/-- **The longer pattern matches the paths of its length that the shorter one matches.** -/
theorem isSome_match?_extendedTo_iff {p : Pattern} {n : Nat} (h : p.segments.length ≤ n)
    {path : String} :
    ((p.extendedTo n).match? path true caseSensitive).isSome = true ↔
      (Path.segments path).length = n ∧ (p.match? path false caseSensitive).isSome = true := by
  rw [isSome_match?_iff, isSome_match?_iff, segments_extendedTo, admitsLeading_append_params_iff]
  simp only [fits, if_true, Bool.false_eq_true, if_false, beq_iff_eq, decide_eq_true_eq,
    length_segments_extendedTo h]
  constructor
  · rintro ⟨hlen, hadmits, _⟩
    exact ⟨hlen, hlen ▸ h, hadmits⟩
  · rintro ⟨hlen, _, hadmits⟩
    exact ⟨hlen, hadmits, by omega⟩

/-! ## What covers the longer pattern -/

/-- Covering looks no further than the pattern that covers. -/
theorem coversLeading_append {as bs : List Segment} (h : as.length ≤ bs.length)
    (more : List Segment) :
    coversLeading caseSensitive as (bs ++ more) = coversLeading caseSensitive as bs := by
  induction as generalizing bs with
  | nil => rfl
  | cons a as ih =>
    cases bs with
    | nil => exact absurd h (by simp)
    | cons b bs =>
      rw [List.cons_append, coversLeading, coversLeading, ih (Nat.le_of_succ_le_succ h)]

theorem coversLeading_extendedTo {as : List Segment} {p : Pattern} {m n : Nat} (has : as.length ≤ m)
    (hm : p.segments.length ≤ m) (hmn : m ≤ n) :
    coversLeading caseSensitive as (p.extendedTo n).segments =
      coversLeading caseSensitive as (p.extendedTo m).segments := by
  rw [extendedTo_extendedTo hm hmn, coversLeading_append]
  rw [length_segments_extendedTo hm]
  exact has

end PageRouter.Pattern
