import PageRouter.Proofs.Pattern.Extension

/-!
# Covering is inclusion

`Pattern.covers` lays two patterns side by side and looks at no path.  It says exactly that one
pattern matches every path that the other one matches (`covers_iff_forall_match?`).

That a covering pattern matches all of them is `isSome_match?_of_covers`.  Where a pattern does not
cover, there is a path that separates the two:

* the other pattern is exact: the path that it makes with a text too long for the literals in
  question (`covers_of_match?_filled`);
* the other pattern is not exact, but this one is: a path longer than both
  (`exists_match?_of_length_le`);
* neither is exact: the path of the first case again, since it is matched either way.
-/

set_option autoImplicit false

namespace PageRouter.Pattern

variable {caseSensitive : Bool} {p later : Pattern}

/-- **A pattern that is not exact matches paths of every length from its own on.** -/
theorem exists_match?_of_length_le
    (hl : ∀ text, .literal text ∈ p.segments → Path.IsSegment text) {n : Nat}
    (hn : p.segments.length ≤ n) :
    ∃ path, (Path.segments path).length = n ∧
      (p.match? path false caseSensitive).isSome = true := by
  have hextended : ∀ text, .literal text ∈ (p.extendedTo n).segments → Path.IsSegment text :=
    fun text ht => hl text (mem_segments_of_literal_mem_extendedTo ht)
  have hvalue : Path.IsSegment (Text.longerThan []) := Text.isSegment_longerThan []
  exact ⟨_, (isSome_match?_extendedTo_iff hn).1 (isSome_match?_filledPath hextended hvalue)⟩

/-! ## Patterns that match all that another matches -/

/-- A pattern that matches all that an exact one matches covers it. -/
theorem covers_of_forall_match?_exact {isExact : Bool}
    (hl : ∀ text, .literal text ∈ later.segments → Path.IsSegment text)
    (h : ∀ path, (later.match? path true caseSensitive).isSome = true →
      (p.match? path isExact caseSensitive).isSome = true) :
    p.covers isExact later true caseSensitive = true := by
  have hvalue : Path.IsSegment (Text.longerThan p.literals) := Text.isSegment_longerThan _
  exact covers_of_match?_filled hl hvalue
    (fun _ ht => Text.not_agree_longerThan ht _) (h _ (isSome_match?_filledPath hl hvalue))

/-- An exact pattern has one length only, and so does not match all that another one matches which
is not exact. -/
theorem not_forall_match?_of_exact
    (hl : ∀ text, .literal text ∈ later.segments → Path.IsSegment text) :
    ¬ ∀ path, (later.match? path false caseSensitive).isSome = true →
      (p.match? path true caseSensitive).isSome = true := by
  intro h
  -- one segment more than either pattern has
  have hlonger : later.segments.length ≤ p.segments.length + later.segments.length + 1 := by omega
  obtain ⟨path, hn, hmatch⟩ := exists_match?_of_length_le hl hlonger
  have hlength : (Path.segments path).length = p.segments.length :=
    fits_iff.1 (isSome_match?_iff.1 (h path hmatch)).1
  omega

/-- A pattern that matches all that another one matches covers it. -/
theorem covers_of_forall_match? {isExact laterExact : Bool}
    (hl : ∀ text, .literal text ∈ later.segments → Path.IsSegment text)
    (h : ∀ path, (later.match? path laterExact caseSensitive).isSome = true →
      (p.match? path isExact caseSensitive).isSome = true) :
    p.covers isExact later laterExact caseSensitive = true := by
  have hcovers := covers_of_forall_match?_exact hl fun path hm => h path (isSome_match?_of_exact hm)
  cases laterExact with
  | true => exact hcovers
  | false =>
    cases isExact with
    | true => exact absurd h (not_forall_match?_of_exact hl)
    | false => exact hcovers

/-! ## The main result -/

/-- **Covering is inclusion.**  One pattern covers another, which was read from a text, exactly when
it matches every path that the other one matches. -/
theorem covers_iff_forall_match? {source : String} (h : parse source = .ok later) (p : Pattern)
    (isExact laterExact caseSensitive : Bool) :
    p.covers isExact later laterExact caseSensitive = true ↔
      ∀ path, (later.match? path laterExact caseSensitive).isSome = true →
        (p.match? path isExact caseSensitive).isSome = true :=
  ⟨fun hcovers _ hm => isSome_match?_of_covers hcovers hm,
    covers_of_forall_match? (isWellFormed_of_parse h).literal⟩

/-- The orders of a shop, each under an identifier. -/
def anyOrder : Pattern := ⟨"/order/:id", [.literal "order", .param "id"]⟩

/-- The latest order of a year. -/
def latestOrder : Pattern :=
  ⟨"/ORDER/latest/:year", [.literal "ORDER", .literal "latest", .param "year"]⟩

theorem covers_latestOrder :
    parse "/order/:id" = .ok anyOrder ∧ parse "/ORDER/latest/:year" = .ok latestOrder ∧
      (∀ path, (latestOrder.match? path true false).isSome = true →
        (anyOrder.match? path false false).isSome = true) ∧
      (∃ path, (latestOrder.match? path true true).isSome = true ∧
        (anyOrder.match? path false true).isSome = false) ∧
      ∃ path, (latestOrder.match? path true false).isSome = true ∧
        (anyOrder.match? path true false).isSome = false := by
  have hany : parse "/order/:id" = .ok anyOrder := by decide +kernel
  have hlatest : parse "/ORDER/latest/:year" = .ok latestOrder := by decide +kernel
  have hcase := mt (covers_iff_forall_match? hlatest anyOrder false true true).2 (by decide)
  have hexact := mt (covers_iff_forall_match? hlatest anyOrder true true false).2 (by decide)
  refine ⟨hany, hlatest, (covers_iff_forall_match? hlatest anyOrder false true false).1 (by decide),
    ?case, ?exact⟩
  case case => simpa only [not_forall, exists_prop, Bool.not_eq_true] using hcase
  case exact => simpa only [not_forall, exists_prop, Bool.not_eq_true] using hexact

end PageRouter.Pattern
