import PageRouter.Proofs.Pattern.Substitution

/-!
# Covering, seen from the paths

`Pattern.covers` compares two patterns segment by segment and looks at no path.  Here it is tied to
`Pattern.match?`.

* `isSome_match?_of_covers`: whatever a pattern matches is matched by every pattern that covers it.
* `covers_of_match?_filled`: for an exact pattern there is one path that tells.  It is the pattern
  itself with each parameter replaced by a text that is too long for any literal in question, and a
  pattern that matches this one path covers the exact pattern.

The second is what makes a check of two patterns at a time enough: one and the same path escapes all
patterns that do not cover.
-/

set_option autoImplicit false

namespace PageRouter

/-! ## Texts too long to agree -/

namespace Text

theorem length_eq_of_agree {caseSensitive : Bool} {a b : String}
    (h : agree caseSensitive a b = true) : a.length = b.length := by
  have hfold := congrArg List.length (agree_false_iff.1 (agree_false_of_agree h))
  rw [foldCase, foldCase, List.length_map, List.length_map] at hfold
  exact hfold

/-- A text that is longer than each text of a list. -/
def longerThan (texts : List String) : String :=
  String.ofList (List.replicate ((texts.map String.length).max?.getD 0 + 1) 'x')

theorem not_agree_longerThan {texts : List String} {t : String} (h : t ∈ texts)
    (caseSensitive : Bool) : agree caseSensitive t (longerThan texts) = false := by
  have hle : t.length ≤ (texts.map String.length).max?.getD 0 :=
    List.le_max?_getD_of_mem (List.mem_map_of_mem h)
  rw [Bool.eq_false_iff]
  intro ha
  have hlen := length_eq_of_agree ha
  simp only [longerThan, String.length_ofList, List.length_replicate] at hlen
  omega

theorem isSegment_longerThan (texts : List String) : Path.IsSegment (longerThan texts) := by
  refine ⟨fun h => ?_, fun c hc => ?_⟩
  · have hnil := congrArg String.toList h
    simp [longerThan] at hnil
  · simp only [longerThan, String.toList_ofList] at hc
    rw [List.eq_of_mem_replicate hc]
    rfl

end Text

namespace Pattern

variable {caseSensitive : Bool}

/-! ## What a covered pattern matches -/

theorem Segment.admits_of_covers {a b : Segment} {part : String}
    (h : a.covers caseSensitive b = true) (hb : b.admits caseSensitive part = true) :
    a.admits caseSensitive part = true := by
  cases a with
  | param _ => rfl
  | literal s =>
    cases b with
    | param _ => exact absurd h (by simp [covers])
    | literal t => exact Text.agree_trans h hb

theorem admitsLeading_of_coversLeading {as bs : List Segment} {parts : List String}
    (h : coversLeading caseSensitive as bs = true)
    (hb : admitsLeading caseSensitive bs parts = true) :
    admitsLeading caseSensitive as parts = true := by
  induction as generalizing bs parts with
  | nil => rfl
  | cons a as ih =>
    cases bs with
    | nil => simp [coversLeading] at h
    | cons b bs =>
      cases parts with
      | nil => simp [admitsLeading] at hb
      | cons part parts =>
        simp only [coversLeading, admitsLeading, Bool.and_eq_true] at h hb ⊢
        exact ⟨Segment.admits_of_covers h.1 hb.1, ih h.2 hb.2⟩

theorem length_le_of_coversLeading {as bs : List Segment}
    (h : coversLeading caseSensitive as bs = true) : as.length ≤ bs.length := by
  induction as generalizing bs with
  | nil => exact Nat.zero_le _
  | cons a as ih =>
    cases bs with
    | nil => simp [coversLeading] at h
    | cons b bs =>
      simp only [coversLeading, Bool.and_eq_true] at h
      exact Nat.succ_le_succ (ih h.2)

/-- **A pattern matches all that the patterns it covers match.** -/
theorem isSome_match?_of_covers {p later : Pattern} {isExact laterExact : Bool} {path : String}
    (h : p.covers isExact later laterExact caseSensitive = true)
    (hm : (later.match? path laterExact caseSensitive).isSome = true) :
    (p.match? path isExact caseSensitive).isSome = true := by
  rw [isSome_match?_iff] at hm ⊢
  rw [covers, Bool.and_eq_true] at h
  obtain ⟨hexact, hleading⟩ := h
  have hlen := length_le_of_coversLeading hleading
  refine ⟨?_, admitsLeading_of_coversLeading hleading hm.2⟩
  have hfits := hm.1
  cases isExact with
  | false =>
    have : later.segments.length ≤ (Path.segments path).length := by
      cases laterExact <;> simp [fits] at hfits <;> omega
    simp [fits]
    omega
  | true =>
    simp only [Bool.not_true, Bool.false_or, Bool.and_eq_true, beq_iff_eq] at hexact
    rw [hexact.1] at hfits
    simpa [fits, hexact.2] using hfits

/-! ## A path that tells -/

/-- The text of a literal, or a given text in the place of a parameter. -/
def Segment.filled (value : String) : Segment → String
  | .literal text => text
  | .param _ => value

/-- The path of a pattern in which one text stands for each parameter. -/
def filledPath (p : Pattern) (value : String) : String :=
  Path.ofSegments (p.segments.map (Segment.filled value))

theorem substituted_const (value : String) :
    Segment.substituted (fun _ => value) = Segment.filled value := by
  funext s
  cases s <;> rfl

/-- One text for all parameters is a substitution. -/
theorem filledPath_eq_pathOf (p : Pattern) (value : String) :
    p.filledPath value = p.pathOf (fun _ => value) [] := by
  rw [pathOf, substituted_const, List.append_nil]
  rfl

theorem segments_filledPath {p : Pattern} {value : String}
    (hp : ∀ text, .literal text ∈ p.segments → Path.IsSegment text) (hv : Path.IsSegment value) :
    Path.segments (p.filledPath value) = p.segments.map (Segment.filled value) := by
  rw [filledPath_eq_pathOf, segments_pathOf hp (fun _ _ => hv) (by simp), substituted_const,
    List.append_nil]

/-- An exact pattern matches the path that it makes. -/
theorem isSome_match?_filledPath {p : Pattern} {value : String}
    (hp : ∀ text, .literal text ∈ p.segments → Path.IsSegment text) (hv : Path.IsSegment value) :
    (p.match? (p.filledPath value) true caseSensitive).isSome = true := by
  rw [filledPath_eq_pathOf,
    match?_pathOf hp (fun _ _ => hv) (by simp) (fun _ => rfl) rfl]
  rfl

/-- The text of a segment, if it is a literal. -/
def Segment.text? : Segment → Option String
  | .literal text => some text
  | .param _ => none

/-- The literals of a pattern. -/
def literals (p : Pattern) : List String := p.segments.filterMap Segment.text?

theorem Segment.covers_of_admits_filled {a b : Segment} {value : String}
    (hv : ∀ text, a = .literal text → Text.agree caseSensitive text value = false)
    (h : a.admits caseSensitive (b.filled value) = true) : a.covers caseSensitive b = true := by
  cases a with
  | param _ => rfl
  | literal text =>
    cases b with
    | literal t => exact h
    | param _ =>
      have hfalse := hv text rfl
      exact absurd h (by simp [admits, filled, hfalse])

theorem coversLeading_of_admitsLeading_filled {as bs : List Segment} {value : String}
    (hv : ∀ text, .literal text ∈ as → Text.agree caseSensitive text value = false)
    (h : admitsLeading caseSensitive as (bs.map (Segment.filled value)) = true) :
    coversLeading caseSensitive as bs = true := by
  induction as generalizing bs with
  | nil => rfl
  | cons a as ih =>
    cases bs with
    | nil => simp [admitsLeading] at h
    | cons b bs =>
      simp only [List.map_cons, admitsLeading, Bool.and_eq_true] at h
      rw [coversLeading, Bool.and_eq_true]
      refine ⟨Segment.covers_of_admits_filled (fun text ht => hv text ?_) h.1,
        ih (fun text ht => hv text (List.mem_cons_of_mem a ht)) h.2⟩
      rw [ht]
      exact List.mem_cons_self

/-- **One path tells.**  If no literal of a pattern agrees with the text put in for parameters, and
the pattern matches the path that an exact pattern makes with it, then it covers the exact
pattern. -/
theorem covers_of_match?_filled {p later : Pattern} {isExact : Bool} {value : String}
    (hl : ∀ text, .literal text ∈ later.segments → Path.IsSegment text) (hs : Path.IsSegment value)
    (hv : ∀ text ∈ p.literals, Text.agree caseSensitive text value = false)
    (h : (p.match? (later.filledPath value) isExact caseSensitive).isSome = true) :
    p.covers isExact later true caseSensitive = true := by
  rw [isSome_match?_iff, segments_filledPath hl hs, List.length_map] at h
  rw [covers, Bool.and_eq_true]
  refine ⟨?_, coversLeading_of_admitsLeading_filled (fun text ht => hv text ?_) h.2⟩
  · cases isExact with
    | false => rfl
    | true =>
      have hlen : later.segments.length = p.segments.length := by simpa [fits] using h.1
      simp [hlen]
  · exact List.mem_filterMap.2 ⟨_, ht, rfl⟩

end Pattern

end PageRouter
