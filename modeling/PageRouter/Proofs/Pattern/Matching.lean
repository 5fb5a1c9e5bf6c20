import PageRouter.Pattern.Matching

/-!
# Matching, segment by segment

`Pattern.match?` splits a path and walks along its segments.  Here is said which paths are matched,
and what is bound, of each place in the pattern by itself.

* `isSome_match?_iff`: a path is matched if its length fits and its segments are admitted.
* `admitsLeading_iff`: segments are admitted place by place.
* `exists_bound_of_match?`: a match binds each parameter to the segment at its place.
-/

set_option autoImplicit false

namespace PageRouter

namespace Text

theorem agree_iff {caseSensitive : Bool} {a b : String} :
    agree caseSensitive a b = true ↔
      if caseSensitive then a = b else foldCase a = foldCase b := by
  cases caseSensitive
  · exact agree_false_iff
  · exact agree_true_iff

end Text

namespace Params

/-- Where no name is bound twice, each binding is the one that is read. -/
theorem get?_of_mem {p : Params} {name value : String} (hnodup : p.names.Nodup)
    (h : (name, value) ∈ p.bindings) : p.get? name = some value := by
  obtain ⟨bs⟩ := p
  induction bs with
  | nil => exact absurd h List.not_mem_nil
  | cons b bs ih =>
    obtain ⟨hnew, hrest⟩ := List.nodup_cons.1 hnodup
    rw [get?_cons]
    rcases List.mem_cons.1 h with rfl | h
    · exact if_pos rfl
    · have hne : b.1 ≠ name := fun hb => hnew (List.mem_map.2 ⟨_, h, hb.symm⟩)
      rw [if_neg hne]
      exact ih hrest h

end Params

namespace Pattern

variable {caseSensitive : Bool}

/-! ## Which paths are matched -/

/-- Whether a segment of a pattern may stand over a segment of a path. -/
def Segment.admits (caseSensitive : Bool) : Segment → String → Bool
  | .literal text, part => Text.agree caseSensitive text part
  | .param _, _ => true

/-- Whether each segment of a pattern has a segment of the path at its place that it admits. -/
def admitsLeading (caseSensitive : Bool) : List Segment → List String → Bool
  | [], _ => true
  | _ :: _, [] => false
  | s :: segments, part :: parts =>
    s.admits caseSensitive part && admitsLeading caseSensitive segments parts

theorem isSome_bindings? (segments : List Segment) (parts : List String) :
    (bindings? caseSensitive segments parts).isSome =
      admitsLeading caseSensitive segments parts := by
  induction segments generalizing parts with
  | nil => rfl
  | cons s segments ih =>
    cases parts with
    | nil => rfl
    | cons part parts =>
      cases s with
      | literal text =>
        simp only [bindings?, admitsLeading, Segment.admits]
        split
        · rename_i h
          rw [ih, h, Bool.true_and]
        · rename_i h
          rw [Bool.eq_false_iff.2 h, Bool.false_and, Option.isSome_none]
      | param name =>
        simp only [bindings?, admitsLeading, Segment.admits, Bool.true_and, Option.isSome_map]
        exact ih parts

/-- A pattern matches a path of the right length whose segments it admits. -/
theorem isSome_match?_iff {p : Pattern} {path : String} {isExact : Bool} :
    (p.match? path isExact caseSensitive).isSome = true ↔
      p.fits isExact (Path.segments path).length = true ∧
        admitsLeading caseSensitive p.segments (Path.segments path) = true := by
  rw [match?, ← isSome_bindings?]
  split
  · rename_i h
    simp [h]
  · rename_i h
    simp [h]

theorem fits_iff {p : Pattern} {isExact : Bool} {n : Nat} :
    p.fits isExact n = true ↔
      if isExact then n = p.segments.length else p.segments.length ≤ n := by
  cases isExact <;> simp [fits]

/-- A path that uses up a pattern is matched by it whether the pattern has to be exact or not. -/
theorem isSome_match?_of_exact {p : Pattern} {path : String} {isExact : Bool}
    (h : (p.match? path true caseSensitive).isSome = true) :
    (p.match? path isExact caseSensitive).isSome = true := by
  rw [isSome_match?_iff] at h ⊢
  have hlength : (Path.segments path).length = p.segments.length := fits_iff.1 h.1
  refine ⟨fits_iff.2 ?_, h.2⟩
  cases isExact with
  | true => exact hlength
  | false => exact Nat.le_of_eq hlength.symm

/-- **Segments are admitted place by place**: there are as many as the pattern needs, and those
under a literal agree with it. -/
theorem admitsLeading_iff {segments : List Segment} {parts : List String} :
    admitsLeading caseSensitive segments parts = true ↔
      segments.length ≤ parts.length ∧
        ∀ (i : Nat) text, segments[i]? = some (Segment.literal text) →
          ∃ part, parts[i]? = some part ∧ Text.agree caseSensitive text part = true := by
  induction segments generalizing parts with
  | nil => simp [admitsLeading]
  | cons s segments ih =>
    cases parts with
    | nil => simp [admitsLeading]
    | cons part parts =>
      rw [admitsLeading, Bool.and_eq_true, ih, List.length_cons, List.length_cons,
        Nat.succ_le_succ_iff]
      constructor
      · rintro ⟨hs, hlength, hrest⟩
        refine ⟨hlength, fun i text hi => ?_⟩
        cases i with
        | zero =>
          cases hi
          exact ⟨part, rfl, hs⟩
        | succ i => exact hrest i text hi
      · rintro ⟨hlength, hall⟩
        refine ⟨?_, hlength, fun i text hi => hall (i + 1) text hi⟩
        cases s with
        | param _ => rfl
        | literal text =>
          obtain ⟨_, hpart, hagree⟩ := hall 0 text rfl
          cases hpart
          exact hagree

/-! ## What is bound -/

/-- Each name of a pattern with the segment of a path at its place. -/
def boundTo (segments : List Segment) (parts : List String) : List (String × String) :=
  (segments.zip parts).filterMap fun place => place.1.name?.map fun name => (name, place.2)

theorem eq_boundTo_of_bindings? {segments : List Segment} {parts : List String}
    {bs : List (String × String)} (h : bindings? caseSensitive segments parts = some bs) :
    bs = boundTo segments parts := by
  induction segments generalizing parts bs with
  | nil => exact (Option.some.inj h).symm
  | cons s segments ih =>
    cases parts with
    | nil => exact nomatch h
    | cons part parts =>
      cases s with
      | literal text =>
        rw [bindings?] at h
        split at h
        · exact ih h
        · cases h
      | param name =>
        obtain ⟨cs, hcs, rfl⟩ := Option.map_eq_some_iff.1 h
        rw [ih hcs]
        rfl

theorem mem_boundTo {segments : List Segment} {parts : List String} {i : Nat} {name value : String}
    (hname : segments[i]? = some (.param name)) (hvalue : parts[i]? = some value) :
    (name, value) ∈ boundTo segments parts := by
  have hplace : (segments.zip parts)[i]? = some (.param name, value) :=
    List.getElem?_zip_eq_some.2 ⟨hname, hvalue⟩
  exact List.mem_filterMap.2 ⟨_, List.mem_of_getElem? hplace, rfl⟩

/-- **A match binds each parameter to the segment at its place.** -/
theorem exists_bound_of_match? {p : Pattern} {path : String} {isExact : Bool} {params : Params}
    (h : p.match? path isExact caseSensitive = some params) {i : Nat} {name : String}
    (hi : p.segments[i]? = some (.param name)) :
    ∃ value, (Path.segments path)[i]? = some value ∧ (name, value) ∈ params.bindings := by
  obtain ⟨hfits, hadmits⟩ := isSome_match?_iff.1 (Option.isSome_iff_exists.2 ⟨params, h⟩)
  rw [match?, if_pos hfits] at h
  obtain ⟨bs, hbs, rfl⟩ := Option.map_eq_some_iff.1 h
  obtain ⟨hplace, _⟩ := List.getElem?_eq_some_iff.1 hi
  have hlength : i < (Path.segments path).length :=
    Nat.lt_of_lt_of_le hplace (admitsLeading_iff.1 hadmits).1
  have hvalue := List.getElem?_eq_getElem hlength
  exact ⟨_, hvalue, eq_boundTo_of_bindings? hbs ▸ mem_boundTo hi hvalue⟩

end Pattern

end PageRouter
