import PageRouter.Text.Split

/-!
# Slash-separated paths

A path is read as its non-empty segments: repeated slashes, a leading slash and a trailing one carry
no meaning for routing.  `Path.collapse` writes a path back with each run of slashes made one, and
`segments` does not see the difference (`segmentsOf_collapse`).
-/

set_option autoImplicit false

namespace PageRouter.Path

/-- The character that separates segments. -/
def isSlash (c : Char) : Bool := c == '/'

/-- The non-empty segments of a path, as characters. -/
def segmentsOf (cs : List Char) : List (List Char) := Text.words isSlash cs

/-- The non-empty segments of a path, in order. -/
def segments (path : String) : List String := (segmentsOf path.toList).map String.ofList

/-- Segments written one after the other, each behind a slash. -/
def rooted (segs : List (List Char)) : List Char := segs.flatMap fun s => '/' :: s

/-- A path with a leading slash and no two slashes in a row.  A trailing slash is kept, and a path
without segments is the root. -/
def collapseChars (cs : List Char) : List Char :=
  match segmentsOf cs with
  | [] => ['/']
  | s :: ss => rooted (s :: ss) ++ if cs.getLast? = some '/' then ['/'] else []

/-- A path with a leading slash and no two slashes in a row. -/
def collapse (path : String) : String := String.ofList (collapseChars path.toList)

/-! ## Segments of what is written -/

theorem segmentsOf_nil : segmentsOf [] = [] := rfl

theorem segmentsOf_slash_cons (cs : List Char) : segmentsOf ('/' :: cs) = segmentsOf cs := by
  simp [segmentsOf, Text.words, Text.pieces, isSlash]

theorem segmentsOf_append_slash (cs ds : List Char) :
    segmentsOf (cs ++ '/' :: ds) = segmentsOf cs ++ segmentsOf ds := by
  simp [segmentsOf, Text.words, @Text.pieces_append_sep isSlash '/' rfl]

theorem segmentsOf_of_no_slash {s : List Char} (hne : s ≠ []) (h : ∀ c ∈ s, isSlash c = false) :
    segmentsOf s = [s] := by
  simp [segmentsOf, Text.words, Text.pieces_eq_singleton h, hne]

/-- Segments are not empty and hold no slash. -/
theorem mem_segmentsOf {cs s : List Char} (h : s ∈ segmentsOf cs) :
    s ≠ [] ∧ ∀ c ∈ s, isSlash c = false := by
  obtain ⟨hp, hne⟩ := Text.mem_words.1 h
  exact ⟨hne, Text.not_sep_of_mem_pieces s hp⟩

/-- Reading back what `rooted` writes gives the segments. -/
theorem segmentsOf_rooted {segs : List (List Char)}
    (h : ∀ s ∈ segs, s ≠ [] ∧ ∀ c ∈ s, isSlash c = false) : segmentsOf (rooted segs) = segs := by
  induction segs with
  | nil => rfl
  | cons s ss ih =>
    have hs := h s (by simp)
    have hss := ih fun t ht => h t (by simp [ht])
    rw [rooted, List.flatMap_cons, List.cons_append, segmentsOf_slash_cons]
    cases ss with
    | nil => simpa using segmentsOf_of_no_slash hs.1 hs.2
    | cons t ts =>
      rw [rooted, List.flatMap_cons, List.cons_append, segmentsOf_slash_cons] at hss
      rw [List.flatMap_cons, List.cons_append, segmentsOf_append_slash,
        segmentsOf_of_no_slash hs.1 hs.2, hss]
      rfl

/-- **Collapsing slashes keeps the segments.** -/
theorem segmentsOf_collapse (cs : List Char) : segmentsOf (collapseChars cs) = segmentsOf cs := by
  have hmem : ∀ s ∈ segmentsOf cs, s ≠ [] ∧ ∀ c ∈ s, isSlash c = false :=
    fun s hs => mem_segmentsOf hs
  rw [collapseChars]
  split
  · rename_i h
    rw [h]
    rfl
  · rename_i s ss h
    rw [h] at hmem ⊢
    have hr := segmentsOf_rooted hmem
    split
    · rw [segmentsOf_append_slash, hr, segmentsOf_nil, List.append_nil]
    · rw [List.append_nil, hr]

theorem segments_collapse (path : String) : segments (collapse path) = segments path := by
  simp [segments, collapse, segmentsOf_collapse]

end PageRouter.Path
