import PageRouter.Pattern.Matching
import PageRouter.Proofs.Pattern.Grammar

/-!
# Writing patterns

`Pattern.ofSegments` writes a text for segments, and `Pattern.parse` reads segments from a text.
Segments are read back from what is written for them.  The other way round the spelling may change,
since a text may have more slashes than it needs; but the pattern matches what it matched.

* `segments_written`: the text of segments is cut where it was put together.
* `parse_source_ofSegments`: segments are read back.
* `toList_source_ofSegments`: what is written for the segments of a text.
* `parse_ofSegments_inverse`: the main result.
-/

set_option autoImplicit false

namespace PageRouter.Pattern

variable {segments : List Segment}

/-! ## Reading what was written -/

/-- The text of segments, character by character. -/
theorem toList_written (segments : List Segment) :
    (written segments).toList =
      match segments.map (String.toList ∘ Segment.written) with
      | [] => ['/']
      | s :: ss => Path.rooted (s :: ss) := by
  cases segments with
  | nil => rfl
  | cons s ss =>
    have hwritten : written (s :: ss) = String.join ((s :: ss).map fun s => "/" ++ s.written) := rfl
    rw [hwritten]
    simp [String.toList_join, Path.rooted, List.flatMap_map]

theorem startsWithSlash_written (segments : List Segment) :
    startsWithSlash (written segments) = true := by
  rw [startsWithSlash, toList_written]
  cases segments <;> rfl

theorem IsWritable.isSegment_written (h : IsWritable segments) {s : Segment} (hs : s ∈ segments) :
    Path.IsSegment s.written := by
  cases s with
  | literal text => exact h.literal text hs
  | param name =>
    obtain ⟨hne, hslash⟩ := h.param name hs
    refine ⟨fun hnil => ?_, fun c hc => ?_⟩
    · have hchars := congrArg String.toList hnil
      simp [Segment.written] at hchars
    · rw [Segment.written, String.toList_append] at hc
      rcases List.mem_cons.1 hc with rfl | hc
      · rfl
      · exact hslash c hc

theorem IsWritable.ofText_written (h : IsWritable segments) {s : Segment} (hs : s ∈ segments) :
    Segment.ofText s.written = s := by
  cases s with
  | literal text => exact Segment.ofText_of_head?_ne (h.noColon text hs)
  | param name => exact Segment.ofText_colon_append name

/-- The text of segments is cut where it was put together. -/
theorem segments_written (h : IsWritable segments) :
    Path.segments (written segments) = segments.map Segment.written := by
  have hsegments : ∀ t ∈ segments.map Segment.written, Path.IsSegment t := by
    intro t ht
    obtain ⟨s, hs, rfl⟩ := List.mem_map.1 ht
    exact h.isSegment_written hs
  rw [← Path.segments_ofSegments hsegments, Path.segments, Path.segments, toList_written,
    Path.ofSegments, String.toList_ofList, List.map_map]
  cases segments <;> rfl

theorem IsWritable.exists_param (h : IsWritable segments) {s : Segment} (hs : s ∈ segments)
    (hcolon : s.written.toList.head? = some ':') : ∃ name, s = .param name := by
  cases s with
  | literal text => exact absurd hcolon (h.noColon text hs)
  | param name => exact ⟨name, rfl⟩

theorem isReadable_map_written (h : IsWritable segments) :
    IsReadable (segments.map Segment.written) where
  named := by
    intro hmem
    obtain ⟨s, hs, hwritten⟩ := List.mem_map.1 hmem
    obtain ⟨name, rfl⟩ := h.exists_param hs (by rw [hwritten]; rfl)
    exact (h.param name hs).1 (colon_append_eq_colon_iff.1 hwritten)
  distinct := by
    have hnodup := List.pairwise_filterMap.1 h.nodup
    rw [List.pairwise_map]
    refine hnodup.imp_of_mem fun {a b} ha hb hnames hcolon hsame => ?_
    obtain ⟨name, rfl⟩ := h.exists_param ha hcolon
    obtain ⟨name', rfl⟩ := h.exists_param hb (hsame ▸ hcolon)
    exact hnames name rfl name' rfl (colon_append_inj.1 hsame)

/-- **Segments are read back from what is written for them.** -/
theorem parse_source_ofSegments (h : IsWritable segments) :
    parse (ofSegments segments).source = .ok (ofSegments segments) := by
  have hread : IsReadable (Path.segments (written segments)) :=
    segments_written h ▸ isReadable_map_written h
  have hback : (segments.map Segment.written).map Segment.ofText = segments := by
    rw [List.map_map]
    exact (List.map_congr_left fun s hs => h.ofText_written hs).trans (List.map_id _)
  have hparse := parse_of_isReadable (startsWithSlash_written segments) hread
  rwa [segments_written h, hback] at hparse

/-! ## Writing what was read -/

/-- Matching does not look at the spelling of a pattern. -/
theorem match?_ofSegments (p : Pattern) (path : String) (isExact caseSensitive : Bool) :
    (ofSegments p.segments).match? path isExact caseSensitive =
      p.match? path isExact caseSensitive := rfl

/-- **For the segments of a text, the text is written with single slashes, and without one at its
end.** -/
theorem toList_source_ofSegments {s : String} {p : Pattern} (h : parse s = .ok p) :
    (ofSegments p.segments).source.toList =
      Path.withoutTrailingSlash (s.toList.destutter Path.NotBothSlashes) := by
  obtain ⟨hslash, _⟩ := exists_parse_iff.1 ⟨p, h⟩
  obtain ⟨cs, hcs⟩ := List.head?_eq_some_iff.1 (beq_iff_eq.1 hslash)
  have hsegments : p.segments.map (String.toList ∘ Segment.written) = Path.segmentsOf cs := by
    rw [← List.map_map, map_written_of_parse h, Path.segments, hcs, Path.segmentsOf_slash_cons,
      List.map_map]
    exact (List.map_congr_left fun s _ => String.toList_ofList).trans (List.map_id _)
  rw [hcs, Path.withoutTrailingSlash_destutter, ← hsegments]
  exact toList_written p.segments

/-! ## The main result -/

/-- **Writing and reading patterns undo each other.**  Segments that a text can be written from are
read back, with the text that was written.  And a text that was read is written again with single
slashes and without one at its end, which is a pattern with the same segments and the same
matches. -/
theorem parse_ofSegments_inverse :
    (∀ segments, IsWritable segments →
      parse (ofSegments segments).source = .ok (ofSegments segments)) ∧
    ∀ s p, parse s = .ok p →
      (ofSegments p.segments).segments = p.segments ∧
      (ofSegments p.segments).source.toList =
        Path.withoutTrailingSlash (s.toList.destutter Path.NotBothSlashes) ∧
      ∀ path isExact caseSensitive,
        (ofSegments p.segments).match? path isExact caseSensitive =
          p.match? path isExact caseSensitive := by
  refine ⟨fun segments h => parse_source_ofSegments h, fun s p h => ?_⟩
  exact ⟨rfl, toList_source_ofSegments h, match?_ofSegments p⟩

/-- Segments with colons that mean different things. -/
def colonSegments : List Segment := [.literal "a:b", .param ":x", .param "x"]

theorem isWritable_colonSegments : IsWritable colonSegments := by
  have hparse : parse "//a:b/::x//:x/" = .ok ⟨"//a:b/::x//:x/", colonSegments⟩ := by
    decide +kernel
  exact isWritable_of_parse hparse

theorem parse_ofSegments_inverse_colons :
    IsWritable colonSegments ∧ parse "/a:b/::x/:x" = .ok ⟨"/a:b/::x/:x", colonSegments⟩ ∧
      ∃ p, parse "//a:b/::x//:x/" = .ok p ∧ (ofSegments p.segments).source = "/a:b/::x/:x" ∧
        (ofSegments p.segments).match? "/A:B/1/2/" true false =
          p.match? "/A:B/1/2/" true false := by
  have hparse : parse "//a:b/::x//:x/" = .ok ⟨"//a:b/::x//:x/", colonSegments⟩ := by
    decide +kernel
  have hcollapsed : Path.withoutTrailingSlash
      ("//a:b/::x//:x/".toList.destutter Path.NotBothSlashes) = "/a:b/::x/:x".toList := by
    decide +kernel
  obtain ⟨hback, hagain⟩ := parse_ofSegments_inverse
  obtain ⟨_, hsource, hmatch⟩ := hagain _ _ hparse
  refine ⟨isWritable_colonSegments, hback _ isWritable_colonSegments, _, hparse, ?_,
    hmatch _ _ _⟩
  exact String.toList_injective (hsource.trans hcollapsed)

end PageRouter.Pattern
