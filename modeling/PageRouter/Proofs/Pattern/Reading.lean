import PageRouter.Pattern.Basic
import PageRouter.Proofs.Path
import PageRouter.Proofs.Result

/-!
# What a pattern that was read looks like

`Pattern.parse` refuses a text at the first segment that is wrong.  A text that it takes has its
segments turned into segments of a pattern one by one (`segments_of_parse`), and they satisfy
`Pattern.IsWellFormed`: literals can stand in a path, and no parameter name is empty or stands
twice.
-/

set_option autoImplicit false

namespace PageRouter.Pattern

/-- What the segments of a pattern have to satisfy to mean something in a path. -/
structure IsWellFormed (segments : List Segment) : Prop where
  /-- A literal can stand as a segment of a path. -/
  literal : ∀ text, .literal text ∈ segments → Path.IsSegment text
  /-- So can the name of a parameter. -/
  param : ∀ name, .param name ∈ segments → Path.IsSegment name
  /-- No name is bound twice. -/
  nodup : (segments.filterMap Segment.name?).Nodup

/-! ## Single segments -/

theorem eq_of_ofText_eq_literal {text t : String} (h : Segment.ofText text = .literal t) :
    t = text := by
  rw [Segment.ofText] at h
  split at h
  · exact absurd h (by simp)
  · exact (Segment.literal.inj h).symm

theorem toList_of_ofText_eq_param {text name : String} (h : Segment.ofText text = .param name) :
    text.toList = ':' :: name.toList := by
  rw [Segment.ofText] at h
  split at h
  · rename_i cs hcs
    rw [← Segment.param.inj h, hcs, String.toList_ofList]
  · exact absurd h (by simp)

/-! ## Lists of segments -/

/-- The step of `readSegments`: a first segment that is taken, and the others behind it. -/
theorem readSegments_cons_eq_ok {source text : String} {declared rest : List String}
    {segments : List Segment} (h : readSegments source declared (text :: rest) = .ok segments) :
    ∃ tail, segments = Segment.ofText text :: tail ∧
      match Segment.ofText text with
      | .literal _ => readSegments source declared rest = .ok tail
      | .param name => name ≠ "" ∧ name ∉ declared ∧
          readSegments source (name :: declared) rest = .ok tail := by
  rw [readSegments] at h
  cases htext : Segment.ofText text with
  | literal t =>
    simp only [htext] at h ⊢
    obtain ⟨tail, htail, rfl⟩ := Result.bind_pure_eq_ok_iff.1 h
    exact ⟨tail, rfl, htail⟩
  | param name =>
    simp only [htext] at h ⊢
    split at h
    · exact absurd h (by simp)
    · rename_i hempty
      split at h
      · exact absurd h (by simp)
      · rename_i hdup
        obtain ⟨tail, htail, rfl⟩ := Result.bind_pure_eq_ok_iff.1 h
        exact ⟨tail, rfl, by simpa using hempty, hdup, htail⟩

/-- Reading turns the texts into segments one by one. -/
theorem eq_map_of_readSegments {source : String} {declared texts : List String}
    {segments : List Segment} (h : readSegments source declared texts = .ok segments) :
    segments = texts.map Segment.ofText := by
  induction texts generalizing declared segments with
  | nil => exact (Except.ok.inj h).symm
  | cons text rest ih =>
    obtain ⟨tail, rfl, htail⟩ := readSegments_cons_eq_ok h
    split at htail
    · rw [List.map_cons, ih htail]
    · rw [List.map_cons, ih htail.2.2]

/-- The names read are not empty, differ from those declared further left, and differ among each
other. -/
theorem names_of_readSegments {source : String} {declared texts : List String}
    {segments : List Segment} (h : readSegments source declared texts = .ok segments) :
    (∀ name ∈ segments.filterMap Segment.name?, name ≠ "" ∧ name ∉ declared) ∧
      (segments.filterMap Segment.name?).Nodup := by
  induction texts generalizing declared segments with
  | nil =>
    rw [← Except.ok.inj h]
    simp
  | cons text rest ih =>
    obtain ⟨tail, rfl, htail⟩ := readSegments_cons_eq_ok h
    cases htext : Segment.ofText text with
    | literal t =>
      rw [htext] at htail
      rw [List.filterMap_cons_none rfl]
      exact ih htail
    | param name =>
      rw [htext] at htail
      obtain ⟨hempty, hdup, hr⟩ := htail
      obtain ⟨hmem, hnodup⟩ := ih hr
      have hname : Segment.name? (.param name) = some name := rfl
      rw [List.filterMap_cons_some hname]
      refine ⟨fun n hn => ?_, List.nodup_cons.2 ⟨fun hn => ?_, hnodup⟩⟩
      · rcases List.mem_cons.1 hn with rfl | hn
        · exact ⟨hempty, hdup⟩
        · exact ⟨(hmem n hn).1, fun hd => (hmem n hn).2 (List.mem_cons_of_mem name hd)⟩
      · exact (hmem name hn).2 List.mem_cons_self

/-! ## Whole patterns -/

theorem parse_eq_ok {source : String} {p : Pattern} (h : parse source = .ok p) :
    p.source = source ∧
      readSegments source [] (Path.segments source) = .ok p.segments := by
  rw [parse] at h
  split at h
  · obtain ⟨segments, hr, rfl⟩ := Result.bind_pure_eq_ok_iff.1 h
    exact ⟨rfl, hr⟩
  · exact absurd h (by simp)

/-- The segments of a pattern stand for the segments of the text, one by one. -/
theorem segments_of_parse {source : String} {p : Pattern} (h : parse source = .ok p) :
    p.segments = (Path.segments source).map Segment.ofText :=
  eq_map_of_readSegments (parse_eq_ok h).2

/-- **Whatever is read is well formed.** -/
theorem isWellFormed_of_parse {source : String} {p : Pattern} (h : parse source = .ok p) :
    IsWellFormed p.segments := by
  obtain ⟨hnames, hnodup⟩ := names_of_readSegments (parse_eq_ok h).2
  have hmap := segments_of_parse h
  refine ⟨fun text ht => ?_, fun name hn => ?_, hnodup⟩
  · rw [hmap] at ht
    obtain ⟨raw, hraw, heq⟩ := List.mem_map.1 ht
    rw [eq_of_ofText_eq_literal heq]
    exact Path.isSegment_of_mem_segments hraw
  · have hne := (hnames name (List.mem_filterMap.2 ⟨_, hn, rfl⟩)).1
    rw [hmap] at hn
    obtain ⟨raw, hraw, heq⟩ := List.mem_map.1 hn
    have hslash := (Path.isSegment_of_mem_segments hraw).2
    rw [toList_of_ofText_eq_param heq] at hslash
    exact ⟨hne, fun c hc => hslash c (List.mem_cons_of_mem _ hc)⟩

end PageRouter.Pattern
