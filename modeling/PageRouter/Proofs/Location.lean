import PageRouter.Location
import PageRouter.Proofs.Url.Reference

/-!
# Locations in normal form

A text that begins with a slash of either kind always has a location, and the location is in normal
form: it is read back from its own text.  Slashes are collapsed after everything else was done,
which could undo some of it; `IsSettled` is the invariant that shows that it does not.

* `IsSettled.parse_display`: a settled location is read back from its text.
* `isSettled_ofParts`: what is kept of an address whose segments are settled is settled.
* `segments_readPath_of_not_dots`: without segments of dots, the segments are those that were
  written, encoded.
* `normal_of_rooted`: the main result.
-/

set_option autoImplicit false

namespace PageRouter.Location

open Url (Place Scheme)

/-! ## Settled locations -/

/-- A location that nothing is left to do about. -/
structure IsSettled (l : Location) : Prop where
  collapsed : Path.collapse l.path = l.path
  segments : ∀ s ∈ Path.segmentsOf l.path.toList, Url.IsSettled .http s
  query : ∀ q ∈ l.query, ∀ c ∈ q.toList, Place.webQuery.keeps c = true
  fragment : ∀ f ∈ l.fragment, ∀ c ∈ f.toList, Place.fragment.keeps c = true

/-- A path that holds only what is visible and means nothing but itself. -/
structure IsNormalPath (path : String) : Prop where
  rooted : path.toList.head? = some '/'
  collapsed : path.toList.IsChain Path.NotBothSlashes
  visible : ∀ c ∈ path.toList, 0x20 < c.toNat ∧ c.toNat < 0x7F
  plain : ∀ c ∈ path.toList, c ≠ '?' ∧ c ≠ '#' ∧ c ≠ '\\'
  notDots : ∀ s ∈ Path.segmentsOf path.toList, ¬ Url.IsDots s

namespace IsSettled

variable {l : Location}

theorem toList_path (h : l.IsSettled) : l.path.toList = Path.collapseChars l.path.toList :=
  Path.toList_of_collapse_eq_self h.collapsed

/-- A character of the path is a slash or may stand in one, and then it is no separator. -/
theorem eq_slash_or_keeps (h : l.IsSettled) {c : Char} (hc : c ∈ l.path.toList) :
    c = '/' ∨ Place.path.keeps c = true ∧ Scheme.http.isSeparator c = false := by
  rw [h.toList_path] at hc
  rcases Path.eq_slash_or_mem_of_mem_collapseChars hc with hslash | ⟨s, hs, hcs⟩
  · exact .inl hslash
  · exact .inr ⟨(h.segments s hs).keeps c hcs, (h.segments s hs).notSeparator c hcs⟩

theorem keeps (h : l.IsSettled) {c : Char} (hc : c ∈ l.path.toList) :
    Place.path.keeps c = true := by
  rcases h.eq_slash_or_keeps hc with rfl | hc
  · rfl
  · exact hc.1

theorem isNormalPath (h : l.IsSettled) : IsNormalPath l.path where
  rooted := by
    rw [h.toList_path]
    exact Path.head?_collapseChars _
  collapsed := by
    rw [h.toList_path]
    exact Path.isChain_collapseChars _
  visible := fun c hc => Url.visible_of_keeps rfl (h.keeps hc)
  plain := fun c hc => by
    refine ⟨?_, ?_, ?_⟩
    · rintro rfl
      exact absurd (h.keeps hc) (by decide)
    · rintro rfl
      exact absurd (h.keeps hc) (by decide)
    · rintro rfl
      rcases h.eq_slash_or_keeps hc with hslash | hc
      · exact absurd hslash (by decide)
      · exact absurd hc.2 (by decide)
  notDots := fun s hs => (h.segments s hs).notDots

/-- The path behind its first slash is walked without change. -/
theorem exists_normalPath (h : l.IsSettled) : ∃ cs, l.path.toList = '/' :: cs ∧
    (∀ c ∈ cs, Url.endsPath c = false) ∧ Url.normalPath .http cs = '/' :: cs := by
  obtain ⟨cs, hcs⟩ := List.head?_eq_some_iff.1 h.isNormalPath.rooted
  have hmem : ∀ c ∈ cs, c ∈ l.path.toList := by
    intro c hc
    rw [hcs]
    exact List.mem_cons_of_mem '/' hc
  have hslash : ∀ c ∈ cs, Scheme.http.isSeparator c = Path.isSlash c := by
    intro c hc
    have hbackslash := (h.isNormalPath.plain c (hmem c hc)).2.2
    rw [Scheme.isSeparator, Path.isSlash, beq_eq_false_iff_ne.2 hbackslash, Bool.and_false,
      Bool.or_false]
  refine ⟨cs, hcs, fun c hc => ?_, Url.normalPath_of_settled (by decide) (fun s hs => ?_) ?_⟩
  · obtain ⟨hquestion, hhash, _⟩ := h.isNormalPath.plain c (hmem c hc)
    rw [Url.endsPath, beq_eq_false_iff_ne.2 hquestion, beq_eq_false_iff_ne.2 hhash]
    rfl
  · cases s with
    | nil => exact Url.isSettled_nil .http
    | cons c s =>
      refine h.segments _ ?_
      rw [hcs, Path.segmentsOf_slash_cons]
      rw [Text.pieces_congr hslash] at hs
      exact Text.mem_words.2 ⟨hs, List.cons_ne_nil c s⟩
  · intro c hc hsep
    rw [hslash c hc] at hsep
    simpa [Path.isSlash] using hsep

end IsSettled

/-! ## Reading a text that begins with a slash -/

/-- **A text that begins with a slash has a location.**  It is read as a path: nothing in it is a
host. -/
theorem parse_of_toList {input : String} {c : Char} {cs : List Char}
    (hinput : input.toList = c :: cs) (hc : Scheme.http.isSeparator c = true) :
    parse input = .ok (ofParts (Url.readPath .http (Url.trimmedEnd cs))) := by
  have hrooted : isRooted input = true := by
    rw [isRooted, hinput]
    simpa [Scheme.isSeparator, Scheme.isSpecial] using hc
  have href : (reference input).toList = '.' :: c :: cs := by
    rw [reference, if_pos hrooted, String.toList_append, hinput]
    rfl
  rw [parse, Url.resolve_of_dot href hc]

theorem toList_display (l : Location) :
    l.display.toList =
      l.path.toList ++ Url.tailOf (l.query.map String.toList) (l.fragment.map String.toList) := by
  rw [display, String.toList_append, String.toList_append, List.append_assoc]
  cases hq : l.query <;> cases hf : l.fragment <;> simp [Url.tailOf]

/-- **A settled location is read back from its text.** -/
theorem IsSettled.parse_display {l : Location} (h : l.IsSettled) : parse l.display = .ok l := by
  obtain ⟨cs, hcs, hends, hnormal⟩ := h.exists_normalPath
  let query := l.query.map String.toList
  let fragment := l.fragment.map String.toList
  have hquery : ∀ q ∈ query, ∀ c ∈ q, Scheme.http.queryPlace.keeps c = true := by
    intro q hq
    obtain ⟨q', hq', rfl⟩ := Option.map_eq_some_iff.1 hq
    exact h.query q' hq'
  have hfragment : ∀ f ∈ fragment, ∀ c ∈ f, Place.fragment.keeps c = true := by
    intro f hf
    obtain ⟨f', hf', rfl⟩ := Option.map_eq_some_iff.1 hf
    exact h.fragment f' hf'
  have hdisplay : l.display.toList = '/' :: (cs ++ Url.tailOf query fragment) := by
    rw [toList_display, hcs]
    rfl
  have hvisible : ∀ c ∈ cs ++ Url.tailOf query fragment, Url.isBlank c = false := by
    intro c hc
    refine Url.not_isBlank_of_visible ?_
    rcases List.mem_append.1 hc with hc | hc
    · refine (h.isNormalPath.visible c ?_).1
      rw [hcs]
      exact List.mem_cons_of_mem '/' hc
    · exact (Url.visible_of_mem_tailOf hquery hfragment hc).1
  rw [parse_of_toList hdisplay rfl, Url.trimmedEnd_eq_self hvisible,
    Url.readPath_append hends fun c hc => Url.endsPath_of_mem_head?_tailOf hc, hnormal,
    Url.readTail_tailOf _ hquery hfragment, ← hcs, ofParts]
  obtain ⟨path, _, _⟩ := l
  simp [query, fragment, ← h.toList_path, Option.map_map]

/-! ## What is kept of an address -/

/-- Collapsing keeps no segment that was not there. -/
theorem mem_of_mem_segmentsOf_ofParts {parts : Url.Parts} {segs : List (List Char)}
    (hpath : parts.path = Path.rooted segs) (hslash : ∀ t ∈ segs, ∀ c ∈ t, Path.isSlash c = false)
    {s : List Char} (hs : s ∈ Path.segmentsOf (ofParts parts).path.toList) : s ∈ segs := by
  rw [ofParts, String.toList_ofList, Path.segmentsOf_collapse, hpath,
    Path.segmentsOf_rooted_of_no_slash hslash] at hs
  exact (List.mem_filter.1 hs).1

/-- **What is kept of an address with settled segments is settled.**  Collapsing drops the empty
segments and makes no other. -/
theorem isSettled_ofParts {parts : Url.Parts} {segs : List (List Char)}
    (hpath : parts.path = Path.rooted segs) (hsegs : ∀ s ∈ segs, Url.IsSettled .http s)
    (hquery : ∀ q, parts.query = some q → ∀ c ∈ q, Place.webQuery.keeps c = true)
    (hfragment : ∀ f, parts.fragment = some f → ∀ c ∈ f, Place.fragment.keeps c = true) :
    (ofParts parts).IsSettled where
  collapsed := by
    rw [ofParts, Path.collapse, String.toList_ofList, Path.collapseChars_collapseChars]
  segments := fun s hs => by
    have hslash : ∀ t ∈ segs, ∀ c ∈ t, Path.isSlash c = false :=
      fun t ht c hc => Url.not_isSlash_of_not_isSeparator ((hsegs t ht).notSeparator c hc)
    exact hsegs s (mem_of_mem_segmentsOf_ofParts hpath hslash hs)
  query := fun q hq => by
    obtain ⟨q', hq', rfl⟩ := Option.map_eq_some_iff.1 hq
    rw [String.toList_ofList]
    exact hquery q' hq'
  fragment := fun f hf => by
    obtain ⟨f', hf', rfl⟩ := Option.map_eq_some_iff.1 hf
    rw [String.toList_ofList]
    exact hfragment f' hf'

/-- What a scheme that browsers know leaves of a path is settled: all of them treat a backslash and
a query alike. -/
theorem isSettled_readPath_of_isSpecial {scheme : Scheme} (h : scheme.isSpecial = true)
    (cs : List Char) : (ofParts (Url.readPath scheme cs)).IsSettled := by
  have hplace : scheme.queryPlace = .webQuery := by rw [Scheme.queryPlace, if_pos h]
  have hsep : ∀ c, Scheme.http.isSeparator c = scheme.isSeparator c := by
    intro c
    rw [Scheme.isSeparator, Scheme.isSeparator, h]
    rfl
  rw [Url.readPath_eq]
  obtain ⟨segs, hpath, hsegs⟩ := Url.exists_normalPath_eq scheme (Text.cut Url.endsPath cs).1
  have hread := (Url.path_readTail scheme _ (Text.cut Url.endsPath cs).2).trans hpath
  refine isSettled_ofParts hread (fun s hs => ?_) (fun q hq => ?_)
    fun _ hf => Url.keeps_of_mem_fragment hf
  · obtain ⟨hkeeps, hseparator, hdots⟩ := hsegs s hs
    exact ⟨hkeeps, fun c hc => (hsep c).trans (hseparator c hc), hdots⟩
  · rw [← hplace]
    exact Url.keeps_of_mem_query hq

theorem isSettled_readPath (cs : List Char) : (ofParts (Url.readPath .http cs)).IsSettled :=
  isSettled_readPath_of_isSpecial rfl cs

/-- The segments that a text writes in front of a query and a fragment, between slashes of either
kind.  Empty ones do not count. -/
def writtenSegments (input : String) : List (List Char) :=
  Text.words (fun c => c == '/' || c == '\\') (Text.cut Url.endsPath input.toList).1

/-- **Without segments of dots, the segments are those that were written, encoded.** -/
theorem segments_readPath_of_not_dots {cs : List Char}
    (h : ∀ s ∈ Text.words Scheme.http.isSeparator (Text.cut Url.endsPath cs).1, ¬ Url.IsDots s) :
    Path.segmentsOf (ofParts (Url.readPath .http cs)).path.toList =
      (Text.words Scheme.http.isSeparator (Text.cut Url.endsPath cs).1).map (Url.encode .path) := by
  generalize htext : (Text.cut Url.endsPath cs).1 = text at h
  have hdots : ∀ s ∈ Text.pieces Scheme.http.isSeparator text, ¬ Url.IsDots s := by
    intro s hs
    cases s with
    | nil => decide
    | cons c s => exact h _ (Text.mem_words.2 ⟨hs, List.cons_ne_nil c s⟩)
  have hslash : ∀ s ∈ (Text.pieces Scheme.http.isSeparator text).map (Url.encode .path),
      ∀ c ∈ s, Path.isSlash c = false := by
    intro s hs c hc
    obtain ⟨t, ht, rfl⟩ := List.mem_map.1 hs
    have hsep := Url.not_isSeparator_of_mem_encode (Text.not_sep_of_mem_pieces t ht) hc
    exact Url.not_isSlash_of_not_isSeparator hsep
  have hempty : ∀ s : List Char, (Url.encode .path s).isEmpty = s.isEmpty := by
    intro s
    cases s with
    | nil => rfl
    | cons c s =>
      rw [List.isEmpty_cons, List.isEmpty_eq_false_iff]
      exact fun hnil => List.cons_ne_nil c s (Url.eq_nil_of_encode_eq_nil hnil)
  rw [Url.readPath_eq, htext, ofParts, Url.path_readTail, String.toList_ofList,
    Path.segmentsOf_collapse, Url.normalPath_of_not_dots (by decide) hdots,
    Path.segmentsOf_rooted_of_no_slash hslash, List.filter_map, Text.words]
  simp only [Function.comp_def, hempty]

/-! ## The main result -/

/-- **What begins with a slash has a location in normal form.**  Its path is plain, and without
blanks and dots holds the segments as they were written; and the location is read back from its own
text. -/
theorem normal_of_rooted {input : String}
    (h : input.toList.head? = some '/' ∨ input.toList.head? = some '\\') :
    ∃ l, parse input = .ok l ∧ IsNormalPath l.path ∧
      ((∀ c ∈ input.toList, 0x20 < c.toNat) → (∀ s ∈ writtenSegments input, ¬ Url.IsDots s) →
        Path.segmentsOf l.path.toList = (writtenSegments input).map (Url.encode .path)) ∧
      parse l.display = .ok l := by
  obtain ⟨c, cs, hinput, hc, hends⟩ : ∃ c cs, input.toList = c :: cs ∧
      Scheme.http.isSeparator c = true ∧ Url.endsPath c = false := by
    rcases h with h | h <;> obtain ⟨cs, hcs⟩ := List.head?_eq_some_iff.1 h
    · exact ⟨'/', cs, hcs, rfl, rfl⟩
    · exact ⟨'\\', cs, hcs, rfl, rfl⟩
  have hsettled := isSettled_readPath (Url.trimmedEnd cs)
  refine ⟨_, parse_of_toList hinput hc, hsettled.isNormalPath, fun hvisible hdots => ?_,
    hsettled.parse_display⟩
  have hwritten : writtenSegments input =
      Text.words Scheme.http.isSeparator (Text.cut Url.endsPath cs).1 := by
    have hcut : (Text.cut Url.endsPath input.toList).1 = c :: (Text.cut Url.endsPath cs).1 := by
      rw [hinput, Text.cut, Text.cut, List.takeWhile_cons, hends]
      rfl
    rw [writtenSegments, hcut]
    exact Text.words_cons_of_sep hc _
  have htrimmed : Url.trimmedEnd cs = cs := by
    refine Url.trimmedEnd_eq_self fun d hd => Url.not_isBlank_of_visible (hvisible d ?_)
    rw [hinput]
    exact List.mem_cons_of_mem c hd
  rw [hwritten] at hdots ⊢
  rw [htrimmed]
  exact segments_readPath_of_not_dots hdots

theorem normal_doubleSlash :
    ∃ l, parse "//host\\b/ü?q#f" = .ok l ∧ IsNormalPath l.path ∧
      Path.segmentsOf l.path.toList = ["host".toList, "b".toList, "%C3%BC".toList] ∧
      parse l.display = .ok l := by
  have hvisible : ("//host\\b/ü?q#f".toList.all fun c => 0x20 < c.toNat) = true := by decide
  have hwritten : writtenSegments "//host\\b/ü?q#f" = ["host".toList, "b".toList, ['ü']] := by
    decide
  have hdots : ∀ s ∈ writtenSegments "//host\\b/ü?q#f", ¬ Url.IsDots s := by
    rw [hwritten]
    decide
  obtain ⟨l, hl, hnormal, hsegments, hback⟩ := @normal_of_rooted "//host\\b/ü?q#f" (by decide)
  refine ⟨l, hl, hnormal, ?_, hback⟩
  rw [hsegments (fun c hc => of_decide_eq_true (List.all_eq_true.1 hvisible c hc)) hdots, hwritten]
  decide

end PageRouter.Location
