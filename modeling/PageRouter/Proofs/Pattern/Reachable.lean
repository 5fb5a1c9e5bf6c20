import Mathlib
import PageRouter.Proofs.Pattern.Substitution
import PageRouter.Proofs.Site.Addresses

/-!
# Patterns that navigation can reach

A pattern keeps its literals as they were written, but the path of a location is what reading an
address has left of it.  Some characters are left of no address: a control or a letter beyond ASCII
is always encoded, and a question mark or a hash always ends the path.  A literal with such a
character has no location, in any spelling, though the pattern is accepted.

All other characters are left of some address.  Where a path of segments would encode a character,
or take a segment for one of dots, a path without segments behind a scheme that browsers do not know
keeps it.

* `CanHold`: the characters that the path of a location can hold.
* `canHold_of_parse`: it holds no others.
* `exists_parse_of_segments`: it can hold any segments of these.
* `exists_location_iff`: the main result.
-/

set_option autoImplicit false

namespace PageRouter

open Url (Place Scheme)

namespace Location

/-! ## What a path can hold -/

/-- A character that the path of a location can hold: a visible one of ASCII or a blank, and none
that ends a path. -/
def CanHold (c : Char) : Prop := 0x20 ≤ c.toNat ∧ c.toNat < 0x7F ∧ c ≠ '?' ∧ c ≠ '#'

instance : DecidablePred CanHold := fun _ => inferInstanceAs (Decidable (_ ∧ _))

theorem canHold_iff {c : Char} :
    CanHold c ↔ Place.opaquePath.keeps c = true ∧ Url.endsPath c = false := by
  simp [CanHold, Place.keeps, Place.reserved, Url.endsPath, and_assoc]

theorem canHold_of_keeps_path {c : Char} (h : Place.path.keeps c = true) : CanHold c := by
  have hvisible := Url.visible_of_keeps rfl h
  refine ⟨by omega, hvisible.2, ?_, ?_⟩
  · rintro rfl
    exact absurd h (by decide)
  · rintro rfl
    exact absurd h (by decide)

/-- Letters of either case can be held. -/
theorem canHold_of_isAlpha {c : Char} (h : c.isAlpha = true) : CanHold c :=
  canHold_of_keeps_path (Url.keeps_of_isAlpha h)

/-- What agrees up to case with a character that can be held can be held itself. -/
theorem CanHold.of_toLower_eq {c d : Char} (h : CanHold d) (hcase : c.toLower = d.toLower) :
    CanHold c := by
  by_cases hc : c.isAlpha = true
  · exact canHold_of_isAlpha hc
  · have hd : ¬ d.isAlpha = true := by
      rwa [← Char.isAlpha_toLower_eq_isAlpha, ← hcase, Char.isAlpha_toLower_eq_isAlpha]
    have hsame : ∀ e : Char, ¬ e.isAlpha = true → e.toLower = e := fun e he =>
      Char.toLower_eq_of_not_isUpper fun hupper => he (by simp [Char.isAlpha, hupper])
    rw [hsame c hc, hsame d hd] at hcase
    exact hcase ▸ h

/-- Collapsing brings in nothing that cannot be held. -/
theorem canHold_of_mem_ofParts {parts : Url.Parts} (h : ∀ c ∈ parts.path, CanHold c) {c : Char}
    (hc : c ∈ (ofParts parts).path.toList) : CanHold c := by
  rw [ofParts, String.toList_ofList] at hc
  rcases Path.eq_slash_or_mem_of_mem_collapseChars hc with rfl | ⟨s, hs, hcs⟩
  · decide
  · exact h c (Text.mem_of_mem_pieces (Text.mem_words.1 hs).1 hcs)

theorem canHold_of_mem_readPath {scheme : Scheme} {text : List Char} {c : Char}
    (hc : c ∈ (Url.readPath scheme text).path) : CanHold c := by
  obtain ⟨segs, hpath, hsegs⟩ := Url.exists_normalPath_eq scheme (Text.cut Url.endsPath text).1
  rw [Url.readPath_eq, Url.path_readTail, hpath] at hc
  obtain ⟨s, hs, hc⟩ := List.mem_flatMap.1 hc
  rcases List.mem_cons.1 hc with rfl | hc
  · decide
  · exact canHold_of_keeps_path ((hsegs s hs).keeps c hc)

theorem canHold_of_mem_readOpaque {text : List Char} {c : Char}
    (hc : c ∈ (Url.readOpaque text).path) : CanHold c := by
  rw [Url.readOpaque, Url.path_readTail] at hc
  refine canHold_iff.2 ⟨Url.keeps_of_mem_encode hc, ?_⟩
  exact Url.not_of_mem_encode (by decide) (by decide) (fun d hd => Text.not_stop_of_mem_cut hd) hc

/-- **The path of a location holds nothing but what it can hold**, whatever it was read from. -/
theorem canHold_of_parse {input : String} {l : Location} (h : parse input = .ok l) {c : Char}
    (hc : c ∈ l.path.toList) : CanHold c := by
  obtain ⟨parts, hparts, rfl⟩ := exists_resolve_of_parse h
  refine canHold_of_mem_ofParts (fun d hd => ?_) hc
  rcases Url.resolve_cases hparts with ⟨text, rfl⟩ | ⟨_, text, rfl⟩
  · exact canHold_of_mem_readPath hd
  · exact canHold_of_mem_readOpaque hd

/-! ## An address for any segments -/

/-- Segments with a slash behind each. -/
def slashed (segs : List String) : List Char := segs.flatMap fun s => s.toList ++ ['/']

/-- An address whose path is kept as it stands.  A hash ends it, so that a blank in front of that is
not at its end. -/
def opaqueAddress (segs : List String) : String :=
  String.ofList ('x' :: ':' :: (slashed segs ++ ['#']))

variable {segs : List String}

theorem segmentsOf_slashed (h : ∀ s ∈ segs, Path.IsSegment s) :
    Path.segmentsOf (slashed segs) = segs.map String.toList := by
  induction segs with
  | nil => rfl
  | cons s ss ih =>
    obtain ⟨hne, hslash⟩ := h s List.mem_cons_self
    have hs : Path.segmentsOf s.toList = [s.toList] :=
      Path.segmentsOf_of_no_slash (by simpa using hne) hslash
    have hss := ih fun t ht => h t (List.mem_cons_of_mem s ht)
    rw [slashed, List.flatMap_cons, List.append_assoc, List.singleton_append,
      Path.segmentsOf_append_slash, hs]
    exact congrArg (s.toList :: ·) hss

theorem head?_slashed_ne (h : ∀ s ∈ segs, Path.IsSegment s) :
    (slashed segs ++ ['#']).head? ≠ some '/' := by
  cases segs with
  | nil => decide
  | cons s ss =>
    obtain ⟨hne, hslash⟩ := h s List.mem_cons_self
    obtain ⟨c, cs, hcs⟩ := List.exists_cons_of_ne_nil (mt String.toList_eq_nil_iff.1 hne)
    have hc := hslash c (hcs ▸ List.mem_cons_self)
    intro hhead
    rw [slashed, List.flatMap_cons, hcs] at hhead
    rw [Option.some.inj hhead] at hc
    exact nomatch hc

theorem canHold_of_mem_slashed (h : ∀ s ∈ segs, ∀ c ∈ s.toList, CanHold c) {c : Char}
    (hc : c ∈ slashed segs) : CanHold c := by
  obtain ⟨s, hs, hc⟩ := List.mem_flatMap.1 hc
  rcases List.mem_append.1 hc with hc | hc
  · exact h s hs c hc
  · rw [List.mem_singleton.1 hc]
    decide

/-- A text that can be held is read as it stands where a path has no segments. -/
theorem path_readOpaque {text : List Char} (h : ∀ c ∈ text, CanHold c) :
    (Url.readOpaque (text ++ ['#'])).path = text := by
  have hcut : Text.cut Url.endsPath (text ++ ['#']) = (text, ['#']) :=
    Text.cut_append_of_stops (fun c hc => (canHold_iff.1 (h c hc)).2) (by simp [Url.endsPath])
  rw [Url.readOpaque, hcut, Url.path_readTail]
  exact Url.encode_eq_self fun c hc => (canHold_iff.1 (h c hc)).1

theorem parse_opaqueAddress (h : ∀ s ∈ segs, Path.IsSegment s)
    (hhold : ∀ s ∈ segs, ∀ c ∈ s.toList, CanHold c) :
    parse (opaqueAddress segs) = .ok (ofParts (Url.readOpaque (slashed segs ++ ['#']))) := by
  have hbreak : ∀ c ∈ slashed segs, Url.isBreak c = false := by
    intro c hc
    have hcan := canHold_of_mem_slashed hhold hc
    rw [Url.isBreak, Bool.or_eq_false_iff, Bool.or_eq_false_iff, beq_eq_false_iff_ne,
      beq_eq_false_iff_ne, beq_eq_false_iff_ne]
    refine ⟨⟨?_, ?_⟩, ?_⟩ <;> rintro rfl <;> exact absurd hcan (by decide)
  have href : reference (opaqueAddress segs) = opaqueAddress segs := by
    rw [reference, isRooted, opaqueAddress, String.toList_ofList]
    rfl
  have htrimmed : Url.trimmed (opaqueAddress segs).toList =
      'x' :: ':' :: (slashed segs ++ ['#']) := by
    rw [opaqueAddress, String.toList_ofList, Url.trimmed_cons (by decide),
      Url.trimmedEnd_cons (by decide), Url.trimmedEnd_concat hbreak (by decide)]
  have hscheme : ∀ rest, Url.readScheme? ('x' :: ':' :: rest) = some (.other, rest) :=
    fun rest => rfl
  have hresolve : Url.resolve (opaqueAddress segs) =
      .ok (Url.readOpaque (slashed segs ++ ['#'])) := by
    rw [Url.resolve, htrimmed, hscheme]
    exact Url.readOther_of_head?_ne (head?_slashed_ne h)
  rw [parse, href, hresolve]

/-- **Any segments that can be held are those of some location.** -/
theorem exists_parse_of_segments (h : ∀ s ∈ segs, Path.IsSegment s)
    (hhold : ∀ s ∈ segs, ∀ c ∈ s.toList, CanHold c) :
    ∃ u l, parse u = .ok l ∧ Path.segments l.path = segs := by
  refine ⟨opaqueAddress segs, _, parse_opaqueAddress h hhold, ?_⟩
  rw [ofParts, path_readOpaque fun c hc => canHold_of_mem_slashed hhold hc, Path.segments,
    String.toList_ofList, Path.segmentsOf_collapse, segmentsOf_slashed h, List.map_map]
  exact (List.map_congr_left fun s _ => String.ofList_toList).trans (List.map_id _)

end Location

namespace Pattern

variable {isExact caseSensitive : Bool} {p : Pattern}

/-! ## The main result -/

/-- The literals of a pattern that matches the path of a location can be held by that path. -/
theorem canHold_of_match? {u : String} {l : Location} (h : Location.parse u = .ok l)
    (hmatch : (p.match? l.path isExact caseSensitive).isSome = true) {text : String}
    (htext : .literal text ∈ p.segments) {c : Char} (hc : c ∈ text.toList) :
    Location.CanHold c := by
  obtain ⟨i, hi⟩ := List.getElem?_of_mem htext
  obtain ⟨part, hpart, hagree⟩ :=
    (admitsLeading_iff.1 (isSome_match?_iff.1 hmatch).2).2 i text hi
  have hfold := Text.agree_false_iff.1 (Text.agree_false_of_agree hagree)
  have hlower : c.toLower ∈ Text.foldCase part := hfold ▸ List.mem_map_of_mem hc
  obtain ⟨d, hd, hcase⟩ := List.mem_map.1 hlower
  refine Location.CanHold.of_toLower_eq (Location.canHold_of_parse h ?_) hcase.symm
  exact Path.mem_of_mem_segments (List.mem_of_getElem? hpart) hd

/-- **A pattern can be reached exactly when its literals can be held by a path.**  In every mode of
matching, a pattern that was read from a text matches the path of some location if all characters of
its literals are blanks or visible ones of ASCII, without question mark and hash; and else of
none. -/
theorem exists_location_iff {source : String} (h : parse source = .ok p)
    (isExact caseSensitive : Bool) :
    (∃ u l, Location.parse u = .ok l ∧ (p.match? l.path isExact caseSensitive).isSome = true) ↔
      ∀ text, .literal text ∈ p.segments → ∀ c ∈ text.toList,
        0x20 ≤ c.toNat ∧ c.toNat < 0x7F ∧ c ≠ '?' ∧ c ≠ '#' := by
  constructor
  · rintro ⟨u, l, hl, hmatch⟩ text htext c hc
    exact canHold_of_match? hl hmatch htext hc
  · intro hhold
    have hliteral := (isWellFormed_of_parse h).literal
    have hsegment : Path.IsSegment "x" := ⟨by simp, by simp [Path.isSlash]⟩
    have hvalue : ∀ name ∈ p.paramNames, Path.IsSegment "x" := fun _ _ => hsegment
    have hrest : ∀ part ∈ ([] : List String), Path.IsSegment part := by simp
    have hsegments := segments_pathOf hliteral hvalue hrest
    have hcan : ∀ s ∈ Path.segments (p.pathOf (fun _ => "x") []), ∀ c ∈ s.toList,
        Location.CanHold c := by
      intro s hs c hc
      rw [hsegments, List.append_nil] at hs
      obtain ⟨segment, hmem, rfl⟩ := List.mem_map.1 hs
      cases segment with
      | literal text => exact hhold text hmem c hc
      | param name =>
        have hx : c = 'x' := by simpa [Segment.substituted] using hc
        rw [hx]
        decide
    obtain ⟨u, l, hl, hpath⟩ := Location.exists_parse_of_segments
      (fun s hs => Path.isSegment_of_mem_segments hs) hcan
    refine ⟨u, l, hl, ?_⟩
    rw [match?_pathOf hliteral hvalue hrest (fun _ => rfl) hpath]
    rfl

/-- A pattern whose literal agrees up to case with what stands in an address, but is encoded in any
path of segments. -/
theorem exists_location_blank :
    ∃ p, parse "/Old news/:day/\"^\"" = .ok p ∧
      ∃ u l, Location.parse u = .ok l ∧ (p.match? l.path true false).isSome = true := by
  have hparse : parse "/Old news/:day/\"^\"" = .ok ⟨"/Old news/:day/\"^\"",
      [.literal "Old news", .param "day", .literal "\"^\""]⟩ := by decide +kernel
  refine ⟨_, hparse, (exists_location_iff hparse true false).2 fun text htext => ?_⟩
  have htexts : text = "Old news" ∨ text = "\"^\"" := by simpa using htext
  rcases htexts with rfl | rfl <;> simp

/-- A letter beyond ASCII is written as its bytes in every path, so that a pattern with such a
letter is accepted and never reached. -/
theorem not_forall_exists_location :
    ¬∀ source p, parse source = .ok p →
      ∃ u l, Location.parse u = .ok l ∧ (p.match? l.path true false).isSome = true := by
  intro hall
  have hparse : parse "/ü" = .ok ⟨"/ü", [.literal "ü"]⟩ := by decide +kernel
  obtain ⟨u, l, hl, hmatch⟩ := hall _ _ hparse
  have hcan : Location.CanHold 'ü' :=
    @canHold_of_match? true false _ u l hl hmatch "ü" List.mem_cons_self 'ü' (by decide +kernel)
  exact absurd hcan (by decide)

end Pattern

end PageRouter
