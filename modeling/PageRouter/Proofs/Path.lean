import Mathlib.Data.List.Chain
import Mathlib.Data.List.Destutter
import PageRouter.Path
import PageRouter.Proofs.Text.Split

/-!
# Paths that are written from segments

`Path.segments` reads a path.  Here is the way back, `Path.ofSegments`, and what `Path.collapse`
makes of any text: a path that begins with a slash, holds no two slashes in a row, and is left alone
by another collapse.

* `segments_ofSegments`: segments that can stand in a path are read back from what is written.
* `isChain_collapseChars`: no two slashes of a collapsed path stand side by side.
* `collapseChars_collapseChars`: collapsing twice is collapsing once.
* `collapseChars_eq_destutter`: what collapsing does to the text itself, without a look at segments.
* `withoutTrailingSlash_destutter`: what is left when a slash at the end is dropped as well.
-/

set_option autoImplicit false

namespace PageRouter.Path

/-- A text that can stand as a segment of a path. -/
def IsSegment (s : String) : Prop := s ≠ "" ∧ ∀ c ∈ s.toList, isSlash c = false

/-- The path of a list of segments, each behind a slash. -/
def ofSegments (segs : List String) : String := String.ofList (rooted (segs.map String.toList))

/-- Of what is written behind slashes, the pieces that are not empty are read. -/
theorem segmentsOf_rooted_of_no_slash {segs : List (List Char)}
    (h : ∀ s ∈ segs, ∀ c ∈ s, isSlash c = false) :
    segmentsOf (rooted segs) = segs.filter fun s => !s.isEmpty := by
  induction segs with
  | nil => rfl
  | cons s ss ih =>
    have hs : segmentsOf s = [s].filter fun s => !s.isEmpty := by
      rw [segmentsOf, Text.words, Text.pieces_eq_singleton (h s List.mem_cons_self)]
    have hss := ih fun t ht => h t (List.mem_cons_of_mem s ht)
    rw [rooted, List.flatMap_cons, List.cons_append, segmentsOf_slash_cons]
    cases ss with
    | nil => rw [List.flatMap_nil, List.append_nil, hs]
    | cons t ts =>
      rw [rooted, List.flatMap_cons, List.cons_append, segmentsOf_slash_cons] at hss
      rw [List.flatMap_cons, List.cons_append, segmentsOf_append_slash, hs, hss,
        ← List.filter_append]
      rfl

theorem isSegment_of_mem_segments {path s : String} (h : s ∈ segments path) : IsSegment s := by
  obtain ⟨cs, hcs, rfl⟩ := List.mem_map.1 h
  obtain ⟨hne, hslash⟩ := mem_segmentsOf hcs
  refine ⟨fun he => hne ?_, by simpa using hslash⟩
  simpa using congrArg String.toList he

/-- Segments bring in no character. -/
theorem mem_of_mem_segments {path s : String} (h : s ∈ segments path) {c : Char}
    (hc : c ∈ s.toList) : c ∈ path.toList := by
  obtain ⟨cs, hcs, rfl⟩ := List.mem_map.1 h
  rw [String.toList_ofList] at hc
  exact Text.mem_of_mem_pieces (Text.mem_words.1 hcs).1 hc

/-- **Segments are read back from the path they make.** -/
theorem segments_ofSegments {segs : List String} (h : ∀ s ∈ segs, IsSegment s) :
    segments (ofSegments segs) = segs := by
  have hr : segmentsOf (rooted (segs.map String.toList)) = segs.map String.toList := by
    refine segmentsOf_rooted fun cs hcs => ?_
    obtain ⟨s, hs, rfl⟩ := List.mem_map.1 hcs
    obtain ⟨hne, hslash⟩ := h s hs
    exact ⟨by simpa using hne, hslash⟩
  rw [segments, ofSegments, String.toList_ofList, hr, List.map_map]
  simp

/-! ## What collapsing leaves -/

theorem rooted_cons (s : List Char) (ss : List (List Char)) :
    rooted (s :: ss) = '/' :: s ++ rooted ss := rfl

theorem head?_collapseChars (cs : List Char) : (collapseChars cs).head? = some '/' := by
  rw [collapseChars]
  split <;> rfl

/-- A path that collapsing leaves alone is written as collapsing writes paths. -/
theorem toList_of_collapse_eq_self {path : String} (h : collapse path = path) :
    path.toList = collapseChars path.toList := by
  have hchars := congrArg String.toList h
  rw [collapse, String.toList_ofList] at hchars
  exact hchars.symm

/-- Collapsing brings in no character but the slash. -/
theorem eq_slash_or_mem_of_mem_collapseChars {cs : List Char} {c : Char}
    (h : c ∈ collapseChars cs) : c = '/' ∨ ∃ s ∈ segmentsOf cs, c ∈ s := by
  have hrooted : ∀ segs : List (List Char), c ∈ rooted segs → c = '/' ∨ ∃ s ∈ segs, c ∈ s := by
    intro segs hc
    obtain ⟨s, hs, hc⟩ := List.mem_flatMap.1 hc
    exact (List.mem_cons.1 hc).imp id fun hc => ⟨s, hs, hc⟩
  rw [collapseChars] at h
  split at h
  · exact .inl (List.mem_singleton.1 h)
  · rename_i s ss hs
    rw [hs]
    rcases List.mem_append.1 h with h | h
    · exact hrooted _ h
    · split at h
      · exact .inl (List.mem_singleton.1 h)
      · exact absurd h List.not_mem_nil

/-- Two characters of which at most one is a slash. -/
def NotBothSlashes (a b : Char) : Prop := ¬ (a = '/' ∧ b = '/')

theorem isChain_of_no_slash {s : List Char} (h : ∀ c ∈ s, isSlash c = false) :
    s.IsChain NotBothSlashes := by
  induction s with
  | nil => exact .nil
  | cons c s ih =>
    have hc : c ≠ '/' := by simpa [isSlash] using h c List.mem_cons_self
    refine List.isChain_cons.2 ⟨fun d _ hd => hc hd.1, ih fun d hd => h d ?_⟩
    exact List.mem_cons_of_mem c hd

/-- The last character of a path that ends in a segment is no slash. -/
theorem getLast?_rooted {segs : List (List Char)} (hne : segs ≠ [])
    (h : ∀ s ∈ segs, s ≠ [] ∧ ∀ c ∈ s, isSlash c = false) :
    (rooted segs).getLast? ≠ some '/' := by
  obtain ⟨init, s, rfl⟩ := (List.eq_nil_or_concat' segs).resolve_left hne
  obtain ⟨hs, hslash⟩ := h s (by simp)
  intro hl
  rw [rooted, List.flatMap_append, List.flatMap_singleton, List.getLast?_append,
    List.getLast?_cons_of_ne_nil hs] at hl
  cases hlast : s.getLast? with
  | none => exact hs (List.getLast?_eq_none_iff.1 hlast)
  | some d =>
    rw [hlast, Option.some_or, Option.some.injEq] at hl
    have hd := hslash d (List.mem_of_getLast? hlast)
    simp [hl, isSlash] at hd

theorem isChain_slash_cons {s : List Char} (h : ∀ c ∈ s, isSlash c = false) :
    ('/' :: s).IsChain NotBothSlashes := by
  refine List.isChain_cons.2 ⟨fun d hd hdd => ?_, isChain_of_no_slash h⟩
  have hd := h d (List.mem_of_mem_head? hd)
  simp [hdd.2, isSlash] at hd

theorem isChain_rooted {segs : List (List Char)}
    (h : ∀ s ∈ segs, s ≠ [] ∧ ∀ c ∈ s, isSlash c = false) :
    (rooted segs).IsChain NotBothSlashes := by
  induction segs using List.reverseRecOn with
  | nil => exact .nil
  | append_singleton segs s ih =>
    obtain ⟨hs, hslash⟩ := h s (by simp)
    have hsegs := fun t ht => h t (List.mem_append_left [s] ht)
    have hlast : (rooted segs).getLast? ≠ some '/' := by
      cases segs with
      | nil => simp [rooted]
      | cons t ts => exact getLast?_rooted (by simp) hsegs
    rw [rooted, List.flatMap_append, List.flatMap_singleton]
    exact List.isChain_append.2
      ⟨ih hsegs, isChain_slash_cons hslash, fun a ha b _ hab => hlast (hab.1 ▸ ha)⟩

/-- **A collapsed path has no two slashes in a row.** -/
theorem isChain_collapseChars (cs : List Char) : (collapseChars cs).IsChain NotBothSlashes := by
  have hmem : ∀ s ∈ segmentsOf cs, s ≠ [] ∧ ∀ c ∈ s, isSlash c = false :=
    fun s hs => mem_segmentsOf hs
  rw [collapseChars]
  split
  · exact .singleton _
  · rename_i s ss hs
    rw [hs] at hmem
    refine List.isChain_append.2 ⟨isChain_rooted hmem, ?_, fun a ha b _ hab => ?_⟩
    · split
      · exact .singleton _
      · exact .nil
    · exact getLast?_rooted (by simp) hmem (hab.1 ▸ ha)

/-- **Collapsing a collapsed path changes nothing.** -/
theorem collapseChars_collapseChars (cs : List Char) :
    collapseChars (collapseChars cs) = collapseChars cs := by
  have hmem : ∀ s ∈ segmentsOf cs, s ≠ [] ∧ ∀ c ∈ s, isSlash c = false :=
    fun s hs => mem_segmentsOf hs
  have hseg := segmentsOf_collapse cs
  cases hs : segmentsOf cs with
  | nil => simp [collapseChars, hs, segmentsOf_slash_cons, segmentsOf_nil]
  | cons s ss =>
    rw [hs] at hmem hseg
    have hlast := getLast?_rooted (List.cons_ne_nil s ss) hmem
    rw [collapseChars, hseg]
    simp only [collapseChars, hs]
    split
    · simp
    · simp [hlast]

/-! ## Runs of slashes, one by one -/

instance : DecidableRel NotBothSlashes := fun a b => inferInstanceAs (Decidable ¬(a = '/' ∧ b = '/'))

/-- Pieces behind slashes are the text behind a slash, if only the slash separates them. -/
theorem rooted_pieces {sep : Char → Bool} {text : List Char}
    (h : ∀ c ∈ text, sep c = true → c = '/') : rooted (Text.pieces sep text) = '/' :: text := by
  induction text with
  | nil => rfl
  | cons c text ih =>
    have htext := ih fun d hd => h d (List.mem_cons_of_mem c hd)
    cases hc : sep c with
    | true =>
      rw [Text.pieces_cons_of_sep hc, rooted_cons, htext, h c List.mem_cons_self hc]
      rfl
    | false =>
      obtain ⟨p, ps, hps, hpieces⟩ := Text.pieces_cons_of_not_sep hc text
      rw [hps, rooted_cons, List.cons_append, List.cons.injEq] at htext
      rw [hpieces, rooted_cons, List.cons_append, List.cons_append, htext.2]

/-- A list in which neighbours are related is kept up to where that ends. -/
theorem destutter'_append_of_isChain {α : Type} {R : α → α → Prop} [DecidableRel R] {a b : α}
    {l : List α} (h : (a :: (l ++ [b])).IsChain R) (m : List α) :
    (l ++ b :: m).destutter' R a = a :: l ++ m.destutter' R b := by
  induction l generalizing a with
  | nil => exact List.destutter'_cons_pos _ (List.isChain_cons_cons.1 h).1
  | cons c l ih =>
    obtain ⟨hac, hrest⟩ := List.isChain_cons_cons.1 h
    rw [List.cons_append, List.destutter'_cons_pos _ hac, ih hrest]
    rfl

/-- **Of pieces behind slashes, the empty ones go when each run of slashes is made one**, but for a
last one. -/
theorem destutter_rooted {ps : List (List Char)} (hne : ps ≠ [])
    (h : ∀ p ∈ ps, ∀ c ∈ p, isSlash c = false) :
    (rooted ps).destutter NotBothSlashes =
      rooted (ps.filter (!·.isEmpty) ++ if ps.getLast? = some [] then [[]] else []) := by
  induction ps with
  | nil => exact absurd rfl hne
  | cons p ps ih =>
    have hp := h p List.mem_cons_self
    cases ps with
    | nil =>
      cases p with
      | nil => rfl
      | cons c cs => exact List.destutter_of_isChain _ _ (isChain_slash_cons (by simpa using hp))
    | cons q qs =>
      have hrest := ih (by simp) fun s hs => h s (List.mem_cons_of_mem p hs)
      cases p with
      | nil =>
        have hdrop : (rooted ([] :: q :: qs)).destutter NotBothSlashes =
            (rooted (q :: qs)).destutter NotBothSlashes :=
          List.destutter'_cons_neg _ (by simp [NotBothSlashes])
        rw [hdrop, hrest]
        rfl
      | cons c cs =>
        have hlast : (rooted [c :: cs]).getLast? ≠ some '/' :=
          getLast?_rooted (by simp) (by simpa using hp)
        have hchain : ('/' :: ((c :: cs) ++ ['/'])).IsChain NotBothSlashes :=
          List.isChain_append.2 ⟨isChain_slash_cons hp, .singleton _, fun a ha b _ hab =>
            hlast (by simpa [rooted, hab.1] using ha)⟩
        have hkeep : (rooted ((c :: cs) :: q :: qs)).destutter NotBothSlashes =
            '/' :: (c :: cs) ++ (rooted (q :: qs)).destutter NotBothSlashes :=
          destutter'_append_of_isChain hchain _
        rw [hkeep, hrest]
        rfl

/-- The last piece of a path is empty when nothing stands behind the last slash. -/
theorem getLast?_pieces_eq_nil_iff (cs : List Char) :
    (Text.pieces isSlash cs).getLast? = some [] ↔ ('/' :: cs).getLast? = some '/' := by
  have hpieces : rooted (Text.pieces isSlash cs) = '/' :: cs :=
    rooted_pieces fun c _ hc => by simpa [isSlash] using hc
  obtain ⟨init, p, hp⟩ := (List.eq_nil_or_concat' _).resolve_left (Text.pieces_ne_nil isSlash cs)
  have hmem : p ∈ Text.pieces isSlash cs := by simp [hp]
  have hslash := Text.not_sep_of_mem_pieces p hmem
  rw [← hpieces, hp, rooted, List.flatMap_append, List.flatMap_singleton, List.getLast?_concat,
    List.getLast?_append]
  cases p with
  | nil => simp
  | cons c p =>
    have hlast := getLast?_rooted (List.cons_ne_nil (c :: p) []) (by simpa using hslash)
    simpa [rooted] using hlast

/-- **A path is collapsed by putting a slash in front of it and making each run of slashes one.** -/
theorem collapseChars_eq_destutter (cs : List Char) :
    collapseChars cs = ('/' :: cs).destutter NotBothSlashes := by
  have hpieces : rooted (Text.pieces isSlash cs) = '/' :: cs :=
    rooted_pieces fun c _ hc => by simpa [isSlash] using hc
  have hlast := getLast?_pieces_eq_nil_iff cs
  rw [← hpieces, destutter_rooted (Text.pieces_ne_nil isSlash _)
    fun p hp => Text.not_sep_of_mem_pieces p hp]
  change collapseChars cs = rooted (segmentsOf cs ++ _)
  rw [collapseChars]
  cases hsegs : segmentsOf cs with
  | nil =>
    -- no piece is left, so all of them are empty, the last one too
    obtain ⟨p, hp⟩ := Option.ne_none_iff_exists'.1
      (mt List.getLast?_eq_none_iff.1 (Text.pieces_ne_nil isSlash cs))
    have hempty : p = [] := by
      by_contra hne
      have hmem : p ∈ segmentsOf cs := Text.mem_words.2 ⟨List.mem_of_getLast? hp, hne⟩
      rw [hsegs] at hmem
      exact List.not_mem_nil hmem
    rw [if_pos (hp.trans (congrArg some hempty))]
    rfl
  | cons s ss =>
    have hcs : cs ≠ [] := by
      rintro rfl
      cases hsegs
    rw [List.getLast?_cons_of_ne_nil hcs] at hlast
    simp only [hlast]
    split <;> simp [rooted]

/-- A path without the slash at its end, unless that is all there is. -/
def withoutTrailingSlash (cs : List Char) : List Char :=
  if cs.getLast? = some '/' ∧ cs ≠ ['/'] then cs.dropLast else cs

/-- **A path with each run of slashes made one, and without a slash at its end, is its segments
behind slashes.** -/
theorem withoutTrailingSlash_destutter (cs : List Char) :
    withoutTrailingSlash (('/' :: cs).destutter NotBothSlashes) =
      match segmentsOf cs with
      | [] => ['/']
      | s :: ss => rooted (s :: ss) := by
  rw [← collapseChars_eq_destutter, collapseChars]
  cases hsegs : segmentsOf cs with
  | nil => rfl
  | cons s ss =>
    have hmem : ∀ t ∈ s :: ss, t ≠ [] ∧ ∀ c ∈ t, isSlash c = false :=
      fun t ht => mem_segmentsOf (hsegs ▸ ht)
    have hlast := getLast?_rooted (List.cons_ne_nil s ss) hmem
    simp only []
    split
    · have hlong : rooted (s :: ss) ≠ [] := List.cons_ne_nil _ _
      rw [withoutTrailingSlash, if_pos ⟨List.getLast?_concat, by simpa using hlong⟩,
        List.dropLast_concat]
    · rw [List.append_nil, withoutTrailingSlash, if_neg fun h => hlast h.1]

end PageRouter.Path
