import PageRouter.Proofs.Text.Split
import PageRouter.Proofs.Url.Segments
import PageRouter.Url.Reference

/-!
# References that are paths

A reference that begins with a dot and a slash names no scheme and no host, so that it can always be
read.  What comes out is known part by part: the path is walked from the text in front of the first
question mark or hash, and what is written of a query or a fragment is only what may stand there.

* `trimmedEnd_append`: only what stands behind the last visible character, and a break between two
  of them, is dropped.
* `resolve_of_dot`: what a reference behind a dot and a slash is read as.
* `readTail_tailOf`: a query and a fragment that are in normal form are read as they were written.
-/

set_option autoImplicit false

namespace PageRouter.Url

variable {scheme : Scheme}

/-! ## What is dropped -/

/-- A text without the blanks at its end and the breaks within it. -/
def trimmedEnd (cs : List Char) : List Char :=
  ((cs.reverse.dropWhile isBlank).reverse).filter fun c => !isBreak c

theorem not_isBlank_of_visible {c : Char} (h : 0x20 < c.toNat) : isBlank c = false := by
  simpa [isBlank] using h

theorem not_isBreak_of_not_isBlank {c : Char} (h : isBlank c = false) : isBreak c = false := by
  rw [isBreak, Bool.or_eq_false_iff, Bool.or_eq_false_iff, beq_eq_false_iff_ne,
    beq_eq_false_iff_ne, beq_eq_false_iff_ne]
  refine ⟨⟨?_, ?_⟩, ?_⟩ <;> rintro rfl <;> exact absurd h (by decide)

/-- **What is visible stays.** -/
theorem trimmedEnd_append {pre : List Char} (h : ∀ c ∈ pre, isBlank c = false) (cs : List Char) :
    trimmedEnd (pre ++ cs) = pre ++ trimmedEnd cs := by
  have hpre : (pre.filter fun c => !isBreak c) = pre :=
    List.filter_eq_self.2 fun c hc => by rw [not_isBreak_of_not_isBlank (h c hc)]; rfl
  have hdrop : pre.reverse.dropWhile isBlank = pre.reverse := by
    cases hrev : pre.reverse with
    | nil => rfl
    | cons c rev =>
      have hc : c ∈ pre := List.mem_reverse.1 (hrev ▸ List.mem_cons_self)
      rw [List.dropWhile_cons, h c hc]
      rfl
  rw [trimmedEnd, trimmedEnd, List.reverse_append, List.dropWhile_append]
  split
  · rename_i hnil
    rw [hdrop, List.reverse_reverse, hpre, List.isEmpty_iff.1 hnil]
    exact (List.append_nil pre).symm
  · rw [List.reverse_append, List.reverse_reverse, List.filter_append, hpre]

theorem trimmedEnd_eq_self {cs : List Char} (h : ∀ c ∈ cs, isBlank c = false) :
    trimmedEnd cs = cs := by
  have happend := trimmedEnd_append h []
  rw [List.append_nil] at happend
  exact happend.trans (List.append_nil cs)

theorem trimmedEnd_cons {c : Char} (h : isBlank c = false) (cs : List Char) :
    trimmedEnd (c :: cs) = c :: trimmedEnd cs := by
  have hpre : ∀ d ∈ [c], isBlank d = false := fun d hd => by rw [List.mem_singleton.1 hd]; exact h
  exact trimmedEnd_append hpre cs

/-- What stands in front of something visible stays, but for breaks. -/
theorem trimmedEnd_concat {cs : List Char} {d : Char} (hcs : ∀ c ∈ cs, isBreak c = false)
    (hd : isBlank d = false) : trimmedEnd (cs ++ [d]) = cs ++ [d] := by
  have hdrop : (cs ++ [d]).reverse.dropWhile isBlank = (cs ++ [d]).reverse := by
    rw [List.reverse_concat, List.dropWhile_cons, hd]
    rfl
  rw [trimmedEnd, hdrop, List.reverse_reverse]
  refine List.filter_eq_self.2 fun c hc => ?_
  rcases List.mem_append.1 hc with hc | hc
  · rw [hcs c hc]
    rfl
  · rw [List.mem_singleton.1 hc, not_isBreak_of_not_isBlank hd]
    rfl

theorem trimmed_cons {c : Char} (h : isBlank c = false) (cs : List Char) :
    trimmed (c :: cs) = c :: trimmedEnd cs := by
  have hdrop : (c :: cs).dropWhile isBlank = c :: cs := by
    rw [List.dropWhile_cons, h]
    rfl
  rw [trimmed, hdrop]
  exact trimmedEnd_cons h cs

/-! ## Reading behind a dot and a slash -/

theorem readPath_append {text rest : List Char} (htext : ∀ c ∈ text, endsPath c = false)
    (hrest : ∀ c ∈ rest.head?, endsPath c = true) :
    readPath scheme (text ++ rest) = readTail scheme (normalPath scheme text) rest := by
  rw [readPath, Text.cut_append_of_stops htext hrest]

theorem readPath_eq (scheme : Scheme) (cs : List Char) :
    readPath scheme cs =
      readTail scheme (normalPath scheme (Text.cut endsPath cs).1) (Text.cut endsPath cs).2 := rfl

/-- A dot and a slash in front of a path lead nowhere else. -/
theorem readPath_dot_cons {c : Char} (h : scheme.isSeparator c = true) (cs : List Char) :
    readPath scheme ('.' :: c :: cs) = readPath scheme cs := by
  have hends : endsPath c = false := by
    rw [endsPath, Bool.or_eq_false_iff, beq_eq_false_iff_ne, beq_eq_false_iff_ne]
    constructor <;> rintro rfl <;> cases scheme <;> exact absurd h (by decide)
  have hcut : '.' :: c :: cs =
      ('.' :: c :: (Text.cut endsPath cs).1) ++ (Text.cut endsPath cs).2 := by
    rw [List.cons_append, List.cons_append, Text.cut_append]
  have hfront : ∀ d ∈ '.' :: c :: (Text.cut endsPath cs).1, endsPath d = false := by
    intro d hd
    rcases List.mem_cons.1 hd with rfl | hd
    · rfl
    · rcases List.mem_cons.1 hd with rfl | hd
      · exact hends
      · exact Text.not_stop_of_mem_cut hd
  rw [hcut, readPath_append hfront fun d hd => Text.stop_of_mem_head?_cut hd,
    normalPath_dot_cons h, readPath_eq]

/-- **A reference behind a dot and a slash is a path.** -/
theorem resolve_of_dot {reference : String} {c : Char} {cs : List Char}
    (href : reference.toList = '.' :: c :: cs) (hc : Scheme.http.isSeparator c = true) :
    resolve reference = .ok (readPath .http (trimmedEnd cs)) := by
  have hblank : isBlank c = false := by
    simp only [Scheme.isSeparator, Scheme.isSpecial, Bool.true_and, Bool.or_eq_true,
      beq_iff_eq] at hc
    rcases hc with rfl | rfl <;> decide
  have htrimmed : trimmed reference.toList = '.' :: c :: trimmedEnd cs := by
    rw [href, trimmed_cons (by decide), trimmedEnd_cons hblank]
  have hread : readRelative ('.' :: c :: trimmedEnd cs) =
      .ok (readPath .http ('.' :: c :: trimmedEnd cs)) := rfl
  rw [resolve, htrimmed]
  exact hread.trans (by rw [readPath_dot_cons hc])

/-! ## Queries and fragments -/

/-- The part of an address as which its query is written. -/
def Scheme.queryPlace (scheme : Scheme) : Place :=
  if scheme.isSpecial then .webQuery else .query

@[simp]
theorem path_readTail (scheme : Scheme) (path rest : List Char) :
    (readTail scheme path rest).path = path := by
  fun_cases readTail scheme path rest <;> rfl

theorem keeps_of_mem_readFragment {rest f : List Char} (h : readFragment rest = some f) :
    ∀ c ∈ f, Place.fragment.keeps c = true := by
  rw [readFragment.eq_def] at h
  split at h
  · rw [← Option.some.inj h]
    exact fun c hc => keeps_of_mem_encode hc
  · exact absurd h (by simp)

theorem keeps_of_mem_fragment {path rest f : List Char}
    (h : (readTail scheme path rest).fragment = some f) :
    ∀ c ∈ f, Place.fragment.keeps c = true := by
  rw [readTail.eq_def] at h
  split at h
  · exact keeps_of_mem_readFragment h
  · exact keeps_of_mem_readFragment h

theorem keeps_of_mem_query {path rest q : List Char}
    (h : (readTail scheme path rest).query = some q) :
    ∀ c ∈ q, scheme.queryPlace.keeps c = true := by
  rw [readTail.eq_def] at h
  split at h
  · rw [← Option.some.inj h]
    exact fun c hc => keeps_of_mem_encode hc
  · exact nomatch h

theorem visible_of_keeps {place : Place} (hspace : place.keeps ' ' = false) {c : Char}
    (h : place.keeps c = true) : 0x20 < c.toNat ∧ c.toNat < 0x7F := by
  have hne : c.toNat ≠ 0x20 := by
    intro hcode
    rw [← Char.ofNat_toNat c, hcode] at h
    exact absurd (hspace.symm.trans h) (by decide)
  simp only [Place.keeps, Bool.and_eq_true, decide_eq_true_eq] at h
  omega

/-- A query and a fragment as they stand behind a path. -/
def tailOf (query fragment : Option (List Char)) : List Char :=
  query.elim [] ('?' :: ·) ++ fragment.elim [] ('#' :: ·)

theorem visible_of_mem_tailOf {query fragment : Option (List Char)}
    (hquery : ∀ q ∈ query, ∀ c ∈ q, scheme.queryPlace.keeps c = true)
    (hfragment : ∀ f ∈ fragment, ∀ c ∈ f, Place.fragment.keeps c = true) {c : Char}
    (hc : c ∈ tailOf query fragment) : 0x20 < c.toNat ∧ c.toNat < 0x7F := by
  rcases List.mem_append.1 hc with hc | hc
  · cases query with
    | none => exact absurd hc List.not_mem_nil
    | some q =>
      rcases List.mem_cons.1 hc with rfl | hc
      · decide
      · exact visible_of_keeps (by cases scheme <;> rfl) (hquery q rfl c hc)
  · cases fragment with
    | none => exact absurd hc List.not_mem_nil
    | some f =>
      rcases List.mem_cons.1 hc with rfl | hc
      · decide
      · exact visible_of_keeps rfl (hfragment f rfl c hc)

theorem endsPath_of_mem_head?_tailOf {query fragment : Option (List Char)} {c : Char}
    (h : c ∈ (tailOf query fragment).head?) : endsPath c = true := by
  cases query with
  | some q => rw [← Option.some.inj h]; rfl
  | none =>
    cases fragment with
    | some f => rw [← Option.some.inj h]; rfl
    | none => exact absurd h (by simp [tailOf])

theorem readFragment_elim {fragment : Option (List Char)}
    (h : ∀ f ∈ fragment, ∀ c ∈ f, Place.fragment.keeps c = true) :
    readFragment (fragment.elim [] ('#' :: ·)) = fragment := by
  cases fragment with
  | none => rfl
  | some f => exact congrArg some (encode_eq_self (h f rfl))

/-- **A query and a fragment are read back from behind a path.** -/
theorem readTail_tailOf (path : List Char) {query fragment : Option (List Char)}
    (hquery : ∀ q ∈ query, ∀ c ∈ q, scheme.queryPlace.keeps c = true)
    (hfragment : ∀ f ∈ fragment, ∀ c ∈ f, Place.fragment.keeps c = true) :
    readTail scheme path (tailOf query fragment) = ⟨path, query, fragment⟩ := by
  have hread := readFragment_elim hfragment
  cases query with
  | none =>
    rw [tailOf, Option.elim_none, List.nil_append]
    cases fragment with
    | none => rfl
    | some f => rw [readTail.eq_2 _ _ _ (by simp), hread]
  | some q =>
    have hash : ∀ c ∈ q, (c == '#') = false := by
      intro c hc
      have hkeeps := hquery q rfl c hc
      rw [beq_eq_false_iff_ne]
      rintro rfl
      cases scheme <;> exact absurd hkeeps (by decide)
    have hstop : ∀ c ∈ (fragment.elim [] ('#' :: ·)).head?, (c == '#') = true := by
      cases fragment with
      | none => simp
      | some f => simp
    rw [tailOf, Option.elim_some, List.cons_append, readTail.eq_1,
      Text.cut_append_of_stops hash hstop]
    have hencode : encode scheme.queryPlace q = q := encode_eq_self (hquery q rfl)
    simp only [hread]
    exact congrArg (Parts.mk path · fragment) (congrArg some hencode)

end PageRouter.Url
