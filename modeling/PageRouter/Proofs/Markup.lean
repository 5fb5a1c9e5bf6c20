import PageRouter.Markup
import PageRouter.Proofs.Text.Split

/-!
# Reading what was escaped

Escaped text is read by undoing the four references that `Markup.escape` writes, and it is found
again in a fragment behind the mark that opens it, up to the character that ends it.

* `unescape_escape`: reading undoes escaping, also of texts that look escaped already.
* `delimiters_element_congr`, `delimiters_text`: the delimiters of a fragment are those of its tags
  and of the names of its attributes; text and the values of attributes bring in none.
* `behind?_append_of_isApart`, `isApart_escape`: a mark is not found in escaped text, nor in other
  text that it does not begin in.
* `valueBehind?_eq`: a value is read back from behind its mark.
-/

set_option autoImplicit false

namespace PageRouter.Markup

/-! ## Undoing references -/

/-- The text that is written with references for the four delimiters.  An ampersand that begins none
of them stands for itself. -/
def unescapeChars : List Char → List Char
  | '&' :: 'a' :: 'm' :: 'p' :: ';' :: cs => '&' :: unescapeChars cs
  | '&' :: 'l' :: 't' :: ';' :: cs => '<' :: unescapeChars cs
  | '&' :: 'g' :: 't' :: ';' :: cs => '>' :: unescapeChars cs
  | '&' :: 'q' :: 'u' :: 'o' :: 't' :: ';' :: cs => '"' :: unescapeChars cs
  | c :: cs => c :: unescapeChars cs
  | [] => []

/-- The text that is written with references for the four delimiters. -/
def unescape (s : String) : String := String.ofList (unescapeChars s.toList)

theorem unescapeChars_cons {c : Char} (hc : c ≠ '&') (cs : List Char) :
    unescapeChars (c :: cs) = c :: unescapeChars cs := by
  rw [unescapeChars] <;> rintro _ rfl <;> exact absurd rfl hc

/-- A character is read back from its written form, whatever stands behind it. -/
theorem unescapeChars_escapeChar_append (c : Char) (cs : List Char) :
    unescapeChars (escapeChar c ++ cs) = c :: unescapeChars cs := by
  by_cases hc : c ∈ ['&', '<', '>', '"']
  · simp only [List.mem_cons, List.not_mem_nil, or_false] at hc
    rcases hc with rfl | rfl | rfl | rfl <;> simp [escapeChar, unescapeChars]
  · simp only [List.mem_cons, List.not_mem_nil, or_false, not_or] at hc
    obtain ⟨hamp, hlt, hgt, hquot⟩ := hc
    rw [escapeChar, if_neg hamp, if_neg hlt, if_neg hgt, if_neg hquot]
    exact unescapeChars_cons hamp cs

/-- **Reading undoes escaping.**  So no two texts are written alike, not even if one of them looks
like the other one escaped. -/
theorem unescape_escape (s : String) : unescape (escape s) = s := by
  have hchars : ∀ cs : List Char, unescapeChars (cs.flatMap escapeChar) = cs := by
    intro cs
    induction cs with
    | nil => rfl
    | cons c cs ih => rw [List.flatMap_cons, unescapeChars_escapeChar_append, ih]
  rw [unescape, escape, String.toList_ofList, hchars, String.ofList_toList]

/-! ## Delimiters -/

/-- The delimiters of a text, in order. -/
def delimitersOf (html : String) : List Char := html.toList.filter isDelimiter

/-- The delimiters of a fragment, in order: what is left of it when everything else is deleted. -/
def delimiters (m : Markup) : List Char := delimitersOf m.html

theorem delimitersOf_append (a b : String) :
    delimitersOf (a ++ b) = delimitersOf a ++ delimitersOf b := by
  rw [delimitersOf, String.toList_append, List.filter_append]
  rfl

theorem delimitersOf_escape (s : String) : delimitersOf (escape s) = [] := by
  refine List.filter_eq_nil_iff.2 fun c hc => ?_
  simp [not_delimiter_of_mem_escape hc]

theorem delimiters_append (a b : Markup) : (a ++ b).delimiters = a.delimiters ++ b.delimiters :=
  delimitersOf_append a.html b.html

theorem delimiters_text (s : String) : (text s).delimiters = [] := delimitersOf_escape s

/-- Attributes have two quotes each, and the delimiters of their names. -/
theorem delimitersOf_attributes (attrs : List (String × String)) :
    delimitersOf (attributes attrs) =
      (attrs.map Prod.fst).flatMap fun name => delimitersOf name ++ ['"', '"'] := by
  induction attrs with
  | nil => rfl
  | cons a attrs ih =>
    have hcons : attributes (a :: attrs) =
        " " ++ a.1 ++ "=\"" ++ escape a.2 ++ "\"" ++ attributes attrs := by
      simp [attributes]
    have hblank : delimitersOf " " = [] := rfl
    have hopening : delimitersOf "=\"" = ['"'] := rfl
    have hclosing : delimitersOf "\"" = ['"'] := rfl
    rw [hcons, List.map_cons, List.flatMap_cons, ← ih]
    simp only [delimitersOf_append, delimitersOf_escape, hblank, hopening, hclosing]
    simp

/-- **The delimiters of an element do not depend on what its attributes say.** -/
theorem delimiters_element_congr {tag : String} {attrs attrs' : List (String × String)}
    {content content' : Markup} (hattrs : attrs.map Prod.fst = attrs'.map Prod.fst)
    (hcontent : content.delimiters = content'.delimiters) :
    (element tag attrs content).delimiters = (element tag attrs' content').delimiters := by
  rw [delimiters, delimiters] at hcontent
  simp only [delimiters, element, delimitersOf_append, delimitersOf_attributes, hattrs, hcontent]

/-! ## Values behind their marks -/

/-- What stands behind the first place of a mark. -/
def behind? (mark : List Char) : List Char → Option (List Char)
  | [] => none
  | c :: cs =>
    if mark.isPrefixOf (c :: cs) then some ((c :: cs).drop mark.length) else behind? mark cs

/-- The value behind the first place of a mark, up to the next character of a kind, with its
references undone. -/
def valueBehind? (mark : String) (stop : Char) (m : Markup) : Option String :=
  (behind? mark.toList m.html.toList).map fun cs =>
    unescape (String.ofList (Text.cut (· == stop) cs).1)

/-- Whether a mark stands nowhere in a text, nor begins in it. -/
def isApart (mark : List Char) : List Char → Bool
  | [] => true
  | c :: cs =>
    !mark.isPrefixOf (c :: cs) && !(c :: cs).isPrefixOf mark && isApart mark cs

/-- A text in which the mark does not begin is passed over. -/
theorem behind?_append_of_isApart {mark cs : List Char} (hapart : isApart mark cs = true)
    (ds : List Char) : behind? mark (cs ++ ds) = behind? mark ds := by
  induction cs with
  | nil => rfl
  | cons c cs ih =>
    simp only [isApart, Bool.and_eq_true, Bool.not_eq_true', ← Bool.not_eq_true,
      List.isPrefixOf_iff_prefix] at hapart
    obtain ⟨⟨hmark, htext⟩, hrest⟩ := hapart
    have hnot : ¬mark.isPrefixOf (c :: (cs ++ ds)) = true := by
      rw [List.isPrefixOf_iff_prefix, ← List.cons_append]
      intro hstarts
      rcases List.prefix_or_prefix_of_prefix hstarts (List.prefix_append (c :: cs) ds) with h | h
      · exact hmark h
      · exact htext h
    rw [List.cons_append, behind?, if_neg hnot, ih hrest]

/-- A mark that opens a tag begins nowhere in escaped text. -/
theorem isApart_escape {mark : List Char} (hmark : mark.head? = some '<') (s : String) :
    isApart mark (escape s).toList = true := by
  obtain ⟨tag, rfl⟩ := List.head?_eq_some_iff.1 hmark
  have hchars : ∀ cs : List Char, (∀ c ∈ cs, isDelimiter c = false) →
      isApart ('<' :: tag) cs = true := by
    intro cs hcs
    induction cs with
    | nil => rfl
    | cons c cs ih =>
      have hc : c ≠ '<' := by
        rintro rfl
        exact absurd (hcs '<' List.mem_cons_self) (by decide)
      have hrest := ih fun d hd => hcs d (List.mem_cons_of_mem c hd)
      simp [isApart, List.isPrefixOf, hrest, hc, hc.symm]
  exact hchars _ fun c hc => not_delimiter_of_mem_escape hc

theorem length_le_of_behind? {mark cs rest : List Char} (h : behind? mark cs = some rest) :
    mark.length ≤ cs.length := by
  induction cs with
  | nil => exact nomatch h
  | cons c cs ih =>
    rw [behind?] at h
    split at h
    · rename_i hstarts
      exact (List.isPrefixOf_iff_prefix.1 hstarts).length_le
    · exact Nat.le_succ_of_le (ih h)

/-- Behind a text that ends with the first place of a mark stands what follows it. -/
theorem behind?_append {mark cs : List Char} (h : behind? mark cs = some []) (ds : List Char) :
    behind? mark (cs ++ ds) = some ds := by
  induction cs with
  | nil => exact nomatch h
  | cons c cs ih =>
    rw [behind?] at h
    rw [List.cons_append, behind?, ← List.cons_append]
    split at h
    · rename_i hstarts
      rw [List.isPrefixOf_iff_prefix] at hstarts
      rw [if_pos (List.isPrefixOf_iff_prefix.2 (hstarts.trans (List.prefix_append _ ds))),
        List.drop_append_of_le_length hstarts.length_le, Option.some.inj h, List.nil_append]
    · -- the mark is no longer than the text behind, so that it cannot reach over its end
      rename_i hnot
      rw [if_neg, ih h]
      intro hstarts
      rw [List.isPrefixOf_iff_prefix] at hstarts hnot
      exact hnot (List.prefix_of_prefix_length_le hstarts (List.prefix_append (c :: cs) ds)
        (Nat.le_succ_of_le (length_le_of_behind? h)))

/-- **A value is read back from behind its mark**, up to the delimiter that ends it. -/
theorem valueBehind?_eq {m : Markup} {mark value : String} {stop : Char} {tail : List Char}
    (hstop : isDelimiter stop = true) (htail : tail.head? = some stop)
    (h : behind? mark.toList m.html.toList = some ((escape value).toList ++ tail)) :
    m.valueBehind? mark stop = some value := by
  have hinside : ∀ c ∈ (escape value).toList, (c == stop) = false := by
    intro c hc
    rw [beq_eq_false_iff_ne]
    rintro rfl
    rw [not_delimiter_of_mem_escape hc] at hstop
    exact Bool.false_ne_true hstop
  have hends : ∀ d ∈ tail.head?, (d == stop) = true := by
    intro d hd
    rw [htail] at hd
    exact beq_iff_eq.2 (Option.some.inj hd).symm
  rw [valueBehind?, h, Option.map_some, Text.cut_append_of_stops hinside hends,
    String.ofList_toList, unescape_escape]

end PageRouter.Markup
