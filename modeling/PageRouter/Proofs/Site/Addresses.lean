import PageRouter.Navigation.Navigator
import PageRouter.Proofs.Site.EntryPoints
import PageRouter.Proofs.Url.Schemes

/-!
# Locations of whole addresses

A text that does not begin with a slash may be an address of any scheme.  Its location is written as a
path behind a slash all the same, and read back as one.  Behind the schemes that browsers know that
is the location itself.  Behind any other scheme a path is written by other rules: a backslash
separates nothing there, an apostrophe may stand in a query, and a path without a slash in front
keeps its dots and its blanks.  Such a location is not read back, unless none of this occurs.

* `IsRead`: what is so of every location that was read from a text.
* `IsRead.parse_display_iff`: it is read back when nothing is left to do about it.
* `IsRead.isSettled_iff`: what that means, in terms of its path and its query.
* `push_display_iff`, `answer_of_isPlainPath`: what follows for navigation and for requests.
* `readsAs_of_parse`: the main result, for every text that has a location.
-/

set_option autoImplicit false

namespace PageRouter

namespace Location

open Url (Place Scheme)

variable {input : String} {l : Location}

/-! ## What reading leaves -/

/-- What is so of every location that was read from a text, whatever its scheme. -/
structure IsRead (l : Location) : Prop where
  collapsed : Path.collapse l.path = l.path
  query : ∀ q ∈ l.query, ∀ c ∈ q.toList, Place.query.keeps c = true
  fragment : ∀ f ∈ l.fragment, ∀ c ∈ f.toList, Place.fragment.keeps c = true

theorem exists_resolve_of_parse (h : parse input = .ok l) :
    ∃ parts, Url.resolve (reference input) = .ok parts ∧ l = ofParts parts := by
  rw [parse] at h
  split at h
  · rename_i parts hparts
    exact ⟨parts, hparts, (Except.ok.inj h).symm⟩
  · cases h

theorem isRead_readTail (scheme : Scheme) (path rest : List Char) :
    (ofParts (Url.readTail scheme path rest)).IsRead where
  collapsed := by
    rw [ofParts, Path.collapse, String.toList_ofList, Path.collapseChars_collapseChars]
  query := by
    intro q hq
    obtain ⟨q', hq', rfl⟩ := Option.map_eq_some_iff.1 hq
    rw [String.toList_ofList]
    exact Url.keeps_query_of_mem_query hq'
  fragment := by
    intro f hf
    obtain ⟨f', hf', rfl⟩ := Option.map_eq_some_iff.1 hf
    rw [String.toList_ofList]
    exact Url.keeps_of_mem_fragment hf'

theorem isRead_of_parse (h : parse input = .ok l) : l.IsRead := by
  obtain ⟨parts, hparts, rfl⟩ := exists_resolve_of_parse h
  rcases Url.resolve_cases hparts with ⟨text, rfl⟩ | ⟨_, text, rfl⟩
  · exact isRead_readTail _ _ _
  · exact isRead_readTail _ _ _

namespace IsRead

theorem head?_path (h : l.IsRead) : l.path.toList.head? = some '/' := by
  rw [Path.toList_of_collapse_eq_self h.collapsed]
  exact Path.head?_collapseChars _

theorem isChain_path (h : l.IsRead) : l.path.toList.IsChain Path.NotBothSlashes := by
  rw [Path.toList_of_collapse_eq_self h.collapsed]
  exact Path.isChain_collapseChars _

/-- **A location is read back from its text when nothing is left to do about it, and only then.**
Its text begins with a slash, and what is read of such a text is settled. -/
theorem parse_display_iff (h : l.IsRead) : parse l.display = .ok l ↔ l.IsSettled := by
  constructor
  · intro hback
    obtain ⟨cs, hcs⟩ := List.head?_eq_some_iff.1 h.head?_path
    have hdisplay : l.display.toList =
        '/' :: (cs ++ Url.tailOf (l.query.map String.toList) (l.fragment.map String.toList)) := by
      rw [toList_display, hcs]
      rfl
    rw [parse_of_toList hdisplay rfl] at hback
    rw [← Except.ok.inj hback]
    exact isSettled_readPath _
  · intro hsettled
    exact hsettled.parse_display

end IsRead

/-! ## Plain paths -/

/-- A path as it is written behind a scheme that browsers know: nothing in it has to be encoded, no
backslash stands in it, and no segment is one of dots. -/
structure IsPlainPath (path : String) : Prop where
  keeps : ∀ c ∈ path.toList, Place.path.keeps c = true
  noBackslash : '\\' ∉ path.toList
  notDots : ∀ s ∈ Path.segmentsOf path.toList, ¬ Url.IsDots s

theorem IsSettled.isPlainPath (h : l.IsSettled) : IsPlainPath l.path where
  keeps := fun _ hc => h.keeps hc
  noBackslash := fun hc => (h.isNormalPath.plain _ hc).2.2 rfl
  notDots := h.isNormalPath.notDots

theorem IsPlainPath.isSettled_segment {path : String} (h : IsPlainPath path) {s : List Char}
    (hs : s ∈ Path.segmentsOf path.toList) : Url.IsSettled .http s where
  keeps := fun c hc => h.keeps c (Text.mem_of_mem_pieces (Text.mem_words.1 hs).1 hc)
  notSeparator := by
    intro c hc
    have hslash : Path.isSlash c = false := (Path.mem_segmentsOf hs).2 c hc
    have hbackslash : c ≠ '\\' := by
      rintro rfl
      exact h.noBackslash (Text.mem_of_mem_pieces (Text.mem_words.1 hs).1 hc)
    rw [Scheme.isSeparator, ← Path.isSlash, hslash, beq_eq_false_iff_ne.2 hbackslash]
    rfl
  notDots := h.notDots s hs

/-- **Nothing is left to do about a location with a plain path and no apostrophe in its query.** -/
theorem IsRead.isSettled_iff (h : l.IsRead) :
    l.IsSettled ↔ IsPlainPath l.path ∧ ∀ q ∈ l.query, '\'' ∉ q.toList := by
  constructor
  · intro hsettled
    refine ⟨hsettled.isPlainPath, ?_⟩
    intro q hq happostrophe
    exact (Url.keeps_webQuery_iff.1 (hsettled.query q hq _ happostrophe)).2 rfl
  · rintro ⟨hplain, hquery⟩
    refine ⟨h.collapsed, fun s hs => hplain.isSettled_segment hs, ?_, h.fragment⟩
    intro q hq c hc
    refine Url.keeps_webQuery_iff.2 ⟨h.query q hq c hc, ?_⟩
    rintro rfl
    exact hquery q hq hc

/-- The path alone is a location, and of that nothing is left to do when the path is plain. -/
theorem IsRead.parse_path_iff (h : l.IsRead) :
    parse l.path = .ok ⟨l.path, none, none⟩ ↔ IsPlainPath l.path := by
  have hread : IsRead ⟨l.path, none, none⟩ := ⟨h.collapsed, by simp, by simp⟩
  have hdisplay : display ⟨l.path, none, none⟩ = l.path := by simp [display]
  have hback := hread.parse_display_iff.trans hread.isSettled_iff
  rw [hdisplay] at hback
  rw [hback]
  exact and_iff_left (by simp)

/-! ## By the scheme of the address -/

/-- Behind a scheme that browsers know, the location is settled. -/
theorem isSettled_of_parse (h : parse input = .ok l)
    (hscheme : Url.schemeOf (reference input) ≠ .other) : l.IsSettled := by
  obtain ⟨parts, hparts, rfl⟩ := exists_resolve_of_parse h
  rcases Url.resolve_cases hparts with ⟨text, rfl⟩ | ⟨hunsplit, _⟩
  · have hspecial : (Url.schemeOf (reference input)).isSpecial = true := by
      cases hkind : Url.schemeOf (reference input) with
      | other => exact absurd hkind hscheme
      | http | network | file => rfl
    exact isSettled_readPath_of_isSpecial hspecial text
  · exact absurd (Url.schemeOf_of_isOpaque hunsplit) hscheme

/-- Behind any scheme, a path of segments keeps none of dots. -/
theorem not_isDots_of_parse (h : parse input = .ok l)
    (hunsplit : ¬ Url.IsOpaque (reference input)) {s : List Char}
    (hs : s ∈ Path.segmentsOf l.path.toList) : ¬ Url.IsDots s := by
  obtain ⟨parts, hparts, rfl⟩ := exists_resolve_of_parse h
  obtain ⟨text, rfl⟩ := (Url.resolve_cases hparts).resolve_right fun hcase => hunsplit hcase.1
  obtain ⟨segs, hpath, hsegs⟩ := Url.exists_normalPath_eq (Url.schemeOf (reference input))
    (Text.cut Url.endsPath text).1
  have hslash : ∀ t ∈ segs, ∀ c ∈ t, Path.isSlash c = false :=
    fun t ht c hc => Url.not_isSlash_of_not_isSeparator ((hsegs t ht).notSeparator c hc)
  have hread : (Url.readPath (Url.schemeOf (reference input)) text).path = Path.rooted segs := by
    rw [Url.readPath_eq, Url.path_readTail, hpath]
  exact (hsegs s (mem_of_mem_segmentsOf_ofParts hread hslash hs)).notDots

end Location

/-! ## Navigation and requests -/

/-- Going to the text of where one is changes nothing when that text is read back. -/
theorem Navigator.push_display_iff (n : Navigator) :
    n.push n.location.display = .ok (false, n) ↔
      Location.parse n.location.display = .ok n.location := by
  rw [push]
  cases hparse : Location.parse n.location.display with
  | error fault => exact ⟨nofun, nofun⟩
  | ok next =>
    show Except.ok (n.pushTo next) = .ok (false, n) ↔ _
    rw [pushTo, Except.ok.injEq, Except.ok.injEq]
    by_cases hsame : n.location = next
    · simp [hsame]
    · simp [hsame, Ne.symm hsame]

/-- What may stand in the path of a location may stand in the path of a request. -/
theorem Http.Uri.isPathChar_of_keeps {c : Char} (h : Url.Place.path.keeps c = true) :
    isPathChar c = true := by
  have hall : ∀ n ∈ List.range 0x7F,
      Url.Place.path.keeps (Char.ofNat n) = true → isPathChar (Char.ofNat n) = true := by
    decide +kernel
  have hvisible := Url.visible_of_keeps rfl h
  have hc := hall c.toNat (List.mem_range.2 hvisible.2)
  rw [Char.ofNat_toNat] at hc
  exact hc h

/-- A plain path can be asked for, if it is not too long. -/
theorem Http.Uri.parse?_of_isPlainPath {path : String} (hrooted : path.toList.head? = some '/')
    (hplain : Location.IsPlainPath path) (hsize : path.utf8ByteSize ≤ maxBytes) :
    parse? path = some ⟨path⟩ := by
  obtain ⟨cs, hcs⟩ := List.head?_eq_some_iff.1 hrooted
  have hends : ∀ c ∈ path.toList, (c == '?' || c == '#') = false := by
    intro c hc
    have hkeeps := hplain.keeps c hc
    rw [Bool.or_eq_false_iff, beq_eq_false_iff_ne, beq_eq_false_iff_ne]
    constructor
    · rintro rfl
      exact absurd hkeeps (by decide)
    · rintro rfl
      exact absurd hkeeps (by decide)
  have hcut : Text.cut (fun c => c == '?' || c == '#') path.toList = (path.toList, []) := by
    have hwhole := @Text.cut_append_of_stops _ path.toList [] hends nofun
    rwa [List.append_nil] at hwhole
  have hread : readPath? path.toList = some path.toList := by
    have hchars : path.toList.all isPathChar = true :=
      List.all_eq_true.2 fun c hc => isPathChar_of_keeps (hplain.keeps c hc)
    simp [readPath?, hcut, hchars]
  have htarget : readTarget? path.toList = some path.toList := by
    rw [hcs] at hread ⊢
    exact hread
  rw [parse?, if_neg (by omega), htarget, Option.map_some, String.ofList_toList]

namespace Location

variable {input : String} {l : Location}

/-- A request for a plain path reaches what is shown there. -/
theorem answer_of_isPlainPath (h : l.IsRead) (hplain : IsPlainPath l.path) (r : Http.Router)
    (headers : Http.Headers) :
    r.answer ⟨⟨l.path⟩, "GET", headers⟩ = .ofOutcome (r.site.dispatch l.path) :=
  @Http.Router.answer_get r ⟨l.path⟩ _ h.head?_path (h.parse_path_iff.2 hplain) headers

/-! ## The main result -/

/-- What is known of the location that a text stands for. -/
structure ReadsAs (input : String) (l : Location) : Prop where
  /-- The path begins with a slash. -/
  rooted : l.path.toList.head? = some '/'
  /-- No two slashes of it stand side by side. -/
  collapsed : l.path.toList.IsChain Path.NotBothSlashes
  /-- Without a scheme, or behind one that browsers know, the location is in normal form. -/
  known : Url.schemeOf (reference input) ≠ .other → IsNormalPath l.path ∧ parse l.display = .ok l
  /-- No segment is one of dots, unless the path never had segments. -/
  notDots : ¬ Url.IsOpaque (reference input) →
    ∀ s ∈ Path.segmentsOf l.path.toList, ¬ Url.IsDots s
  /-- The location is read back from its text exactly when its path is plain and no apostrophe
  stands in its query. -/
  readBack : parse l.display = .ok l ↔ IsPlainPath l.path ∧ ∀ q ∈ l.query, '\'' ∉ q.toList
  /-- And exactly then, going there from there changes nothing. -/
  pushed : ∀ n : Navigator, n.location = l →
    (n.push l.display = .ok (false, n) ↔ parse l.display = .ok l)
  /-- The path alone is read as itself exactly when it is plain. -/
  readPath : parse l.path = .ok ⟨l.path, none, none⟩ ↔ IsPlainPath l.path
  /-- And then it can be asked for, and the request reaches what is shown there. -/
  requested : IsPlainPath l.path →
    (l.path.utf8ByteSize ≤ Http.Uri.maxBytes → Http.Uri.parse? l.path = some ⟨l.path⟩) ∧
      ∀ (r : Http.Router) (headers : Http.Headers),
        r.answer ⟨⟨l.path⟩, "GET", headers⟩ = .ofOutcome (r.site.dispatch l.path)

/-- **A location is in normal form, unless its address has a scheme that browsers do not know.**
Whatever the address, its path begins with a slash and is collapsed; and it is told from the path
and the query whether the location is read back from its own text. -/
theorem readsAs_of_parse (h : parse input = .ok l) : ReadsAs input l := by
  have hread := isRead_of_parse h
  exact {
    rooted := hread.head?_path
    collapsed := hread.isChain_path
    known := by
      intro hscheme
      have hsettled := isSettled_of_parse h hscheme
      exact ⟨hsettled.isNormalPath, hsettled.parse_display⟩
    notDots := fun hunsplit _ hs => not_isDots_of_parse h hunsplit hs
    readBack := hread.parse_display_iff.trans hread.isSettled_iff
    pushed := by
      rintro n rfl
      exact n.push_display_iff
    readPath := hread.parse_path_iff
    requested := fun hplain =>
      ⟨Http.Uri.parse?_of_isPlainPath hread.head?_path hplain, answer_of_isPlainPath hread hplain⟩ }

/-- A drive letter, a backslash and two spellings of a dot behind a scheme that browsers know. -/
theorem readsAs_of_parse_drive :
    parse "file:c|/%2e/..\\make?day='1'" = .ok ⟨"/c:/make", some "day=%271%27", none⟩ ∧
      IsNormalPath "/c:/make" ∧
      parse "/c:/make?day=%271%27" = .ok ⟨"/c:/make", some "day=%271%27", none⟩ := by
  have hparse : parse "file:c|/%2e/..\\make?day='1'" =
      .ok ⟨"/c:/make", some "day=%271%27", none⟩ := by decide +kernel
  have hscheme : Url.schemeOf (reference "file:c|/%2e/..\\make?day='1'") ≠ .other := by
    decide +kernel
  obtain ⟨hnormal, hback⟩ := (readsAs_of_parse hparse).known hscheme
  exact ⟨hparse, hnormal, hback⟩

/-- Behind a scheme that browsers do not know, a path may keep its segments of dots.  It is not read
back, going there from there is a move, and a request for it reaches another page. -/
theorem exists_parse_not_normal :
    ∃ l, isRooted "foo:bar/../make" = false ∧ parse "foo:bar/../make" = .ok l ∧
      (∃ s ∈ Path.segmentsOf l.path.toList, Url.IsDots s) ∧ parse l.display ≠ .ok l ∧
      (∃ n, (Navigator.new l).push l.display = .ok (true, n)) ∧
      ∀ headers, (Http.Router.mk ⟨.standard, .standard⟩).answer ⟨⟨l.path⟩, "GET", headers⟩ ≠
        .ofOutcome (Site.dispatch ⟨.standard, .standard⟩ l.path) := by
  have hback : parse "/bar/../make" = .ok ⟨"/make", none, none⟩ := by decide +kernel
  have hdisplay : display ⟨"/bar/../make", none, none⟩ = "/bar/../make" := by decide
  refine ⟨⟨"/bar/../make", none, none⟩, by decide, by decide +kernel,
    ⟨"..".toList, by decide +kernel, by decide⟩, ?_, ?_, ?_⟩
  · rw [hdisplay, hback]
    decide
  · rw [hdisplay, Navigator.push, hback]
    exact ⟨_, rfl⟩
  · intro headers hanswer
    rw [Http.Router.answer_get (by decide) hback] at hanswer
    have hstatus := congrArg Http.Answer.status hanswer
    exact absurd hstatus (by decide +kernel)

end Location

end PageRouter
