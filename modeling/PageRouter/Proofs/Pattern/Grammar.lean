import PageRouter.Proofs.Pattern.Reading

/-!
# The grammar of patterns

`Pattern.parse` refuses while it reads: it keeps the names it has met and gives up at the first
segment that is wrong.  Here is said without any reading which texts are patterns, and which fault a
text has that is none.

* `IsReadable`: what the segments of a text have to satisfy, each against those further left.
* `Spoils`: why a segment cannot stand behind others.
* `readSegments_of_isReadable`, `readSegments_of_spoils`: what reading makes of the one and of the
  other.
* `parse_iff_grammar`: the main result.
-/

set_option autoImplicit false

namespace PageRouter.Pattern

/-! ## Segments that are made of text -/

/-- Segments that a text can be written from: besides being well formed, no literal looks like a
parameter. -/
structure IsWritable (segments : List Segment) : Prop extends IsWellFormed segments where
  noColon : ∀ text, .literal text ∈ segments → text.toList.head? ≠ some ':'

/-- What begins with a colon is a colon and a name. -/
theorem head?_eq_colon_iff {text : String} :
    text.toList.head? = some ':' ↔ ∃ name, text = ":" ++ name := by
  constructor
  · intro h
    obtain ⟨cs, hcs⟩ := List.head?_eq_some_iff.1 h
    refine ⟨String.ofList cs, String.toList_injective ?_⟩
    simp [hcs]
  · rintro ⟨name, rfl⟩
    rw [String.toList_append]
    rfl

theorem colon_append_inj {name name' : String} : ":" ++ name = ":" ++ name' ↔ name = name' := by
  refine ⟨fun h => String.toList_injective ?_, fun h => h ▸ rfl⟩
  have hchars := congrArg String.toList h
  rw [String.toList_append, String.toList_append] at hchars
  exact List.append_cancel_left hchars

theorem colon_append_eq_colon_iff {name : String} : ":" ++ name = ":" ↔ name = "" :=
  @colon_append_inj name ""

@[simp]
theorem Segment.ofText_colon_append (name : String) :
    Segment.ofText (":" ++ name) = .param name := by
  rw [Segment.ofText, String.toList_append]
  exact congrArg Segment.param String.ofList_toList

theorem Segment.ofText_of_head?_ne {text : String} (h : text.toList.head? ≠ some ':') :
    Segment.ofText text = .literal text := by
  rw [Segment.ofText]
  split
  · rename_i cs hcs
    rw [hcs] at h
    exact absurd rfl h
  · rfl

/-- A segment is written as the text that it was made of. -/
@[simp]
theorem Segment.written_ofText (text : String) : (Segment.ofText text).written = text := by
  by_cases h : text.toList.head? = some ':'
  · obtain ⟨name, rfl⟩ := head?_eq_colon_iff.1 h
    rw [ofText_colon_append]
    rfl
  · rw [ofText_of_head?_ne h]
    rfl

theorem isWritable_of_parse {source : String} {p : Pattern} (h : parse source = .ok p) :
    IsWritable p.segments where
  toIsWellFormed := isWellFormed_of_parse h
  noColon := by
    intro text htext hcolon
    rw [segments_of_parse h] at htext
    obtain ⟨raw, _, hraw⟩ := List.mem_map.1 htext
    obtain ⟨name, rfl⟩ := head?_eq_colon_iff.1 hcolon
    rw [← eq_of_ofText_eq_literal hraw, Segment.ofText_colon_append] at hraw
    exact nomatch hraw

/-! ## Texts that can be read -/

/-- The texts of the segments of a pattern: none is a colon alone, and none that begins with a colon
stands twice. -/
structure IsReadable (texts : List String) : Prop where
  named : ":" ∉ texts
  distinct : texts.Pairwise fun a b => a.toList.head? = some ':' → a ≠ b

/-- Why a text cannot stand behind others in a pattern. -/
inductive Spoils (source : String) (earlier : List String) : String → Fault → Prop where
  /-- It has no name. -/
  | unnamed : Spoils source earlier ":" (.emptyParamName source)
  /-- Its name has been declared. -/
  | repeated {name : String} (h : ":" ++ name ∈ earlier) :
    Spoils source earlier (":" ++ name) (.duplicateParam source name)

theorem isReadable_nil : IsReadable [] where
  named := nofun
  distinct := .nil

theorem IsReadable.of_append {texts rest : List String} (h : IsReadable (texts ++ rest)) :
    IsReadable texts where
  named := fun hmem => h.named (List.mem_append_left rest hmem)
  distinct := (List.pairwise_append.1 h.distinct).1

/-- One text more can be read if it has a name and that name is new. -/
theorem isReadable_append_singleton_iff {texts : List String} {text : String} :
    IsReadable (texts ++ [text]) ↔
      IsReadable texts ∧ text ≠ ":" ∧ (text.toList.head? = some ':' → text ∉ texts) := by
  constructor
  · intro h
    refine ⟨h.of_append, ?_, fun hcolon hmem => ?_⟩
    · rintro rfl
      exact h.named (List.mem_append_right texts List.mem_cons_self)
    · exact (List.pairwise_append.1 h.distinct).2.2 text hmem text List.mem_cons_self hcolon rfl
  · rintro ⟨h, hne, hnew⟩
    refine ⟨fun hmem => ?_, List.pairwise_append.2 ⟨h.distinct, List.pairwise_singleton _ _, ?_⟩⟩
    · rcases List.mem_append.1 hmem with hmem | hmem
      · exact h.named hmem
      · exact hne (List.mem_singleton.1 hmem).symm
    · rintro a ha b hb hcolon rfl
      rw [List.mem_singleton.1 hb] at ha hcolon
      exact hnew hcolon ha

/-- Texts can be read, or there is a first one that spoils them. -/
theorem isReadable_or_exists_spoils (source : String) (texts : List String) :
    IsReadable texts ∨ ∃ before text after fault, texts = before ++ text :: after ∧
      IsReadable before ∧ Spoils source before text fault := by
  induction texts using List.reverseRecOn with
  | nil => exact .inl isReadable_nil
  | append_singleton texts text ih =>
    rcases ih with ih | ⟨before, spoiler, after, fault, rfl, hbefore, hspoils⟩
    · by_cases hreadable : IsReadable (texts ++ [text])
      · exact .inl hreadable
      · rw [isReadable_append_singleton_iff, not_and, not_and_or, not_not, Classical.not_imp,
          not_not] at hreadable
        refine .inr ⟨texts, text, [], ?_⟩
        rcases hreadable ih with rfl | ⟨hcolon, hmem⟩
        · exact ⟨_, rfl, ih, .unnamed⟩
        · obtain ⟨name, rfl⟩ := head?_eq_colon_iff.1 hcolon
          exact ⟨_, rfl, ih, .repeated hmem⟩
    · exact .inr ⟨before, spoiler, after ++ [text], fault, by simp, hbefore, hspoils⟩

/-! ## Reading -/

section Reading

variable {source : String} {declared before texts : List String}

/-- The names of the parameters among texts, as reading keeps them. -/
def Declares (declared before : List String) : Prop :=
  ∀ name, name ∈ declared ↔ ":" ++ name ∈ before

/-- **A step of reading**: a text that can stand behind those before it is taken, and its name is
kept. -/
theorem readSegments_cons (hdeclared : Declares declared before) {text : String}
    (h : IsReadable (before ++ [text])) (rest : List String) :
    ∃ declared', Declares declared' (before ++ [text]) ∧
      readSegments source declared (text :: rest) =
        readSegments source declared' rest >>= fun tail => pure (Segment.ofText text :: tail) := by
  obtain ⟨_, hne, hnew⟩ := isReadable_append_singleton_iff.1 h
  by_cases hcolon : text.toList.head? = some ':'
  · obtain ⟨name, rfl⟩ := head?_eq_colon_iff.1 hcolon
    have hname : name.isEmpty = false := by
      rw [Bool.eq_false_iff, ne_eq, String.isEmpty_iff, ← colon_append_eq_colon_iff]
      exact hne
    have hfresh : name ∉ declared := fun hmem => hnew hcolon ((hdeclared name).1 hmem)
    refine ⟨name :: declared, fun other => ?_, ?_⟩
    · rw [List.mem_cons, hdeclared, List.mem_append, List.mem_singleton, colon_append_inj, or_comm]
    · rw [readSegments]
      simp only [Segment.ofText_colon_append, hname, hfresh, Bool.false_eq_true, if_false]
  · refine ⟨declared, fun other => ?_, ?_⟩
    · rw [hdeclared, List.mem_append, List.mem_singleton]
      refine (or_iff_left ?_).symm
      rintro rfl
      exact hcolon (head?_eq_colon_iff.2 ⟨other, rfl⟩)
    · rw [readSegments]
      simp only [Segment.ofText_of_head?_ne hcolon]

theorem readSegments_of_isReadable (hdeclared : Declares declared before)
    (h : IsReadable (before ++ texts)) :
    readSegments source declared texts = .ok (texts.map Segment.ofText) := by
  induction texts generalizing declared before with
  | nil => rfl
  | cons text rest ih =>
    have hsplit : before ++ text :: rest = (before ++ [text]) ++ rest := by simp
    rw [hsplit] at h
    obtain ⟨declared', hdeclared', hstep⟩ := readSegments_cons hdeclared h.of_append rest
    rw [hstep, ih hdeclared' h]
    rfl

/-- Reading stops at the first text that spoils the others, and tells why. -/
theorem readSegments_of_spoils (hdeclared : Declares declared before)
    (h : IsReadable (before ++ texts)) {text : String} {fault : Fault}
    (hspoils : Spoils source (before ++ texts) text fault) (after : List String) :
    readSegments source declared (texts ++ text :: after) = .error fault := by
  induction texts generalizing declared before with
  | nil =>
    rw [List.append_nil] at h hspoils
    rw [List.nil_append, readSegments]
    cases hspoils with
    | unnamed => rfl
    | repeated hmem =>
      rename_i name
      have hname : name.isEmpty = false := by
        rw [Bool.eq_false_iff, ne_eq, String.isEmpty_iff, ← colon_append_eq_colon_iff]
        exact fun hcolon => h.named (hcolon ▸ hmem)
      simp only [Segment.ofText_colon_append, hname, (hdeclared name).2 hmem, Bool.false_eq_true,
        if_false, if_true]
  | cons first rest ih =>
    have hsplit : before ++ first :: rest = (before ++ [first]) ++ rest := by simp
    rw [hsplit] at h hspoils
    obtain ⟨declared', hdeclared', hstep⟩ :=
      readSegments_cons hdeclared h.of_append (rest ++ text :: after)
    rw [List.cons_append, hstep, ih hdeclared' h hspoils]
    rfl

theorem declares_nil : Declares [] [] := fun _ => by simp

end Reading

/-! ## Whole texts -/

section Parsing

variable {source : String}

theorem parse_of_isReadable (hslash : startsWithSlash source = true)
    (h : IsReadable (Path.segments source)) :
    parse source = .ok ⟨source, (Path.segments source).map Segment.ofText⟩ := by
  have hread : readSegments source [] (Path.segments source) = _ :=
    readSegments_of_isReadable declares_nil h
  rw [parse, if_pos hslash, hread]
  rfl

theorem parse_of_spoils (hslash : startsWithSlash source = true) {before after : List String}
    {text : String} {fault : Fault} (hsplit : Path.segments source = before ++ text :: after)
    (hbefore : IsReadable before) (hspoils : Spoils source before text fault) :
    parse source = .error fault := by
  have hread : readSegments source [] (before ++ text :: after) = _ :=
    readSegments_of_spoils declares_nil hbefore hspoils after
  rw [parse, if_pos hslash, hsplit, hread]
  rfl

/-- A text that begins with a slash is a pattern if its segments can be read, and only then. -/
theorem exists_parse_iff :
    (∃ p, parse source = .ok p) ↔
      startsWithSlash source = true ∧ IsReadable (Path.segments source) := by
  constructor
  · rintro ⟨p, hp⟩
    have hslash : startsWithSlash source = true := by
      by_contra hnone
      rw [parse, if_neg hnone] at hp
      cases hp
    refine ⟨hslash, ?_⟩
    rcases isReadable_or_exists_spoils source (Path.segments source) with
      h | ⟨before, text, after, fault, hsplit, hbefore, hspoils⟩
    · exact h
    · rw [parse_of_spoils hslash hsplit hbefore hspoils] at hp
      cases hp
  · rintro ⟨hslash, h⟩
    exact ⟨_, parse_of_isReadable hslash h⟩

/-- The fault that is told of a text is the missing slash, or that of its leftmost bad segment. -/
theorem parse_eq_error_iff {fault : Fault} :
    parse source = .error fault ↔
      (startsWithSlash source = false ∧ fault = .missingLeadingSlash source) ∨
      (startsWithSlash source = true ∧ ∃ before text after,
        Path.segments source = before ++ text :: after ∧ IsReadable before ∧
          Spoils source before text fault) := by
  cases hslash : startsWithSlash source with
  | false => simp [parse, hslash, eq_comm]
  | true =>
    constructor
    · intro hfault
      refine .inr ⟨rfl, ?_⟩
      rcases isReadable_or_exists_spoils source (Path.segments source) with
        h | ⟨before, text, after, fault', hsplit, hbefore, hspoils⟩
      · rw [parse_of_isReadable hslash h] at hfault
        cases hfault
      · have hsame := (parse_of_spoils hslash hsplit hbefore hspoils).symm.trans hfault
        exact ⟨before, text, after, hsplit, hbefore, Except.error.inj hsame ▸ hspoils⟩
    · rintro (⟨hnone, _⟩ | ⟨_, before, text, after, hsplit, hbefore, hspoils⟩)
      · cases hnone
      · exact parse_of_spoils hslash hsplit hbefore hspoils

theorem map_written_of_parse {p : Pattern} (h : parse source = .ok p) :
    p.segments.map Segment.written = Path.segments source := by
  rw [segments_of_parse h, List.map_map]
  exact (List.map_congr_left fun text _ => Segment.written_ofText text).trans (List.map_id _)

end Parsing

/-! ## The main result -/

/-- **A text is a pattern exactly when it is in the grammar, and else its first fault is told.**
A pattern begins with a slash, and its segments can be read; it then has a segment for each of them,
that is written as it was.  Any other text lacks the slash, or it has a leftmost segment that spoils
those in front of it. -/
theorem parse_iff_grammar (s : String) :
    ((∃ p, parse s = .ok p) ↔ startsWithSlash s = true ∧ IsReadable (Path.segments s)) ∧
    (∀ p, parse s = .ok p →
      p.source = s ∧ p.segments.map Segment.written = Path.segments s ∧ IsWritable p.segments) ∧
    ∀ fault, parse s = .error fault ↔
      (startsWithSlash s = false ∧ fault = .missingLeadingSlash s) ∨
      (startsWithSlash s = true ∧ ∃ before text after,
        Path.segments s = before ++ text :: after ∧ IsReadable before ∧
          Spoils s before text fault) := by
  refine ⟨exists_parse_iff, fun p hp => ?_, fun fault => parse_eq_error_iff⟩
  exact ⟨(parse_eq_ok hp).1, map_written_of_parse hp, isWritable_of_parse hp⟩

/-- The name of a parameter may begin with a colon; and a name that stands twice is blamed in front
of a colon that has none. -/
theorem parse_iff_grammar_colons :
    (∃ p, parse "/a:b//::x/:x/" = .ok p ∧ p.source = "/a:b//::x/:x/" ∧
      p.segments.map Segment.written = ["a:b", "::x", ":x"] ∧ IsWritable p.segments) ∧
    parse "/:id//a/:id/:" = .error (.duplicateParam "/:id//a/:id/:" "id") := by
  constructor
  · have hparse : parse "/a:b//::x/:x/" =
        .ok ⟨"/a:b//::x/:x/", [.literal "a:b", .param ":x", .param "x"]⟩ := by decide +kernel
    have hsegments : Path.segments "/a:b//::x/:x/" = ["a:b", "::x", ":x"] := by decide +kernel
    obtain ⟨hsource, hwritten, hwritable⟩ := (parse_iff_grammar "/a:b//::x/:x/").2.1 _ hparse
    exact ⟨_, hparse, hsource, hwritten.trans hsegments, hwritable⟩
  · have hsegments : Path.segments "/:id//a/:id/:" = [":id", "a"] ++ ":id" :: [":"] := by
      decide +kernel
    have hbefore : IsReadable [":id", "a"] := ⟨by decide, by decide⟩
    have hspoils : Spoils "/:id//a/:id/:" [":id", "a"] (":" ++ "id") _ :=
      .repeated List.mem_cons_self
    exact ((parse_iff_grammar "/:id//a/:id/:").2.2 _).2
      (.inr ⟨by decide, _, _, _, hsegments, hbefore, hspoils⟩)

end PageRouter.Pattern
