import PageRouter.Proofs.Url.Reference

/-!
# References of every scheme

What stands in front of the path of an address is checked and not kept.  So whatever the scheme of a
reference, all that is left of it is a path of segments, read in the way of that scheme: with one
exception.  Behind a scheme that browsers do not know, a path without a slash in front of it has no
segments, and nothing in it is resolved.

* `schemeOf`, `IsOpaque`: the scheme that a reference is read by, and the exception.
* `readBehind_cases`: what is left of an address behind its scheme.
* `resolve_cases`: what is left of a reference.
-/

set_option autoImplicit false

namespace PageRouter.Url

variable {scheme : Scheme} {cs : List Char} {parts : Parts}

/-! ## The scheme of a reference -/

/-- The kind of scheme that a reference is read by: its own, or that of the base. -/
def schemeOf (reference : String) : Scheme :=
  match readScheme? (trimmed reference.toList) with
  | some (scheme, _) => scheme
  | none => .http

/-- A reference whose path has no segments: browsers do not know its scheme, and what stands behind
the scheme does not begin with a slash. -/
def IsOpaque (reference : String) : Prop :=
  ∃ rest, readScheme? (trimmed reference.toList) = some (.other, rest) ∧ rest.head? ≠ some '/'

theorem schemeOf_of_isOpaque {reference : String} (h : IsOpaque reference) :
    schemeOf reference = .other := by
  obtain ⟨rest, hscheme, _⟩ := h
  rw [schemeOf, hscheme]

/-! ## What is left behind a scheme -/

/-- The parts that are left of a path of segments, and of what stands behind it. -/
def IsPath (scheme : Scheme) (parts : Parts) : Prop := ∃ text, parts = readPath scheme text

theorem isPath_readPath (scheme : Scheme) (text : List Char) :
    IsPath scheme (readPath scheme text) :=
  ⟨text, rfl⟩

theorem isPath_readRooted (scheme : Scheme) (cs : List Char) :
    IsPath scheme (readRooted scheme cs) := by
  cases cs with
  | nil => exact isPath_readPath scheme []
  | cons c cs =>
    by_cases hc : scheme.isSeparator c = true
    · rw [readRooted, if_pos hc]
      exact isPath_readPath scheme cs
    · rw [readRooted, if_neg hc]
      exact isPath_readPath scheme (c :: cs)

/-- Of what stands behind two slashes, the path behind the authority is left. -/
theorem isPath_of_readHosted (h : readHosted scheme cs = .ok parts) : IsPath scheme parts := by
  rw [readHosted] at h
  cases hrest : readAuthority scheme cs with
  | error e =>
    rw [hrest] at h
    exact nomatch h
  | ok rest =>
    rw [hrest] at h
    rw [← Except.ok.inj h]
    exact isPath_readRooted scheme rest

theorem isPath_of_readRelative (h : readRelative cs = .ok parts) : IsPath .http parts := by
  rw [readRelative.eq_def] at h
  split at h
  · exact isPath_of_readHosted h
  · by_cases htwice : startsTwice .http cs = true
    · rw [if_pos htwice] at h
      exact isPath_of_readHosted h
    · rw [if_neg htwice] at h
      rw [← Except.ok.inj h]
      exact isPath_readRooted .http cs

/-- A host in a `file` address may take the slash behind it for itself, but a path is left. -/
theorem isPath_of_readFile (h : readFile cs = .ok parts) : IsPath .file parts := by
  simp only [readFile] at h
  split at h
  · split at h
    · rw [← Except.ok.inj h]
      exact isPath_readPath .file _
    · split at h
      · rw [← Except.ok.inj h]
        exact isPath_readPath .file _
      · cases hhost : Host.read .file (Text.cut (endsAuthority .file) (cs.drop 2)).1 with
        | error e =>
          rw [hhost] at h
          exact nomatch h
        | ok host =>
          rw [hhost] at h
          rw [← Except.ok.inj h]
          by_cases hlocal : isLocal host = true
          · rw [if_pos hlocal]
            exact isPath_readPath .file _
          · rw [if_neg hlocal]
            exact isPath_readRooted .file _
  · rw [← Except.ok.inj h]
    exact isPath_readRooted .file cs

theorem readOther_cases (h : readOther cs = .ok parts) :
    IsPath .other parts ∨ cs.head? ≠ some '/' ∧ parts = readOpaque cs := by
  rw [readOther.eq_def] at h
  split at h
  · exact .inl (isPath_of_readHosted h)
  · rw [← Except.ok.inj h]
    exact .inl (isPath_readPath .other _)
  · rename_i hhosted hrooted
    refine .inr ⟨?_, (Except.ok.inj h).symm⟩
    intro hslash
    obtain ⟨rest, hrest⟩ := List.head?_eq_some_iff.1 hslash
    exact hrooted rest hrest

theorem readOther_of_head?_ne (h : cs.head? ≠ some '/') : readOther cs = .ok (readOpaque cs) := by
  rw [readOther.eq_def]
  split
  · exact absurd rfl h
  · exact absurd rfl h
  · rfl

/-- **Behind a scheme there is a path of segments, or the scheme is one that browsers do not know.** -/
theorem readBehind_cases (h : readBehind scheme cs = .ok parts) :
    IsPath scheme parts ∨ scheme = .other ∧ cs.head? ≠ some '/' ∧ parts = readOpaque cs := by
  cases scheme with
  | http =>
    rw [readBehind] at h
    by_cases htwice : startsTwice .http cs = true
    · rw [if_pos htwice] at h
      exact .inl (isPath_of_readHosted h)
    · rw [if_neg htwice] at h
      exact .inl (isPath_of_readRelative h)
  | network => exact .inl (isPath_of_readHosted h)
  | file => exact .inl (isPath_of_readFile h)
  | other => exact (readOther_cases h).imp id fun hunsplit => ⟨rfl, hunsplit⟩

/-- **What is left of a reference is a path of segments, read in the way of its scheme, if the
reference is not opaque.** -/
theorem resolve_cases {reference : String} (h : resolve reference = .ok parts) :
    IsPath (schemeOf reference) parts ∨
      IsOpaque reference ∧ ∃ text, parts = readOpaque text := by
  simp only [resolve] at h
  cases hscheme : readScheme? (trimmed reference.toList) with
  | none =>
    rw [hscheme] at h
    rw [schemeOf, hscheme]
    exact .inl (isPath_of_readRelative h)
  | some found =>
    obtain ⟨scheme, rest⟩ := found
    rw [hscheme] at h
    rw [schemeOf, hscheme]
    rcases readBehind_cases h with hpath | ⟨rfl, hhead, hunsplit⟩
    · exact .inl hpath
    · exact .inr ⟨⟨rest, hscheme, hhead⟩, rest, hunsplit⟩

/-! ## What is written in every scheme -/

/-- A query may hold an apostrophe behind a scheme that browsers do not know, and only there. -/
theorem keeps_webQuery_iff {c : Char} :
    Place.webQuery.keeps c = true ↔ Place.query.keeps c = true ∧ c ≠ '\'' := by
  simp only [Place.keeps, Place.reserved, List.contains_eq_mem, List.mem_cons, List.not_mem_nil,
    or_false, Bool.and_eq_true, decide_eq_true_eq, Bool.not_eq_true', decide_eq_false_iff_not,
    not_or]
  tauto

theorem keeps_query_of_mem_query {path rest q : List Char}
    (h : (readTail scheme path rest).query = some q) :
    ∀ c ∈ q, Place.query.keeps c = true := by
  intro c hc
  have hkeeps := keeps_of_mem_query h c hc
  cases scheme with
  | other => exact hkeeps
  | http | network | file => exact (keeps_webQuery_iff.1 hkeeps).1

end PageRouter.Url
