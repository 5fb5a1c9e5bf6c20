/-!
# HTML fragments

A `Markup` is a piece of HTML that is safe to put into a page.  Text enters one only through
`Markup.text` and through attribute values, and both are escaped, so that data never opens or closes a
tag or an attribute.  `Markup.trusted` is the one way in for HTML that is already written.

* `not_delimiter_of_mem_escape`: escaped text holds no `<`, no `>` and no double quote.
-/

set_option autoImplicit false

namespace PageRouter

/-- A fragment of HTML. -/
structure Markup where
  html : String
deriving DecidableEq, Repr, Inhabited

namespace Markup

/-- A character as it is written in text and in attribute values. -/
def escapeChar (c : Char) : List Char :=
  if c = '&' then "&amp;".toList
  else if c = '<' then "&lt;".toList
  else if c = '>' then "&gt;".toList
  else if c = '"' then "&quot;".toList
  else [c]

/-- A text with the four delimiters written as character references. -/
def escape (s : String) : String := String.ofList (s.toList.flatMap escapeChar)

/-- Text, escaped. -/
def text (s : String) : Markup := ⟨escape s⟩

/-- HTML that is already written. -/
def trusted (html : String) : Markup := ⟨html⟩

/-- No HTML at all. -/
def empty : Markup := ⟨""⟩

instance : Append Markup := ⟨fun a b => ⟨a.html ++ b.html⟩⟩

/-- Fragments one after the other. -/
def concat (parts : List Markup) : Markup := ⟨String.join (parts.map html)⟩

/-- Attributes with their values escaped, each behind a blank. -/
def attributes (attrs : List (String × String)) : String :=
  String.join (attrs.map fun a => " " ++ a.1 ++ "=\"" ++ escape a.2 ++ "\"")

/-- An element with its closing tag. -/
def element (tag : String) (attrs : List (String × String)) (content : Markup) : Markup :=
  ⟨"<" ++ tag ++ attributes attrs ++ ">" ++ content.html ++ "</" ++ tag ++ ">"⟩

/-- An element that has no content and no closing tag. -/
def voidElement (tag : String) (attrs : List (String × String)) : Markup :=
  ⟨"<" ++ tag ++ attributes attrs ++ ">"⟩

/-! ## What escaping leaves -/

/-- The characters that open or close a tag or an attribute value. -/
def isDelimiter (c : Char) : Bool := c == '<' || c == '>' || c == '"'

theorem not_delimiter_of_mem_escapeChar {c d : Char} (h : d ∈ escapeChar c) :
    isDelimiter d = false := by
  simp only [escapeChar] at h
  split at h
  · simp at h
    rcases h with rfl | rfl | rfl | rfl | rfl <;> rfl
  · split at h
    · simp at h
      rcases h with rfl | rfl | rfl | rfl <;> rfl
    · split at h
      · simp at h
        rcases h with rfl | rfl | rfl | rfl <;> rfl
      · split at h
        · simp at h
          rcases h with rfl | rfl | rfl | rfl | rfl | rfl <;> rfl
        · simp at h
          simp_all [isDelimiter]

/-- **Escaped text opens and closes nothing.** -/
theorem not_delimiter_of_mem_escape {s : String} {d : Char} (h : d ∈ (escape s).toList) :
    isDelimiter d = false := by
  simp only [escape, String.toList_ofList, List.mem_flatMap] at h
  obtain ⟨c, _, hd⟩ := h
  exact not_delimiter_of_mem_escapeChar hd

@[simp]
theorem html_append (a b : Markup) : (a ++ b).html = a.html ++ b.html := rfl

end Markup

end PageRouter
