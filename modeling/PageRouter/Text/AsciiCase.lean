/-!
# Comparing text up to ASCII case

Literal segments of a route, level names and media words compare without regard to the case of the
twenty-six ASCII letters.  All other characters, accented letters included, compare as they are.
-/

set_option autoImplicit false

namespace PageRouter.Text

/-- A text with its ASCII capitals made small. -/
def foldCase (s : String) : List Char := s.toList.map Char.toLower

/-- Whether two texts are the same: letter for letter, or up to ASCII case. -/
def agree (caseSensitive : Bool) (a b : String) : Bool :=
  if caseSensitive then a == b else foldCase a == foldCase b

theorem agree_true_iff {a b : String} : agree true a b = true ↔ a = b := by
  simp [agree]

theorem agree_false_iff {a b : String} : agree false a b = true ↔ foldCase a = foldCase b := by
  simp [agree]

@[simp]
theorem agree_self (caseSensitive : Bool) (a : String) : agree caseSensitive a a = true := by
  cases caseSensitive <;> simp [agree]

/-- Texts that agree letter for letter agree up to case. -/
theorem agree_false_of_agree {caseSensitive : Bool} {a b : String}
    (h : agree caseSensitive a b = true) : agree false a b = true := by
  cases caseSensitive
  · exact h
  · rw [agree_true_iff.1 h]
    exact agree_self _ _

theorem agree_symm {caseSensitive : Bool} {a b : String}
    (h : agree caseSensitive a b = true) : agree caseSensitive b a = true := by
  cases caseSensitive
  · exact agree_false_iff.2 (agree_false_iff.1 h).symm
  · exact agree_true_iff.2 (agree_true_iff.1 h).symm

theorem agree_trans {caseSensitive : Bool} {a b c : String}
    (h : agree caseSensitive a b = true) (h' : agree caseSensitive b c = true) :
    agree caseSensitive a c = true := by
  cases caseSensitive
  · exact agree_false_iff.2 ((agree_false_iff.1 h).trans (agree_false_iff.1 h'))
  · exact agree_true_iff.2 ((agree_true_iff.1 h).trans (agree_true_iff.1 h'))

end PageRouter.Text
