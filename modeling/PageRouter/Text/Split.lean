/-!
# Cutting text at separators

Paths, patterns, dotted hosts and comma-separated filters are all read by cutting a text at the
characters of some class.  `pieces` keeps every piece, `words` only those that are not empty, and `cut`
makes one cut, in front of the first separator.

* `pieces_ne_nil`: there is always at least one piece, so the empty text has one empty piece.
* `not_sep_of_mem_pieces`: no piece holds a separator.
* `pieces_append_sep`: a separator ends a piece, whatever stands before it.
-/

set_option autoImplicit false

namespace PageRouter.Text

/-- The pieces of a text between its separators, in order, with the empty pieces kept. -/
def pieces (sep : Char → Bool) : List Char → List (List Char)
  | [] => [[]]
  | c :: cs =>
    if sep c then [] :: pieces sep cs
    else
      match pieces sep cs with
      | [] => [[c]]
      | p :: ps => (c :: p) :: ps

/-- The pieces of a text that are not empty. -/
def words (sep : Char → Bool) (cs : List Char) : List (List Char) :=
  (pieces sep cs).filter fun p => !p.isEmpty

/-- The text in front of the first character of a class, and the rest from that character on. -/
def cut (stop : Char → Bool) (cs : List Char) : List Char × List Char :=
  (cs.takeWhile fun c => !stop c, cs.dropWhile fun c => !stop c)

/-! ## What the pieces are -/

theorem pieces_ne_nil (sep : Char → Bool) (cs : List Char) : pieces sep cs ≠ [] := by
  cases cs with
  | nil => simp [pieces]
  | cons c cs =>
    rw [pieces]
    split
    · simp
    · split <;> simp

theorem pieces_cons_of_sep {sep : Char → Bool} {c : Char} (h : sep c = true) (cs : List Char) :
    pieces sep (c :: cs) = [] :: pieces sep cs := by
  rw [pieces, if_pos h]

/-- Every piece is free of separators. -/
theorem not_sep_of_mem_pieces {sep : Char → Bool} {cs : List Char} :
    ∀ p ∈ pieces sep cs, ∀ c ∈ p, sep c = false := by
  induction cs with
  | nil => simp [pieces]
  | cons c cs ih =>
    rw [pieces]
    split
    · simpa using ih
    · rename_i hc
      split
      · simpa using hc
      · rename_i p ps hps
        rw [hps] at ih
        intro q hq
        rcases List.mem_cons.1 hq with rfl | hq
        · intro d hd
          rcases List.mem_cons.1 hd with rfl | hd
          · simpa using hc
          · exact ih p (by simp) d hd
        · exact ih q (by simp [hq])

/-- A separator closes the piece before it: the text after it is cut on its own. -/
theorem pieces_append_sep {sep : Char → Bool} {c : Char} (h : sep c = true)
    (cs ds : List Char) : pieces sep (cs ++ c :: ds) = pieces sep cs ++ pieces sep ds := by
  induction cs with
  | nil => simp [pieces, h]
  | cons d cs ih =>
    rw [List.cons_append, pieces, pieces, ih]
    split
    · rfl
    · cases hp : pieces sep cs with
      | nil => exact absurd hp (pieces_ne_nil sep cs)
      | cons p ps => rfl

/-- A text without separators is its own single piece. -/
theorem pieces_eq_singleton {sep : Char → Bool} {cs : List Char}
    (h : ∀ c ∈ cs, sep c = false) : pieces sep cs = [cs] := by
  induction cs with
  | nil => rfl
  | cons c cs ih =>
    rw [pieces, ih fun d hd => h d (by simp [hd])]
    simp [h c (by simp)]

theorem cut_append (stop : Char → Bool) (cs : List Char) :
    (cut stop cs).1 ++ (cut stop cs).2 = cs :=
  List.takeWhile_append_dropWhile

theorem not_stop_of_mem_cut {stop : Char → Bool} {cs : List Char} {c : Char}
    (h : c ∈ (cut stop cs).1) : stop c = false := by
  have hall := List.all_eq_true.1 (@List.all_takeWhile _ (fun c => !stop c) cs) c h
  simpa using hall

theorem mem_words {sep : Char → Bool} {cs p : List Char} :
    p ∈ words sep cs ↔ p ∈ pieces sep cs ∧ p ≠ [] := by
  simp [words]

end PageRouter.Text
