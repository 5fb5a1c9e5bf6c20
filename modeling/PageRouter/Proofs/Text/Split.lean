import PageRouter.Text.Split

/-!
# Texts put together from pieces

What `Text.pieces`, `Text.words` and `Text.cut` make of a text that is given by its parts.

* `cut_append_of_stops`: a cut in front of the first character of a class, where that character is
  known.
* `pieces_congr`: only the separators that stand in a text count.
* `pieces_eq_splitOnP`: the pieces are those of the library's function for lists.
-/

set_option autoImplicit false

namespace PageRouter.Text

variable {sep stop : Char → Bool}

/-- A cut leaves what stands in front of the first character of its class. -/
theorem cut_append_of_stops {cs ds : List Char} (hcs : ∀ c ∈ cs, stop c = false)
    (hds : ∀ d ∈ ds.head?, stop d = true) : cut stop (cs ++ ds) = (cs, ds) := by
  have hfront : ∀ c ∈ cs, (!stop c) = true := fun c hc => by rw [hcs c hc]; rfl
  rw [cut, List.takeWhile_append_of_pos hfront, List.dropWhile_append_of_pos hfront]
  cases ds with
  | nil => simp
  | cons d ds => simp [hds d rfl]

/-- What stands behind a cut begins with a character of its class. -/
theorem stop_of_mem_head?_cut {cs : List Char} {d : Char} (h : d ∈ (cut stop cs).2.head?) :
    stop d = true := by
  have hnot := List.head?_dropWhile_not (fun c => !stop c) cs
  rw [cut, Option.mem_def] at h
  rw [h] at hnot
  simpa using hnot

theorem pieces_cons_of_not_sep {c : Char} (h : sep c = false) (cs : List Char) :
    ∃ p ps, pieces sep cs = p :: ps ∧ pieces sep (c :: cs) = (c :: p) :: ps := by
  obtain ⟨p, ps, hps⟩ := List.exists_cons_of_ne_nil (pieces_ne_nil sep cs)
  exact ⟨p, ps, hps, by rw [pieces, if_neg (by simp [h]), hps]⟩

/-- Where two classes of separators do not differ, they leave the same pieces. -/
theorem pieces_congr {sep' : Char → Bool} {cs : List Char} (h : ∀ c ∈ cs, sep c = sep' c) :
    pieces sep cs = pieces sep' cs := by
  induction cs with
  | nil => rfl
  | cons c cs ih =>
    rw [pieces, pieces, ih fun d hd => h d (List.mem_cons_of_mem c hd), h c List.mem_cons_self]

/-- The pieces of a text are those that the library splits it into. -/
theorem pieces_eq_splitOnP (sep : Char → Bool) (cs : List Char) :
    pieces sep cs = cs.splitOnP sep := by
  induction cs with
  | nil => rfl
  | cons c cs ih =>
    rw [List.splitOnP_cons_eq_if_modifyHead, ← ih]
    cases hc : sep c with
    | true => rw [pieces_cons_of_sep hc, if_pos rfl]
    | false =>
      obtain ⟨p, ps, hps, hpieces⟩ := pieces_cons_of_not_sep hc cs
      rw [hpieces, hps, if_neg Bool.false_ne_true]
      rfl

/-- Pieces bring in no character. -/
theorem mem_of_mem_pieces {cs p : List Char} (hp : p ∈ pieces sep cs) {c : Char} (hc : c ∈ p) :
    c ∈ cs := by
  induction cs generalizing p with
  | nil =>
    rw [pieces, List.mem_singleton] at hp
    rwa [hp] at hc
  | cons d cs ih =>
    by_cases hd : sep d = true
    · rw [pieces_cons_of_sep hd] at hp
      rcases List.mem_cons.1 hp with rfl | hp
      · exact absurd hc List.not_mem_nil
      · exact List.mem_cons_of_mem d (ih hp hc)
    · obtain ⟨q, qs, hqs, hpieces⟩ := pieces_cons_of_not_sep (Bool.not_eq_true _ ▸ hd) cs
      rw [hpieces] at hp
      rcases List.mem_cons.1 hp with rfl | hp
      · rcases List.mem_cons.1 hc with rfl | hc
        · exact List.mem_cons_self
        · exact List.mem_cons_of_mem d (ih (hqs ▸ List.mem_cons_self) hc)
      · exact List.mem_cons_of_mem d (ih (hqs ▸ List.mem_cons_of_mem q hp) hc)

theorem words_cons_of_sep {c : Char} (h : sep c = true) (cs : List Char) :
    words sep (c :: cs) = words sep cs := by
  rw [words, pieces_cons_of_sep h]
  rfl

end PageRouter.Text
