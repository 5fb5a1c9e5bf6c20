import PageRouter.Proofs.Path
import PageRouter.Proofs.Text.Split
import PageRouter.Proofs.Url.Dots

/-!
# What a walk along segments leaves

The segments of a resolved path are *settled*: their characters may all stand in a path, none of
them is a separator, and no segment is one of dots.

* `isSettled_of_mem_walk`: what a walk leaves is settled, whatever it meets.
* `walk_of_not_dots`: a walk that meets no dots only encodes.
* `normalPath_of_settled`: a path of settled segments is left as it is.
-/

set_option autoImplicit false

namespace PageRouter.Url

variable {scheme : Scheme}

/-! ## Settled segments -/

/-- A segment that nothing is left to do about. -/
structure IsSettled (scheme : Scheme) (s : List Char) : Prop where
  keeps : ∀ c ∈ s, Place.path.keeps c = true
  notSeparator : ∀ c ∈ s, scheme.isSeparator c = false
  notDots : ¬ IsDots s

theorem isSettled_nil (scheme : Scheme) : IsSettled scheme [] where
  keeps := nofun
  notSeparator := nofun
  notDots := by decide

theorem IsSettled.encode_eq {s : List Char} (h : IsSettled scheme s) : encode .path s = s :=
  encode_eq_self h.keeps

theorem not_isSlash_of_not_isSeparator {c : Char} (h : scheme.isSeparator c = false) :
    Path.isSlash c = false :=
  (Bool.or_eq_false_iff.1 h).1

theorem isSeparator_hexDigit (scheme : Scheme) {n : Nat} (h : n < 16) :
    scheme.isSeparator (hexDigit n) = false := by
  have hall : ∀ scheme ∈ [Scheme.http, .network, .file, .other],
      ∀ n ∈ List.range 16, scheme.isSeparator (hexDigit n) = false := by decide
  exact hall scheme (by cases scheme <;> simp) n (List.mem_range.2 h)

/-- Encoding brings in no character of a class that has no percent sign and no digit. -/
theorem not_of_mem_encode {place : Place} {isOf : Char → Bool} (hpercent : isOf '%' = false)
    (hdigit : ∀ n < 16, isOf (hexDigit n) = false) {s : List Char} (h : ∀ c ∈ s, isOf c = false)
    {c : Char} (hc : c ∈ encode place s) : isOf c = false := by
  obtain ⟨d, hd, hc⟩ := List.mem_flatMap.1 hc
  rw [encodeChar] at hc
  split at hc
  · rw [List.mem_singleton.1 hc]
    exact h d hd
  · obtain ⟨b, _, hb⟩ := List.mem_flatMap.1 hc
    have hlt := b.toNat_lt
    simp only [encodeByte, List.mem_cons, List.not_mem_nil, or_false] at hb
    rcases hb with rfl | rfl | rfl
    · exact hpercent
    · exact hdigit _ (by omega)
    · exact hdigit _ (by omega)

/-- Encoding brings in no separator. -/
theorem not_isSeparator_of_mem_encode {place : Place} {s : List Char}
    (h : ∀ c ∈ s, scheme.isSeparator c = false) {c : Char} (hc : c ∈ encode place s) :
    scheme.isSeparator c = false :=
  not_of_mem_encode (by cases scheme <;> rfl) (fun _ hn => isSeparator_hexDigit scheme hn) h hc

/-- **A segment that is not one of dots is settled once it is encoded.** -/
theorem isSettled_encode {s : List Char} (hsep : ∀ c ∈ s, scheme.isSeparator c = false)
    (hdots : ¬ IsDots s) : IsSettled scheme (encode .path s) where
  keeps := fun _ hc => keeps_of_mem_encode hc
  notSeparator := fun _ hc => not_isSeparator_of_mem_encode hsep hc
  notDots := fun h => hdots (isDots_encode_iff.1 h)

theorem bounds_of_isAlpha {c : Char} (h : c.isAlpha = true) :
    0x41 ≤ c.toNat ∧ c.toNat ≤ 0x7A := by
  rcases Bool.or_eq_true_iff.1 h with hupper | hlower
  · obtain ⟨hlow, hhigh⟩ := of_decide_eq_true hupper
    exact ⟨hlow, Nat.le_trans hhigh (by decide)⟩
  · obtain ⟨hlow, hhigh⟩ := Bool.and_eq_true_iff.1 hlower
    exact ⟨Nat.le_trans (by decide) (of_decide_eq_true hlow), of_decide_eq_true hhigh⟩

theorem ne_of_isAlpha {c d : Char} (hc : c.isAlpha = true) (hd : d.isAlpha = false) : c ≠ d := by
  rintro rfl
  exact absurd (hc.symm.trans hd) (by decide)

theorem keeps_of_isAlpha {c : Char} (h : c.isAlpha = true) : Place.path.keeps c = true := by
  obtain ⟨hlow, hhigh⟩ := bounds_of_isAlpha h
  have hreserved : c ∉ Place.path.reserved := by
    have hall : (Place.path.reserved.all fun e => !e.isAlpha) = true := by decide
    exact fun hmem => ne_of_isAlpha h (by simpa using List.all_eq_true.1 hall c hmem) rfl
  simp only [Place.keeps, Bool.and_eq_true, decide_eq_true_eq, Bool.not_eq_true',
    List.contains_eq_mem, decide_eq_false_iff_not]
  exact ⟨⟨by omega, by omega⟩, hreserved⟩

/-- A drive letter with its colon is settled. -/
theorem isSettled_drive (scheme : Scheme) {c : Char} (h : c.isAlpha = true) :
    IsSettled scheme [c, ':'] where
  keeps := fun d hd => by
    rcases List.mem_cons.1 hd with rfl | hd
    · exact keeps_of_isAlpha h
    · rw [List.mem_singleton.1 hd]
      decide
  notSeparator := fun d hd => by
    rcases List.mem_cons.1 hd with rfl | hd
    · have hslash : d ≠ '/' := ne_of_isAlpha h (by decide)
      have hbackslash : d ≠ '\\' := ne_of_isAlpha h (by decide)
      rw [Scheme.isSeparator, beq_eq_false_iff_ne.2 hslash, beq_eq_false_iff_ne.2 hbackslash,
        Bool.and_false, Bool.or_false]
    · rw [List.mem_singleton.1 hd]
      cases scheme <;> decide
  notDots := fun hdots => by
    rw [IsDots] at hdots
    simp [dotSpellings] at hdots

/-! ## A walk -/

theorem mem_of_mem_takeBack {done : List (List Char)} {s : List Char} (h : s ∈ takeBack done) :
    s ∈ done := by
  cases done with
  | nil => exact absurd h List.not_mem_nil
  | cons t done =>
    rw [takeBack] at h
    split at h
    · exact h
    · exact List.mem_cons_of_mem t h

theorem placed_of_ne_file (h : scheme ≠ .file) (done : List (List Char)) (s : List Char) :
    placed scheme done s = encode .path s :: done := by
  cases scheme with
  | file => exact absurd rfl h
  | http | network | other => rfl

theorem isSettled_of_mem_placed {done : List (List Char)} {s t : List Char}
    (hdone : ∀ u ∈ done, IsSettled scheme u) (hsep : ∀ c ∈ s, scheme.isSeparator c = false)
    (hdots : ¬ IsDots s) (ht : t ∈ placed scheme done s) : IsSettled scheme t := by
  have hs : IsSettled scheme (encode .path s) := isSettled_encode hsep hdots
  rw [placed.eq_def] at ht
  split at ht
  · split at ht
    · rename_i h
      rw [List.mem_singleton.1 ht]
      exact isSettled_drive _ (Bool.and_eq_true_iff.1 h).1
    · rw [List.mem_singleton.1 ht]
      exact hs
  · rcases List.mem_cons.1 ht with rfl | ht
    · exact hs
    · exact hdone t ht

/-- **A walk leaves settled segments.**  What is passed over or taken back is gone, and what is kept
was encoded when it was not one of dots. -/
theorem isSettled_of_mem_walk {segs done : List (List Char)}
    (hsegs : ∀ s ∈ segs, ∀ c ∈ s, scheme.isSeparator c = false)
    (hdone : ∀ s ∈ done, IsSettled scheme s) :
    ∀ s ∈ walk scheme done segs, IsSettled scheme s := by
  induction segs generalizing done with
  | nil => exact hdone
  | cons s segs ih =>
    have hrest : ∀ {done : List (List Char)}, (∀ t ∈ done, IsSettled scheme t) →
        ∀ t ∈ walk scheme done segs, IsSettled scheme t :=
      fun h => ih (fun t ht => hsegs t (List.mem_cons_of_mem s ht)) h
    -- a last segment of dots leaves an empty one behind
    have hclosed : ∀ {done : List (List Char)}, (∀ t ∈ done, IsSettled scheme t) →
        ∀ t ∈ (if segs.isEmpty then [] :: done else done), IsSettled scheme t := by
      intro done h t ht
      split at ht
      · rcases List.mem_cons.1 ht with rfl | ht
        · exact isSettled_nil scheme
        · exact h t ht
      · exact h t ht
    rw [walk]
    split
    · exact hrest (hclosed fun t ht => hdone t (mem_of_mem_takeBack ht))
    · rename_i hparent
      split
      · exact hrest (hclosed hdone)
      · rename_i hcurrent
        have hdots : ¬ IsDots s :=
          not_isDots_iff.2 ⟨by simpa using hparent, by simpa using hcurrent⟩
        exact hrest fun t ht =>
          isSettled_of_mem_placed hdone (hsegs s List.mem_cons_self) hdots ht

/-- **A walk that meets no dots only encodes.** -/
theorem walk_of_not_dots (hscheme : scheme ≠ .file) {segs : List (List Char)}
    (h : ∀ s ∈ segs, ¬ IsDots s) (done : List (List Char)) :
    walk scheme done segs = (segs.map (encode .path)).reverse ++ done := by
  induction segs generalizing done with
  | nil => rfl
  | cons s segs ih =>
    obtain ⟨hparent, hcurrent⟩ := not_isDots_iff.1 (h s List.mem_cons_self)
    rw [walk, if_neg (by simp [hparent]), if_neg (by simp [hcurrent]), placed_of_ne_file hscheme,
      ih fun t ht => h t (List.mem_cons_of_mem s ht)]
    simp

/-! ## Paths -/

theorem exists_normalPath_eq (scheme : Scheme) (text : List Char) :
    ∃ segs, normalPath scheme text = Path.rooted segs ∧ ∀ s ∈ segs, IsSettled scheme s := by
  refine ⟨_, rfl, fun s hs => ?_⟩
  exact isSettled_of_mem_walk (fun t ht => Text.not_sep_of_mem_pieces t ht)
    (fun t ht => absurd ht List.not_mem_nil) s (List.mem_reverse.1 hs)

theorem normalPath_of_not_dots (hscheme : scheme ≠ .file) {text : List Char}
    (h : ∀ s ∈ Text.pieces scheme.isSeparator text, ¬ IsDots s) :
    normalPath scheme text =
      Path.rooted ((Text.pieces scheme.isSeparator text).map (encode .path)) := by
  rw [normalPath, walk_of_not_dots hscheme h, List.append_nil, List.reverse_reverse]

/-- A dot in front of a path leads nowhere else. -/
theorem normalPath_dot_cons {c : Char} (h : scheme.isSeparator c = true) (text : List Char) :
    normalPath scheme ('.' :: c :: text) = normalPath scheme text := by
  have hdot : scheme.isSeparator '.' = false := by cases scheme <;> rfl
  have hpieces : Text.pieces scheme.isSeparator ('.' :: c :: text) =
      ['.'] :: Text.pieces scheme.isSeparator text := by
    have happend := Text.pieces_append_sep h ['.'] text
    rw [@Text.pieces_eq_singleton _ ['.'] (by simpa using hdot)] at happend
    exact happend
  have hne := Text.pieces_ne_nil scheme.isSeparator text
  rw [normalPath, hpieces, walk, if_neg (by decide), if_pos (by decide),
    if_neg (by simpa using hne)]
  rfl

/-- **A path of settled segments is left as it is.** -/
theorem normalPath_of_settled (hscheme : scheme ≠ .file) {text : List Char}
    (h : ∀ s ∈ Text.pieces scheme.isSeparator text, IsSettled scheme s)
    (hslash : ∀ c ∈ text, scheme.isSeparator c = true → c = '/') :
    normalPath scheme text = '/' :: text := by
  have hencode : (Text.pieces scheme.isSeparator text).map (encode .path) =
      Text.pieces scheme.isSeparator text :=
    (List.map_congr_left (g := id) fun s hs => (h s hs).encode_eq).trans (List.map_id _)
  rw [normalPath_of_not_dots hscheme fun s hs => (h s hs).notDots, hencode,
    Path.rooted_pieces hslash]

end PageRouter.Url
