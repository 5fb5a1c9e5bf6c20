import PageRouter.Url.Segments

/-!
# Segments of dots

A segment of one dot or of two, each in one of three spellings, names no place below the one it
stands at.  `IsDots` says which segments these are, without a count.

* `isDots_iff`: they are the segments that a walk does not keep.
* `isDots_encode_iff`: encoding makes no segment one of dots, and no segment of dots another one.
-/

set_option autoImplicit false

namespace PageRouter.Url

/-! ## Segments of dots -/

/-- The spellings of a dot. -/
def dotSpellings : List (List Char) := [['.'], ['%', '2', 'e'], ['%', '2', 'E']]

/-- A segment of one dot or of two. -/
def IsDots (s : List Char) : Prop :=
  s ∈ dotSpellings ∨ ∃ a ∈ dotSpellings, ∃ b ∈ dotSpellings, s = a ++ b

instance (s : List Char) : Decidable (IsDots s) := inferInstanceAs (Decidable (_ ∨ _))

theorem dots?_eq_zero_iff {s : List Char} : dots? s = some 0 ↔ s = [] := by
  fun_cases dots? s with
  | case5 _ hnil => exact ⟨nofun, fun h => absurd h hnil⟩
  | _ => simp

theorem dots?_eq_succ_iff {s : List Char} {n : Nat} :
    dots? s = some (n + 1) ↔ ∃ a ∈ dotSpellings, ∃ t, s = a ++ t ∧ dots? t = some n := by
  constructor
  · intro h
    fun_cases dots? s with
    | case1 => simp [dots?] at h
    | case2 cs => exact ⟨['.'], by decide, cs, rfl, by simpa [dots?] using h⟩
    | case3 cs => exact ⟨['%', '2', 'e'], by decide, cs, rfl, by simpa [dots?] using h⟩
    | case4 cs => exact ⟨['%', '2', 'E'], by decide, cs, rfl, by simpa [dots?] using h⟩
    | case5 => simp_all [dots?]
  · rintro ⟨a, ha, t, rfl, ht⟩
    simp only [dotSpellings, List.mem_cons, List.not_mem_nil, or_false] at ha
    rcases ha with rfl | rfl | rfl <;> simp [dots?, ht]

/-- **The segments of dots are the ones that a walk does not keep.** -/
theorem isDots_iff {s : List Char} : IsDots s ↔ isParent s = true ∨ isCurrent s = true := by
  have hone : ∀ t, dots? t = some 1 ↔ t ∈ dotSpellings := by
    intro t
    rw [dots?_eq_succ_iff]
    constructor
    · rintro ⟨a, ha, u, rfl, hu⟩
      rw [dots?_eq_zero_iff.1 hu, List.append_nil]
      exact ha
    · intro ht
      exact ⟨t, ht, [], by simp, rfl⟩
  have htwo : dots? s = some 2 ↔ ∃ a ∈ dotSpellings, ∃ b ∈ dotSpellings, s = a ++ b := by
    rw [dots?_eq_succ_iff]
    constructor
    · rintro ⟨a, ha, b, hs, hb⟩
      exact ⟨a, ha, b, (hone b).1 hb, hs⟩
    · rintro ⟨a, ha, b, hb, hs⟩
      exact ⟨a, ha, b, hs, (hone b).2 hb⟩
  rw [IsDots, isParent, isCurrent, beq_iff_eq, beq_iff_eq, hone, htwo]
  exact Or.comm

theorem not_isDots_iff {s : List Char} : ¬ IsDots s ↔ isParent s = false ∧ isCurrent s = false := by
  rw [isDots_iff, not_or, Bool.not_eq_true, Bool.not_eq_true]

/-! ## Segments of dots and encoding -/

theorem encode_cons (place : Place) (c : Char) (cs : List Char) :
    encode place (c :: cs) = encodeChar place c ++ encode place cs := rfl

theorem encodeChar_of_keeps {place : Place} {c : Char} (h : place.keeps c = true) :
    encodeChar place c = [c] := if_pos h

/-- The first byte of a character is the character itself, if that is in ASCII, and else no
character of ASCII. -/
theorem exists_utf8EncodeChar_eq_cons (c : Char) :
    ∃ b bs, String.utf8EncodeChar c = b :: bs ∧ (b.toNat = c.toNat ∨ 0x80 ≤ b.toNat) := by
  fun_cases String.utf8EncodeChar c with
  | case1 v h =>
    refine ⟨_, _, rfl, .inl ?_⟩
    rw [UInt8.toNat_ofNat']
    exact Nat.mod_eq_of_lt (Nat.lt_of_le_of_lt h (by decide))
  | case2 v h h' => exact ⟨_, _, rfl, .inr (by simp; omega)⟩
  | case3 v h h' h'' => exact ⟨_, _, rfl, .inr (by simp; omega)⟩
  | case4 v h h' h'' => exact ⟨_, _, rfl, .inr (by simp; omega)⟩

theorem exists_encodeChar_of_not_keeps {place : Place} {c : Char} (h : place.keeps c = false) :
    ∃ b bs, encodeChar place c = encodeByte b ++ bs ∧ (b.toNat = c.toNat ∨ 0x80 ≤ b.toNat) := by
  obtain ⟨b, bs, hbytes, hb⟩ := exists_utf8EncodeChar_eq_cons c
  refine ⟨b, bs.flatMap encodeByte, ?_, hb⟩
  rw [encodeChar, if_neg (by simp [h]), hbytes, List.flatMap_cons]

theorem eq_nil_of_encode_eq_nil {place : Place} {s : List Char} (h : encode place s = []) :
    s = [] := by
  cases s with
  | nil => rfl
  | cons c s =>
    rw [encode_cons, List.append_eq_nil_iff] at h
    cases hc : place.keeps c with
    | true => exact absurd h.1 (by simp [encodeChar_of_keeps hc])
    | false =>
      obtain ⟨b, bs, hbytes, _⟩ := exists_encodeChar_of_not_keeps hc
      exact absurd h.1 (by simp [hbytes, encodeByte])

/-- A character in front of an encoded text that is no percent sign stood there before. -/
theorem exists_cons_of_encode_eq_cons {place : Place} {s t : List Char} {d : Char} (hd : d ≠ '%')
    (h : encode place s = d :: t) : ∃ s', s = d :: s' ∧ encode place s' = t := by
  cases s with
  | nil => exact absurd h (by simp [encode])
  | cons c s =>
    rw [encode_cons] at h
    cases hc : place.keeps c with
    | true =>
      rw [encodeChar_of_keeps hc, List.singleton_append, List.cons.injEq] at h
      exact ⟨s, by rw [h.1], h.2⟩
    | false =>
      obtain ⟨b, bs, hbytes, _⟩ := exists_encodeChar_of_not_keeps hc
      rw [hbytes, encodeByte, List.cons_append, List.cons_append, List.cons.injEq] at h
      exact absurd h.1.symm hd

theorem eq_of_hexDigit {n : Nat} (h : n < 16) :
    hexDigit n ≠ 'e' ∧ (hexDigit n = '2' → n = 2) ∧ (hexDigit n = 'E' → n = 14) := by
  have hall : ∀ n ∈ List.range 16,
      hexDigit n ≠ 'e' ∧ (hexDigit n = '2' → n = 2) ∧ (hexDigit n = 'E' → n = 14) := by decide
  exact hall n (List.mem_range.2 h)

/-- An encoded dot was encoded before: a dot may stand in a path, and is never encoded there. -/
theorem exists_cons_of_encode_eq_percent {s t : List Char} {e : Char} (he : e = 'e' ∨ e = 'E')
    (h : encode .path s = '%' :: '2' :: e :: t) :
    ∃ s', s = '%' :: s' ∧ encode .path s' = '2' :: e :: t := by
  cases s with
  | nil => exact absurd h (by simp [encode])
  | cons c s =>
    rw [encode_cons] at h
    cases hc : Place.path.keeps c with
    | true =>
      rw [encodeChar_of_keeps hc, List.singleton_append, List.cons.injEq] at h
      exact ⟨s, by rw [h.1], h.2⟩
    | false =>
      obtain ⟨b, bs, hbytes, hb⟩ := exists_encodeChar_of_not_keeps hc
      have hlt := b.toNat_lt
      simp only [hbytes, encodeByte, List.cons_append, List.cons.injEq] at h
      obtain ⟨_, hhigh, hlow, _⟩ := h
      have htwo := (eq_of_hexDigit (by omega)).2.1 hhigh
      have hlowCap : hexDigit (b.toNat % 16) = 'E' := by
        refine hlow.trans (he.resolve_left fun hsmall => ?_)
        exact (eq_of_hexDigit (by omega)).1 (hlow.trans hsmall)
      have hfourteen := (eq_of_hexDigit (by omega)).2.2 hlowCap
      have hdot : c = '.' := by
        have hcode : c.toNat = '.'.toNat := by
          rw [show '.'.toNat = 46 from rfl]
          omega
        rw [← Char.ofNat_toNat c, hcode]
        rfl
      rw [hdot] at hc
      exact absurd hc (by decide)

theorem exists_append_of_encode_eq_append {s a t : List Char} (ha : a ∈ dotSpellings)
    (h : encode .path s = a ++ t) : ∃ s', s = a ++ s' ∧ encode .path s' = t := by
  have hspelled : ∀ e, e = 'e' ∨ e = 'E' → encode .path s = '%' :: '2' :: e :: t →
      ∃ s', s = '%' :: '2' :: e :: s' ∧ encode .path s' = t := by
    intro e he hs
    obtain ⟨u, hu, hs⟩ := exists_cons_of_encode_eq_percent he hs
    obtain ⟨v, hv, hs⟩ := exists_cons_of_encode_eq_cons (by decide) hs
    obtain ⟨w, hw, hs⟩ := exists_cons_of_encode_eq_cons (by rcases he with rfl | rfl <;> decide) hs
    exact ⟨w, by rw [hu, hv, hw], hs⟩
  simp only [dotSpellings, List.mem_cons, List.not_mem_nil, or_false] at ha
  rcases ha with rfl | rfl | rfl
  · exact exists_cons_of_encode_eq_cons (by decide) h
  · exact hspelled 'e' (.inl rfl) h
  · exact hspelled 'E' (.inr rfl) h

theorem encode_of_isDots {s : List Char} (h : IsDots s) : encode .path s = s := by
  have hkeeps : ∀ a ∈ dotSpellings, a.all Place.path.keeps = true := by decide
  refine encode_eq_self fun c hc => ?_
  rcases h with hs | ⟨a, ha, b, hb, rfl⟩
  · exact List.all_eq_true.1 (hkeeps s hs) c hc
  · rcases List.mem_append.1 hc with hc | hc
    · exact List.all_eq_true.1 (hkeeps a ha) c hc
    · exact List.all_eq_true.1 (hkeeps b hb) c hc

/-- **Encoding keeps apart what is a segment of dots and what is not.** -/
theorem isDots_encode_iff {s : List Char} : IsDots (encode .path s) ↔ IsDots s := by
  constructor
  · rintro (h | ⟨a, ha, b, hb, h⟩)
    · obtain ⟨s', hs, hs'⟩ := exists_append_of_encode_eq_append h (List.append_nil _).symm
      rw [eq_nil_of_encode_eq_nil hs', List.append_nil] at hs
      exact .inl (hs ▸ h)
    · obtain ⟨u, hs, hu⟩ := exists_append_of_encode_eq_append ha h
      rw [← List.append_nil b] at hu
      obtain ⟨v, hu, hv⟩ := exists_append_of_encode_eq_append hb hu
      rw [eq_nil_of_encode_eq_nil hv, List.append_nil] at hu
      exact .inr ⟨a, ha, b, hb, hu ▸ hs⟩
  · intro h
    rw [encode_of_isDots h]
    exact h

end PageRouter.Url
