import PageRouter.Data.Json

/-!
# What JSON text says

JSON text is made of pieces that end by themselves: a piece is known, and so is its end, whatever
stands behind it.  A number is not like that, since more digits may follow, and a moment in time is
written as a text is; so this is about trees without them.

* `jsonChar_append_inj`, `jsonString_append_inj`: characters and strings as they are escaped.
* `enclosed_append_inj`: what stands between the brackets of a list or a table.
* `Value.written_append_inj`, `Value.json_inj`: two trees with the same text are the same tree, in
  either layout.
-/

set_option autoImplicit false

namespace PageRouter.Data

/-! ## Pieces behind one another -/

/-- **Pieces that end by themselves.**  If no piece begins like what closes the text, its pieces are
known, and so is what stands behind it. -/
theorem flatMap_append_inj {α β : Type} {write : α → List β} {closing : List β} {xs ys : List α}
    (hwrite : ∀ x ∈ xs, ∀ y ∈ ys, ∀ s t, write x ++ s = write y ++ t → x = y ∧ s = t)
    (hclosing : ∀ x s t, write x ++ s ≠ closing ++ t) {s t : List β}
    (h : xs.flatMap write ++ (closing ++ s) = ys.flatMap write ++ (closing ++ t)) :
    xs = ys ∧ s = t := by
  induction xs generalizing ys with
  | nil =>
    cases ys with
    | nil => exact ⟨rfl, List.append_cancel_left h⟩
    | cons y ys =>
      rw [List.flatMap_nil, List.nil_append, List.flatMap_cons, List.append_assoc] at h
      exact absurd h.symm (hclosing y _ _)
  | cons x xs ih =>
    cases ys with
    | nil =>
      rw [List.flatMap_nil, List.nil_append, List.flatMap_cons, List.append_assoc] at h
      exact absurd h (hclosing x _ _)
    | cons y ys =>
      rw [List.flatMap_cons, List.flatMap_cons, List.append_assoc, List.append_assoc] at h
      obtain ⟨rfl, hrest⟩ := hwrite x List.mem_cons_self y List.mem_cons_self _ _ h
      obtain ⟨rfl, rfl⟩ := ih
        (fun a ha b hb => hwrite a (List.mem_cons_of_mem x ha) b (List.mem_cons_of_mem x hb)) hrest
      exact ⟨rfl, rfl⟩

/-! ## Strings -/

/-- The characters that do not stand for themselves in a string. -/
def escaped : List Char := '"' :: '\\' :: (List.range 32).map Char.ofNat

theorem le_toNat_of_not_mem_escaped {c : Char} (h : c ∉ escaped) : 32 ≤ c.toNat := by
  refine Nat.not_lt.1 fun hlt => h ?_
  exact List.mem_cons_of_mem _ (List.mem_cons_of_mem _
    (List.mem_map.2 ⟨c.toNat, List.mem_range.2 hlt, Char.ofNat_toNat c⟩))

theorem jsonChar_of_not_mem_escaped {c : Char} (h : c ∉ escaped) : jsonChar c = [c] := by
  have hcode := le_toNat_of_not_mem_escaped h
  have hne : ∀ d ∈ escaped, c ≠ d := fun d hd hcd => h (hcd ▸ hd)
  rw [jsonChar, if_neg (hne '"' (by decide)), if_neg (hne '\\' (by decide)),
    if_neg (hne '\n' (by decide)), if_neg (hne '\r' (by decide)), if_neg (hne '\t' (by decide)),
    if_neg (by omega), if_neg (by omega), if_neg (by omega), if_neg (by omega)]

theorem exists_jsonChar_eq_cons {c : Char} (hc : c ∈ escaped) : ∃ cs, jsonChar c = '\\' :: cs := by
  have hall : (escaped.all fun d => (jsonChar d).head? == some '\\') = true := by decide +kernel
  exact List.head?_eq_some_iff.1 (eq_of_beq (List.all_eq_true.1 hall c hc))

/-- No escape begins with another one. -/
theorem eq_of_jsonChar_prefix_jsonChar {c d : Char} (hc : c ∈ escaped) (hd : d ∈ escaped)
    (h : jsonChar c <+: jsonChar d) : c = d := by
  have hall : (escaped.all fun a => escaped.all fun b =>
      !(jsonChar a).isPrefixOf (jsonChar b) || a == b) = true := by decide +kernel
  have hpair := List.all_eq_true.1 (List.all_eq_true.1 hall c hc) d hd
  rw [List.isPrefixOf_iff_prefix.2 h, Bool.not_true, Bool.false_or] at hpair
  exact eq_of_beq hpair

/-- An escape is not taken for a character that stands for itself. -/
theorem jsonChar_append_ne_jsonChar {c d : Char} (hc : c ∈ escaped) (hd : d ∉ escaped)
    (s t : List Char) : jsonChar c ++ s ≠ jsonChar d ++ t := by
  obtain ⟨cs, hcs⟩ := exists_jsonChar_eq_cons hc
  rw [hcs, jsonChar_of_not_mem_escaped hd]
  intro h
  obtain ⟨rfl, -⟩ := List.cons.inj h
  exact hd (by decide)

/-- **A character of a string is known with its end.** -/
theorem jsonChar_append_inj {c d : Char} {s t : List Char}
    (h : jsonChar c ++ s = jsonChar d ++ t) : c = d ∧ s = t := by
  have hcd : c = d := by
    by_cases hc : c ∈ escaped <;> by_cases hd : d ∈ escaped
    · rcases List.prefix_or_prefix_of_prefix (h ▸ List.prefix_append _ s)
        (List.prefix_append (jsonChar d) t) with hprefix | hprefix
      · exact eq_of_jsonChar_prefix_jsonChar hc hd hprefix
      · exact (eq_of_jsonChar_prefix_jsonChar hd hc hprefix).symm
    · exact absurd h (jsonChar_append_ne_jsonChar hc hd s t)
    · exact absurd h.symm (jsonChar_append_ne_jsonChar hd hc t s)
    · rw [jsonChar_of_not_mem_escaped hc, jsonChar_of_not_mem_escaped hd] at h
      exact (List.cons.inj h).1
  subst hcd
  exact ⟨rfl, List.append_cancel_left h⟩

/-- No character of a string is taken for the quote behind it. -/
theorem jsonChar_append_ne_quote (c : Char) (s t : List Char) :
    jsonChar c ++ s ≠ ['"'] ++ t := by
  by_cases hc : c ∈ escaped
  · obtain ⟨cs, hcs⟩ := exists_jsonChar_eq_cons hc
    rw [hcs]
    exact fun h => absurd (List.cons.inj h).1 (by decide)
  · rw [jsonChar_of_not_mem_escaped hc]
    exact fun h => hc ((List.cons.inj h).1 ▸ by decide)

theorem jsonString_append_inj {a b : String} {s t : List Char}
    (h : jsonString a ++ s = jsonString b ++ t) : a = b ∧ s = t := by
  rw [jsonString, jsonString, List.cons_append, List.cons_append, List.append_assoc,
    List.append_assoc] at h
  obtain ⟨hab, hst⟩ := flatMap_append_inj (fun _ _ _ _ _ _ => jsonChar_append_inj)
    jsonChar_append_ne_quote (List.cons.inj h).2
  exact ⟨String.toList_injective hab, hst⟩

/-! ## Lists and tables -/

/-- What stands between the brackets of a list or a table. -/
def enclosed {α : Type} (layout : Layout) (depth : Nat) (write : α → List Char) :
    List α → List Char
  | [] => []
  | x :: xs =>
    layout.lineBreak depth ++ write x ++
      (xs.flatMap fun y => ',' :: layout.lineBreak depth ++ write y) ++ layout.lineBreak (depth - 1)

/-- A field of a table. -/
def fieldText (layout : Layout) (depth : Nat) (f : String × Value) : List Char :=
  jsonString f.1 ++ layout.colon ++ f.2.written layout depth

/-- A field is known with its end if its value is. -/
theorem fieldText_append_inj {layout : Layout} {depth : Nat} {f g : String × Value}
    (hvalue : ∀ s t, f.2.written layout depth ++ s = g.2.written layout depth ++ t →
      f.2 = g.2 ∧ s = t) {s t : List Char}
    (h : fieldText layout depth f ++ s = fieldText layout depth g ++ t) : f = g ∧ s = t := by
  simp only [fieldText, List.append_assoc] at h
  obtain ⟨hkey, hrest⟩ := jsonString_append_inj h
  obtain ⟨hfg, hst⟩ := hvalue s t (List.append_cancel_left hrest)
  exact ⟨Prod.ext hkey hfg, hst⟩

theorem fieldText_append_ne {layout : Layout} {depth : Nat} (f : String × Value)
    (s t : List Char) : fieldText layout depth f ++ s ≠ '\x7d' :: t :=
  fun h => absurd (List.cons.inj h).1 (by decide)

section Enclosed

variable {α : Type} {layout : Layout} {depth : Nat} {write : α → List Char} {closing : Char}

/-- Behind an item there is a comma, or what closes the list. -/
theorem comma_append_ne (hcomma : closing ≠ ',') (x : α) (s t : List Char) :
    (',' :: layout.lineBreak depth ++ write x) ++ s ≠
      (layout.lineBreak (depth - 1) ++ [closing]) ++ t := by
  cases layout with
  | compact => exact fun h => hcomma (List.cons.inj h).1.symm
  | indented => exact fun h => absurd (List.cons.inj h).1 (by decide)

/-- Something between the brackets is told from nothing. -/
theorem enclosed_cons_append_ne {x : α} {xs : List α} (hbreak : closing ≠ '\n')
    (hwrite : ∀ s t, write x ++ s ≠ closing :: t) (s t : List Char) :
    enclosed layout depth write (x :: xs) ++ s ≠ closing :: t := by
  cases layout with
  | compact =>
    rw [enclosed, List.append_assoc, List.append_assoc, List.append_assoc]
    exact hwrite _ t
  | indented => exact fun h => hbreak (List.cons.inj h).1.symm

/-- **What stands between brackets is known with its end**, if its items are and none of them begins
with the bracket. -/
theorem enclosed_append_inj {xs ys : List α} (hcomma : closing ≠ ',') (hbreak : closing ≠ '\n')
    (hwrite : ∀ x ∈ xs, ∀ y ∈ ys, ∀ s t, write x ++ s = write y ++ t → x = y ∧ s = t)
    (hxs : ∀ x ∈ xs, ∀ s t, write x ++ s ≠ closing :: t)
    (hys : ∀ y ∈ ys, ∀ s t, write y ++ s ≠ closing :: t) {s t : List Char}
    (h : enclosed layout depth write xs ++ closing :: s =
      enclosed layout depth write ys ++ closing :: t) : xs = ys ∧ s = t := by
  cases xs with
  | nil =>
    cases ys with
    | nil => exact ⟨rfl, (List.cons.inj h).2⟩
    | cons y ys =>
      exact absurd h.symm (enclosed_cons_append_ne hbreak (hys y List.mem_cons_self) _ _)
  | cons x xs =>
    cases ys with
    | nil => exact absurd h (enclosed_cons_append_ne hbreak (hxs x List.mem_cons_self) _ _)
    | cons y ys =>
      simp only [enclosed, List.append_assoc] at h
      obtain ⟨rfl, hrest⟩ := hwrite x List.mem_cons_self y List.mem_cons_self _ _
        (List.append_cancel_left h)
      have hitems : ∀ a ∈ xs, ∀ b ∈ ys, ∀ s t,
          (',' :: layout.lineBreak depth ++ write a) ++ s =
            (',' :: layout.lineBreak depth ++ write b) ++ t → a = b ∧ s = t := by
        intro a ha b hb s t hab
        rw [List.append_assoc, List.append_assoc] at hab
        exact hwrite a (List.mem_cons_of_mem x ha) b (List.mem_cons_of_mem x hb) s t
          (List.append_cancel_left hab)
      have hclosed : (xs.flatMap fun a => ',' :: layout.lineBreak depth ++ write a) ++
            ((layout.lineBreak (depth - 1) ++ [closing]) ++ s) =
          (ys.flatMap fun b => ',' :: layout.lineBreak depth ++ write b) ++
            ((layout.lineBreak (depth - 1) ++ [closing]) ++ t) := by
        simpa using hrest
      obtain ⟨rfl, rfl⟩ := flatMap_append_inj hitems (comma_append_ne hcomma) hclosed
      exact ⟨rfl, rfl⟩

end Enclosed

namespace Value

theorem writtenItems_eq_flatMap (layout : Layout) (depth : Nat) (items : List Value) :
    writtenItems layout depth items =
      items.flatMap fun v => ',' :: layout.lineBreak depth ++ written layout (depth + 1) v := by
  induction items with
  | nil => rfl
  | cons v items ih => rw [writtenItems, ih, List.flatMap_cons]

theorem writtenFields_eq_flatMap (layout : Layout) (depth : Nat) (fields : List (String × Value)) :
    writtenFields layout depth fields =
      fields.flatMap fun f => ',' :: layout.lineBreak depth ++ fieldText layout (depth + 1) f := by
  induction fields with
  | nil => rfl
  | cons f fields ih =>
    rw [writtenFields, ih, List.flatMap_cons, fieldText]
    simp only [List.append_assoc]

theorem written_list (layout : Layout) (depth : Nat) (items : List Value) :
    written layout depth (.list items) =
      '[' :: enclosed layout depth (written layout (depth + 1)) items ++ [']'] := by
  cases items with
  | nil => rfl
  | cons v items =>
    rw [written, writtenItems_eq_flatMap, enclosed]
    simp only [List.cons_append, List.append_assoc]

theorem written_table (layout : Layout) (depth : Nat) (fields : List (String × Value)) :
    written layout depth (.table fields) =
      '\x7b' :: enclosed layout depth (fieldText layout (depth + 1)) fields ++ ['\x7d'] := by
  cases fields with
  | nil => rfl
  | cons f fields =>
    rw [written, writtenFields_eq_flatMap, enclosed, fieldText]
    simp only [List.cons_append, List.append_assoc]

/-! ## Trees -/

/-- A tree without numbers and without moments in time. -/
inductive IsTextual : Value → Prop
  | null : IsTextual .null
  | bool (b : Bool) : IsTextual (.bool b)
  | text (s : String) : IsTextual (.text s)
  | list {items : List Value} (hitems : ∀ v ∈ items, IsTextual v) : IsTextual (.list items)
  | table {fields : List (String × Value)} (hfields : ∀ f ∈ fields, IsTextual f.2) :
    IsTextual (.table fields)

/-- The character that the text of a tree begins with. -/
def lead : Value → Char
  | .null => 'n'
  | .bool b => if b then 't' else 'f'
  | .list _ => '['
  | .table _ => '\x7b'
  | _ => '"'

theorem exists_written_eq_cons {v : Value} (hv : v.IsTextual) (layout : Layout) (depth : Nat) :
    ∃ cs, written layout depth v = v.lead :: cs := by
  cases hv with
  | null => exact ⟨_, by rw [written]; rfl⟩
  | bool b => cases b <;> exact ⟨_, by rw [written]; rfl⟩
  | text s => exact ⟨_, by rw [written, jsonString]; rfl⟩
  | list => exact ⟨_, by rw [written_list]; rfl⟩
  | table => exact ⟨_, by rw [written_table]; rfl⟩

theorem written_append_ne {v : Value} (hv : v.IsTextual) {layout : Layout} {depth : Nat}
    (s t : List Char) : written layout depth v ++ s ≠ ']' :: t := by
  obtain ⟨cs, hcs⟩ := exists_written_eq_cons hv layout depth
  rw [hcs]
  intro h
  have hlead : v.lead = ']' := (List.cons.inj h).1
  cases hv <;> grind [lead]

theorem lead_eq_of_written_append_eq {v w : Value} (hv : v.IsTextual) (hw : w.IsTextual)
    {layout : Layout} {depth : Nat} {s t : List Char}
    (h : written layout depth v ++ s = written layout depth w ++ t) : v.lead = w.lead := by
  obtain ⟨cs, hcs⟩ := exists_written_eq_cons hv layout depth
  obtain ⟨ds, hds⟩ := exists_written_eq_cons hw layout depth
  rw [hcs, hds] at h
  exact (List.cons.inj h).1

/-- **The text of a tree is known with its end.**  By induction on the first tree; the first character
of its text says which kind of tree the second one is. -/
theorem written_append_inj {layout : Layout} {v : Value} (hv : v.IsTextual) :
    ∀ {w : Value}, w.IsTextual → ∀ {depth : Nat} {s t : List Char},
      written layout depth v ++ s = written layout depth w ++ t → v = w ∧ s = t := by
  induction hv with
  | null =>
    intro w hw depth s t h
    have hlead := lead_eq_of_written_append_eq .null hw h
    cases hw with
    | null => exact ⟨rfl, List.append_cancel_left h⟩
    | _ => grind [lead]
  | bool b =>
    intro w hw depth s t h
    have hlead := lead_eq_of_written_append_eq (.bool b) hw h
    cases hw with
    | bool b' =>
      obtain rfl : b = b' := by grind [lead]
      exact ⟨rfl, List.append_cancel_left h⟩
    | _ => grind [lead]
  | text a =>
    intro w hw depth s t h
    have hlead := lead_eq_of_written_append_eq (.text a) hw h
    cases hw with
    | text b =>
      rw [written, written] at h
      obtain ⟨rfl, hst⟩ := jsonString_append_inj h
      exact ⟨rfl, hst⟩
    | _ => grind [lead]
  | @list items hitems ih =>
    intro w hw depth s t h
    have hlead := lead_eq_of_written_append_eq (.list hitems) hw h
    cases hw with
    | @list items' hitems' =>
      have hinner : enclosed layout depth (written layout (depth + 1)) items ++ ']' :: s =
          enclosed layout depth (written layout (depth + 1)) items' ++ ']' :: t := by
        simpa only [written_list, List.cons_append, List.append_assoc, List.nil_append,
          List.cons.injEq, true_and] using h
      obtain ⟨rfl, hst⟩ := enclosed_append_inj (by decide) (by decide)
        (fun x hx y hy _ _ => ih x hx (hitems' y hy))
        (fun x hx => written_append_ne (hitems x hx))
        (fun y hy => written_append_ne (hitems' y hy)) hinner
      exact ⟨rfl, hst⟩
    | _ => grind [lead]
  | @table fields hfields ih =>
    intro w hw depth s t h
    have hlead := lead_eq_of_written_append_eq (.table hfields) hw h
    cases hw with
    | @table fields' hfields' =>
      have hinner : enclosed layout depth (fieldText layout (depth + 1)) fields ++ '\x7d' :: s =
          enclosed layout depth (fieldText layout (depth + 1)) fields' ++ '\x7d' :: t := by
        simpa only [written_table, List.cons_append, List.append_assoc, List.nil_append,
          List.cons.injEq, true_and] using h
      obtain ⟨rfl, hst⟩ := enclosed_append_inj (by decide) (by decide)
        (fun f hf g hg _ _ => fieldText_append_inj fun _ _ => ih f hf (hfields' g hg))
        (fun f _ => fieldText_append_ne f) (fun g _ => fieldText_append_ne g) hinner
      exact ⟨rfl, hst⟩
    | _ => grind [lead]

/-- **The text of a tree determines the tree.** -/
theorem json_inj {layout : Layout} {v w : Value} (hv : v.IsTextual) (hw : w.IsTextual)
    (h : v.json layout = w.json layout) : v = w := by
  have htext : written layout 1 v ++ [] = written layout 1 w ++ [] :=
    congrArg (· ++ []) (String.ofList_injective h)
  exact (written_append_inj hv hw htext).1

end Value

end PageRouter.Data
