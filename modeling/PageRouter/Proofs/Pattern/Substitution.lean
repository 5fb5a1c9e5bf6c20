import PageRouter.Proofs.Pattern.Matching
import PageRouter.Proofs.Pattern.Reading

/-!
# Matching undoes substitution

A pattern and a text for each of its parameters make a path, in which the text stands for the
parameter; more segments may follow.  Matching such a path gives the texts back, and whatever
matching gives stood in the path.

* `match?_pathOf`: the path of a substitution is matched with that substitution.
* `match?_inverts_substitution`: all of it, for patterns that were read from a text.
-/

set_option autoImplicit false

namespace PageRouter

namespace Pattern

variable {caseSensitive : Bool}

/-! ## Paths made by substitution -/

/-- The text of a literal, or the text that is given for a parameter. -/
def Segment.substituted (value : String → String) : Segment → String
  | .literal text => text
  | .param name => value name

/-- The path of a pattern with a text in the place of each parameter, and more segments behind. -/
def pathOf (p : Pattern) (value : String → String) (rest : List String) : String :=
  Path.ofSegments (p.segments.map (Segment.substituted value) ++ rest)

theorem segments_pathOf {p : Pattern} {value : String → String} {rest : List String}
    (hp : ∀ text, .literal text ∈ p.segments → Path.IsSegment text)
    (hvalue : ∀ name ∈ p.paramNames, Path.IsSegment (value name))
    (hrest : ∀ part ∈ rest, Path.IsSegment part) :
    Path.segments (p.pathOf value rest) =
      p.segments.map (Segment.substituted value) ++ rest := by
  refine Path.segments_ofSegments fun part hpart => ?_
  rcases List.mem_append.1 hpart with hpart | hpart
  · obtain ⟨s, hs, rfl⟩ := List.mem_map.1 hpart
    cases s with
    | literal text => exact hp text hs
    | param name => exact hvalue name (List.mem_filterMap.2 ⟨_, hs, rfl⟩)
  · exact hrest part hpart

/-- What was put in for the parameters is what is bound. -/
theorem bindings?_substituted (value : String → String) (segments : List Segment)
    (rest : List String) :
    bindings? caseSensitive segments (segments.map (Segment.substituted value) ++ rest) =
      some ((segments.filterMap Segment.name?).map fun name => (name, value name)) := by
  induction segments with
  | nil => rfl
  | cons s segments ih =>
    rw [List.map_cons, List.cons_append]
    cases s with
    | literal text =>
      rw [Segment.substituted, bindings?, if_pos (Text.agree_self _ text), ih]
      rfl
    | param name =>
      rw [bindings?, ih]
      rfl

/-- **The path of a substitution is matched with that substitution**, and so is every path with the
same segments. -/
theorem match?_pathOf {p : Pattern} {value : String → String} {rest : List String} {isExact : Bool}
    (hp : ∀ text, .literal text ∈ p.segments → Path.IsSegment text)
    (hvalue : ∀ name ∈ p.paramNames, Path.IsSegment (value name))
    (hrest : ∀ part ∈ rest, Path.IsSegment part) (hexact : isExact = true → rest = [])
    {path : String} (hpath : Path.segments path = Path.segments (p.pathOf value rest)) :
    p.match? path isExact caseSensitive =
      some ⟨p.paramNames.map fun name => (name, value name)⟩ := by
  have hsegments := hpath.trans (segments_pathOf hp hvalue hrest)
  have hfits : p.fits isExact (Path.segments path).length = true := by
    rw [fits_iff, hsegments, List.length_append, List.length_map]
    split
    · rename_i h
      rw [hexact h, List.length_nil, Nat.add_zero]
    · exact Nat.le_add_right _ _
  rw [match?, if_pos hfits, hsegments, bindings?_substituted]
  rfl

/-! ## The main result -/

/-- **Matching undoes substitution.**  A pattern that was read from a text matches the paths that
have enough segments, and no more than that if it is exact, among them its literals at their places.
It then binds its parameters, which are different names, to the segments at their places.  And
whatever texts are put in for the parameters are the ones that a match of the resulting path
gives. -/
theorem match?_inverts_substitution {source : String} {p : Pattern} (h : parse source = .ok p)
    (isExact caseSensitive : Bool) :
    (∀ path, (p.match? path isExact caseSensitive).isSome = true ↔
      (if isExact then (Path.segments path).length = p.segments.length
        else p.segments.length ≤ (Path.segments path).length) ∧
      ∀ (i : Nat) text, p.segments[i]? = some (Segment.literal text) →
        ∃ part, (Path.segments path)[i]? = some part ∧
          if caseSensitive then text = part else Text.foldCase text = Text.foldCase part) ∧
    (∀ path params, p.match? path isExact caseSensitive = some params →
      params.names = p.paramNames ∧ params.names.Nodup ∧
      ∀ (i : Nat) name, p.segments[i]? = some (Segment.param name) →
        ∃ value, (Path.segments path)[i]? = some value ∧ Path.IsSegment value ∧
          (name, value) ∈ params.bindings ∧ params.get? name = some value) ∧
    ∀ value rest, (∀ name ∈ p.paramNames, Path.IsSegment (value name)) →
      (∀ part ∈ rest, Path.IsSegment part) → (isExact = true → rest = []) →
        Path.segments (p.pathOf value rest) =
            p.segments.map (Segment.substituted value) ++ rest ∧
          ∀ path, Path.segments path = Path.segments (p.pathOf value rest) →
            p.match? path isExact caseSensitive =
              some ⟨p.paramNames.map fun name => (name, value name)⟩ := by
  obtain ⟨hliteral, _, hnodup⟩ := isWellFormed_of_parse h
  refine ⟨fun path => ?matched, fun path params hm => ?bound, fun value rest hvalue hrest hexact =>
    ⟨segments_pathOf hliteral hvalue hrest, fun path hpath =>
      match?_pathOf hliteral hvalue hrest hexact hpath⟩⟩
  case matched =>
    rw [isSome_match?_iff, fits_iff, admitsLeading_iff]
    simp only [Text.agree_iff]
    -- the length that a pattern needs to fit is one that its literals need in any case
    refine and_congr_right fun hfits => and_iff_right ?_
    split at hfits
    · exact hfits.ge
    · exact hfits
  case bound =>
    have hnames := names_of_match? hm
    have hparams : params.names.Nodup := hnames ▸ hnodup
    refine ⟨hnames, hparams, fun i name hi => ?_⟩
    obtain ⟨value, hvalue, hmem⟩ := exists_bound_of_match? hm hi
    exact ⟨value, hvalue, Path.isSegment_of_mem_segments (List.mem_of_getElem? hvalue), hmem,
      Params.get?_of_mem hparams hmem⟩

/-- An item of an order. -/
def orderItem : Pattern :=
  ⟨"/order/:id//item/:no/", [.literal "order", .param "id", .literal "item", .param "no"]⟩

/-- An order with a blank in its identifier, and an item that is numbered by a colon. -/
def orderItemValue (name : String) : String := if name = "id" then "A 7" else ":"

theorem match?_orderItem :
    parse "/order/:id//item/:no/" = .ok orderItem ∧
      orderItem.match? "ORDER//A 7/Item/:/parts" false false =
        some ⟨[("id", "A 7"), ("no", ":")]⟩ ∧
      orderItem.match? (orderItem.pathOf orderItemValue ["parts"]) false true =
        some ⟨[("id", "A 7"), ("no", ":")]⟩ ∧
      (orderItem.match? "/order/7/item" false false).isSome = false ∧
      Params.get? ⟨[("id", "A 7"), ("no", ":")]⟩ "no" = some ":" := by
  have hparse : parse "/order/:id//item/:no/" = .ok orderItem := by decide +kernel
  have hmatch : orderItem.match? "ORDER//A 7/Item/:/parts" false false =
      some ⟨[("id", "A 7"), ("no", ":")]⟩ := by decide +kernel
  obtain ⟨hmatched, hbound, _⟩ := match?_inverts_substitution hparse false false
  obtain ⟨_, _, hsubstituted⟩ := match?_inverts_substitution hparse false true
  refine ⟨hparse, hmatch, ?substituted, ?short, ?read⟩
  case substituted =>
    have hparts : Path.segments "A 7/:/parts" = ["A 7", ":", "parts"] := by decide +kernel
    have hsegments : ∀ part ∈ ["A 7", ":", "parts"], Path.IsSegment part :=
      hparts ▸ fun _ => Path.isSegment_of_mem_segments
    have hvalues : ∀ name ∈ orderItem.paramNames, Path.IsSegment (orderItemValue name) := by
      intro name _
      rw [orderItemValue]
      split <;> exact hsegments _ (by simp)
    have hrest : ∀ part ∈ ["parts"], Path.IsSegment part := by
      intro part hpart
      exact hsegments part (by simp_all)
    exact (hsubstituted orderItemValue ["parts"] hvalues hrest nofun).2 _ rfl
  case short =>
    rw [Bool.eq_false_iff]
    intro hsome
    have hlength := ((hmatched "/order/7/item").1 hsome).1
    exact absurd hlength (by decide +kernel)
  case read =>
    obtain ⟨_, _, hread⟩ := hbound _ _ hmatch
    obtain ⟨value, hvalue, _, _, hget⟩ := hread 3 "no" rfl
    have hsegment : (Path.segments "ORDER//A 7/Item/:/parts")[3]? = some ":" := by decide +kernel
    rw [hsegment] at hvalue
    cases hvalue
    exact hget

end Pattern

end PageRouter
