import PageRouter.Params
import PageRouter.Pattern.Basic
import PageRouter.Text.AsciiCase

/-!
# Matching a path against a pattern

`Pattern.match?` lays the segments of a pattern along the segments of a path.  An exact pattern has
to use the whole path, any other one only a leading run of it, so that `/home` matches `/home/news`
and never `/homepage`.

`Pattern.covers` compares two patterns without a path: it says that whatever the later one matches,
the earlier one matches too, so that the later one can never be the first to match.
-/

set_option autoImplicit false

namespace PageRouter.Pattern

/-- Lay segments of a pattern along segments of a path, and give the bindings that this makes.
Segments of the path that are left over are not looked at. -/
def bindings? (caseSensitive : Bool) :
    List Segment → List String → Option (List (String × String))
  | [], _ => some []
  | _ :: _, [] => none
  | .literal text :: segments, part :: parts =>
    if Text.agree caseSensitive text part then bindings? caseSensitive segments parts else none
  | .param name :: segments, part :: parts =>
    (bindings? caseSensitive segments parts).map ((name, part) :: ·)

/-- Whether a path of `n` segments has a length that the pattern can match. -/
def fits (p : Pattern) (isExact : Bool) (n : Nat) : Bool :=
  if isExact then n == p.segments.length else p.segments.length ≤ n

/-- The parameters of a path that the pattern matches. -/
def match? (p : Pattern) (path : String) (isExact caseSensitive : Bool) : Option Params :=
  let parts := Path.segments path
  if p.fits isExact parts.length then (bindings? caseSensitive p.segments parts).map Params.mk
  else none

/-- Whether every text that the second segment admits is admitted by the first. -/
def Segment.covers (caseSensitive : Bool) : Segment → Segment → Bool
  | .param _, _ => true
  | .literal _, .param _ => false
  | .literal a, .literal b => Text.agree caseSensitive a b

/-- Whether each segment of the first list covers the one at its place in the second, which may be
longer. -/
def coversLeading (caseSensitive : Bool) : List Segment → List Segment → Bool
  | [], _ => true
  | _ :: _, [] => false
  | a :: as, b :: bs => a.covers caseSensitive b && coversLeading caseSensitive as bs

/-- Whether every path that `later` matches is matched by `p`.  An exact pattern only covers exact
patterns of its own length. -/
def covers (p : Pattern) (isExact : Bool) (later : Pattern) (laterExact caseSensitive : Bool) :
    Bool :=
  (!isExact || (laterExact && p.segments.length == later.segments.length)) &&
    coversLeading caseSensitive p.segments later.segments

/-! ## What a match binds -/

/-- The bound names are the parameters of the pattern, whatever the path. -/
theorem names_of_bindings? {caseSensitive : Bool} {segments : List Segment} {parts : List String}
    {bs : List (String × String)} (h : bindings? caseSensitive segments parts = some bs) :
    bs.map (·.1) = segments.filterMap Segment.name? := by
  induction segments generalizing parts bs with
  | nil =>
    simp only [bindings?, Option.some.injEq] at h
    simp [← h]
  | cons s segments ih =>
    cases parts with
    | nil => simp [bindings?] at h
    | cons part parts =>
      cases s with
      | literal text =>
        simp only [bindings?] at h
        split at h
        · rw [List.filterMap_cons_none rfl]
          exact ih h
        · exact absurd h (by simp)
      | param name =>
        obtain ⟨cs, hc, rfl⟩ := Option.map_eq_some_iff.1 h
        have hname : Segment.name? (.param name) = some name := rfl
        rw [List.filterMap_cons_some hname, List.map_cons, ih hc]

theorem names_of_match? {p : Pattern} {path : String} {isExact caseSensitive : Bool}
    {params : Params} (h : p.match? path isExact caseSensitive = some params) :
    params.names = p.paramNames := by
  simp only [match?] at h
  split at h
  · obtain ⟨bs, hb, rfl⟩ := Option.map_eq_some_iff.1 h
    exact names_of_bindings? hb
  · exact absurd h (by simp)

/-- Matching reads a path only through its segments. -/
theorem match?_congr {path path' : String} (h : Path.segments path = Path.segments path')
    (p : Pattern) (isExact caseSensitive : Bool) :
    p.match? path isExact caseSensitive = p.match? path' isExact caseSensitive := by
  simp only [match?, h]

end PageRouter.Pattern
