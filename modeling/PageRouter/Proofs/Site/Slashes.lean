import PageRouter.Proofs.Path
import PageRouter.Proofs.Text.Split
import PageRouter.Site.Basic

/-!
# Slashes that do not count

A location keeps its path with each run of slashes made one (`Path.collapse`), and a pattern is laid
along the segments between the slashes (`Path.segments`).  Here the two are held against the text
itself.  The segments are what is left when it is split at every slash, the empty pieces aside
(`segmentsOf_eq_filter_splitOn`), and collapsing changes none of them.

So a path as somebody wrote it has the segments of the path that a location has in its stead, and
whatever looks for a route, with the one or with the other, finds the same (`collapse_keeps_route`).
-/

set_option autoImplicit false

namespace PageRouter

namespace Path

/-- **The segments of a path are what splitting it at its slashes leaves**, the empty pieces
aside. -/
theorem segmentsOf_eq_filter_splitOn (cs : List Char) :
    segmentsOf cs = (cs.splitOn '/').filter (!·.isEmpty) := by
  rw [segmentsOf, Text.words, Text.pieces_eq_splitOnP, List.splitOn_eq_splitOnP]
  rfl

/-- A collapsed path ends in a slash if it is nothing else, or if the path did. -/
theorem getLast?_collapseChars_iff (cs : List Char) :
    (collapseChars cs).getLast? = some '/' ↔
      collapseChars cs = ['/'] ∨ cs.getLast? = some '/' := by
  rw [collapseChars]
  cases hsegs : segmentsOf cs with
  | nil => simp
  | cons s ss =>
    have hlast := getLast?_rooted (List.cons_ne_nil s ss) fun t ht => mem_segmentsOf (hsegs ▸ ht)
    simp only []
    split
    · rename_i hslash
      simp [hslash]
    · rename_i hslash
      -- neither the path nor what is written of it ends in a slash
      rw [List.append_nil]
      refine ⟨fun h => absurd h hlast, ?_⟩
      rintro (h | h)
      · rw [h]
        rfl
      · exact absurd h hslash

end Path

/-! ## Routes of raw and of collapsed paths -/

/-- Visiting a path reads it through its segments, but for naming it where no route matches. -/
theorem Site.visit_congr (site : Site) {path path' : String}
    (h : Path.segments path = Path.segments path') :
    (site.visit path).sample = (site.visit path').sample ∧
      ∀ screen, site.dispatch path = .ok (.rendered screen) ↔
        site.dispatch path' = .ok (.rendered screen) := by
  simp only [dispatch, visit, site.table.resolve_congr h]
  cases site.table.resolve path' with
  | none => simp
  | some m => exact ⟨rfl, fun _ => Iff.rfl⟩

/-- **Collapsing slashes changes no route.**  A collapsed path begins with a slash, has no two of
them side by side, has the pieces of the path between slashes that are not empty, in their order,
ends in a slash if it is the root or if the path does, and collapses to itself.  Every table gives
for it the route and the parameters that it gives for the path, and so every site shows the same
screen, and counts the visit for the same route. -/
theorem collapse_keeps_route (path : String) :
    (Path.collapse path).toList.head? = some '/' ∧
      (Path.collapse path).toList.IsChain Path.NotBothSlashes ∧
      ((Path.collapse path).toList.splitOn '/').filter (!·.isEmpty) =
        (path.toList.splitOn '/').filter (!·.isEmpty) ∧
      ((Path.collapse path).toList.getLast? = some '/' ↔
        Path.collapse path = "/" ∨ path.toList.getLast? = some '/') ∧
      Path.collapse (Path.collapse path) = Path.collapse path ∧
      (∀ t : RouteTable, t.resolve (Path.collapse path) = t.resolve path) ∧
      ∀ site : Site, (site.visit (Path.collapse path)).sample = (site.visit path).sample ∧
        ∀ screen, site.dispatch (Path.collapse path) = .ok (.rendered screen) ↔
          site.dispatch path = .ok (.rendered screen) := by
  have hchars : (Path.collapse path).toList = Path.collapseChars path.toList :=
    String.toList_ofList
  have hroot : Path.collapse path = "/" ↔ Path.collapseChars path.toList = ['/'] := by
    rw [← hchars, ← String.toList_inj]
    rfl
  have hsegments := Path.segments_collapse path
  refine ⟨?rooted, ?apart, ?pieces, ?trailing, ?again, fun t => t.resolve_congr hsegments,
    fun site => site.visit_congr hsegments⟩
  case rooted => rw [hchars, Path.head?_collapseChars]
  case apart => rw [hchars]; exact Path.isChain_collapseChars _
  case pieces =>
    rw [hchars, ← Path.segmentsOf_eq_filter_splitOn, ← Path.segmentsOf_eq_filter_splitOn]
    exact Path.segmentsOf_collapse path.toList
  case trailing => rw [hchars, hroot, Path.getLast?_collapseChars_iff]
  case again => rw [Path.collapse, hchars, Path.collapseChars_collapseChars, Path.collapse]

/-- Slashes at both ends and in a row between them, and none at all. -/
example : Path.collapse "make//it/" = "/make/it/" ∧ Path.collapse "" = "/" := by decide

end PageRouter
