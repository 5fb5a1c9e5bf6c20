import PageRouter.Proofs.Site.Failing

/-!
# The accounts of a site

Every visit of a path is recorded once, whichever way it ends, and what is recorded of it agrees with
what the visitor is told.  So the metrics that some visits leave behind are an account of what their
visitors were told, also where several routes have one name, or a route has the name that stands
for no route at all.

* `Metrics.renders_record`, `Metrics.durations_record`: what one record adds to each count.
* `sample_rendered_iff`, `sample_failed_iff`, `sample_noMatch_iff`: what is recorded of a visit is
  what it ended with.
* `IsAccountOf`: metrics that agree with what the visitors of some paths were told.
* `IsAccountOf.record`: one more visit keeps that.
* `accounts_for_every_visit`: the main result, about any number of visits.
-/

set_option autoImplicit false

namespace PageRouter

/-! ## What a record adds -/

namespace Metrics

@[simp]
theorem renders_total_record (m : Metrics) (s : Sample) :
    (m.record s).renders.total = m.renders.total + 1 :=
  Tally.total_add _ _

@[simp]
theorem durations_total_record (m : Metrics) (s : Sample) :
    (m.record s).durations.total = m.durations.total + 1 :=
  Tally.total_add _ _

theorem renders_record (m : Metrics) (s : Sample) (r : String) (result : Result) :
    (m.record s).renders.count (r, result) =
      m.renders.count (r, result) + if s = ⟨r, result⟩ then 1 else 0 := by
  obtain ⟨route, ended⟩ := s
  rw [record, Tally.count_add]
  simp

theorem durations_record (m : Metrics) (s : Sample) (r : String) :
    (m.record s).durations.count r = m.durations.count r + if s.route = r then 1 else 0 :=
  Tally.count_add _ _ _

end Metrics

namespace RouteTable

/-- The first route of a table that matches a path. -/
def firstMatch? (t : RouteTable) (path : String) : Option Route :=
  t.routes.find? fun r => (r.match? path t.caseSensitive).isSome

/-- The route that a path is resolved to is the first that matches it. -/
theorem firstMatch?_eq_map_resolve (t : RouteTable) (path : String) :
    t.firstMatch? path = (t.resolve path).map RouteMatch.route := by
  rw [firstMatch?, resolve]
  induction t.routes with
  | nil => rfl
  | cons r routes ih =>
    cases hm : r.match? path t.caseSensitive with
    | none => simp [hm, ih]
    | some params => simp [hm]

end RouteTable

namespace Site

variable {site : Site} {path : String}

/-! ## What a visitor is told -/

/-- Whether the visitor of a path is shown a route of some name. -/
def shows (site : Site) (name path : String) : Bool :=
  match site.dispatch path with
  | .ok (.rendered s) => s.route == name
  | .ok (.noMatch _) => false
  | .error _ => false

/-- Whether a visit fails, and the first route that matches the path has some name. -/
def failsAt (site : Site) (name path : String) : Bool :=
  match site.dispatch path with
  | .ok _ => false
  | .error _ => (site.table.firstMatch? path).any fun r => r.name == name

/-- Whether the visitor of a path is told that no route matches. -/
def misses (site : Site) (path : String) : Bool :=
  match site.dispatch path with
  | .ok (.rendered _) => false
  | .ok (.noMatch _) => true
  | .error _ => false

/-! ## What is recorded of a visit -/

theorem sample_rendered_iff {name : String} :
    (site.visit path).sample = ⟨name, .rendered⟩ ↔ site.shows name path = true := by
  rw [shows, dispatch]
  rcases visit_cases site path with ⟨_, hvisit⟩ | ⟨m, s, _, hroute, hvisit⟩ | ⟨m, e, _, _, hvisit⟩
  · simp [hvisit]
  · simp [hvisit, hroute]
  · simp [hvisit]

theorem sample_failed_iff {name : String} :
    (site.visit path).sample = ⟨name, .failed⟩ ↔ site.failsAt name path = true := by
  rw [failsAt, dispatch, RouteTable.firstMatch?_eq_map_resolve]
  rcases visit_cases site path with ⟨_, hvisit⟩ | ⟨m, s, _, _, hvisit⟩ | ⟨m, e, hm, _, hvisit⟩
  · simp [hvisit]
  · simp [hvisit]
  · simp [hvisit, hm]

theorem sample_noMatch_iff {name : String} :
    (site.visit path).sample = ⟨name, .noMatch⟩ ↔
      name = Metrics.noRoute ∧ site.misses path = true := by
  rw [misses, dispatch]
  rcases visit_cases site path with ⟨_, hvisit⟩ | ⟨m, s, _, _, hvisit⟩ | ⟨m, e, _, _, hvisit⟩
  · simp [hvisit, eq_comm]
  · simp [hvisit]
  · simp [hvisit]

/-! ## Accounts -/

/-- Metrics that agree with what the visitors of some paths were told. -/
structure IsAccountOf (m : Metrics) (site : Site) (paths : List String) : Prop where
  /-- Every visit is counted once. -/
  renders : m.renders.total = paths.length
  /-- The duration of every visit is measured once. -/
  durations : m.durations.total = paths.length
  /-- The visits that were measured for a name are those that are counted for it, however they
  ended. -/
  measured : ∀ name, m.durations.count name =
    m.renders.count (name, .rendered) + m.renders.count (name, .noMatch) +
      m.renders.count (name, .failed)
  /-- Counted as shown are the visitors to whom a route of that name was shown. -/
  shown : ∀ name, m.renders.count (name, .rendered) = paths.countP (site.shows name)
  /-- Counted as failed are the visits that failed at a route of that name. -/
  failed : ∀ name, m.renders.count (name, .failed) = paths.countP (site.failsAt name)
  /-- Counted as unmatched, for no route, are the visitors who were told so. -/
  missed : m.renders.count (Metrics.noRoute, .noMatch) = paths.countP site.misses
  /-- No visit is counted as unmatched for any other name. -/
  missedOnly : ∀ name, name ≠ Metrics.noRoute → m.renders.count (name, .noMatch) = 0

/-- Nothing is the account of no visits. -/
theorem isAccountOf_empty (site : Site) : IsAccountOf .empty site [] where
  renders := rfl
  durations := rfl
  measured := fun _ => rfl
  shown := fun _ => rfl
  failed := fun _ => rfl
  missed := rfl
  missedOnly := fun _ _ => rfl

/-- A sample that is measured for a name is counted for it with one of the three results. -/
theorem measured_sample (s : Metrics.Sample) (name : String) :
    (if s.route = name then 1 else 0) =
      (if s = ⟨name, .rendered⟩ then 1 else 0) + (if s = ⟨name, .noMatch⟩ then 1 else 0) +
        if s = ⟨name, .failed⟩ then 1 else 0 := by
  obtain ⟨route, result⟩ := s
  cases result with
  | rendered => simp
  | noMatch => simp
  | failed => simp

/-- **One more visit keeps the account.** -/
theorem IsAccountOf.record {m : Metrics} {paths : List String} (h : IsAccountOf m site paths)
    (path : String) : IsAccountOf (m.record (site.visit path).sample) site (paths ++ [path]) where
  renders := by
    rw [Metrics.renders_total_record, h.renders, List.length_append, List.length_singleton]
  durations := by
    rw [Metrics.durations_total_record, h.durations, List.length_append, List.length_singleton]
  measured := by
    intro name
    have hbefore := h.measured name
    have hsample := measured_sample (site.visit path).sample name
    simp only [Metrics.durations_record, Metrics.renders_record]
    omega
  shown := by
    intro name
    rw [Metrics.renders_record, h.shown, List.countP_append, List.countP_singleton]
    simp only [sample_rendered_iff]
  failed := by
    intro name
    rw [Metrics.renders_record, h.failed, List.countP_append, List.countP_singleton]
    simp only [sample_failed_iff]
  missed := by
    rw [Metrics.renders_record, h.missed, List.countP_append, List.countP_singleton]
    simp only [sample_noMatch_iff, true_and]
  missedOnly := by
    intro name hname
    rw [Metrics.renders_record, h.missedOnly name hname]
    simp [sample_noMatch_iff, hname]

theorem metrics_append (site : Site) (paths : List String) (path : String) :
    site.metrics (paths ++ [path]) = (site.metrics paths).record (site.visit path).sample := by
  simp [metrics, Metrics.ofSamples]

/-- **The metrics account for every visit exactly once.**  Whatever the table and the views of a
site, and whether or not they were ever checked, what its visits leave behind agrees with what their
visitors were told, in every count. -/
theorem accounts_for_every_visit (site : Site) (paths : List String) :
    IsAccountOf (site.metrics paths) site paths := by
  induction paths using List.reverseRecOn with
  | nil => exact isAccountOf_empty site
  | append_singleton paths path ih =>
    rw [metrics_append]
    exact ih.record path

end Site

end PageRouter
