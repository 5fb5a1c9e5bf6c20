import PageRouter.Proofs.Result
import PageRouter.View.Registry

/-!
# Views that declare what they fetch

What a view declares and what it fetches are two things.  `View.FailsOnlyForWant` says that they
agree as far as failing goes: rendering fails for want of a parameter that is declared, and for no
other reason.  Such a view renders as soon as its declared parameters are bound
(`FailsOnlyForWant.exists_render`).  The standard pages are of that kind, and so is every listing
that fetches no more than it declares.

`View.FailsAsFetching` leaves the declaration out, and says which names a view fetches, and in which
order: rendering fails for want of the first of them that is not bound
(`FailsAsFetching.render_eq_error_iff`).
-/

set_option autoImplicit false

namespace PageRouter.View

/-- A view whose rendering fails only as the fetching of a parameter does that the view declares. -/
def FailsOnlyForWant (v : View) : Prop :=
  ∀ params e, v.render params = .error e →
    ∃ name ∈ v.required, fetch v.key params name = .error e

/-- Such a view renders once its parameters are bound. -/
theorem FailsOnlyForWant.exists_render {v : View} (hv : v.FailsOnlyForWant) {params : Params}
    (h : ∀ name ∈ v.required, name ∈ params.names) : ∃ markup, v.render params = .ok markup := by
  cases hrender : v.render params with
  | ok markup => exact ⟨markup, rfl⟩
  | error e =>
    obtain ⟨name, hname, hfetch⟩ := hv params e hrender
    obtain ⟨value, hvalue⟩ :=
      Option.isSome_iff_exists.1 ((params.isSome_get?_iff name).2 (h name hname))
    rw [fetch_eq_ok_iff.2 hvalue] at hfetch
    exact nomatch hfetch

/-! ## The pages there are -/

theorem failsOnlyForWant_heading (key title : String) : (heading key title).FailsOnlyForWant :=
  fun _ _ h => nomatch h

theorem failsOnlyForWant_order : order.FailsOnlyForWant := by
  intro params e h
  refine ⟨"orderId", List.mem_singleton.2 rfl, ?_⟩
  simp only [order] at h ⊢
  cases hfetch : fetch "order" params "orderId" with
  | error e' =>
    rw [hfetch] at h
    exact congrArg Except.error (Except.error.inj h)
  | ok id =>
    rw [hfetch] at h
    exact nomatch h

/-- The standard pages declare what they fetch. -/
theorem failsOnlyForWant_of_mem_standard {v : View} (h : v ∈ standard) : v.FailsOnlyForWant := by
  simp only [standard, List.mem_cons, List.not_mem_nil, or_false] at h
  rcases h with rfl | rfl | rfl | rfl
  · exact failsOnlyForWant_heading _ _
  · exact failsOnlyForWant_heading _ _
  · exact failsOnlyForWant_heading _ _
  · exact failsOnlyForWant_order

/-- Fetching several parameters fails as the fetching of one of them does. -/
theorem exists_fetch_of_fetchAll_eq_error {view : String} {params : Params} {names : List String}
    {e : RenderError} (h : fetchAll view params names = .error e) :
    ∃ name ∈ names, fetch view params name = .error e := by
  induction names with
  | nil => exact nomatch h
  | cons name names ih =>
    rw [fetchAll] at h
    cases hfetch : fetch view params name with
    | error e' =>
      rw [hfetch] at h
      exact ⟨name, List.mem_cons_self, hfetch.trans (congrArg Except.error (Except.error.inj h))⟩
    | ok value =>
      rw [hfetch] at h
      cases hall : fetchAll view params names with
      | ok values =>
        rw [hall] at h
        exact nomatch h
      | error e' =>
        rw [hall] at h
        obtain ⟨n, hn, hne⟩ := ih (hall.trans (congrArg Except.error (Except.error.inj h)))
        exact ⟨n, List.mem_cons_of_mem name hn, hne⟩

/-- A listing that fetches no more than it declares. -/
theorem failsOnlyForWant_listing {key text : String} {required uses : List String}
    (h : ∀ name ∈ uses, name ∈ required) : (listing key required uses text).FailsOnlyForWant := by
  intro params e hrender
  simp only [listing] at hrender ⊢
  cases hall : fetchAll key params uses with
  | ok values =>
    rw [hall] at hrender
    exact nomatch hrender
  | error e' =>
    rw [hall] at hrender
    obtain ⟨name, hname, hfetch⟩ := exists_fetch_of_fetchAll_eq_error hall
    exact ⟨name, h name hname, hfetch.trans (congrArg Except.error (Except.error.inj hrender))⟩

/-! ## Views that fetch names in order -/

/-- The first of some names that is not among the bound ones. -/
def firstUnbound? (bound names : List String) : Option String :=
  names.find? fun name => name ∉ bound

theorem firstUnbound?_isSome_iff {bound names : List String} :
    (∃ name, firstUnbound? bound names = some name) ↔ ∃ name ∈ names, name ∉ bound := by
  rw [← Option.isSome_iff_exists, firstUnbound?, List.find?_isSome]
  simp only [decide_eq_true_eq]

theorem fetch_eq_error_iff {view name : String} {params : Params} {e : RenderError} :
    fetch view params name = .error e ↔ name ∉ params.names ∧ e = .missingParam view name := by
  rw [← params.isSome_get?_iff]
  cases h : params.get? name <;> simp [fetch, h, eq_comm]

/-- **Of several names the first that is not bound is the one blamed.** -/
theorem fetchAll_eq_error_iff {view : String} {params : Params} {names : List String}
    {e : RenderError} :
    fetchAll view params names = .error e ↔
      ∃ name, firstUnbound? params.names names = some name ∧ e = .missingParam view name := by
  induction names with
  | nil => simp [fetchAll, firstUnbound?]
  | cons name names ih =>
    rw [fetchAll, Result.bind_eq_error_iff, fetch_eq_error_iff]
    simp only [Result.bind_pure_eq_error_iff, ih, fetch_eq_ok_iff, exists_and_right]
    by_cases hbound : name ∈ params.names
    · have hvalue : ∃ value, params.get? name = some value :=
        Option.isSome_iff_exists.1 ((params.isSome_get?_iff name).2 hbound)
      simp [firstUnbound?, hbound, hvalue]
    · have hvalue : ¬ ∃ value, params.get? name = some value := fun h =>
        hbound ((params.isSome_get?_iff name).1 (Option.isSome_iff_exists.2 h))
      simp [firstUnbound?, hbound, hvalue]

/-- A view whose rendering fails exactly as the fetching of some names does, one after the other. -/
def FailsAsFetching (v : View) (names : List String) : Prop :=
  ∀ params e, v.render params = .error e ↔ fetchAll v.key params names = .error e

theorem FailsAsFetching.render_eq_error_iff {v : View} {names : List String}
    (hv : v.FailsAsFetching names) {params : Params} {e : RenderError} :
    v.render params = .error e ↔
      ∃ name, firstUnbound? params.names names = some name ∧ e = .missingParam v.key name :=
  (hv params e).trans fetchAll_eq_error_iff

theorem failsAsFetching_heading (key title : String) : (heading key title).FailsAsFetching [] :=
  fun _ _ => ⟨nofun, nofun⟩

theorem failsAsFetching_order : order.FailsAsFetching ["orderId"] := by
  intro params e
  have hrender : order.render params = .error e ↔ fetch "order" params "orderId" = .error e :=
    Result.bind_pure_eq_error_iff
  rw [hrender, fetchAll, Result.bind_eq_error_iff]
  simp [fetchAll, order, pure, Except.pure, bind, Except.bind]

/-- The standard pages fetch just what they declare. -/
theorem failsAsFetching_of_mem_standard {v : View} (h : v ∈ standard) :
    v.FailsAsFetching v.required := by
  simp only [standard, List.mem_cons, List.not_mem_nil, or_false] at h
  rcases h with rfl | rfl | rfl | rfl
  · exact failsAsFetching_heading _ _
  · exact failsAsFetching_heading _ _
  · exact failsAsFetching_heading _ _
  · exact failsAsFetching_order

theorem failsAsFetching_listing (key : String) (required uses : List String) (text : String) :
    (listing key required uses text).FailsAsFetching uses :=
  fun _ _ => Result.bind_pure_eq_error_iff

/-! ## Registries -/

namespace Registry

theorem mem_of_mem_foldl_insert {vs : List View} {r : Registry} {v : View}
    (h : v ∈ (vs.foldl insert r).views) : v ∈ r.views ∨ v ∈ vs := by
  induction vs generalizing r with
  | nil => exact .inl h
  | cons w vs ih =>
    rcases ih h with h | h
    · rcases mem_insertSorted h with rfl | h
      · exact .inr List.mem_cons_self
      · exact .inl h
    · exact .inr (List.mem_cons_of_mem w h)

/-- A registry made of a list of views holds no other views. -/
theorem mem_of_mem_ofList {vs : List View} {v : View} (h : v ∈ (ofList vs).views) : v ∈ vs :=
  (mem_of_mem_foldl_insert h).resolve_left List.not_mem_nil

/-- The standard registry holds the standard pages only. -/
theorem failsOnlyForWant_of_mem_standard {v : View} (h : v ∈ standard.views) :
    v.FailsOnlyForWant :=
  View.failsOnlyForWant_of_mem_standard (mem_of_mem_ofList h)

end Registry

end PageRouter.View
