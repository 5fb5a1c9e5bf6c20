import Mathlib.Data.List.Induction
import PageRouter.Proofs.Config.Faults
import PageRouter.Proofs.Route.Compile

/-!
# The faults of a configuration, block by block

The list of faults has a block for each declared route, in the order of the routes, and nothing
between the blocks.  `faultsAt` is the block of the route at a place, and `routeFaults_eq_flatMap`
puts the blocks together.

Some faults say that the route has no compiled form (`Fault.hindersTable`).  A route has one exactly
when there is none of them in its block.  Others say that a parameter is not bound; which these are
is said by `unboundParam_mem_faults_iff`.
-/

set_option autoImplicit false

namespace PageRouter

/-- The fault that a configuration is told to have where compiling a route of some name fails. -/
def RouteError.toFault (route : String) : RouteError → Config.Fault
  | .badPattern fault => .invalidPattern route fault
  | .missingTarget route => .missingTarget route
  | .ambiguousTarget route => .ambiguousTarget route

namespace Config

variable {views : View.Registry} {caseSensitive : Bool}

/-! ## One block for each route -/

/-- The block of the route at a place in a list, when other routes stand before the list. -/
def blockAt (views : View.Registry) (caseSensitive : Bool) (before ds : List RouteDecl) (i : Nat) :
    List Fault :=
  ds[i]?.elim [] (faultsBehind views caseSensitive (before ++ ds.take i))

/-- The block of the route at a place. -/
def faultsAt (c : Config) (views : View.Registry) (i : Nat) : List Fault :=
  blockAt views c.routing.caseSensitive [] c.routes i

theorem faultsAt_of_getElem? {c : Config} {i : Nat} {d : RouteDecl} (h : c.routes[i]? = some d) :
    c.faultsAt views i = faultsBehind views c.routing.caseSensitive (c.routes.take i) d := by
  rw [faultsAt, blockAt, h, List.nil_append]
  rfl

/-- A walk that has some routes behind it gives block after block. -/
theorem faultsFrom_eq_flatMap (before ds : List RouteDecl) :
    faultsFrom views caseSensitive (before.map RouteDecl.name).reverse
        (before.filterMap Reachable.ofDecl?) ds =
      (List.range ds.length).flatMap (blockAt views caseSensitive before ds) := by
  induction ds generalizing before with
  | nil => rfl
  | cons d ds ih =>
    have hhead : blockAt views caseSensitive before (d :: ds) 0 =
        faultsBehind views caseSensitive before d := by simp [blockAt]
    have htail : ∀ i, blockAt views caseSensitive before (d :: ds) (i + 1) =
        blockAt views caseSensitive (before ++ [d]) ds i := by
      intro i
      simp [blockAt]
    rw [faultsFrom_cons, ih, List.length_cons, List.range_succ_eq_map, List.flatMap_cons, hhead,
      List.flatMap_map]
    simp only [htail]

/-- **The faults of the routes are those of each route, in the order of the routes.** -/
theorem routeFaults_eq_flatMap {c : Config} (h : c.routes ≠ []) :
    c.routeFaults views = (List.range c.routes.length).flatMap (c.faultsAt views) := by
  have hblocks : faultsFrom views c.routing.caseSensitive [] [] c.routes =
      (List.range c.routes.length).flatMap (c.faultsAt views) := faultsFrom_eq_flatMap [] c.routes
  rw [routeFaults]
  split
  · rename_i hnil
    exact absurd hnil h
  · exact hblocks

theorem mem_faults_of_mem_faultsAt {c : Config} {i : Nat} {f : Fault}
    (h : f ∈ c.faultsAt views i) : f ∈ c.faults views := by
  cases hd : c.routes[i]? with
  | none => simp [faultsAt, blockAt, hd] at h
  | some d =>
    obtain ⟨hi, _⟩ := List.getElem?_eq_some_iff.1 hd
    have hroutes : c.routes ≠ [] := by
      intro hnil
      simp [hnil] at hd
    rw [faults, routeFaults_eq_flatMap hroutes]
    exact List.mem_append_right _ (List.mem_flatMap.2 ⟨i, List.mem_range.2 hi, h⟩)

/-! ## Names and tables of configurations without faults -/

/-- Without faults, no two routes have one name. -/
theorem nodup_names_of_faults_eq_nil {c : Config} (h : c.faults views = []) :
    (c.routes.map RouteDecl.name).Nodup := by
  have hnew : ∀ pre d post, c.routes = pre ++ d :: post → d.name ∉ pre.map RouteDecl.name := by
    intro pre d post hsplit hmem
    have htaken : Fault.duplicateRouteName d.name ∈
        faultsBehind views c.routing.caseSensitive pre d :=
      mem_faultsBehind_iff.2 (.inl ⟨hmem, rfl⟩)
    rw [faultsBehind_eq_nil h hsplit] at htaken
    exact absurd htaken List.not_mem_nil
  revert hnew
  induction c.routes using List.reverseRecOn with
  | nil => exact fun _ => List.nodup_nil
  | append_singleton ds d ih =>
    intro hnew
    rw [List.map_append, List.map_singleton, List.nodup_append]
    refine ⟨ih fun pre e post hsplit => hnew pre e (post ++ [d]) (by simp [hsplit]),
      by simp, fun name hname name' hname' => ?_⟩
    rw [List.mem_singleton.1 hname']
    rintro rfl
    exact hnew ds d [] rfl hname

/-- Without faults, the routes have a table. -/
theorem exists_ofDecls_of_faults_eq_nil {c : Config} (h : c.faults views = []) :
    ∃ t, RouteTable.ofDecls c.routes c.routing = .ok t := by
  refine RouteTable.exists_ofDecls_eq_ok c.routing fun d hd => ?_
  obtain ⟨pattern, target, hpattern, htarget, _⟩ := isSound_of_faults_eq_nil h hd
  exact ⟨⟨d.name, pattern, d.exact, target⟩,
    RouteDecl.compiles_iff.2 ⟨rfl, rfl, htarget, hpattern⟩⟩

/-! ## Faults that leave a route without a compiled form -/

/-- Whether a fault says that a route has no compiled form: its pattern cannot be read, or it names
no target, or two. -/
def Fault.hindersTable : Fault → Bool
  | .invalidPattern .. | .missingTarget _ | .ambiguousTarget _ => true
  | _ => false

theorem hindersTable_toFault (e : RouteError) (route : String) :
    (e.toFault route).hindersTable = true := by
  cases e <;> rfl

theorem targetFaults_of_target_eq_error {d : RouteDecl} {e : RouteError} (h : d.target = .error e)
    (pattern? : Option Pattern) : targetFaults views d pattern? = [e.toFault d.name] := by
  rcases RouteDecl.target_eq_error_iff.1 h with ⟨hview, htext, rfl⟩ | ⟨hview, htext, rfl⟩
  · rw [targetFaults, hview, htext]
    rfl
  · obtain ⟨key, hview⟩ := Option.isSome_iff_exists.1 hview
    obtain ⟨body, htext⟩ := Option.isSome_iff_exists.1 htext
    rw [targetFaults, hview, htext]
    rfl

theorem targetFaults_of_target_eq_text {d : RouteDecl} {body : String}
    (h : d.target = .ok (.text body)) (pattern? : Option Pattern) :
    targetFaults views d pattern? = [] := by
  obtain ⟨hview, htext⟩ := RouteDecl.target_eq_text_iff.1 h
  rw [targetFaults, hview, htext]

theorem targetFaults_of_target_eq_view {d : RouteDecl} {key : String}
    (h : d.target = .ok (.view key)) (pattern? : Option Pattern) :
    targetFaults views d pattern? =
      match views.find? key, pattern? with
      | none, _ => [.unknownView d.name key]
      | some _, none => []
      | some view, some pattern =>
        (view.required.filter fun p => !pattern.paramNames.contains p).map
          (.unboundParam d.name key) := by
  obtain ⟨hview, htext⟩ := RouteDecl.target_eq_view_iff.1 h
  cases hfind : views.find? key <;> cases pattern? <;> simp only [targetFaults, hview, htext, hfind]

/-- A route that cannot be compiled is told so in its block. -/
theorem toFault_mem_faultsBehind {before : List RouteDecl} {d : RouteDecl} {e : RouteError}
    (h : d.compile = .error e) : e.toFault d.name ∈ faultsBehind views caseSensitive before d := by
  rw [mem_faultsBehind_iff]
  rcases RouteDecl.compile_eq_error_iff.1 h with htarget | ⟨_, fault, _, hpattern, rfl⟩
  · refine .inr (.inr (.inl ?_))
    rw [targetFaults_of_target_eq_error htarget]
    exact List.mem_singleton_self _
  · exact .inr (.inl ⟨fault, hpattern, rfl⟩)

/-- Nothing in the block of a route that can be compiled says that it cannot. -/
theorem hindersTable_eq_false_of_compiles {before : List RouteDecl} {d : RouteDecl} {r : Route}
    {f : Fault} (h : d.Compiles r) (hf : f ∈ faultsBehind views caseSensitive before d) :
    f.hindersTable = false := by
  obtain ⟨_, _, htarget, hpattern⟩ := RouteDecl.compiles_iff.1 h
  rcases mem_faultsBehind_iff.1 hf with ⟨_, rfl⟩ | ⟨fault, hfault, _⟩ | hf | ⟨_, _, _, _, rfl⟩
  · rfl
  · rw [hpattern] at hfault
    exact nomatch hfault
  · cases hr : r.target with
    | text body =>
      rw [targetFaults_of_target_eq_text (htarget.trans (congrArg _ hr))] at hf
      exact absurd hf List.not_mem_nil
    | view key =>
      rw [targetFaults_of_target_eq_view (htarget.trans (congrArg _ hr))] at hf
      split at hf
      · rw [List.mem_singleton.1 hf]
        rfl
      · exact absurd hf List.not_mem_nil
      · obtain ⟨_, _, rfl⟩ := List.mem_map.1 hf
        rfl
  · rfl

/-- No value that is out of range hinders a table. -/
theorem hindersTable_eq_false_of_mem_rangeFaults {c : Config} {f : Fault}
    (h : f ∈ c.rangeFaults) : f.hindersTable = false := by
  rcases eq_of_mem_rangeFaults h with rfl | rfl | rfl | rfl <;> rfl

/-! ## Parameters that are not bound -/

/-- A target is told to want a parameter when its view declares one that a pattern which can be read
does not bind. -/
theorem unboundParam_mem_targetFaults_iff {d : RouteDecl} {pattern? : Option Pattern}
    {route key name : String} :
    .unboundParam route key name ∈ targetFaults views d pattern? ↔
      d.name = route ∧ d.target = .ok (.view key) ∧
        ∃ view pattern, views.find? key = some view ∧ pattern? = some pattern ∧
          name ∈ view.required ∧ name ∉ pattern.paramNames := by
  cases htarget : d.target with
  | error e =>
    rw [targetFaults_of_target_eq_error htarget]
    cases e <;> simp [RouteError.toFault]
  | ok target =>
    cases target with
    | text body => simp [targetFaults_of_target_eq_text htarget]
    | view key' =>
      rw [targetFaults_of_target_eq_view htarget]
      cases hfind : views.find? key' with
      | none =>
        simp only [List.mem_singleton, reduceCtorEq, false_iff, Except.ok.injEq, Target.view.injEq]
        rintro ⟨_, rfl, view, _, hview, _⟩
        exact nomatch hfind.symm.trans hview
      | some view =>
        cases pattern? with
        | none => simp
        | some pattern =>
          simp only [List.mem_map, List.mem_filter, Bool.not_eq_true', List.contains_eq_mem,
            decide_eq_false_iff_not, Fault.unboundParam.injEq, Except.ok.injEq,
            Target.view.injEq, Option.some.injEq]
          constructor
          · rintro ⟨_, hname, rfl, rfl, rfl⟩
            exact ⟨rfl, rfl, view, pattern, hfind, rfl, hname⟩
          · rintro ⟨rfl, rfl, view', _, hview, rfl, hname⟩
            rw [hfind, Option.some.injEq] at hview
            exact ⟨name, hview ▸ hname, rfl, rfl, rfl⟩

/-- **Which parameters a configuration is told to want.** -/
theorem unboundParam_mem_faults_iff {c : Config} {route key name : String} :
    .unboundParam route key name ∈ c.faults views ↔
      ∃ d ∈ c.routes, d.name = route ∧ d.target = .ok (.view key) ∧
        ∃ view pattern, views.find? key = some view ∧ Pattern.parse d.path = .ok pattern ∧
          name ∈ view.required ∧ name ∉ pattern.paramNames := by
  have hrange : Fault.unboundParam route key name ∉ c.rangeFaults := by
    intro h
    rcases eq_of_mem_rangeFaults h with h | h | h | h <;> cases h
  have hroutes : Fault.unboundParam route key name ∈ c.routeFaults views ↔
      Fault.unboundParam route key name ∈
        faultsFrom views c.routing.caseSensitive [] [] c.routes := by
    rw [routeFaults]
    split
    · rename_i hnil
      simp [hnil, faultsFrom]
    · rfl
  have hpattern : ∀ (d : RouteDecl) pattern,
      patternOf? d = some pattern ↔ Pattern.parse d.path = .ok pattern := by
    intro d pattern
    rw [patternOf?]
    cases Pattern.parse d.path <;> simp [Except.toOption]
  simp only [← hpattern]
  rw [faults, List.mem_append, or_iff_right hrange, hroutes, mem_faultsFrom_iff]
  constructor
  · rintro ⟨pre, d, post, hsplit, h⟩
    have hd : d ∈ c.routes := by simp [hsplit]
    rcases mem_faultsBehind_iff.1 h with ⟨_, h⟩ | ⟨_, _, h⟩ | h | ⟨_, _, _, _, h⟩
    · cases h
    · cases h
    · exact ⟨d, hd, unboundParam_mem_targetFaults_iff.1 h⟩
    · cases h
  · rintro ⟨d, hd, h⟩
    obtain ⟨pre, post, hsplit⟩ := List.append_of_mem hd
    exact ⟨pre, d, post, hsplit,
      mem_faultsBehind_iff.2 (.inr (.inr (.inl (unboundParam_mem_targetFaults_iff.2 h))))⟩

end Config

end PageRouter
