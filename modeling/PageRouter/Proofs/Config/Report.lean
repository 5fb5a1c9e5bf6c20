import PageRouter.Proofs.Config.Blocks

/-!
# The faults of a configuration, told one by one

`Config.faults` is the outcome of a walk over the routes that carries two lists along.  Here the
same list is told without a walk (`report`): what is said of a route is said of that route and the
ones declared before it.  Four checks each have their say, in a fixed order and whatever the others
found.

* `faultsBehind_eq_reportOf`: the walk says of each route what the report says.
* `faults_eq_nil_iff`: there is nothing to tell exactly when the configuration is in order
  (`IsInOrder`).
* `faults_prefix_append`: more routes at the end take nothing back.
* `validate_eq_report`: the main result.
-/

set_option autoImplicit false

namespace PageRouter.Config

variable {views : View.Registry} {caseSensitive : Bool} {before : List RouteDecl} {d : RouteDecl}

/-! ## The report -/

/-- A fault where a condition holds, and nothing where it does not. -/
def faultIf (p : Prop) [Decidable p] (f : Fault) : List Fault := if p then [f] else []

theorem faultIf_eq_nil_iff {p : Prop} [Decidable p] {f : Fault} : faultIf p f = [] ↔ ¬ p := by
  simp [faultIf]

/-- What is told of the values: no time for a request, no connections, and addresses that cannot be
read, that for metrics only if they are published. -/
def rangeReport (c : Config) : List Fault :=
  faultIf (c.timeouts.requestSecs = 0) .zeroTimeout ++
  faultIf (c.listener.maxConnections = 0) .zeroMaxConnections ++
  faultIf (Net.SocketAddress.parse? c.listener.bindAddress = none)
    (.invalidBindAddress c.listener.bindAddress) ++
  faultIf (c.observability.metricsEnabled = true ∧
      Net.SocketAddress.parse? c.observability.metricsAddress = none)
    (.invalidMetricsAddress c.observability.metricsAddress)

/-- What is told of a name: that a route before has it. -/
def nameReport (before : List RouteDecl) (d : RouteDecl) : List Fault :=
  faultIf (∃ e ∈ before, e.name = d.name) (.duplicateRouteName d.name)

/-- What is told of a pattern: that it cannot be read, and why. -/
def patternReport (d : RouteDecl) : List Fault :=
  match Pattern.parse d.path with
  | .error fault => [.invalidPattern d.name fault]
  | .ok _ => []

/-- What is told of a target: that there is none, that there are two, that the view is unknown, or
each parameter of the view that a pattern which can be read does not declare. -/
def targetReport (views : View.Registry) (d : RouteDecl) : List Fault :=
  match d.view, d.text with
  | none, none => [.missingTarget d.name]
  | some _, some _ => [.ambiguousTarget d.name]
  | none, some _ => []
  | some key, none =>
    match views.find? key with
    | none => [.unknownView d.name key]
    | some view =>
      (view.required.filter fun name => (patternOf? d).any fun p => name ∉ p.paramNames).map
        (.unboundParam d.name key)

/-- Whether the patterns of two routes can be read, and the first covers the second. -/
def shadows (caseSensitive : Bool) (e d : RouteDecl) : Bool :=
  match Pattern.parse e.path, Pattern.parse d.path with
  | .ok earlier, .ok pattern => earlier.covers e.exact pattern d.exact caseSensitive
  | _, _ => false

/-- What is told of the paths of a route: the first route before that takes them all. -/
def shadowReport (caseSensitive : Bool) (before : List RouteDecl) (d : RouteDecl) : List Fault :=
  ((before.find? fun e => shadows caseSensitive e d).map
    fun e => Fault.shadowedRoute d.name e.name).toList

/-- What is told of a route behind others. -/
def reportOf (views : View.Registry) (caseSensitive : Bool) (before : List RouteDecl)
    (d : RouteDecl) : List Fault :=
  nameReport before d ++ patternReport d ++ targetReport views d ++
    shadowReport caseSensitive before d

/-- What is told of a configuration: its values, then one route after the other, or that there are
none. -/
def report (c : Config) (views : View.Registry) : List Fault :=
  c.rangeReport ++
    if c.routes = [] then [.noRoutes]
    else (List.range c.routes.length).flatMap fun i =>
      c.routes[i]?.elim [] (reportOf views c.routing.caseSensitive (c.routes.take i))

/-! ## The walk tells what the report tells -/

theorem isAddress_eq_true_iff {text : String} :
    isAddress text = true ↔ Net.SocketAddress.parse? text ≠ none :=
  Option.isSome_iff_ne_none

theorem rangeFaults_eq_rangeReport (c : Config) : c.rangeFaults = c.rangeReport := by
  simp only [rangeFaults, rangeReport, faultIf, Bool.and_eq_true, Bool.not_eq_true',
    ← Bool.not_eq_true, isAddress_eq_true_iff, ne_eq, not_not, ite_not]

theorem targetFaults_eq_targetReport (views : View.Registry) (d : RouteDecl) :
    targetFaults views d (patternOf? d) = targetReport views d := by
  rw [targetFaults, targetReport]
  cases hview : d.view with
  | none => cases htext : d.text <;> rfl
  | some key =>
    cases htext : d.text with
    | some _ => rfl
    | none =>
      cases hfind : views.find? key with
      | none => simp only [hfind]
      | some view => cases patternOf? d <;> simp [hfind]

/-- The routes that can be read are searched as all routes are. -/
theorem map_name_shadowedBy {pattern : Pattern} (h : Pattern.parse d.path = .ok pattern)
    (before : List RouteDecl) :
    (shadowedBy caseSensitive (before.filterMap Reachable.ofDecl?) pattern d.exact).map
        Reachable.name =
      (before.find? fun e => shadows caseSensitive e d).map RouteDecl.name := by
  induction before with
  | nil => rfl
  | cons e before ih =>
    rw [shadowedBy] at ih ⊢
    -- a route that cannot be read is dropped on one side and passed over on the other
    cases he : Pattern.parse e.path with
    | error fault =>
      have hreach : Reachable.ofDecl? e = none := by rw [Reachable.ofDecl?, he]
      have hshadows : shadows caseSensitive e d = false := by rw [shadows, he]
      rw [List.filterMap_cons_none hreach, ih, List.find?_cons, hshadows]
    | ok earlier =>
      have hreach : Reachable.ofDecl? e = some ⟨e.name, earlier, e.exact⟩ := by
        rw [Reachable.ofDecl?, he]
      have hshadows : shadows caseSensitive e d =
          earlier.covers e.exact pattern d.exact caseSensitive := by rw [shadows, he, h]
      rw [List.filterMap_cons_some hreach, List.find?_cons, List.find?_cons, hshadows]
      cases earlier.covers e.exact pattern d.exact caseSensitive with
      | true => rfl
      | false => exact ih

/-- What the walk says of the paths of a route whose pattern can be read. -/
theorem shadowReport_eq {pattern : Pattern} (h : Pattern.parse d.path = .ok pattern) :
    (match shadowedBy caseSensitive (before.filterMap Reachable.ofDecl?) pattern d.exact with
      | some e => [Fault.shadowedRoute d.name e.name]
      | none => []) = shadowReport caseSensitive before d := by
  have hname : (fun e : RouteDecl => Fault.shadowedRoute d.name e.name) =
      Fault.shadowedRoute d.name ∘ RouteDecl.name := rfl
  rw [shadowReport, hname, ← Option.map_map, ← map_name_shadowedBy h]
  cases shadowedBy caseSensitive (before.filterMap Reachable.ofDecl?) pattern d.exact <;> rfl

/-- A route whose pattern cannot be read is not searched for. -/
theorem shadowReport_of_parse_eq_error {fault : Pattern.Fault}
    (h : Pattern.parse d.path = .error fault) : shadowReport caseSensitive before d = [] := by
  have hshadows : ∀ e, shadows caseSensitive e d = false := by
    intro e
    rw [shadows, h]
    cases Pattern.parse e.path <;> rfl
  simp [shadowReport, hshadows]

/-- **The walk says of each route what the report says of it.** -/
theorem faultsBehind_eq_reportOf (views : View.Registry) (caseSensitive : Bool)
    (before : List RouteDecl) (d : RouteDecl) :
    faultsBehind views caseSensitive before d = reportOf views caseSensitive before d := by
  have hname : (if d.name ∈ (before.map RouteDecl.name).reverse then
      [Fault.duplicateRouteName d.name] else []) = nameReport before d := by
    simp only [nameReport, faultIf, List.mem_reverse, List.mem_map]
  have htarget := targetFaults_eq_targetReport views d
  rw [faultsBehind, faultsOfRoute, hname, reportOf, List.append_assoc, List.append_assoc,
    patternReport]
  cases hparse : Pattern.parse d.path with
  | error fault =>
    rw [patternOf?, hparse] at htarget
    rw [shadowReport_of_parse_eq_error hparse, List.append_nil, ← htarget]
    rfl
  | ok pattern =>
    rw [patternOf?, hparse] at htarget
    rw [← shadowReport_eq hparse, ← htarget]
    rfl

/-- **The walk tells what the report tells.** -/
theorem faults_eq_told (c : Config) (views : View.Registry) :
    c.faults views = c.report views := by
  rw [faults, report, rangeFaults_eq_rangeReport]
  by_cases h : c.routes = []
  · rw [if_pos h, routeFaults, h]
  · rw [if_neg h, routeFaults_eq_flatMap h]
    refine congrArg _ (List.flatMap_congr fun i _ => ?_)
    cases hd : c.routes[i]? with
    | none => simp [faultsAt, blockAt, hd]
    | some d => rw [faultsAt_of_getElem? hd, faultsBehind_eq_reportOf, Option.elim_some]

/-! ## Nothing to tell -/

/-- A configuration with nothing to tell: values within their ranges, and routes with names of their
own, patterns that can be read, targets that can be shown, and paths that no earlier route takes. -/
structure IsInOrder (c : Config) (views : View.Registry) : Prop where
  timeout : c.timeouts.requestSecs ≠ 0
  connections : c.listener.maxConnections ≠ 0
  bindAddress : Net.SocketAddress.parse? c.listener.bindAddress ≠ none
  metricsAddress : c.observability.metricsEnabled = true →
    Net.SocketAddress.parse? c.observability.metricsAddress ≠ none
  routes : c.routes ≠ []
  names : (c.routes.map RouteDecl.name).Nodup
  sound : ∀ d ∈ c.routes, IsSound views d
  apart : ∀ pre d post, c.routes = pre ++ d :: post → ¬ IsCovered c.routing.caseSensitive pre d

theorem rangeReport_eq_nil_iff {c : Config} :
    c.rangeReport = [] ↔ c.timeouts.requestSecs ≠ 0 ∧ c.listener.maxConnections ≠ 0 ∧
      Net.SocketAddress.parse? c.listener.bindAddress ≠ none ∧
      (c.observability.metricsEnabled = true →
        Net.SocketAddress.parse? c.observability.metricsAddress ≠ none) := by
  simp only [rangeReport, List.append_eq_nil_iff, faultIf_eq_nil_iff, not_and, and_assoc, ne_eq]

theorem shadows_eq_true_iff {e : RouteDecl} :
    shadows caseSensitive e d = true ↔
      ∃ pattern, Pattern.parse d.path = .ok pattern ∧
        ∃ earlier, Pattern.parse e.path = .ok earlier ∧
          earlier.covers e.exact pattern d.exact caseSensitive = true := by
  rw [shadows]
  cases Pattern.parse e.path <;> cases Pattern.parse d.path <;> simp

theorem nameReport_eq_nil_iff : nameReport before d = [] ↔ d.name ∉ before.map RouteDecl.name := by
  rw [nameReport, faultIf_eq_nil_iff, List.mem_map]

theorem shadowReport_eq_nil_iff :
    shadowReport caseSensitive before d = [] ↔ ¬ IsCovered caseSensitive before d := by
  have hcovered : IsCovered caseSensitive before d ↔
      ∃ e ∈ before, shadows caseSensitive e d = true := by
    simp only [IsCovered, shadows_eq_true_iff]
    constructor
    · rintro ⟨pattern, hpattern, e, he, hearlier⟩
      exact ⟨e, he, pattern, hpattern, hearlier⟩
    · rintro ⟨e, he, pattern, hpattern, hearlier⟩
      exact ⟨pattern, hpattern, e, he, hearlier⟩
  rw [hcovered, shadowReport, Option.toList_eq_nil_iff, Option.map_eq_none_iff,
    List.find?_eq_none]
  simp only [not_exists, not_and]

/-- Nothing is said of a target exactly when it can be shown for the pattern. -/
theorem targetReport_eq_nil_iff {pattern : Pattern} (h : Pattern.parse d.path = .ok pattern) :
    targetReport views d = [] ↔ ∃ target, d.target = .ok target ∧ Serves views pattern target := by
  have hpattern : patternOf? d = some pattern := by
    rw [patternOf?, h]
    rfl
  rw [← targetFaults_eq_targetReport, hpattern]
  refine ⟨exists_serves_of_targetFaults_eq_nil, ?_⟩
  rintro ⟨target | key, htarget, hserves⟩
  · obtain ⟨view, hfind, hbound⟩ := hserves
    rw [targetFaults_of_target_eq_view htarget, hfind, List.map_eq_nil_iff, List.filter_eq_nil_iff]
    intro name hname
    simpa using hbound name hname
  · exact targetFaults_of_target_eq_text htarget _

/-- **There is nothing to tell of a route exactly when its name is its own, it is sound, and no
earlier route covers it.** -/
theorem reportOf_eq_nil_iff :
    reportOf views caseSensitive before d = [] ↔
      d.name ∉ before.map RouteDecl.name ∧ IsSound views d ∧
        ¬ IsCovered caseSensitive before d := by
  have hsound : patternReport d = [] ∧ targetReport views d = [] ↔ IsSound views d := by
    rw [patternReport, IsSound]
    cases hparse : Pattern.parse d.path with
    | error fault => simp
    | ok pattern => simp [targetReport_eq_nil_iff hparse]
  simp only [reportOf, List.append_eq_nil_iff, nameReport_eq_nil_iff, shadowReport_eq_nil_iff,
    ← hsound, and_assoc]

theorem routes_ne_nil_of_faults_eq_nil {c : Config} (h : c.faults views = []) : c.routes ≠ [] := by
  intro hnil
  rw [faults, routeFaults, hnil] at h
  exact absurd (List.append_eq_nil_iff.1 h).2 (List.cons_ne_nil _ _)

theorem isInOrder_of_faults_eq_nil {c : Config} (h : c.faults views = []) : c.IsInOrder views := by
  have hrange := (List.append_eq_nil_iff.1 h).1
  rw [rangeFaults_eq_rangeReport, rangeReport_eq_nil_iff] at hrange
  obtain ⟨htimeout, hconnections, hbind, hmetrics⟩ := hrange
  refine ⟨htimeout, hconnections, hbind, hmetrics, routes_ne_nil_of_faults_eq_nil h,
    nodup_names_of_faults_eq_nil h, fun d hd => isSound_of_faults_eq_nil h hd,
    fun pre d post hsplit => ?_⟩
  have hblock := faultsBehind_eq_nil h hsplit
  rw [faultsBehind_eq_reportOf, reportOf_eq_nil_iff] at hblock
  exact hblock.2.2

theorem IsInOrder.reportOf_eq_nil {c : Config} (h : c.IsInOrder views) {pre post : List RouteDecl}
    (hsplit : c.routes = pre ++ d :: post) :
    reportOf views c.routing.caseSensitive pre d = [] := by
  have hnames := h.names
  rw [hsplit, List.map_append, List.map_cons, List.nodup_append] at hnames
  refine reportOf_eq_nil_iff.2 ⟨fun hname => ?_, h.sound d ?_, h.apart pre d post hsplit⟩
  · exact hnames.2.2 d.name hname d.name List.mem_cons_self rfl
  · rw [hsplit]
    exact List.mem_append_right _ List.mem_cons_self

/-- **There is nothing to tell exactly when the configuration is in order.** -/
theorem faults_eq_nil_iff {c : Config} : c.faults views = [] ↔ c.IsInOrder views := by
  refine ⟨isInOrder_of_faults_eq_nil, fun h => ?_⟩
  have hroutes : faultsFrom views c.routing.caseSensitive [] [] c.routes = [] := by
    refine List.eq_nil_iff_forall_not_mem.2 fun f hf => ?_
    obtain ⟨pre, d, post, hsplit, hf⟩ := (mem_faultsFrom_iff c.routes).1 hf
    rw [faultsBehind_eq_reportOf, h.reportOf_eq_nil hsplit] at hf
    exact absurd hf List.not_mem_nil
  rw [faults, List.append_eq_nil_iff, rangeFaults_eq_rangeReport, rangeReport_eq_nil_iff,
    routeFaults]
  refine ⟨⟨h.timeout, h.connections, h.bindAddress, h.metricsAddress⟩, ?_⟩
  split
  · rename_i hnil
    exact absurd hnil h.routes
  · exact hroutes

/-! ## More routes at the end -/

/-- The block of a route does not depend on the routes behind it. -/
theorem faultsAt_append_routes {c : Config} (more : List RouteDecl) {i : Nat}
    (h : i < c.routes.length) :
    faultsAt { c with routes := c.routes ++ more } views i = c.faultsAt views i := by
  have hd : (c.routes ++ more)[i]? = some c.routes[i] := by
    rw [List.getElem?_append_left h, List.getElem?_eq_getElem h]
  have hbefore : (c.routes ++ more).take i = c.routes.take i :=
    List.take_append_of_le_length (Nat.le_of_lt h)
  rw [faultsAt_of_getElem? hd, faultsAt_of_getElem? (List.getElem?_eq_getElem h), hbefore]

/-- **More routes at the end take no fault back.** -/
theorem faults_prefix_append {c : Config} (h : c.routes ≠ []) (more : List RouteDecl) :
    c.faults views <+: faults { c with routes := c.routes ++ more } views := by
  have hmore : c.routes ++ more ≠ [] := fun hnil => h (List.append_eq_nil_iff.1 hnil).1
  have hrange : rangeFaults { c with routes := c.routes ++ more } = c.rangeFaults := rfl
  have hsame : (List.range c.routes.length).flatMap
      (faultsAt { c with routes := c.routes ++ more } views) =
        (List.range c.routes.length).flatMap (c.faultsAt views) :=
    List.flatMap_congr fun i hi => faultsAt_append_routes more (List.mem_range.1 hi)
  rw [faults, faults, hrange, routeFaults_eq_flatMap h, routeFaults_eq_flatMap hmore,
    List.length_append, List.range_add, List.flatMap_append, hsame]
  exact (List.prefix_append_right_inj _).2 (List.prefix_append _ _)

/-! ## The report of a configuration -/

/-- **Validation tells all that is wrong, and nothing else.**  It fails with the report, which holds
what each check has to say, in order: it succeeds exactly when the configuration is in order, and of
what it tells it takes nothing back when more routes are declared at the end. -/
theorem validate_eq_report (c : Config) (views : View.Registry) :
    c.validate views = (if c.report views = [] then .ok () else .error (c.report views)) ∧
    (c.validate views = .ok () ↔ c.IsInOrder views) ∧
    (c.routes ≠ [] → ∀ more : List RouteDecl,
      c.report views <+: report { c with routes := c.routes ++ more } views) := by
  refine ⟨?told, validate_eq_ok_iff.trans faults_eq_nil_iff, fun hroutes more => ?longer⟩
  case told =>
    rw [validate, ← faults_eq_told]
    split
    · rename_i hnil
      rw [if_pos hnil]
    · rename_i hfaults
      rw [if_neg hfaults]
  case longer =>
    rw [← faults_eq_told, ← faults_eq_told]
    exact faults_prefix_append hroutes more

/-- No time for a request, a route that is fine, one whose name is taken, whose pattern cannot be
read and which has no target, and one with a view that lacks its parameter, behind a route that takes
all its paths. -/
def faultyConfig : Config where
  timeouts := { requestSecs := 0 }
  routes :=
    [⟨"news", "/news/:section", false, none, some "News"⟩, ⟨"news", "news", false, none, none⟩,
      ⟨"latest", "/news/latest", false, some "order", none⟩]

theorem validate_faultyConfig :
    faultyConfig.report .standard = [.zeroTimeout, .duplicateRouteName "news",
        .invalidPattern "news" (.missingLeadingSlash "news"), .missingTarget "news",
        .unboundParam "latest" "order" "orderId", .shadowedRoute "latest" "news"] ∧
      faultyConfig.validate .standard = .error (faultyConfig.report .standard) ∧
      ¬ faultyConfig.IsInOrder .standard ∧
      ∀ d, faultyConfig.report .standard <+:
        report { faultyConfig with routes := faultyConfig.routes ++ [d] } .standard := by
  have hfaulty : faultyConfig.report .standard ≠ [] := by decide +kernel
  obtain ⟨htold, horder, hlonger⟩ := validate_eq_report faultyConfig .standard
  rw [if_neg hfaulty] at htold
  refine ⟨by decide +kernel, htold, fun h => ?_, fun d => hlonger (by decide) [d]⟩
  rw [← horder, htold] at h
  exact nomatch h

end PageRouter.Config
