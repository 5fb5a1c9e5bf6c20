import PageRouter.CommandLine.Inspect
import PageRouter.Navigation.Session
import PageRouter.Proofs.Config.Load
import PageRouter.Proofs.Data.Json
import PageRouter.Proofs.Http.Uri
import PageRouter.Proofs.Location
import PageRouter.Proofs.Site.Start

/-!
# Three ways into a site

A target can be asked for over HTTP, navigated to, or resolved on the command line.  The first reads
the path of the target alone as a location and the others read all of it, but the path of the
location is the same, and so is what they show.  The command line prints it as JSON, and no two
outcomes are printed alike.

* `path_eq_of_append`: what stands behind the path of a text does not count for the path of its
  location.
* `eq_of_json_toValue_eq`: an outcome is known from what is printed of it.
* `step_render_of_start`, `answer_get`, `resolveOn_eq`: what each way shows, by the outcome of one
  visit.
* `entryPoints_agree`: the main result.
-/

set_option autoImplicit false

namespace PageRouter

/-! ## The location of a target -/

namespace Location

/-- **What stands behind a path does not count for it.** -/
theorem path_eq_of_append {input : String} {text rest : List Char}
    (hinput : input.toList = '/' :: (text ++ rest))
    (htext : ∀ c ∈ text, 0x20 < c.toNat ∧ Url.endsPath c = false)
    (hrest : ∀ c ∈ rest.head?, Url.endsPath c = true) :
    ∃ l, parse input = .ok l ∧
      l.path = String.ofList (Path.collapseChars (Url.normalPath .http text)) := by
  have hvisible : ∀ c ∈ text, Url.isBlank c = false :=
    fun c hc => Url.not_isBlank_of_visible (htext c hc).1
  have htrimmed : ∀ c ∈ (Url.trimmedEnd rest).head?, Url.endsPath c = true := by
    cases rest with
    | nil => exact fun c hc => nomatch hc
    | cons d rest =>
      have hd : Url.endsPath d = true := hrest d rfl
      have hblank : Url.isBlank d = false := by
        rw [Url.endsPath, Bool.or_eq_true, beq_iff_eq, beq_iff_eq] at hd
        rcases hd with rfl | rfl <;> decide
      rw [Url.trimmedEnd_cons hblank]
      exact fun c hc => (Option.some.inj hc) ▸ hd
  refine ⟨_, parse_of_toList hinput rfl, ?_⟩
  rw [Url.trimmedEnd_append hvisible, Url.readPath_append (fun c hc => (htext c hc).2) htrimmed,
    ofParts, Url.path_readTail]

/-- The location of a request target has the path of the location of its path. -/
theorem path_parse_uri {u : String} {uri : Http.Uri} (huri : Http.Uri.parse? u = some uri)
    (hrooted : u.toList.head? = some '/') :
    ∃ here there, parse u = .ok here ∧ parse uri.path = .ok there ∧ there.path = here.path := by
  obtain ⟨path, rest, hu, hpath, hchars, hrest⟩ := Http.Uri.exists_path_of_parse? huri hrooted
  obtain ⟨here, hhere, hherePath⟩ := path_eq_of_append hu hchars hrest
  have hpathNil : uri.path.toList = '/' :: (path ++ []) := by rw [List.append_nil, hpath]
  obtain ⟨there, hthere, htherePath⟩ :=
    path_eq_of_append hpathNil hchars fun c hc => nomatch hc
  exact ⟨here, there, hhere, hthere, htherePath.trans hherePath.symm⟩

end Location

/-! ## What is printed of an outcome -/

open Data

theorem Params.isTextual_toValue (p : Params) : p.toValue.IsTextual := by
  refine .list fun v hv => ?_
  obtain ⟨b, -, rfl⟩ := List.mem_map.1 hv
  refine .list fun w hw => ?_
  simp only [List.mem_cons, List.not_mem_nil, or_false] at hw
  rcases hw with rfl | rfl <;> exact .text _

theorem isTextual_optionalText (o : Option String) : (optionalText o).IsTextual := by
  cases o with
  | none => exact .null
  | some s => exact .text s

theorem Outcome.isTextual_toValue (o : Outcome) : o.toValue.IsTextual := by
  cases o with
  | rendered screen =>
    refine .table fun f hf => ?_
    simp only [Screen.toFields, List.mem_cons, List.not_mem_nil, or_false] at hf
    rcases hf with rfl | rfl | rfl | rfl | rfl
    · exact .text _
    · exact .text _
    · exact isTextual_optionalText _
    · exact screen.params.isTextual_toValue
    · exact .text _
  | noMatch path =>
    refine .table fun f hf => ?_
    simp only [List.mem_cons, List.not_mem_nil, or_false] at hf
    rcases hf with rfl | rfl <;> exact .text _

theorem optionalText_injective : Function.Injective optionalText := by
  rintro (_ | a) (_ | b) h
  · rfl
  · exact Value.noConfusion h
  · exact Value.noConfusion h
  · exact congrArg some (Value.text.inj h)

theorem Params.toValue_injective : Function.Injective Params.toValue := by
  rintro ⟨bs⟩ ⟨bs'⟩ h
  have hpair : Function.Injective fun b : String × String =>
      Value.list [.text b.1, .text b.2] := by
    rintro ⟨a, b⟩ ⟨a', b'⟩ hab
    simpa using hab
  exact congrArg Params.mk (List.map_injective_iff.2 hpair (Value.list.inj h))

theorem Outcome.toValue_injective : Function.Injective Outcome.toValue := by
  rintro (⟨route, view, params, body⟩ | path) (⟨route', view', params', body'⟩ | path') h
  · simp only [toValue, Screen.toFields, Value.table.injEq, List.cons.injEq, Prod.mk.injEq,
      Value.text.injEq, true_and, and_true] at h
    obtain ⟨rfl, hview, hparams, rfl⟩ := h
    rw [optionalText_injective hview, Params.toValue_injective hparams]
  · simp [toValue] at h
  · simp [toValue] at h
  · simp only [toValue, Value.table.injEq, List.cons.injEq, Prod.mk.injEq, Value.text.injEq,
      true_and, and_true] at h
    rw [h]

/-- **An outcome is known from what is printed of it.** -/
theorem Outcome.eq_of_json_toValue_eq {o o' : Outcome} {layout : Layout}
    (h : o.toValue.json layout = o'.toValue.json layout) : o = o' :=
  toValue_injective (Value.json_inj o.isTextual_toValue o'.isTextual_toValue h)

/-! ## What each way shows -/

/-- A shell at a new navigator shows what the site has at its location. -/
theorem Session.step_render_of_start {u : String} {here : Location}
    (h : Location.parse u = .ok here) (site : Site) :
    ∃ n, Navigator.start u = .ok n ∧
      ((Session.new n).step site (.render 0)).1 = .outcome (site.dispatch here.path) := by
  refine ⟨.new here, ?_, rfl⟩
  rw [Navigator.start, h]
  rfl

/-- A router answers a target with what its site has at the location of the path. -/
theorem Http.Router.answer_get {r : Router} {uri : Uri} {there : Location}
    (hpath : uri.path.toList.head? = some '/') (h : Location.parse uri.path = .ok there)
    (headers : Headers) :
    r.answer ⟨uri, "GET", headers⟩ = .ofOutcome (r.site.dispatch there.path) := by
  have hhas : hasPath uri = true := by rw [hasPath, hpath]; rfl
  simp only [Router.answer, hhas, Router.get, h, Bool.not_true, Bool.false_eq_true, if_false,
    if_true]

namespace CommandLine.Inspect

theorem resolveOn_eq {site : Site} {u : String} {here : Location} {outcome : Outcome}
    (h : Location.parse u = .ok here) (houtcome : site.dispatch here.path = .ok outcome) :
    resolveOn site u = reportOutcome outcome := by
  simp only [resolveOn, h, houtcome]

theorem run_resolve {world : World} {args : List String} {u : String} {config : Option String}
    {c : Config} {site : Site} (hargs : readRequest args = .command (.resolve u config))
    (hload : Config.loadOrStandard (config.map world.file) = .ok c)
    (hsite : Site.start c .standard = .ok site) : run world args = resolveOn site u := by
  have hsiteOf : siteOf? world config = some site := by
    simp only [siteOf?, hload, hsite, Except.toOption]
  simp only [run, hargs, Command.run, hsiteOf]

/-- Arguments may ask for any target that begins with a slash: it is not taken for an option. -/
theorem readRequest_resolve {u : String} (hrooted : u.toList.head? = some '/') :
    readRequest ["resolve", u] = .command (.resolve u none) := by
  obtain ⟨cs, hcs⟩ := List.head?_eq_some_iff.1 hrooted
  have hword : ∀ shape, Argument.ofText shape u = .word u := fun shape => by
    simp [Argument.ofText, hcs]
  have hread : read ⟨[configFlag], 1⟩ [u] = .ready ⟨[], [u]⟩ := by
    simp [read, readFrom, hword, Arguments.addWord?, Arguments.empty, continueWith, finish]
  rw [readRequest, hread]
  rfl

end CommandLine.Inspect

/-! ## The main result -/

open CommandLine in
/-- **The three ways into a site agree.**  For a configuration that can be loaded and served, a
target that begins with a slash has a location, whose path is that of the location of the target's
own path; and what a shell shows there is what a server answers and what the command line prints, as
JSON that is printed for no other outcome. -/
theorem Site.entryPoints_agree {world : World} {config : Option String} {c : Config}
    {u : String} {uri : Http.Uri} {args : List String}
    (hload : Config.loadOrStandard (config.map world.file) = .ok c)
    (hlimit : c.listener.maxConnections.toNat ≤ Http.Router.maxPermits)
    (huri : Http.Uri.parse? u = some uri) (hrooted : u.toList.head? = some '/')
    (hargs : Inspect.readRequest args = .command (.resolve u config)) :
    ∃ site router here there navigator outcome,
      Site.start c .standard = .ok site ∧ Http.Router.build c site = .ok router ∧
      Location.parse u = .ok here ∧ Location.parse uri.path = .ok there ∧
      there.path = here.path ∧ Navigator.start u = .ok navigator ∧
      ((Session.new navigator).step site (.render 0)).1 = .outcome (.ok outcome) ∧
      (∀ screen, outcome = .rendered screen →
        (∀ headers, (router.handle ⟨uri, "GET", headers⟩).answer.status = 200 ∧
          (router.handle ⟨uri, "GET", headers⟩).answer.body = (Page.ofScreen screen).html) ∧
        Inspect.run world args = ⟨0, outcome.toValue.json .indented ++ "\n"⟩) ∧
      (∀ path, outcome = .noMatch path →
        (∀ headers, (router.handle ⟨uri, "GET", headers⟩).answer.status = 404 ∧
          (router.handle ⟨uri, "GET", headers⟩).answer.body = "Not Found") ∧
        Inspect.run world args = ⟨1, outcome.toValue.json .indented ++ "\n"⟩) ∧
      (∀ outcome' : Outcome,
        outcome'.toValue.json .indented ++ "\n" = (Inspect.run world args).output →
          outcome' = outcome) ∧
      Inspect.readRequest ["resolve", u] = .command (.resolve u none) := by
  obtain ⟨site, hsite⟩ := exists_start_of_faults_eq_nil (Config.faults_of_loadOrStandard hload)
  obtain ⟨here, there, hhere, hthere, hpath⟩ := Location.path_parse_uri huri hrooted
  obtain ⟨navigator, hnavigator, hrender⟩ := Session.step_render_of_start hhere site
  obtain ⟨outcome, houtcome⟩ : ∃ outcome, site.dispatch here.path = .ok outcome := by
    rcases dispatch_of_start (fun v hv => View.Registry.failsOnlyForWant_of_mem_standard hv) hsite
      here.path with ⟨screen, hscreen⟩ | hnone
    · exact ⟨_, hscreen⟩
    · exact ⟨_, hnone⟩
  have huriPath : uri.path.toList.head? = some '/' := by
    obtain ⟨path, _, _, huriPath, _⟩ := Http.Uri.exists_path_of_parse? huri hrooted
    rw [huriPath]
    rfl
  have hanswer : ∀ headers, ((Http.Router.mk site).handle ⟨uri, "GET", headers⟩).answer =
      .ofOutcome (.ok outcome) := by
    intro headers
    rw [Http.Router.handle, Http.Router.answer_get huriPath hthere, hpath, houtcome]
  have hrun : Inspect.run world args = Inspect.reportOutcome outcome :=
    (Inspect.run_resolve hargs hload hsite).trans (Inspect.resolveOn_eq hhere houtcome)
  refine ⟨site, ⟨site⟩, here, there, navigator, outcome, hsite, if_pos hlimit, hhere, hthere, hpath,
    hnavigator, hrender.trans (congrArg Session.Reply.outcome houtcome), ?_, ?_, ?_,
    Inspect.readRequest_resolve hrooted⟩
  · rintro screen rfl
    refine ⟨fun headers => ?_, hrun⟩
    rw [hanswer]
    exact ⟨rfl, rfl⟩
  · rintro path rfl
    refine ⟨fun headers => ?_, hrun⟩
    rw [hanswer]
    exact ⟨rfl, rfl⟩
  · intro outcome' houtput
    rw [hrun] at houtput
    exact Outcome.eq_of_json_toValue_eq (String.append_left_inj _ |>.1 houtput)

/-- A world without files and servers. -/
def CommandLine.emptyWorld : World := ⟨fun _ => .missing, fun _ => none⟩

/-- The screen of order seven on the standard site. -/
def Screen.orderSeven : Screen :=
  ⟨"order", some "order", ⟨[("orderId", "7")]⟩,
    "<section class=\"page\" data-view=\"order\"><h1>Order</h1><p class=\"order-id\">7</p></section>"⟩

/-- What is printed of the screen of order seven. -/
def CommandLine.orderSevenText : String :=
  "\x7b\n  \"outcome\": \"rendered\",\n  \"route\": \"order\",\n  \"view\": \"order\",\n" ++
  "  \"params\": [\n    [\n      \"orderId\",\n      \"7\"\n    ]\n  ],\n" ++
  "  \"body\": \"<section class=\\\"page\\\" data-view=\\\"order\\\"><h1>Order</h1>" ++
  "<p class=\\\"order-id\\\">7</p></section>\"\n\x7d\n"

open CommandLine in
theorem Site.entryPoints_agree_standard :
    ∃ uri site router here there, Http.Uri.parse? "//order/%2E/\\7?day=1" = some uri ∧
      Site.start .standard .standard = .ok site ∧ Http.Router.build .standard site = .ok router ∧
      Location.parse "//order/%2E/\\7?day=1" = .ok here ∧ Location.parse uri.path = .ok there ∧
      there.path = here.path ∧
      (router.handle ⟨uri, "GET", ⟨[]⟩⟩).answer.body = (Page.ofScreen .orderSeven).html ∧
      Inspect.run emptyWorld ["resolve", "//order/%2E/\\7?day=1"] = ⟨0, orderSevenText⟩ := by
  have hfaults : Config.standard.faults .standard = [] := by decide +kernel
  have hload : Config.loadOrStandard (Option.map emptyWorld.file none) = .ok .standard :=
    Config.checked_eq_ok_iff.2 ⟨rfl, hfaults⟩
  have huri : Http.Uri.parse? "//order/%2E/\\7?day=1" = some ⟨"//order/%2E/\\7"⟩ := by
    decide +kernel
  have hrooted : "//order/%2E/\\7?day=1".toList.head? = some '/' := by decide
  have houtput :
      (Inspect.run emptyWorld ["resolve", "//order/%2E/\\7?day=1"]).output = orderSevenText := by
    decide +kernel
  have hprinted : (Outcome.rendered .orderSeven).toValue.json .indented ++ "\n" = orderSevenText := by
    decide +kernel
  obtain ⟨site, router, here, there, _, outcome, hsite, hrouter, hhere, hthere, hpath, _, _,
      hrendered, _, honly, _⟩ :=
    @Site.entryPoints_agree emptyWorld none .standard
      "//order/%2E/\\7?day=1" _ _ hload (by decide) huri hrooted
      (Inspect.readRequest_resolve hrooted)
  -- What is printed tells which screen is shown.
  obtain rfl : .rendered .orderSeven = outcome :=
    honly (.rendered .orderSeven) (hprinted.trans houtput.symm)
  obtain ⟨hanswer, hrun⟩ := hrendered .orderSeven rfl
  exact ⟨_, site, router, here, there, huri, hsite, hrouter, hhere, hthere, hpath,
    (hanswer ⟨[]⟩).2, hrun.trans (congrArg (Report.mk 0) hprinted)⟩

end PageRouter
