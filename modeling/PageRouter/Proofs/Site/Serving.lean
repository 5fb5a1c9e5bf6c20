import PageRouter.Http.Router
import PageRouter.Proofs.Site.Start

/-!
# Which configurations can be served

A configuration without faults can be started, whatever its numbers are.  Serving it takes one more
step: a router counts its connections, and can do so only up to `Http.Router.maxPermits`, which the
search for faults does not know of.  So there are configurations that have no faults and no server.

* `build_eq_ok_iff`: when a router can be built.
* `exists_build_iff`: of the configurations without faults, those within the limit can be served,
  and their routers never have to answer that showing a page failed.
-/

set_option autoImplicit false

namespace PageRouter

namespace Http.Router

variable {c : Config} {site : Site} {router : Router}

theorem build_eq_ok_iff :
    build c site = .ok router ↔
      c.listener.maxConnections.toNat ≤ maxPermits ∧ router = ⟨site⟩ := by
  rw [build]
  split
  · rename_i hlimit
    refine ⟨fun h => ⟨hlimit, (Except.ok.inj h).symm⟩, ?_⟩
    rintro ⟨_, rfl⟩
    rfl
  · rename_i hlimit
    exact ⟨(nomatch ·), fun h => absurd h.1 hlimit⟩

/-- **A configuration without faults can be started, but served only within the limit.**  A router
that can be built shows the site that was started, and never answers that this failed. -/
theorem exists_build_iff (h : c.faults .standard = []) :
    ∃ site, Site.start c .standard = .ok site ∧
      ((∃ router, build c site = .ok router) ↔
        c.listener.maxConnections.toNat ≤ maxPermits) ∧
      ∀ router, build c site = .ok router →
        router.site = site ∧ ∀ request, (router.handle request).answer.status ≠ 500 := by
  obtain ⟨site, hsite⟩ := Site.exists_start_of_faults_eq_nil h
  refine ⟨site, hsite, ?_, fun router hrouter => ?_⟩
  · constructor
    · rintro ⟨router, hrouter⟩
      exact (build_eq_ok_iff.1 hrouter).1
    · intro hlimit
      exact ⟨⟨site⟩, build_eq_ok_iff.2 ⟨hlimit, rfl⟩⟩
  · obtain ⟨_, rfl⟩ := build_eq_ok_iff.1 hrouter
    refine ⟨rfl, status_answer_ne_failed fun path => ?_⟩
    rcases Site.dispatch_of_start
      (fun v hv => View.Registry.failsOnlyForWant_of_mem_standard hv) hsite path with
      ⟨screen, hscreen⟩ | hnone
    · exact ⟨_, hscreen⟩
    · exact ⟨_, hnone⟩

/-- A configuration that serves as many requests at once as can be counted. -/
def fullConfig : Config where
  listener := { maxConnections := 2305843009213693951 }

theorem exists_build_fullConfig :
    fullConfig.faults .standard = [] ∧
      ∃ site router, Site.start fullConfig .standard = .ok site ∧
        build fullConfig site = .ok router := by
  have hfaults : fullConfig.faults .standard = [] := by decide +kernel
  obtain ⟨site, hsite, hbuild, _⟩ := exists_build_iff hfaults
  obtain ⟨router, hrouter⟩ := hbuild.2 (by decide)
  exact ⟨hfaults, site, router, hsite, hrouter⟩

/-- The standard configuration, but for one connection more than can be counted. -/
def overfullConfig : Config where
  listener := { maxConnections := 2305843009213693952 }

/-- Nothing is found wrong with it, and yet it cannot be served. -/
theorem not_build_overfullConfig :
    ¬∀ c : Config, c.faults .standard = [] →
      ∃ site router, Site.start c .standard = .ok site ∧ build c site = .ok router := by
  intro hall
  have hfaults : overfullConfig.faults .standard = [] := by decide +kernel
  obtain ⟨site, router, _, hrouter⟩ := hall overfullConfig hfaults
  exact absurd (build_eq_ok_iff.1 hrouter).1 (by decide)

end Http.Router

end PageRouter
