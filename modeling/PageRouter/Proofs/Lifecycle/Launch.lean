import Mathlib.Data.List.Induction
import PageRouter.Lifecycle.Launch
import PageRouter.Proofs.Lifecycle.Shutdown

/-!
# Signals that come while the server is launched

The signal task is started before the main task waits for the shutdown, and an announcement goes to
those who wait at the time.  So whether the server ever stops depends on which of the two comes
first, and on nothing else that the tasks do.

* `stops_iff_isHeard`: in whatever order steps are taken, and however often, the server stops
  exactly when its wait began before the first announcement.
* `stops_iff_sublist`: for the two tasks as they are, that is when the main task gets to wait before
  the signal task announces; a signal that was missed is missed for good.
-/

set_option autoImplicit false

namespace PageRouter.Launch

open Shutdown (Event Tracks AnnouncedSince begun? ends announces waitsLeft handlesLeft)

/-! ## What can be heard -/

/-- The first announcement finds somebody waiting. -/
def IsHeard (steps : List Step) : Prop :=
  ∃ before later, steps = before ++ .announce :: later ∧ .announce ∉ before ∧ .subscribe ∈ before

/-- One more step is heard if it is the first announcement, and somebody waits. -/
theorem isHeard_append_singleton {steps : List Step} {x : Step} :
    IsHeard (steps ++ [x]) ↔
      IsHeard steps ∨ (x = .announce ∧ .announce ∉ steps ∧ .subscribe ∈ steps) := by
  constructor
  · rintro ⟨before, later, hsplit, hfirst, hwaits⟩
    rcases List.eq_nil_or_concat later with rfl | ⟨later, y, rfl⟩
    · obtain ⟨rfl, hx⟩ := List.append_inj' hsplit rfl
      exact .inr ⟨(List.cons.inj hx).1, hfirst, hwaits⟩
    · rw [List.concat_eq_append, ← List.cons_append, ← List.append_assoc] at hsplit
      obtain ⟨rfl, _⟩ := List.append_inj' hsplit rfl
      exact .inl ⟨before, later, rfl, hfirst, hwaits⟩
  · rintro (⟨before, later, rfl, hfirst, hwaits⟩ | ⟨rfl, hfirst, hwaits⟩)
    · exact ⟨before, later ++ [x], by rw [List.append_assoc, List.cons_append], hfirst, hwaits⟩
    · exact ⟨steps, [], rfl, hfirst, hwaits⟩

/-- Once there was an announcement, more steps do not change whether one is heard. -/
theorem isHeard_append_iff {steps : List Step} (hannounced : .announce ∈ steps)
    (more : List Step) : IsHeard (steps ++ more) ↔ IsHeard steps := by
  induction more using List.reverseRecOn with
  | nil => rw [List.append_nil]
  | append_singleton more x ih =>
    rw [← List.append_assoc, isHeard_append_singleton, ih]
    refine or_iff_left fun ⟨_, hfirst, _⟩ => ?_
    exact hfirst (List.mem_append_left more hannounced)

/-- Where no step is taken twice, the wait and the announcement only have to come in that order. -/
theorem isHeard_iff_sublist {steps : List Step} (hnodup : steps.Nodup) :
    IsHeard steps ↔ [Step.subscribe, .announce].Sublist steps := by
  constructor
  · rintro ⟨before, later, rfl, _, hwaits⟩
    exact (List.singleton_sublist.2 hwaits).append
      (List.singleton_sublist.2 List.mem_cons_self)
  · intro hsub
    obtain ⟨front, rest, rfl, hwaits, hrest⟩ := List.cons_sublist_iff.1 hsub
    obtain ⟨between, later, rfl⟩ := List.append_of_mem (List.singleton_sublist.1 hrest)
    rw [← List.append_assoc] at hnodup ⊢
    refine ⟨front ++ between, later, rfl, fun hmem => ?_, List.mem_append_left between hwaits⟩
    exact (List.nodup_append.1 hnodup).2.2 _ hmem _ List.mem_cons_self rfl

/-! ## The shutdown during a launch -/

/-- How the shutdown stands after steps, and what has happened in it so far. -/
structure Follows (steps : List Step) (t : List Event) (s : Shutdown) : Prop where
  tracks : Tracks t s
  /-- No wait is looked at before all steps are taken. -/
  unended : ∀ w, t.any (ends w) = false
  begun : 0 ∈ t.filterMap begun? ↔ .subscribe ∈ steps
  heard : AnnouncedSince t 0 ↔ IsHeard steps
  main : s.hasHandle mainHandle = true
  signal : s.hasHandle signalHandle = true ↔ .announce ∉ steps

theorem follows_initial : Follows [] [(.clone mainHandle, .number signalHandle)] initial where
  tracks := Shutdown.tracks_new.cloned mainHandle
  unended w := rfl
  begun := by decide
  heard := by
    refine iff_of_false (fun hsince => ?_) fun ⟨before, later, hsplit, _⟩ => ?_
    · exact absurd (Shutdown.mem_begun_of_announcedSince hsince) (by decide)
    · simp at hsplit
  main := rfl
  signal := by decide

namespace Follows

variable {steps : List Step} {t : List Event} {s : Shutdown}

/-- A step that is none of the shutdown. -/
theorem idle (hfollows : Follows steps t s) {x : Step} (hsubscribe : x ≠ .subscribe)
    (hannounce : x ≠ .announce) : Follows (steps ++ [x]) t s where
  tracks := hfollows.tracks
  unended := hfollows.unended
  begun := by simpa [hsubscribe.symm] using hfollows.begun
  heard := by simpa [isHeard_append_singleton, hannounce] using hfollows.heard
  main := hfollows.main
  signal := by simpa [hannounce.symm] using hfollows.signal

theorem subscribed (hfollows : Follows steps t s) :
    Follows (steps ++ [.subscribe]) (t ++ [(.subscribe mainHandle, .number s.waits.length)])
      s.subscribe where
  tracks := hfollows.tracks.subscribed mainHandle
  unended w := by simpa [ends] using hfollows.unended w
  begun := by
    -- waits are numbered as they come, so that the first of all is there now
    have hgiven : t.filterMap begun? = List.range s.waits.length := by
      simpa using hfollows.tracks.waits.given_eq
    rw [List.filterMap_append, hgiven]
    simp [begun?, ← List.range_succ]
  heard := by
    rw [Shutdown.announcedSince_append_singleton, isHeard_append_singleton, hfollows.heard]
    simp [announces]
  main := hfollows.main
  signal := by simpa [Shutdown.subscribe, Shutdown.hasHandle] using hfollows.signal

/-- An announcement by the signal task, which then gives up its handle. -/
theorem announced (hfollows : Follows steps t s) (hfirst : .announce ∉ steps) :
    Follows (steps ++ [.announce])
      (t ++ [(.trigger signalHandle, .nothing)] ++ [(.drop signalHandle, .nothing)])
      (s.trigger.dropHandle signalHandle) where
  tracks := (hfollows.tracks.announced signalHandle).dropped (hfollows.signal.2 hfirst)
  unended w := by simpa [ends] using hfollows.unended w
  begun := by simpa [begun?] using hfollows.begun
  heard := by
    rw [Shutdown.announcedSince_append_singleton, Shutdown.announcedSince_append_singleton,
      isHeard_append_singleton, hfollows.heard, hfollows.begun]
    simp [announces, hfirst]
  main := by
    have hmain := hfollows.main
    rw [Shutdown.hasHandle_eq_true_iff] at hmain ⊢
    simpa [Shutdown.dropHandle, Shutdown.trigger, signalHandle, mainHandle] using hmain
  signal := by
    refine iff_of_false (fun hsignal => ?_) (by simp)
    rw [Shutdown.hasHandle_eq_true_iff] at hsignal
    simp [Shutdown.dropHandle, List.getElem?_set] at hsignal

/-- An announcement that is not the first. -/
theorem repeated (hfollows : Follows steps t s) (hannounced : .announce ∈ steps) :
    Follows (steps ++ [.announce]) t s where
  tracks := hfollows.tracks
  unended := hfollows.unended
  begun := by simpa using hfollows.begun
  heard := by simpa [isHeard_append_singleton, hannounced] using hfollows.heard
  main := hfollows.main
  signal := by simpa [hannounced] using hfollows.signal

/-- **Each step is followed.**  A second announcement finds its handle gone, and does nothing. -/
theorem step (hfollows : Follows steps t s) (x : Step) :
    ∃ t', Follows (steps ++ [x]) t' (perform s x) := by
  cases x with
  | build => exact ⟨t, hfollows.idle (by decide) (by decide)⟩
  | run => exact ⟨t, hfollows.idle (by decide) (by decide)⟩
  | receive => exact ⟨t, hfollows.idle (by decide) (by decide)⟩
  | subscribe =>
    have hperform : perform s .subscribe = s.subscribe := by
      rw [perform, Shutdown.step, Shutdown.withHandle, if_pos hfollows.main]
    exact ⟨_, hperform ▸ hfollows.subscribed⟩
  | announce =>
    by_cases hfirst : .announce ∉ steps
    · have hsignal : s.hasHandle signalHandle = true := hfollows.signal.2 hfirst
      have hperform : perform s .announce = s.trigger.dropHandle signalHandle := by
        have hleft : s.trigger.hasHandle signalHandle = true := hsignal
        simp [perform, Shutdown.step, Shutdown.withHandle, hsignal, hleft]
      exact ⟨_, hperform ▸ hfollows.announced hfirst⟩
    · have hsignal : s.hasHandle signalHandle = false := by
        simpa using mt hfollows.signal.1 hfirst
      have hperform : perform s .announce = s := by
        simp [perform, Shutdown.step, Shutdown.withHandle, hsignal]
      rw [hperform]
      exact ⟨t, hfollows.repeated (Classical.not_not.1 hfirst)⟩

end Follows

theorem exists_follows (steps : List Step) : ∃ t, Follows steps t (outcome steps) := by
  induction steps using List.reverseRecOn with
  | nil => exact ⟨_, follows_initial⟩
  | append_singleton steps x ih =>
    obtain ⟨t, hfollows⟩ := ih
    rw [outcome, List.foldl_append]
    exact hfollows.step x

/-- **A launch ends well exactly when its first announcement is heard.**  This holds of steps in any
order and number, not only of those that two tasks take side by side. -/
theorem stops_iff_isHeard (steps : List Step) : stops steps = true ↔ IsHeard steps := by
  obtain ⟨t, hfollows⟩ := exists_follows steps
  rw [stops, beq_iff_eq]
  by_cases hwaits : .subscribe ∈ steps
  · have hleft : 0 ∈ waitsLeft t :=
      List.mem_filter.2 ⟨hfollows.begun.2 hwaits, by rw [hfollows.unended]; rfl⟩
    have hhandles : handlesLeft t ≠ [] :=
      List.ne_nil_of_mem (hfollows.tracks.mem_handlesLeft_iff.2 hfollows.main)
    obtain ⟨r, hr⟩ := hfollows.tracks.exists_pending_of_mem_waitsLeft hleft
    have hempty := hfollows.tracks.receive_eq_empty_iff hr
    rw [or_iff_left hhandles, hfollows.heard] at hempty
    rw [Shutdown.step_poll_of_pending hr, ← not_iff_not, ← hempty]
    split <;> simp_all
  · have hnone : (outcome steps).waits[0]? = none := by
      cases hwait : (outcome steps).waits[0]? with
      | none => rfl
      | some w => exact absurd (hfollows.begun.1 (hfollows.tracks.mem_begun hwait)) hwaits
    refine iff_of_false (fun hdone => ?_) fun hheard => ?_
    · rw [Shutdown.step, hnone] at hdone
      cases hdone
    · obtain ⟨before, later, rfl, _, hmem⟩ := hheard
      exact hwaits (List.mem_append_left _ hmem)

/-! ## Two tasks side by side -/

/-- Interleaving keeps the steps of both tasks. -/
theorem perm_of_mem_interleavings {as bs steps : List Step} (h : steps ∈ interleavings as bs) :
    steps.Perm (as ++ bs) := by
  induction as, bs using interleavings.induct generalizing steps with
  | case1 bs =>
    rw [interleavings, List.mem_singleton] at h
    rw [h, List.nil_append]
  | case2 as has =>
    rw [interleavings, List.mem_singleton] at h
    · rw [h, List.append_nil]
    · exact has
  | case3 a as b bs ihleft ihright =>
    rw [interleavings, List.mem_append, List.mem_map, List.mem_map] at h
    rcases h with ⟨rest, hrest, rfl⟩ | ⟨rest, hrest, rfl⟩
    · exact (ihleft hrest).cons a
    · exact ((ihright hrest).cons b).trans List.perm_middle.symm

theorem nodup_of_mem_interleavings {steps : List Step}
    (h : steps ∈ interleavings mainTask signalTask) : steps.Nodup :=
  (perm_of_mem_interleavings h).nodup_iff.2 (by decide)

theorem announce_mem_of_mem_interleavings {steps : List Step}
    (h : steps ∈ interleavings mainTask signalTask) : .announce ∈ steps :=
  (perm_of_mem_interleavings h).mem_iff.2 (by decide)

/-- **Whether a signal stops the server is decided by a race.**  When the two tasks have taken all
their steps, the server stops exactly if its wait began before the announcement; and if it did not,
no further steps make it stop. -/
theorem stops_iff_sublist {steps : List Step} (h : steps ∈ interleavings mainTask signalTask) :
    (stops steps = true ↔ [Step.subscribe, .announce].Sublist steps) ∧
      ∀ more, stops (steps ++ more) = stops steps := by
  refine ⟨(stops_iff_isHeard steps).trans (isHeard_iff_sublist (nodup_of_mem_interleavings h)),
    fun more => ?_⟩
  rw [Bool.eq_iff_iff, stops_iff_isHeard, stops_iff_isHeard]
  exact isHeard_append_iff (announce_mem_of_mem_interleavings h) more

theorem stops_iff_sublist_early :
    let steps := [Step.build, .receive, .subscribe, .announce, .run]
    steps ∈ interleavings mainTask signalTask ∧ stops steps = true := by
  intro steps
  have hsteps : steps ∈ interleavings mainTask signalTask := by
    simp [steps, mainTask, signalTask, interleavings]
  exact ⟨hsteps, (stops_iff_sublist hsteps).1.2 (by decide)⟩

/-- A signal that comes while the server is still being built is announced to nobody, and the server
goes on forever. -/
theorem not_stops_of_early_signal :
    ¬∀ steps ∈ interleavings mainTask signalTask, stops steps = true := by
  intro hall
  have hsteps : [Step.receive, .announce, .build, .subscribe, .run] ∈
      interleavings mainTask signalTask := by
    simp [mainTask, signalTask, interleavings]
  exact absurd (hall _ hsteps) (by decide)

end PageRouter.Launch
