import PageRouter.Proofs.Navigation.Deeds

/-!
# What observers get to see

What a run of a session has come to, deed by deed, says who has missed what.  The session says it in
another way, by the count of changes and by how far each observer has seen, and `Tracks` is how the
two belong together.  Every deed keeps it (`Tracks.step`), so it holds after every run
(`tracks_after`).

* `seen_once`: an observer has something unseen exactly when there was a change since it came and
  since it last looked.  What a shell is then told is what its site has at the latest location,
  once, and also after the navigator is gone; and no observer is in the way of another.
-/

set_option autoImplicit false

namespace PageRouter.Session

/-! ## Who is there, and who has missed something -/

/-- An observer is there after what was done: it came, or it is the shell that every session begins
with. -/
def IsThere (d : List Deed) (w : Who) : Prop := w = .shell 0 ∨ .came w ∈ d

instance (d : List Deed) (w : Who) : Decidable (IsThere d w) :=
  inferInstanceAs (Decidable (w = .shell 0 ∨ .came w ∈ d))

/-- There was a change at a time when an observer was there, and it has not looked since. -/
def HasMissed (d : List Deed) (w : Who) : Prop :=
  ∃ before x later, d = before ++ x :: later ∧
    IsThere before w ∧ x.isChange = true ∧ .looked w ∉ later

theorem isThere_append_singleton {d : List Deed} {x : Deed} {w : Who} :
    IsThere (d ++ [x]) w ↔ IsThere d w ∨ x = .came w := by
  rw [IsThere, List.mem_append, List.mem_singleton, ← or_assoc, eq_comm (a := x)]
  rfl

theorem hasMissed_append_singleton {d : List Deed} {x : Deed} {w : Who} :
    HasMissed (d ++ [x]) w ↔
      (IsThere d w ∧ x.isChange = true) ∨ (HasMissed d w ∧ x ≠ .looked w) := by
  rw [HasMissed, Run.exists_split_append_singleton]
  refine or_congr (by simp) ⟨?_, ?_⟩
  · rintro ⟨before, y, later, hsplit, hthere, hy, hlater⟩
    rw [List.mem_append, List.mem_singleton, not_or] at hlater
    exact ⟨⟨before, y, later, hsplit, hthere, hy, hlater.1⟩, fun hx => hlater.2 hx.symm⟩
  · rintro ⟨⟨before, y, later, hsplit, hthere, hy, hlater⟩, hx⟩
    refine ⟨before, y, later, hsplit, hthere, hy, ?_⟩
    rw [List.mem_append, List.mem_singleton, not_or]
    exact ⟨hlater, fun h => hx h.symm⟩

theorem isThere_of_hasMissed {d : List Deed} {w : Who} (h : HasMissed d w) : IsThere d w := by
  obtain ⟨before, x, later, rfl, hthere, _⟩ := h
  exact hthere.imp_right (List.mem_append_left _)

/-! ## What a run has done -/

/-- A call counts as a change unless it answers that it did nothing. -/
theorem version_step (n : Navigator) (call : Navigator.Call) :
    (n.step call).2.current.version =
      n.current.version + if (n.step call).1.isIdle = true then 0 else 1 := by
  cases hreply : n.step call with
  | mk reply next =>
    have heffect := Navigator.effect_step n call
    rw [hreply] at heffect
    cases heffect with
    | idle hidle => rw [if_pos hidle, Nat.add_zero]
    | pushed | replaced | back => rfl

/-- What a run from a session around a navigator has come to, and the session that it has led to. -/
structure Tracks (n : Navigator) (d : List Deed) (s : Session) : Prop where
  navigator : s.navigator = Run.after Navigator.step n (d.filterMap Deed.call?)
  isOpen : s.isOpen = true ↔ .ended ∉ d
  isThere : ∀ w, IsThere d w ↔ ∃ o, s.observer? w = some o
  /-- An observer has not seen everything exactly when it has missed something. -/
  seen : ∀ w o, s.observer? w = some o → o.seen ≤ s.navigator.current.version ∧
    (o.seen < s.navigator.current.version ↔ HasMissed d w)

variable {n : Navigator} {d : List Deed} {s : Session}

theorem tracks_new (n : Navigator) : Tracks n [] (new n) where
  navigator := rfl
  isOpen := by simp [new]
  isThere w := by
    cases w with
    | shell i => cases i <;> simp [IsThere, observer?, new]
    | subscriber i => simp [IsThere, observer?, new]
  seen w o ho := by
    have hnot : ¬HasMissed [] w := by simp [HasMissed]
    have hseen : o = n.current.observe := by
      cases w with
      | shell i => cases i <;> simp_all [observer?, new]
      | subscriber i => simp [observer?, new] at ho
    rw [hseen]
    exact ⟨Nat.le_refl _, iff_of_false (Nat.lt_irrefl _) hnot⟩

namespace Tracks

theorem called (htracks : Tracks n d s) (call : Navigator.Call) :
    Tracks n (d ++ [.called call (s.navigator.step call).1])
      { s with navigator := (s.navigator.step call).2 } where
  navigator := by
    rw [List.filterMap_append]
    show _ = Run.after Navigator.step n (_ ++ [call])
    rw [Run.after_append_singleton, ← htracks.navigator]
  isOpen := by simpa using htracks.isOpen
  isThere w := by
    rw [isThere_append_singleton, htracks.isThere]
    exact ⟨fun h => h.resolve_right Deed.noConfusion, .inl⟩
  seen w o ho := by
    obtain ⟨hle, hbehind⟩ := htracks.seen w o ho
    have hthere : IsThere d w := (htracks.isThere w).2 ⟨o, ho⟩
    show o.seen ≤ (s.navigator.step call).2.current.version ∧
      (o.seen < (s.navigator.step call).2.current.version ↔ _)
    rw [version_step, hasMissed_append_singleton]
    by_cases hidle : (s.navigator.step call).1.isIdle = true
    · simp [Deed.isChange, hidle, hle, hbehind]
    · -- a call that did something leaves all behind who are there
      rw [if_neg hidle]
      refine ⟨Nat.le_succ_of_le hle, iff_of_true (Nat.lt_succ_of_le hle) (.inl ⟨hthere, ?_⟩)⟩
      simpa [Deed.isChange] using hidle

/-- A deed that is of no account to what there is to see and to who observes it. -/
theorem quiet (htracks : Tracks n d s) {x : Deed} {next : Session} (hcall : x.call? = none)
    (hchange : x.isChange = false) (hnavigator : next.navigator = s.navigator)
    (hopen : next.isOpen = true ↔ .ended ∉ d ++ [x])
    (hobserver : ∀ w, x ≠ .came w ∧ x ≠ .looked w ∧ next.observer? w = s.observer? w) :
    Tracks n (d ++ [x]) next where
  navigator := by simpa [hnavigator, hcall] using htracks.navigator
  isOpen := hopen
  isThere w := by
    obtain ⟨hcame, _, hsame⟩ := hobserver w
    rw [isThere_append_singleton, htracks.isThere, hsame]
    exact or_iff_left hcame
  seen w o ho := by
    obtain ⟨_, hlooked, hsame⟩ := hobserver w
    rw [hsame] at ho
    rw [hnavigator, hasMissed_append_singleton, hchange]
    simpa [hlooked] using htracks.seen w o ho

/-- A deed by which one observer has seen the location as it is now. -/
theorem seenBy (htracks : Tracks n d s) {x : Deed} {w : Who} {next : Session}
    (hseen : SeenBy s w next) (hcall : x.call? = none) (hchange : x.isChange = false)
    (hended : x ≠ .ended) (hthere : IsThere (d ++ [x]) w) (hnone : ¬HasMissed (d ++ [x]) w)
    (hother : ∀ w', w' ≠ w → x ≠ .came w' ∧ x ≠ .looked w') : Tracks n (d ++ [x]) next where
  navigator := by simpa [hseen.navigator, hcall] using htracks.navigator
  isOpen := by
    rw [hseen.isOpen, htracks.isOpen]
    simp [hended.symm]
  isThere w' := by
    by_cases hw : w' = w
    · rw [hw]
      exact iff_of_true hthere ⟨_, hseen.self⟩
    · rw [isThere_append_singleton, htracks.isThere, hseen.other w' hw]
      exact or_iff_left (hother w' hw).1
  seen w' o ho := by
    rw [hseen.navigator]
    by_cases hw : w' = w
    · -- whoever has just seen the location is up to date
      rw [hw] at ho ⊢
      obtain rfl := Option.some.inj (hseen.self.symm.trans ho)
      exact ⟨Nat.le_refl _, iff_of_false (Nat.lt_irrefl _) hnone⟩
    · rw [hseen.other w' hw] at ho
      rw [hasMissed_append_singleton, hchange]
      simpa [(hother w' hw).2] using htracks.seen w' o ho

/-- **Each deed keeps the account.** -/
theorem step (htracks : Tracks n d s) {x : Deed} {next : Session} (heffect : Effect s x next) :
    Tracks n (d ++ [x]) next := by
  cases heffect with
  | called call _ => exact htracks.called call
  | @came w _ _ hnew hseen =>
    refine htracks.seenBy hseen rfl rfl Deed.noConfusion ?_ ?_ fun w' hw => ?_
    · exact isThere_append_singleton.2 (.inr rfl)
    · -- who was not there before cannot have missed anything
      rw [hasMissed_append_singleton]
      rintro (⟨_, hchange⟩ | ⟨hmissed, _⟩)
      · exact Bool.false_ne_true hchange
      · obtain ⟨o, ho⟩ := (htracks.isThere w).1 (isThere_of_hasMissed hmissed)
        exact Option.some_ne_none o (ho.symm.trans hnew)
    · exact ⟨fun h => hw (Deed.came.inj h).symm, Deed.noConfusion⟩
  | @looked w o _ ho hseen =>
    refine htracks.seenBy hseen rfl rfl Deed.noConfusion ?_ ?_ fun w' hw => ?_
    · exact isThere_append_singleton.2 (.inl ((htracks.isThere w).2 ⟨o, ho⟩))
    · rw [hasMissed_append_singleton]
      rintro (⟨_, hchange⟩ | ⟨_, hlooked⟩)
      · exact Bool.false_ne_true hchange
      · exact hlooked rfl
    · exact ⟨Deed.noConfusion, fun h => hw (Deed.looked.inj h).symm⟩
  | ended =>
    refine htracks.quiet rfl rfl rfl ?_ fun w => ⟨Deed.noConfusion, Deed.noConfusion, ?_⟩
    · simp
    · cases w <;> rfl
  | nothing =>
    refine htracks.quiet rfl rfl rfl ?_ fun w => ⟨Deed.noConfusion, Deed.noConfusion, rfl⟩
    rw [htracks.isOpen]
    simp

theorem isOpen_eq_false (htracks : Tracks n d s) (hended : .ended ∈ d) : s.isOpen = false :=
  Bool.eq_false_iff.2 fun hopen => htracks.isOpen.1 hopen hended

theorem hasUnseen_iff (htracks : Tracks n d s) {w : Who} : s.hasUnseen w = true ↔ HasMissed d w := by
  rw [hasUnseen]
  cases ho : s.observer? w with
  | none =>
    refine iff_of_false Bool.false_ne_true fun hmissed => ?_
    obtain ⟨o, ho'⟩ := (htracks.isThere w).1 (isThere_of_hasMissed hmissed)
    exact Option.some_ne_none o (ho'.symm.trans ho)
  | some o =>
    obtain ⟨hle, hbehind⟩ := htracks.seen w o ho
    rw [← hbehind, Option.any_some, Channel.isUnseen, bne_iff_ne]
    omega

end Tracks

theorem tracks_after (n : Navigator) (acts : List Act) :
    Tracks n (deeds (Run.trace act (new n) acts)) (Run.after act (new n) acts) := by
  refine Run.invariant act (P := fun t s => Tracks n (deeds t) s) (tracks_new n) ?_ acts
  intro t s a htracks
  rw [deeds, List.map_append]
  exact htracks.step (effect_step a.1 s a.2)

/-! ## What is answered -/

section Answers

variable {site : Site} {i : Nat} {o : Observer} {w : Who}

theorem step_render_of_isThere (htracks : Tracks n d s) (hthere : IsThere d (.shell i)) :
    (s.step site (.render i)).1 = .outcome (site.dispatch s.navigator.location.path) := by
  obtain ⟨o, ho⟩ := (htracks.isThere _).1 hthere
  rw [observer?] at ho
  rw [step, ho]
  rfl

theorem step_read_of_isThere (htracks : Tracks n d s) (hthere : IsThere d (.subscriber i)) :
    (s.step site (.read i)).1 = .location s.navigator.location := by
  obtain ⟨o, ho⟩ := (htracks.isThere _).1 hthere
  rw [observer?] at ho
  rw [step, ho]

theorem step_hasChanged_of_isThere (htracks : Tracks n d s) (hthere : IsThere d (.subscriber i))
    (hended : .ended ∉ d) :
    (s.step site (.hasChanged i)).1 = .flag (s.hasUnseen (.subscriber i)) := by
  obtain ⟨o, ho⟩ := (htracks.isThere _).1 hthere
  rw [hasUnseen, ho]
  rw [observer?] at ho
  rw [step, navigate, if_pos (htracks.isOpen.2 hended), ho]
  rfl

theorem step_changed (ho : s.observer? (.shell i) = some o) :
    s.step site (.changed i) =
      if s.hasUnseen (.shell i) = true then
        (outcomeHere site s.navigator, { s with shells := seeNow s.navigator s.shells i })
      else (if s.isOpen then .pending else .closed, s) := by
  rw [hasUnseen, ho]
  rw [observer?] at ho
  rw [step, ho]
  rfl

theorem hasUnseen_step_changed (ho : s.observer? (.shell i) = some o) :
    (s.step site (.changed i)).2.hasUnseen (.shell i) = false := by
  rw [step_changed ho]
  split
  · exact (seenBy_shell ho).hasUnseen_eq_false
  · rename_i hnone
    exact Bool.eq_false_iff.2 hnone

end Answers

/-! ## When the navigator is gone -/

/-- The navigator is gone, and an observer has seen all there was to see. -/
structure IsDone (s : Session) (w : Who) : Prop where
  isOpen : s.isOpen = false
  isThere : ∃ o, s.observer? w = some o
  hasUnseen : s.hasUnseen w = false

/-- After that there is nothing more to see. -/
theorem Effect.isDone {w : Who} {x : Deed} {next : Session} (heffect : Effect s x next)
    (hdone : IsDone s w) : IsDone next w := by
  cases heffect with
  | called _ hopen => exact absurd (hopen.symm.trans hdone.isOpen) (by decide)
  | came hopen => exact absurd (hopen.symm.trans hdone.isOpen) (by decide)
  | @looked w' _ _ _ hseen =>
    have hopen : next.isOpen = false := hseen.isOpen.trans hdone.isOpen
    by_cases hw : w = w'
    · rw [hw]
      exact ⟨hopen, ⟨_, hseen.self⟩, hseen.hasUnseen_eq_false⟩
    · have hother := hseen.other w hw
      refine ⟨hopen, hother ▸ hdone.isThere, ?_⟩
      rw [Session.hasUnseen, hother, hseen.navigator]
      exact hdone.hasUnseen
  | ended => exact ⟨rfl, hdone.isThere, hdone.hasUnseen⟩
  | nothing => exact hdone

theorem isDone_after {w : Who} (hdone : IsDone s w) (acts : List Act) :
    IsDone (Run.after act s acts) w :=
  Run.invariant act (P := fun _ s => IsDone s w) hdone
    (fun _ s a h => (effect_step a.1 s a.2).isDone h) acts

theorem IsDone.step_changed {i : Nat} (hdone : IsDone s (.shell i)) (site : Site) :
    (s.step site (.changed i)).1 = .closed := by
  obtain ⟨o, ho⟩ := hdone.isThere
  rw [Session.step_changed ho, hdone.hasUnseen, hdone.isOpen]
  rfl

/-- Asking once after the navigator is gone is enough. -/
theorem isDone_step_changed (htracks : Tracks n d s) {i : Nat} (hthere : IsThere d (.shell i))
    (hended : .ended ∈ d) (site : Site) : IsDone (s.step site (.changed i)).2 (.shell i) := by
  obtain ⟨o, ho⟩ := (htracks.isThere _).1 hthere
  have hnext := htracks.step (effect_step site s (.changed i))
  have hby : (Op.changed i).by? = some (.shell i) := rfl
  obtain ⟨_, hopen, _⟩ := step_of_by? site s hby
  exact ⟨hopen.trans (htracks.isOpen_eq_false hended),
    (hnext.isThere _).1 (isThere_append_singleton.2 (.inl hthere)), hasUnseen_step_changed ho⟩

/-! ## The main result -/

/-- **No change is lost, stale or told twice.**  The sessions are those that any run leads to, with
any observers that have come on the way, and `d` is what the run came to.

* The navigator is where the calls alone have led it.
* An observer has something unseen exactly when it has missed a change.
* A subscriber reads, and a shell shows, the location as it is now.  A shell that asks is told of
  what it has missed by what its site has there, and then has nothing unseen; else it is told that
  nothing has come yet, or that nothing will.
* When the navigator is gone, asking once more is enough: after that nothing will come.
* What an observer does changes neither the navigator nor how far another has seen. -/
theorem seen_once (n : Navigator) (acts : List Act) :
    let s := Run.after act (new n) acts
    let d := deeds (Run.trace act (new n) acts)
    let here := s.navigator.location
    s.navigator = Run.after Navigator.step n (d.filterMap Deed.call?) ∧
      (∀ w, s.hasUnseen w = true ↔ HasMissed d w) ∧
      (∀ site i, IsThere d (.subscriber i) →
        (s.step site (.read i)).1 = .location here ∧
          (.ended ∉ d → (s.step site (.hasChanged i)).1 = .flag (s.hasUnseen (.subscriber i)))) ∧
      (∀ site i, IsThere d (.shell i) →
        (s.step site (.render i)).1 = .outcome (site.dispatch here.path) ∧
          (HasMissed d (.shell i) →
            (s.step site (.changed i)).1 = .outcome (site.dispatch here.path)) ∧
          (¬HasMissed d (.shell i) →
            (s.step site (.changed i)).1 = if .ended ∈ d then .closed else .pending) ∧
          (s.step site (.changed i)).2.hasUnseen (.shell i) = false ∧
          (.ended ∈ d → ∀ site' more,
            ((Run.after act (s.step site (.changed i)).2 more).step site' (.changed i)).1 =
              .closed)) ∧
      ∀ site op w, op.by? = some w →
        (s.step site op).2.navigator = s.navigator ∧ (s.step site op).2.isOpen = s.isOpen ∧
          ∀ w', w' ≠ w → (s.step site op).2.observer? w' = s.observer? w' := by
  intro s d here
  have htracks : Tracks n d s := tracks_after n acts
  refine ⟨htracks.navigator, fun w => htracks.hasUnseen_iff,
    fun site i hthere => ⟨step_read_of_isThere htracks hthere,
      step_hasChanged_of_isThere htracks hthere⟩,
    fun site i hthere => ?_,
    fun site op w hby => step_of_by? site s hby⟩
  obtain ⟨o, ho⟩ := (htracks.isThere _).1 hthere
  refine ⟨step_render_of_isThere htracks hthere, fun hmissed => ?_, fun hmissed => ?_,
    hasUnseen_step_changed ho, fun hended site' more => ?_⟩
  · rw [step_changed ho, if_pos (htracks.hasUnseen_iff.2 hmissed)]
    rfl
  · rw [step_changed ho, if_neg (mt htracks.hasUnseen_iff.1 hmissed)]
    by_cases hended : .ended ∈ d
    · rw [if_pos hended, htracks.isOpen_eq_false hended]
      rfl
    · rw [if_neg hended, htracks.isOpen.2 hended]
      rfl
  · have hdone := isDone_step_changed htracks hthere hended site
    exact (isDone_after hdone more).step_changed site'

/-- A run in which three observers come and look at different times, and all have missed the last
change when the navigator goes. -/
def farewell : List Act :=
  [.attach, .push "/book", .subscribe, .render 0, .push "//book", .replace "/make", .drop].map
    fun op => (⟨.standard, .standard⟩, op)

/-- What that run comes to. -/
def farewellDeeds : List Deed :=
  [.came (.shell 1), .called (.push "/book") (.moved true), .came (.subscriber 0), .looked (.shell 0),
    .called (.push "//book") (.moved false), .called (.replace "/make") .replaced, .ended]

/-- Each observer has something unseen then, and a shell that asks is told of it once. -/
theorem seen_once_farewell :
    let s := Run.after act (new .standard) farewell
    let site : Site := ⟨.standard, .standard⟩
    (∀ w ∈ [Who.shell 0, .shell 1, .subscriber 0], s.hasUnseen w = true) ∧
      (s.step site (.changed 1)).1 = .outcome (site.dispatch "/make") ∧
      ((s.step site (.changed 1)).2.step site (.changed 1)).1 = .closed := by
  intro s site
  have hdeeds : deeds (Run.trace act (new .standard) farewell) = farewellDeeds := by
    decide +kernel
  have hhere : s.navigator.location.path = "/make" := by decide +kernel
  have hthere : ∀ w ∈ [Who.shell 0, .shell 1, .subscriber 0],
      IsThere (farewellDeeds.take 5) w := by decide
  have hmissed : ∀ w ∈ [Who.shell 0, .shell 1, .subscriber 0], HasMissed farewellDeeds w :=
    fun w hw => ⟨farewellDeeds.take 5, .called (.replace "/make") .replaced, [.ended], rfl,
      hthere w hw, rfl, by simp⟩
  obtain ⟨_, hunseen, _, hshell, _⟩ := seen_once .standard farewell
  rw [hdeeds] at hunseen hshell
  obtain ⟨_, htold, _, _, hclosed⟩ := hshell site 1 (by decide)
  refine ⟨fun w hw => (hunseen w).2 (hmissed w hw), ?_, ?_⟩
  · rw [← hhere]
    exact htold (hmissed _ (by decide))
  · exact hclosed (by decide) site []

end PageRouter.Session
