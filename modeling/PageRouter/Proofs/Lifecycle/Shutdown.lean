import PageRouter.Proofs.Lifecycle.Events

/-!
# Who is told of a shutdown

The state of a shutdown keeps what has happened in counts and in the places of receivers, and
`Tracks` says how these belong to the trace that has led there.  Every step keeps it
(`Tracks.step`), so it holds after every run (`tracks_after`).  Handles and waits are both numbered
as they come and are not numbered anew when some of them go, which is what `Numbered` is about.

* `told_exactly`: a wait that is still there is over exactly when there was an announcement since it
  began, or when no handle is left, and the listeners that a handle shows are the waits that are
  still there.
-/

set_option autoImplicit false

namespace PageRouter.Shutdown

/-! ## Numbers that were given out -/

/-- Numbers are given out in order, and an entry tells of each whether it is still in use. -/
structure Numbered (given : List Nat) (returned : Nat → Bool) (used : List Bool) : Prop where
  given_eq : given = List.range used.length
  returned_iff : ∀ n, returned n = true ↔ used[n]? = some false

namespace Numbered

variable {given : List Nat} {returned : Nat → Bool} {used : List Bool}

theorem add (hnumbered : Numbered given returned used) :
    Numbered (given ++ [used.length]) returned (used ++ [true]) where
  given_eq := by
    rw [hnumbered.given_eq, List.length_append, List.length_singleton, List.range_succ]
  returned_iff n := by
    rw [hnumbered.returned_iff, List.getElem?_append]
    split
    · rfl
    · rename_i hn
      have hnone : used[n]? = none := List.getElem?_eq_none (Nat.le_of_not_lt hn)
      cases hnew : n - used.length <;> simp [hnone]

theorem giveBack (hnumbered : Numbered given returned used) {n : Nat} (hn : n < used.length) :
    Numbered given (fun m => returned m || n == m) (used.set n false) where
  given_eq := by rw [hnumbered.given_eq, List.length_set]
  returned_iff m := by
    rw [List.getElem?_set, Bool.or_eq_true, hnumbered.returned_iff, beq_iff_eq]
    by_cases hm : n = m
    · simp [← hm, hn]
    · simp [hm]

/-- The numbers that are not given back are those whose entry says so. -/
theorem mem_left (hnumbered : Numbered given returned used) {n : Nat} :
    n ∈ given.filter (fun m => !returned m) ↔ used[n]? = some true := by
  have hreturned := hnumbered.returned_iff n
  rw [List.mem_filter, hnumbered.given_eq, List.mem_range]
  cases hused : used[n]? with
  | none =>
    have hn : ¬n < used.length := Nat.not_lt.2 (List.getElem?_eq_none_iff.1 hused)
    simp [hn]
  | some b =>
    have hn : n < used.length := (List.getElem?_eq_some_iff.1 hused).1
    cases b <;> simp_all

/-- There are as many numbers left as entries say so. -/
theorem length_left (hnumbered : Numbered given returned used) :
    (given.filter fun m => !returned m).length = used.countP id := by
  have hused : used = given.map fun m => !returned m := by
    rw [hnumbered.given_eq]
    refine List.ext_getElem (by simp) fun n hn _ => ?_
    have hreturned := hnumbered.returned_iff n
    rw [List.getElem?_eq_getElem hn] at hreturned
    cases hentry : used[n] <;> simp_all
  calc (given.filter fun m => !returned m).length
      = given.countP fun m => !returned m := List.countP_eq_length_filter.symm
    _ = (given.map fun m => !returned m).countP id := by
      rw [List.countP_map]
      rfl
    _ = used.countP id := by rw [← hused]

end Numbered

/-! ## What a run has done -/

/-- What a run has done so far, and the state that it has led to. -/
structure Tracks (t : List Event) (s : Shutdown) : Prop where
  handles : Numbered (0 :: t.filterMap opened?) (fun h => t.any (givesUp h)) s.handles
  waits : Numbered (t.filterMap begun?) (fun w => t.any (ends w)) (s.waits.map Wait.isPending)
  /-- A wait has something to receive exactly when there was an announcement since it began. -/
  behind : ∀ w r, s.waits[w]? = some (.pending r) →
    r.next ≤ s.channel.sent ∧ (r.next < s.channel.sent ↔ AnnouncedSince t w)
  receivers : s.channel.receivers = s.waits.countP Wait.isPending
  senders : s.channel.senders = s.handles.countP id

variable {t : List Event} {s : Shutdown}

theorem tracks_new : Tracks [] new where
  handles := ⟨rfl, fun h => by cases h <;> simp [new]⟩
  waits := ⟨rfl, fun w => by simp [new]⟩
  behind w r hw := by simp [new] at hw
  receivers := rfl
  senders := rfl

theorem hasHandle_eq_true_iff {h : Nat} : s.hasHandle h = true ↔ s.handles[h]? = some true := by
  rw [hasHandle]
  cases s.handles[h]? <;> simp

/-- Ending a wait takes away one of those that are there. -/
theorem countP_isPending_set {waits : List Wait} {w : Nat} {r : Broadcast.Receiver}
    (hw : waits[w]? = some (.pending r)) :
    (waits.set w .ended).countP Wait.isPending = waits.countP Wait.isPending - 1 := by
  obtain ⟨hlt, hget⟩ := List.getElem?_eq_some_iff.1 hw
  rw [List.countP_set hlt, hget]
  rfl

namespace Tracks

/-- A wait that is there began before. -/
theorem mem_begun (htracks : Tracks t s) {w : Nat} {x : Wait} (hw : s.waits[w]? = some x) :
    w ∈ t.filterMap begun? := by
  obtain ⟨hlt, _⟩ := List.getElem?_eq_some_iff.1 hw
  rw [htracks.waits.given_eq]
  simpa using hlt

theorem lt_of_mem_begun (htracks : Tracks t s) {w : Nat} (hw : w ∈ t.filterMap begun?) :
    w < s.waits.length := by
  rw [htracks.waits.given_eq] at hw
  simpa using hw

/-- While somebody waits, there is a receiver. -/
theorem receivers_ne_zero (htracks : Tracks t s) {w : Nat} {r : Broadcast.Receiver}
    (hw : s.waits[w]? = some (.pending r)) : s.channel.receivers ≠ 0 := by
  have hpos : 0 < s.waits.countP Wait.isPending :=
    List.countP_pos_iff.2 ⟨.pending r, List.mem_of_getElem? hw, rfl⟩
  rw [htracks.receivers]
  exact Nat.ne_of_gt hpos

/-- A step that is no announcement does not change who has something to receive. -/
theorem behind_append (htracks : Tracks t s) {x : Event} (hannounces : announces x = false)
    {w : Nat} {r : Broadcast.Receiver} (hw : s.waits[w]? = some (.pending r)) :
    r.next ≤ s.channel.sent ∧ (r.next < s.channel.sent ↔ AnnouncedSince (t ++ [x]) w) := by
  rw [announcedSince_append_singleton, hannounces]
  simpa using htracks.behind w r hw

/-- A step that changes nothing, and of which the trace tells nothing. -/
theorem unchanged (htracks : Tracks t s) {x : Event} (hopened : opened? x = none)
    (hgivesUp : ∀ h, givesUp h x = false) (hbegun : begun? x = none) (hends : ∀ w, ends w x = false)
    (hannounces : announces x = false) : Tracks (t ++ [x]) s where
  handles := by simpa [hopened, hgivesUp] using htracks.handles
  waits := by simpa [hbegun, hends] using htracks.waits
  behind w r hw := htracks.behind_append hannounces hw
  receivers := htracks.receivers
  senders := htracks.senders

theorem subscribed (htracks : Tracks t s) (h : Nat) :
    Tracks (t ++ [(.subscribe h, .number s.waits.length)]) s.subscribe where
  handles := by
    simpa [List.filterMap_cons, opened?, givesUp, subscribe] using htracks.handles
  waits := by
    simpa [List.filterMap_cons, begun?, ends, subscribe, Wait.isPending] using htracks.waits.add
  behind w r hw := by
    rw [subscribe, List.getElem?_append] at hw
    split at hw
    · exact htracks.behind_append rfl hw
    · -- the new wait is up to date, and nothing can have been announced to it yet
      rename_i hge
      obtain ⟨hw, rfl⟩ : w - s.waits.length = 0 ∧ ⟨s.channel.sent⟩ = r := by
        simpa [List.getElem?_singleton, Broadcast.subscribe] using hw
      have hnot : ¬AnnouncedSince (t ++ [(.subscribe h, .number s.waits.length)]) w := by
        rw [announcedSince_append_singleton]
        rintro (hsince | ⟨_, hannounces⟩)
        · exact hge (htracks.lt_of_mem_begun (mem_begun_of_announcedSince hsince))
        · exact Bool.false_ne_true hannounces
      exact ⟨Nat.le_refl _, iff_of_false (Nat.lt_irrefl _) hnot⟩
  receivers := by
    show s.channel.receivers + 1 = (s.waits ++ [_]).countP Wait.isPending
    rw [List.countP_append, htracks.receivers]
    rfl
  senders := htracks.senders

theorem announced (htracks : Tracks t s) (h : Nat) :
    Tracks (t ++ [(.trigger h, .nothing)]) s.trigger where
  handles := by
    simpa [List.filterMap_cons, opened?, givesUp, trigger] using htracks.handles
  waits := by
    simpa [List.filterMap_cons, begun?, ends, trigger] using htracks.waits
  behind w r hw := by
    obtain ⟨hle, _⟩ := htracks.behind w r hw
    -- somebody waits, so the announcement is not sent to nobody
    have hsent : s.trigger.channel.sent = s.channel.sent + 1 :=
      Broadcast.send_sent () (htracks.receivers_ne_zero hw)
    have hannounced : AnnouncedSince (t ++ [(.trigger h, .nothing)]) w :=
      announcedSince_append_singleton.2 (.inr ⟨htracks.mem_begun hw, rfl⟩)
    rw [hsent]
    exact ⟨Nat.le_succ_of_le hle, iff_of_true (Nat.lt_succ_of_le hle) hannounced⟩
  receivers := (Broadcast.send_receivers _ _).trans htracks.receivers
  senders := (Broadcast.send_senders _ _).trans htracks.senders

theorem cloned (htracks : Tracks t s) (h : Nat) :
    Tracks (t ++ [(.clone h, .number s.handles.length)]) s.clone where
  handles := by
    simpa [List.filterMap_cons, opened?, givesUp, clone] using htracks.handles.add
  waits := by
    simpa [List.filterMap_cons, begun?, ends, clone] using htracks.waits
  behind w r hw := htracks.behind_append rfl hw
  receivers := htracks.receivers
  senders := by
    show s.channel.senders + 1 = (s.handles ++ [true]).countP id
    rw [List.countP_append, htracks.senders]
    rfl

theorem dropped (htracks : Tracks t s) {h : Nat} (hh : s.hasHandle h = true) :
    Tracks (t ++ [(.drop h, .nothing)]) (s.dropHandle h) := by
  obtain ⟨hlt, hget⟩ := List.getElem?_eq_some_iff.1 (hasHandle_eq_true_iff.1 hh)
  exact {
    handles := by
      simpa [List.filterMap_cons, opened?, givesUp, dropHandle] using htracks.handles.giveBack hlt
    waits := by
      simpa [List.filterMap_cons, begun?, ends, dropHandle] using htracks.waits
    behind := fun w r hw => htracks.behind_append rfl hw
    receivers := htracks.receivers
    senders := by
      show s.channel.senders - 1 = (s.handles.set h false).countP id
      rw [List.countP_set hlt, hget, htracks.senders]
      rfl }

/-- A wait that is there ends, however it does. -/
theorem endedWait (htracks : Tracks t s) {w : Nat} {r : Broadcast.Receiver}
    (hw : s.waits[w]? = some (.pending r)) {x : Event} (hopened : opened? x = none)
    (hgivesUp : ∀ h, givesUp h x = false) (hbegun : begun? x = none)
    (hends : ∀ w', ends w' x = (w == w')) (hannounces : announces x = false) :
    Tracks (t ++ [x]) (s.endWait w) where
  handles := by simpa [hopened, hgivesUp, endWait] using htracks.handles
  waits := by
    have hlt : w < (s.waits.map Wait.isPending).length := by
      simpa using (List.getElem?_eq_some_iff.1 hw).1
    simpa [hbegun, hends, endWait, List.map_set, Wait.isPending] using htracks.waits.giveBack hlt
  behind w' r' hw' := by
    rw [endWait, List.getElem?_set] at hw'
    split at hw'
    · split at hw' <;> simp at hw'
    · exact htracks.behind_append hannounces hw'
  receivers := by
    show s.channel.receivers - 1 = (s.waits.set w .ended).countP Wait.isPending
    rw [countP_isPending_set hw, htracks.receivers]
  senders := htracks.senders

end Tracks

/-- **Each step keeps the account.** -/
theorem Tracks.step (htracks : Tracks t s) {x : Event} {s' : Shutdown} (heffect : Effect s x s') :
    Tracks (t ++ [x]) s' := by
  cases heffect with
  | subscribed _ => exact htracks.subscribed _
  | announced _ => exact htracks.announced _
  | cloned _ => exact htracks.cloned _
  | dropped hh => exact htracks.dropped hh
  | told hw _ => exact htracks.endedWait hw rfl (fun _ => rfl) rfl (fun _ => rfl) rfl
  | cancelled hw => exact htracks.endedWait hw rfl (fun _ => rfl) rfl (fun _ => rfl) rfl
  | pending => exact htracks.unchanged rfl (fun _ => rfl) rfl (fun _ => rfl) rfl
  | @gone op => cases op <;> exact htracks.unchanged rfl (fun _ => rfl) rfl (fun _ => rfl) rfl

theorem tracks_after (ops : List Op) :
    Tracks (Run.trace Shutdown.step new ops) (Run.after Shutdown.step new ops) :=
  Run.invariant Shutdown.step tracks_new (fun _ s op htracks => htracks.step (effect_step s op)) ops

namespace Tracks

theorem mem_handlesLeft_iff (htracks : Tracks t s) {h : Nat} :
    h ∈ handlesLeft t ↔ s.hasHandle h = true := by
  rw [hasHandle_eq_true_iff]
  exact htracks.handles.mem_left

/-- There is a sender as long as there is a handle. -/
theorem handlesLeft_eq_nil_iff (htracks : Tracks t s) :
    handlesLeft t = [] ↔ s.channel.senders = 0 := by
  have hlength : (handlesLeft t).length = s.handles.countP id := htracks.handles.length_left
  rw [htracks.senders, ← hlength, List.length_eq_zero_iff]

theorem exists_pending_of_mem_waitsLeft (htracks : Tracks t s) {w : Nat} (hw : w ∈ waitsLeft t) :
    ∃ r, s.waits[w]? = some (.pending r) := by
  have hpending := htracks.waits.mem_left.1 hw
  rw [List.getElem?_map, Option.map_eq_some_iff] at hpending
  obtain ⟨x, hx, hxpending⟩ := hpending
  cases x with
  | pending r => exact ⟨r, hx⟩
  | ended => exact (Bool.false_ne_true hxpending).elim

/-- The broadcast counts the waits that are left. -/
theorem listeners_eq (htracks : Tracks t s) : s.listeners = (waitsLeft t).length := by
  have hlength := htracks.waits.length_left
  rw [List.countP_map] at hlength
  exact htracks.receivers.trans hlength.symm

/-- Whoever waits has nothing to receive exactly as long as nothing was announced and somebody still
can. -/
theorem receive_eq_empty_iff (htracks : Tracks t s) {w : Nat} {r : Broadcast.Receiver}
    (hw : s.waits[w]? = some (.pending r)) :
    (s.channel.receive r).1 = .empty ↔ ¬(AnnouncedSince t w ∨ handlesLeft t = []) := by
  obtain ⟨hle, hbehind⟩ := htracks.behind w r hw
  rw [Broadcast.receive_eq_empty_iff, ← hbehind, htracks.handlesLeft_eq_nil_iff]
  omega

end Tracks

/-! ## The main result -/

/-- **Nobody is forgotten, and nobody is told too early.**  Whatever was done with the handles and
the waits: a wait that is still there is over exactly when there was an announcement since it began,
however many there were, or when no handle is left.  Every handle that is left shows as many
listeners as there are waits, and can announce without waiting for anyone. -/
theorem told_exactly (ops : List Op) :
    let s := Run.after step new ops
    let t := Run.trace step new ops
    (∀ w ∈ waitsLeft t,
      ((s.step (.poll w)).1 = .done ↔ AnnouncedSince t w ∨ handlesLeft t = []) ∧
        ((s.step (.poll w)).1 = .pending ↔ ¬(AnnouncedSince t w ∨ handlesLeft t = []))) ∧
      ∀ h ∈ handlesLeft t,
        s.listenersAt? h = some (waitsLeft t).length ∧
          s.step (.trigger h) = (.nothing, s.trigger) := by
  intro s t
  have htracks : Tracks t s := tracks_after ops
  refine ⟨fun w hw => ?_, fun h hh => ?_⟩
  · obtain ⟨r, hr⟩ := htracks.exists_pending_of_mem_waitsLeft hw
    have hempty := htracks.receive_eq_empty_iff hr
    rw [step_poll_of_pending hr]
    by_cases hnothing : (s.channel.receive r).1 = .empty
    · have hnot := hempty.1 hnothing
      rw [if_pos hnothing]
      exact ⟨iff_of_false (fun h => Reply.noConfusion h) hnot, iff_of_true rfl hnot⟩
    · have htold := Classical.not_not.1 (mt hempty.2 hnothing)
      have hnot := Classical.not_not.2 htold
      rw [if_neg hnothing]
      exact ⟨iff_of_true rfl htold, iff_of_false (fun h => Reply.noConfusion h) hnot⟩
  · have hhas := htracks.mem_handlesLeft_iff.1 hh
    refine ⟨?_, ?_⟩
    · rw [listenersAt?, if_pos hhas, htracks.listeners_eq]
    · rw [step, withHandle, if_pos hhas]

/-- Two announcements in a row, between waits that begin before and after them.  One wait is
cancelled, and the first handle is given up. -/
def rush : List Op :=
  [.subscribe 0, .clone 0, .trigger 1, .trigger 0, .subscribe 1, .subscribe 0, .cancel 2, .drop 0]

/-- In the end the wait from before the announcements is over, the one from after them is not, and
the handle that is left shows both. -/
theorem told_exactly_rush :
    let s := Run.after step new rush
    let t := Run.trace step new rush
    waitsLeft t = [0, 1] ∧ handlesLeft t = [1] ∧ AnnouncedSince t 0 ∧ ¬AnnouncedSince t 1 ∧
      (s.step (.poll 0)).1 = .done ∧ s.listenersAt? 1 = some 2 := by
  intro s t
  obtain ⟨hpolls, hshown⟩ := told_exactly rush
  have hwaits : waitsLeft t = [0, 1] := by decide
  have hhandles : handlesLeft t = [1] := by decide
  have hbefore : 0 ∈ waitsLeft t := by decide
  have hafter : 1 ∈ waitsLeft t := by decide
  have hleft : 1 ∈ handlesLeft t := by decide
  have hsince : AnnouncedSince t 0 :=
    ⟨t.take 2, (.trigger 1, .nothing), t.drop 3, by decide, by decide, rfl⟩
  have hpending : (s.step (.poll 1)).1 = .pending := by decide
  obtain ⟨hdone, _⟩ := hpolls 0 hbefore
  obtain ⟨_, hwaiting⟩ := hpolls 1 hafter
  obtain ⟨hcount, _⟩ := hshown 1 hleft
  have hnot : ¬AnnouncedSince t 1 := fun h => hwaiting.1 hpending (.inl h)
  have htwo : (waitsLeft t).length = 2 := by decide
  exact ⟨hwaits, hhandles, hsince, hnot, hdone.2 (.inl hsince), htwo ▸ hcount⟩

end PageRouter.Shutdown
