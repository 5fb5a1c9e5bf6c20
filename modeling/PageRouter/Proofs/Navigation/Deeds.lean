import PageRouter.Navigation.Session
import PageRouter.Proofs.Navigation.Calls

/-!
# Deeds in a session

In a session the navigator changes the location, and shells and subscribers look at it, each in its
own time.  What a step comes to is its deed: a call to the navigator with its answer, an observer
who comes or who looks, the end of the navigator, or nothing of the kind.

* `effect_step`: what a deed leaves.  A call leaves the observers alone, and an observer who comes
  or looks has then seen the location as it is, while all else stays as it was (`SeenBy`).
* `step_of_by?`: so what an observer does changes neither the navigator nor how far another has
  seen.
-/

set_option autoImplicit false

namespace PageRouter.Session

/-! ## Who observes -/

/-- An observer of a session, by its number. -/
inductive Who where
  | shell (i : Nat)
  | subscriber (i : Nat)
deriving DecidableEq, Repr

/-- How far an observer has seen, if there is such an observer. -/
def observer? (s : Session) : Who → Option Observer
  | .shell i => s.shells[i]?
  | .subscriber i => s.subscribers[i]?

/-- Whether an observer has something unseen. -/
def hasUnseen (s : Session) (w : Who) : Bool := (s.observer? w).any s.navigator.current.isUnseen

/-- The observer that does something, where it is one who does it. -/
def Op.by? : Op → Option Who
  | .render i | .renderPath i _ | .location i | .changed i => some (.shell i)
  | .read i | .hasChanged i => some (.subscriber i)
  | .push _ | .replace _ | .back | .attach | .subscribe | .drop => none

/-! ## Deeds -/

/-- What a step came to. -/
inductive Deed where
  /-- The navigator was called, and has answered. -/
  | called (call : Navigator.Call) (reply : Navigator.Reply)
  | came (who : Who)
  /-- An observer has seen the location as it was then. -/
  | looked (who : Who)
  | ended
  | nothing
deriving DecidableEq, Repr

/-- What a step came to, by what was asked and what was answered. -/
def deed : Op → Reply → Deed
  | .push url, .flag moved => .called (.push url) (.moved moved)
  | .push url, .fault e => .called (.push url) (.failed e)
  | .replace url, .nothing => .called (.replace url) .replaced
  | .replace url, .fault e => .called (.replace url) (.failed e)
  | .back, .flag moved => .called .back (.moved moved)
  | .attach, .number i => .came (.shell i)
  | .subscribe, .number i => .came (.subscriber i)
  | .render i, .outcome _ => .looked (.shell i)
  | .changed i, .outcome _ => .looked (.shell i)
  | .read i, .location _ => .looked (.subscriber i)
  | .drop, .nothing => .ended
  | _, _ => .nothing

/-- Something that is done in a session, with the site that a shell shows where it is a shell that
does it.  Shells may belong to different sites. -/
abbrev Act : Type := Site × Op

/-- Do something with a site. -/
def act (s : Session) (a : Act) : Reply × Session := s.step a.1 a.2

/-- What a run has come to, step by step. -/
def deeds (t : List (Act × Reply)) : List Deed := t.map fun x => deed x.1.2 x.2

/-- Whether a deed was a change of the location: a call that has not answered that it did
nothing. -/
def Deed.isChange : Deed → Bool
  | .called _ reply => !reply.isIdle
  | _ => false

/-- The call to the navigator that a deed was. -/
def Deed.call? : Deed → Option Navigator.Call
  | .called call _ => some call
  | _ => none

/-! ## What a step can do -/

/-- An observer has seen the location as it is now, and nothing else is different. -/
structure SeenBy (s : Session) (w : Who) (next : Session) : Prop where
  navigator : next.navigator = s.navigator
  isOpen : next.isOpen = s.isOpen
  self : next.observer? w = some s.navigator.current.observe
  other : ∀ w', w' ≠ w → next.observer? w' = s.observer? w'

section SeenBy

variable {s : Session} {i : Nat} {o : Observer} {w : Who}

theorem seenBy_shell (ho : s.shells[i]? = some o) :
    SeenBy s (.shell i) { s with shells := seeNow s.navigator s.shells i } where
  navigator := rfl
  isOpen := rfl
  self := List.getElem?_set_self (List.getElem?_eq_some_iff.1 ho).1
  other w' hne := by
    cases w' with
    | shell j => exact List.getElem?_set_ne fun hij => hne (congrArg Who.shell hij.symm)
    | subscriber j => rfl

theorem seenBy_subscriber (ho : s.subscribers[i]? = some o) :
    SeenBy s (.subscriber i) { s with subscribers := seeNow s.navigator s.subscribers i } where
  navigator := rfl
  isOpen := rfl
  self := List.getElem?_set_self (List.getElem?_eq_some_iff.1 ho).1
  other w' hne := by
    cases w' with
    | shell j => rfl
    | subscriber j => exact List.getElem?_set_ne fun hij => hne (congrArg Who.subscriber hij.symm)

/-- A new entry leaves those before it alone. -/
theorem getElem?_append_singleton_of_ne {l : List Observer} {j : Nat} (hj : j ≠ l.length) :
    (l ++ [o])[j]? = l[j]? := by
  rw [List.getElem?_append]
  split
  · rfl
  · have hlt : l.length < j := by omega
    rw [List.getElem?_eq_none (Nat.le_of_lt hlt), List.getElem?_eq_none]
    rw [List.length_singleton]
    omega

theorem seenBy_attach (s : Session) :
    SeenBy s (.shell s.shells.length)
      { s with shells := s.shells ++ [s.navigator.current.observe] } where
  navigator := rfl
  isOpen := rfl
  self := List.getElem?_concat_length ..
  other w' hne := by
    cases w' with
    | shell j => exact getElem?_append_singleton_of_ne fun hj => hne (congrArg Who.shell hj)
    | subscriber j => rfl

theorem seenBy_subscribe (s : Session) :
    SeenBy s (.subscriber s.subscribers.length)
      { s with subscribers := s.subscribers ++ [s.navigator.current.observe] } where
  navigator := rfl
  isOpen := rfl
  self := List.getElem?_concat_length ..
  other w' hne := by
    cases w' with
    | shell j => rfl
    | subscriber j =>
      exact getElem?_append_singleton_of_ne fun hj => hne (congrArg Who.subscriber hj)

/-- Whoever looks has nothing unseen then. -/
theorem SeenBy.hasUnseen_eq_false {next : Session} (hseen : SeenBy s w next) :
    next.hasUnseen w = false := by
  rw [hasUnseen, hseen.self, hseen.navigator]
  exact s.navigator.current.not_isUnseen_look ⟨0⟩

end SeenBy

/-- What a step may come to, and what it then leaves. -/
inductive Effect (s : Session) : Deed → Session → Prop where
  | called (call : Navigator.Call) (hopen : s.isOpen = true) :
    Effect s (.called call (s.navigator.step call).1)
      { s with navigator := (s.navigator.step call).2 }
  | came {w : Who} {next : Session} (hopen : s.isOpen = true) (hnew : s.observer? w = none)
      (hseen : SeenBy s w next) : Effect s (.came w) next
  | looked {w : Who} {o : Observer} {next : Session} (ho : s.observer? w = some o)
      (hseen : SeenBy s w next) : Effect s (.looked w) next
  | ended : Effect s .ended { s with isOpen := false }
  | nothing : Effect s .nothing s

/-- What needs the navigator comes to nothing once it is gone. -/
theorem effect_navigate {s : Session} {op : Op} {f : Session → Reply × Session}
    (heffect : s.isOpen = true → Effect s (deed op (f s).1) (f s).2) :
    Effect s (deed op (s.navigate f).1) (s.navigate f).2 := by
  rw [navigate]
  split
  · rename_i hopen
    exact heffect hopen
  · have hnothing : deed op .dropped = .nothing := by cases op <;> rfl
    rw [hnothing]
    exact .nothing

/-- **What a step can do**, whatever it is. -/
theorem effect_step (site : Site) (s : Session) (op : Op) :
    Effect s (deed op (s.step site op).1) (s.step site op).2 := by
  cases op with
  | push url =>
    refine effect_navigate fun hopen => ?_
    have hcalled : Effect s _ _ := .called (.push url) hopen
    rw [Navigator.step] at hcalled
    split
    · rename_i moved n hpush
      rw [hpush] at hcalled
      exact hcalled
    · rename_i e hpush
      rw [hpush] at hcalled
      exact hcalled
  | replace url =>
    refine effect_navigate fun hopen => ?_
    have hcalled : Effect s _ _ := .called (.replace url) hopen
    rw [Navigator.step] at hcalled
    split
    · rename_i n hreplace
      rw [hreplace] at hcalled
      exact hcalled
    · rename_i e hreplace
      rw [hreplace] at hcalled
      exact hcalled
  | back => exact effect_navigate fun hopen => .called .back hopen
  | attach =>
    refine effect_navigate fun hopen => .came hopen ?_ (seenBy_attach s)
    exact List.getElem?_eq_none (Nat.le_refl _)
  | subscribe =>
    refine effect_navigate fun hopen => .came hopen ?_ (seenBy_subscribe s)
    exact List.getElem?_eq_none (Nat.le_refl _)
  | drop => exact .ended
  | hasChanged i =>
    refine effect_navigate fun _ => ?_
    split <;> exact .nothing
  | read i =>
    rw [step]
    split
    · rename_i o ho
      exact .looked ho (seenBy_subscriber ho)
    · exact .nothing
  | render i =>
    rw [step]
    split
    · rename_i o ho
      exact .looked ho (seenBy_shell ho)
    · exact .nothing
  | renderPath i path =>
    rw [step]
    split <;> exact .nothing
  | location i =>
    rw [step]
    split <;> exact .nothing
  | changed i =>
    rw [step]
    split
    · rename_i o ho
      split
      · exact .looked ho (seenBy_shell ho)
      · split <;> exact .nothing
    · exact .nothing

/-! ## Observers among themselves -/

theorem deed_of_by? {op : Op} {w : Who} (hby : op.by? = some w) (reply : Reply) :
    deed op reply = .looked w ∨ deed op reply = .nothing := by
  cases op with
  | push _ | replace _ | back | attach | subscribe | drop => exact nomatch hby
  | _ =>
    obtain rfl := Option.some.inj hby
    cases reply <;> simp [deed]

/-- **Observers are not in the way of each other**, nor of the navigator. -/
theorem step_of_by? (site : Site) (s : Session) {op : Op} {w : Who} (hby : op.by? = some w) :
    (s.step site op).2.navigator = s.navigator ∧ (s.step site op).2.isOpen = s.isOpen ∧
      ∀ w', w' ≠ w → (s.step site op).2.observer? w' = s.observer? w' := by
  have heffect := effect_step site s op
  generalize (s.step site op).2 = next at heffect ⊢
  rcases deed_of_by? hby (s.step site op).1 with hdeed | hdeed <;> rw [hdeed] at heffect
  · cases heffect with
    | looked _ hseen => exact ⟨hseen.navigator, hseen.isOpen, hseen.other⟩
  · cases heffect with
    | nothing => exact ⟨rfl, rfl, fun _ _ => rfl⟩

end PageRouter.Session
