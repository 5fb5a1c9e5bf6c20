import Mathlib.Data.List.Induction
import Mathlib.Data.List.Sort
import PageRouter.Proofs.Run
import PageRouter.View.Registry

/-!
# What a registry remembers

Views are registered one after the other, and a registry shows for each key the last view that was
registered under it (`View.IsLatest`).  The view that another one takes the place of is handed
back.

A registry keeps its views in the order of their keys.  So its keys come in ascending order without
repetition, and are the same for every order in which the views were registered
(`keys_ofList_congr`).
-/

set_option autoImplicit false

namespace PageRouter.View

/-- Whether a view is the last of some views that have a key. -/
def IsLatest (vs : List View) (key : String) (v : View) : Prop :=
  ∃ before later, vs = before ++ v :: later ∧ v.key = key ∧ ∀ w ∈ later, w.key ≠ key

/-- The last view of a key is the first one from the end. -/
theorem find?_reverse_eq_some_iff {vs : List View} {key : String} {v : View} :
    vs.reverse.find? (fun w => w.key == key) = some v ↔ IsLatest vs key v := by
  rw [List.find?_eq_some_iff_append]
  constructor
  · rintro ⟨hkey, later, before, hsplit, hlater⟩
    refine ⟨before.reverse, later.reverse, ?_, by simpa using hkey, fun w hw => ?_⟩
    · rw [← List.reverse_reverse vs, hsplit]
      simp
    · simpa using hlater w (List.mem_reverse.1 hw)
  · rintro ⟨before, later, rfl, hkey, hlater⟩
    refine ⟨by simpa using hkey, later.reverse, before.reverse, by simp, fun w hw => ?_⟩
    simpa using hlater w (List.mem_reverse.1 hw)

namespace Registry

/-! ## Views -/

theorem ofList_append_singleton (vs : List View) (v : View) :
    ofList (vs ++ [v]) = (ofList vs).insert v := by
  rw [ofList, List.foldl_append]
  rfl

/-- Registering more views is registering all of them from the start. -/
theorem after_register (known calls : List View) :
    Run.after register (ofList known) calls = ofList (known ++ calls) := by
  rw [ofList, ofList, List.foldl_append]
  rfl

/-- **A registry looks a key up from the end of what was registered.** -/
theorem find?_ofList (vs : List View) (key : String) :
    (ofList vs).find? key = vs.reverse.find? fun v => v.key == key := by
  induction vs using List.reverseRecOn with
  | nil => rfl
  | append_singleton vs v ih =>
    rw [ofList_append_singleton, find?_insert, ih, List.reverse_append, List.reverse_singleton,
      List.singleton_append, List.find?_cons]
    cases hkey : v.key == key with
    | true => rw [if_pos (beq_iff_eq.1 hkey)]
    | false => rw [if_neg (beq_eq_false_iff_ne.1 hkey)]

theorem find?_ofList_eq_some_iff {vs : List View} {key : String} {v : View} :
    (ofList vs).find? key = some v ↔ IsLatest vs key v := by
  rw [find?_ofList, find?_reverse_eq_some_iff]

theorem find?_ofList_eq_none_iff {vs : List View} {key : String} :
    (ofList vs).find? key = none ↔ ∀ v ∈ vs, v.key ≠ key := by
  rw [find?_ofList]
  simp

/-! ## Keys -/

/-- A registry has a key when it has a view of that key. -/
theorem mem_keys_iff {r : Registry} {key : String} : key ∈ r.keys ↔ r.contains key = true := by
  simp [keys, contains, find?]

theorem mem_keys_ofList_iff {vs : List View} {key : String} :
    key ∈ (ofList vs).keys ↔ ∃ v ∈ vs, v.key = key := by
  rw [mem_keys_iff, contains, find?_ofList]
  simp

/-- **The keys do not depend on the order of registration.** -/
theorem keys_ofList_congr {vs ws : List View} (h : vs.Perm ws) :
    (ofList vs).keys = (ofList ws).keys := by
  refine (pairwise_keys _).eq_of_mem_iff (pairwise_keys _) fun key => ?_
  simp only [mem_keys_ofList_iff, h.mem_iff]

/-! ## The main result -/

/-- **The last view registered under a key is the one found there.**  Whatever was known from the
start, as nothing is to the empty registry and the four pages are to the standard one, and whatever
was registered after that: a key has the view last registered under it, and none exactly when no view
of that key was registered.  One more view displaces the one that was last registered under its key,
if there is one, and hands it back, and changes no other key.  The keys are those that are contained,
in strictly ascending order, and the order in which the views came has no say in them. -/
theorem finds_latest (known calls : List View) :
    let r := Run.after register (ofList known) calls
    (∀ key v, r.find? key = some v ↔ IsLatest (known ++ calls) key v) ∧
      (∀ key, r.find? key = none ↔ ∀ v ∈ known ++ calls, v.key ≠ key) ∧
      (∀ key, r.contains key = true ↔ ∃ v, r.find? key = some v) ∧
      (∀ v, (∀ w, (r.register v).1 = some w ↔ IsLatest (known ++ calls) v.key w) ∧
        (r.register v).2.find? v.key = some v ∧
        ∀ key, key ≠ v.key → (r.register v).2.find? key = r.find? key) ∧
      r.keys.Pairwise (· < ·) ∧ r.keys.Nodup ∧
      (∀ key, key ∈ r.keys ↔ r.contains key = true) ∧
      ∀ calls', calls.Perm calls' →
        (Run.after register (ofList known) calls').keys = r.keys := by
  intro r
  have hr : r = ofList (known ++ calls) := after_register known calls
  have hascending : r.keys.Pairwise (· < ·) := r.pairwise_keys
  have hnodup : r.keys.Nodup := hascending.imp fun hlt => Std.ne_of_lt hlt
  refine ⟨fun key v => ?found, fun key => ?absent, fun key => Option.isSome_iff_exists,
    fun v => ⟨fun w => ?displaced, ?registered, fun key hkey => ?others⟩, hascending,
    hnodup, fun key => mem_keys_iff, fun calls' hperm => ?ordered⟩
  case found => rw [hr, find?_ofList_eq_some_iff]
  case absent => rw [hr, find?_ofList_eq_none_iff]
  case displaced => rw [register, hr, find?_ofList_eq_some_iff]
  case registered => rw [register, find?_insert, if_pos rfl]
  case others => rw [register, find?_insert, if_neg (Ne.symm hkey)]
  case ordered =>
    rw [after_register, hr]
    exact (keys_ofList_congr (hperm.append_left known)).symm

/-- A page in the place of a standard one, and a page under a key of its own. -/
def banner : View := heading "maker" "Banner"

def about : View := heading "about" "About"

theorem finds_latest_banner :
    let r := Run.after register standard [banner, about]
    r.find? "maker" = some banner ∧ (r.register maker).1 = some banner ∧
      (r.register maker).2.find? "about" = r.find? "about" ∧
      (Run.after register standard [about, banner]).keys = r.keys := by
  intro r
  obtain ⟨hfound, _, _, hregister, _, _, _, hordered⟩ :=
    finds_latest View.standard [banner, about]
  have hlatest : IsLatest (View.standard ++ [banner, about]) "maker" banner :=
    ⟨View.standard, [about], rfl, rfl, by simp [about, heading]⟩
  obtain ⟨hdisplaced, _, hothers⟩ := hregister maker
  exact ⟨(hfound "maker" banner).2 hlatest, (hdisplaced banner).2 hlatest,
    hothers "about" (by simp [maker, heading]), hordered _ (List.Perm.swap _ _ _)⟩

end Registry

end PageRouter.View
