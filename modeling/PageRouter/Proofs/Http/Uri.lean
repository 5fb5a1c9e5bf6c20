import PageRouter.Http.Uri
import PageRouter.Proofs.Text.Split
import PageRouter.Url.Reference

/-!
# The path of a request target

A target that begins with a slash is cut in front of its first question mark or hash, as an address
is, and the text in front is its path.  Every character of that path is visible, so that reading it
as a location drops nothing.
-/

set_option autoImplicit false

namespace PageRouter.Http.Uri

theorem visible_of_isPlain {c : Char} (h : isPlain c = true) : 0x20 < c.toNat := by
  simp only [isPlain, Bool.or_eq_true, Bool.and_eq_true, beq_iff_eq, decide_eq_true_eq] at h
  omega

theorem visible_of_isPathChar {c : Char} (h : isPathChar c = true) : 0x20 < c.toNat := by
  simp only [isPathChar, Bool.or_eq_true, beq_iff_eq] at h
  rcases h with ((h | rfl) | rfl) | rfl
  · exact visible_of_isPlain h
  · decide
  · decide
  · decide

theorem mem_of_readPath? {cs path : List Char} (h : readPath? cs = some path) :
    path = (Text.cut Url.endsPath cs).1 ∧ ∀ c ∈ path, isPathChar c = true := by
  simp only [readPath?] at h
  obtain ⟨hall, hpath⟩ := Option.ite_none_right_eq_some.1 h
  rw [← Option.some.inj hpath]
  exact ⟨rfl, List.all_eq_true.1 (Bool.and_eq_true_iff.1 hall).1⟩

/-- **A target that begins with a slash is its path, with something behind that is no part of a
path.** -/
theorem exists_path_of_parse? {text : String} {uri : Uri} (h : parse? text = some uri)
    (hrooted : text.toList.head? = some '/') :
    ∃ path rest, text.toList = '/' :: (path ++ rest) ∧ uri.path.toList = '/' :: path ∧
      (∀ c ∈ path, 0x20 < c.toNat ∧ Url.endsPath c = false) ∧
      ∀ c ∈ rest.head?, Url.endsPath c = true := by
  obtain ⟨cs, hcs⟩ := List.head?_eq_some_iff.1 hrooted
  rw [parse?] at h
  split at h
  · exact nomatch h
  · obtain ⟨front, hfront, rfl⟩ := Option.map_eq_some_iff.1 h
    rw [hcs] at hfront
    obtain ⟨hpath, hchars⟩ := @mem_of_readPath? ('/' :: cs) front hfront
    have hcut : (Text.cut Url.endsPath ('/' :: cs)).1 = '/' :: (Text.cut Url.endsPath cs).1 := rfl
    rw [hcut] at hpath
    refine ⟨(Text.cut Url.endsPath cs).1, (Text.cut Url.endsPath cs).2, ?_, ?_, fun c hc => ?_,
      fun c hc => Text.stop_of_mem_head?_cut hc⟩
    · rw [hcs, Text.cut_append]
    · rw [String.toList_ofList, hpath]
    · refine ⟨visible_of_isPathChar (hchars c ?_), Text.not_stop_of_mem_cut hc⟩
      rw [hpath]
      exact List.mem_cons_of_mem '/' hc

end PageRouter.Http.Uri
