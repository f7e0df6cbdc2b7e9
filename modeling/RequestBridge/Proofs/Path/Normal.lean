import RequestBridge.Path
import Mathlib.Data.List.DropRight

/-! Normal patterns that are parts of patterns.

A pattern that is put below another one is trimmed like any part, and what is trimmed off is just
the slash in front of it. So a pattern can be normalised as often as one likes, and it does not
matter whether the parts of a path come together at once or one by one (`normal_normal`). -/
namespace RequestBridge.Path

/-- A text without a slash at either end. -/
structure Bare (cs : List Char) : Prop where
  head : ∀ c, cs.head? = some c → c ≠ '/'
  last : ∀ c, cs.getLast? = some c → c ≠ '/'

theorem trim_eq (cs : List Char) : trim cs = (cs.dropWhile (· == '/')).rdropWhile (· == '/') := rfl

theorem trim_of_bare {cs : List Char} (h : Bare cs) : trim cs = cs := by
  have hfront : cs.dropWhile (· == '/') = cs := by
    refine List.dropWhile_eq_self_iff.mpr ?_
    intro hpos hslash
    exact h.head cs[0] (by rw [List.head?_eq_getElem?, List.getElem?_eq_getElem hpos])
      (beq_iff_eq.mp hslash)
  rw [trim_eq, hfront]
  refine List.rdropWhile_eq_self_iff.mpr ?_
  intro hne hslash
  exact h.last _ (List.getLast?_eq_some_getLast hne) (beq_iff_eq.mp hslash)

theorem bare_trim (cs : List Char) : Bare (trim cs) := by
  have hsuffix : ∀ {ds : List Char}, (∀ c, ds.head? = some c → c ≠ '/') →
      ∀ c, (ds.rdropWhile (· == '/')).head? = some c → c ≠ '/' := by
    intro ds hds c hc
    obtain ⟨rest, hrest⟩ := List.rdropWhile_prefix (· == '/') ds
    refine hds c ?_
    rw [← hrest, List.head?_append, hc]
    rfl
  refine ⟨?_, ?_⟩
  · refine hsuffix ?_
    intro c hc
    have hfront := List.head?_dropWhile_not (· == '/') cs
    rw [hc] at hfront
    exact bne_iff_ne.mp (by simpa [bne] using hfront)
  · intro c hc
    rw [trim_eq] at hc
    have hne : (cs.dropWhile (· == '/')).rdropWhile (· == '/') ≠ [] := by
      intro hnil
      rw [hnil] at hc
      cases hc
    have hlast := List.rdropWhile_last_not (· == '/') _ hne
    rw [List.getLast?_eq_some_getLast hne] at hc
    rw [Option.some.inj hc] at hlast
    simpa using hlast

theorem trim_slash (cs : List Char) : trim ('/' :: cs) = trim cs := rfl

theorem trim_trim (cs : List Char) : trim (trim cs) = trim cs := trim_of_bare (bare_trim cs)

/-- What remains of the parts of a path once they are trimmed. -/
def remaining (parts : List (List Char)) : List (List Char) :=
  (parts.map trim).filter (!·.isEmpty)

theorem normal_eq (parts : List (List Char)) :
    normal parts = '/' :: ['/'].intercalate (remaining parts) := rfl

theorem remaining_append (parts more : List (List Char)) :
    remaining (parts ++ more) = remaining parts ++ remaining more := by
  simp [remaining]

theorem remaining_trim (cs : List Char) (rest : List (List Char)) :
    remaining (trim cs :: rest) = remaining (cs :: rest) := by
  simp [remaining, trim_trim]

theorem remaining_of_bare {cs : List Char} (h : Bare cs) (hne : cs ≠ []) :
    remaining [cs] = [cs] := by
  simp [remaining, trim_of_bare h, hne]

theorem mem_remaining {parts : List (List Char)} {cs : List Char} (h : cs ∈ remaining parts) :
    Bare cs ∧ cs ≠ [] := by
  obtain ⟨hmem, hne⟩ := List.mem_filter.mp h
  obtain ⟨part, _, rfl⟩ := List.mem_map.mp hmem
  exact ⟨bare_trim part, by simpa using hne⟩

/-- Parts that are bare and not empty have a bare text with slashes between them. -/
theorem bare_intercalate {parts : List (List Char)} (h : ∀ cs ∈ parts, Bare cs ∧ cs ≠ []) :
    Bare (['/'].intercalate parts) ∧ (parts ≠ [] → ['/'].intercalate parts ≠ []) := by
  induction parts with
  | nil =>
    refine ⟨⟨?_, ?_⟩, fun hne => absurd rfl hne⟩
    · rintro c ⟨⟩
    · rintro c ⟨⟩
  | cons part rest ih =>
    obtain ⟨hbare, hne⟩ := h part List.mem_cons_self
    obtain ⟨hrest, hrest_ne⟩ := ih fun cs hcs => h cs (List.mem_cons_of_mem part hcs)
    rcases eq_or_ne rest [] with rfl | hmore
    · rw [List.intercalate_singleton]
      exact ⟨hbare, fun _ => hne⟩
    · rw [List.intercalate_cons_of_ne_nil hmore]
      refine ⟨⟨?_, ?_⟩, fun _ => by simp [hne]⟩
      · intro c hc
        rw [List.append_assoc, List.head?_append_of_ne_nil _ hne] at hc
        exact hbare.head c hc
      · intro c hc
        rw [List.getLast?_append_of_ne_nil _ (hrest_ne hmore)] at hc
        exact hrest.last c hc

theorem intercalate_append {sep : List Char} {xs : List (List Char)} (hne : xs ≠ [])
    (ys : List (List Char)) :
    sep.intercalate (sep.intercalate xs :: ys) = sep.intercalate (xs ++ ys) := by
  rcases eq_or_ne ys [] with rfl | hys
  · rw [List.intercalate_singleton, List.append_nil]
  induction xs with
  | nil => exact absurd rfl hne
  | cons x rest ih =>
    rcases eq_or_ne rest [] with rfl | hrest
    · rw [List.intercalate_singleton]
      rfl
    · have hjoined := ih hrest
      rw [List.intercalate_cons_of_ne_nil hys] at hjoined ⊢
      rw [List.intercalate_cons_of_ne_nil hrest, List.cons_append,
        List.intercalate_cons_of_ne_nil (List.append_ne_nil_of_left_ne_nil hrest ys), ← hjoined]
      simp only [List.append_assoc]

/-- What remains of a pattern is what remained of its parts, written as one. -/
theorem remaining_normal (parts : List (List Char)) :
    remaining [normal parts] =
      if remaining parts = [] then [] else [['/'].intercalate (remaining parts)] := by
  obtain ⟨hbare, hne⟩ := bare_intercalate fun cs (hcs : cs ∈ remaining parts) => mem_remaining hcs
  have htrim : trim (normal parts) = ['/'].intercalate (remaining parts) := by
    rw [normal_eq, trim_slash, trim_of_bare hbare]
  rw [← remaining_trim, htrim]
  split
  · next hnil => rw [hnil]; rfl
  · next hsome => exact remaining_of_bare hbare (hne hsome)

/-- A pattern in front of other parts may as well be given part by part. -/
theorem normal_normal (parts rest : List (List Char)) :
    normal (normal parts :: rest) = normal (parts ++ rest) := by
  have hsplit : remaining (normal parts :: rest) = remaining [normal parts] ++ remaining rest :=
    remaining_append [normal parts] rest
  rw [normal_eq (normal parts :: rest), normal_eq (parts ++ rest), hsplit, remaining_append,
    remaining_normal]
  split
  · next hnil => rw [hnil]
  · next hsome => rw [List.singleton_append, intercalate_append hsome]

/-- A part of slashes alone leaves nothing. -/
theorem normal_nil_cons (parts : List (List Char)) : normal ([] :: parts) = normal parts := rfl

end RequestBridge.Path
