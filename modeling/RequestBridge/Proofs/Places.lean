/-! Lists by their places: what stands at each place once one place has been changed, or one has
been added at the end. -/
namespace RequestBridge

theorem getElem?_set_cases {α : Type} {l : List α} {i j : Nat} {x y : α}
    (h : (l.set i x)[j]? = some y) : (i = j ∧ y = x) ∨ (i ≠ j ∧ l[j]? = some y) := by
  rw [List.getElem?_set] at h
  split at h
  · next hij =>
    split at h
    · exact .inl ⟨hij, (Option.some.inj h).symm⟩
    · cases h
  · next hij => exact .inr ⟨hij, h⟩

theorem getElem?_set_there {α : Type} {l : List α} {i : Nat} {x : α} (h : l[i]? = some x) (y : α) :
    (l.set i y)[i]? = some y :=
  List.getElem?_set_self (List.getElem?_eq_some_iff.mp h).1

theorem getElem?_concat_cases {α : Type} {l : List α} {i : Nat} {x y : α}
    (h : (l ++ [x])[i]? = some y) : l[i]? = some y ∨ (i = l.length ∧ y = x) := by
  rw [List.getElem?_append] at h
  split at h
  · exact .inl h
  · next hlt =>
    obtain ⟨hzero, hx⟩ := List.getElem?_eq_some_iff.mp h
    have hi : i - l.length = 0 := Nat.lt_one_iff.mp hzero
    refine .inr ⟨by omega, ?_⟩
    simp only [hi, List.getElem_cons_zero] at hx
    exact hx.symm

theorem mem_modify {α : Type} {l : List α} {i : Nat} {f : α → α} {y : α}
    (h : y ∈ l.modify i f) : y ∈ l ∨ ∃ x ∈ l, y = f x := by
  obtain ⟨j, hj⟩ := List.mem_iff_getElem?.mp h
  rw [List.getElem?_modify] at hj
  obtain ⟨x, hx, rfl⟩ := Option.map_eq_some_iff.mp hj
  by_cases hij : i = j
  · rw [if_pos hij]
    exact .inr ⟨x, List.mem_of_getElem? hx, rfl⟩
  · rw [if_neg hij]
    exact .inl (List.mem_of_getElem? hx)

theorem map_modify_eq_set {α β : Type} {l : List α} {i : Nat} {f : α → α} {g : α → β} {x : α}
    (hx : l[i]? = some x) : (l.modify i f).map g = (l.map g).set i (g (f x)) := by
  refine List.ext_getElem? ?_
  intro j
  have hroom := (List.getElem?_eq_some_iff.mp hx).1
  rw [List.getElem?_map, List.getElem?_modify]
  by_cases hij : i = j
  · subst hij
    rw [hx, List.getElem?_set_self (by simpa using hroom)]
    simp
  · rw [List.getElem?_set_ne hij, List.getElem?_map]
    cases l[j]? <;> simp [hij]

theorem map_modify_eq_self {α β : Type} {l : List α} {i : Nat} {f : α → α} {g : α → β}
    (h : ∀ x, l[i]? = some x → g (f x) = g x) : (l.modify i f).map g = l.map g := by
  refine List.ext_getElem? ?_
  intro j
  rw [List.getElem?_map, List.getElem?_map, List.getElem?_modify]
  cases hx : l[j]? with
  | none => rfl
  | some x =>
    show some (g (if i = j then f x else x)) = some (g x)
    split
    · next hij => rw [h x (hij ▸ hx)]
    · rfl

theorem modify_eq_self {α : Type} {l : List α} {i : Nat} {f : α → α}
    (h : ∀ x, l[i]? = some x → f x = x) : l.modify i f = l := by
  have hsame := map_modify_eq_self (g := id) h
  rwa [List.map_id, List.map_id] at hsame

end RequestBridge
