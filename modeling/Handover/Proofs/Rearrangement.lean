/-! # Lists up to the order of what does not belong together

Where many things are told in one list, like the messages about all entities, only the order among
those about the same thing may matter.  Two lists are *rearranged* into each other if for every key
they have the same members with that key in the same order.  What comes first in one of them can then be
brought to the front of the other, past members with other keys only (`exists_split`).  So running
through rearranged lists leads to the same state if steps with different keys may be swapped
(`Rearranged.foldl`).
-/

namespace Handover

variable {α κ σ : Type} [DecidableEq κ] {key : α → κ} {l l' m m' : List α}

/-! ## Members with different keys -/

/-- Of members with different keys, the one with a key is found. -/
theorem find?_key_eq_some_iff (distinct : (l.map key).Nodup) (k : κ) (a : α) :
    l.find? (key · = k) = some a ↔ a ∈ l ∧ key a = k := by
  induction l with
  | nil => simp
  | cons first l ih =>
    rw [List.map_cons, List.nodup_cons] at distinct
    by_cases here : key first = k
    · rw [List.find?_cons_of_pos (by simpa using here), Option.some_inj, List.mem_cons]
      constructor
      · rintro rfl
        exact ⟨.inl rfl, here⟩
      · rintro ⟨rfl | later, same⟩
        · rfl
        · exact absurd (List.mem_map.mpr ⟨a, later, same.trans here.symm⟩) distinct.1
    · rw [List.find?_cons_of_neg (by simpa using here), ih distinct.2, List.mem_cons]
      constructor
      · exact fun ⟨later, same⟩ => ⟨.inr later, same⟩
      · rintro ⟨rfl | later, same⟩
        · exact absurd same here
        · exact ⟨later, same⟩

/-! ## Rearranged lists -/

/-- Both lists have the same members with any given key, in the same order. -/
def Rearranged (key : α → κ) (l l' : List α) : Prop :=
  ∀ k, l.filter (key · = k) = l'.filter (key · = k)

namespace Rearranged

theorem refl (key : α → κ) (l : List α) : Rearranged key l l := fun _ => rfl

theorem symm (same : Rearranged key l l') : Rearranged key l' l := fun k => (same k).symm

theorem trans (left : Rearranged key l l') (right : Rearranged key l' m) : Rearranged key l m :=
  fun k => (left k).trans (right k)

theorem append (left : Rearranged key l l') (right : Rearranged key m m') :
    Rearranged key (l ++ m) (l' ++ m') := by
  intro k
  rw [List.filter_append, List.filter_append, left, right]

theorem filter (same : Rearranged key l l') (p : α → Bool) :
    Rearranged key (l.filter p) (l'.filter p) := by
  have swap (l : List α) (k : κ) :
      (l.filter p).filter (key · = k) = (l.filter (key · = k)).filter p := by
    simp only [List.filter_filter, Bool.and_comm]
  intro k
  rw [swap, same, swap]

theorem append_comm (apart : ∀ a ∈ l, ∀ b ∈ m, key a ≠ key b) :
    Rearranged key (l ++ m) (m ++ l) := by
  intro k
  rw [List.filter_append, List.filter_append]
  by_cases here : ∃ a ∈ l, key a = k
  · obtain ⟨a, member, rfl⟩ := here
    have elsewhere : m.filter (key · = key a) = [] := by
      simpa [List.filter_eq_nil_iff] using fun b inM => (apart a member b inM).symm
    rw [elsewhere, List.append_nil, List.nil_append]
  · have nowhere : l.filter (key · = k) = [] := by
      simpa [List.filter_eq_nil_iff] using here
    rw [nowhere, List.append_nil, List.nil_append]

/-- If no key occurs twice, any order will do. -/
theorem of_perm (perm : l.Perm l') (distinct : (l.map key).Nodup) : Rearranged key l l' := by
  induction perm with
  | nil => exact refl key []
  | cons a _ ih =>
    rw [List.map_cons, List.nodup_cons] at distinct
    exact (refl key [a]).append (ih distinct.2)
  | swap a b l =>
    rw [List.map_cons, List.nodup_cons, List.map_cons, List.mem_cons, not_or] at distinct
    have apart : Rearranged key ([b] ++ [a]) ([a] ++ [b]) := append_comm (by simpa using distinct.1.1)
    exact apart.append (refl key l)
  | trans perm _ ih ih' => exact (ih distinct).trans (ih' ((perm.map key).nodup_iff.mp distinct))

theorem eq_nil (same : Rearranged key [] l) : l = [] := by
  cases l with
  | nil => rfl
  | cons a l => simpa using same (key a)

/-- What comes first in one list comes in the other behind members with other keys only. -/
theorem exists_split {a : α} (same : Rearranged key (a :: l) l') :
    ∃ before after, l' = before ++ a :: after ∧ (∀ b ∈ before, key b ≠ key a) ∧
      Rearranged key l (before ++ after) := by
  have here := same (key a)
  rw [List.filter_cons_of_pos (by simp)] at here
  obtain ⟨before, after, rfl, others, _, _⟩ := List.filter_eq_cons_iff.mp here.symm
  refine ⟨before, after, rfl, by simpa using others, fun k => ?_⟩
  have atKey := same k
  rw [List.filter_append] at atKey ⊢
  by_cases isKey : key a = k
  · -- no member before `a` has its key, so what is left behind `a` are the others with it
    have nowhere : before.filter (key · = k) = [] := by
      simpa [List.filter_eq_nil_iff, isKey] using others
    rw [nowhere, List.nil_append] at atKey ⊢
    rw [List.filter_cons_of_pos (by simpa using isKey), List.filter_cons_of_pos (by simpa using isKey)]
      at atKey
    exact (List.cons.inj atKey).2
  · rwa [List.filter_cons_of_neg (by simpa using isKey), List.filter_cons_of_neg (by simpa using isKey)]
      at atKey

/-! ## Running through a list -/

section

variable {R : σ → σ → Prop} {f : σ → α → σ}

theorem foldl_congr (congr : ∀ {s t} a, R s t → R (f s a) (f t a)) {s t : σ} (same : R s t)
    (l : List α) : R (l.foldl f s) (l.foldl f t) := by
  induction l generalizing s t with
  | nil => exact same
  | cons a l ih => exact ih (congr a same)

omit [DecidableEq κ] in
/-- A step may be taken before any steps with other keys. -/
theorem foldl_step (equiv : Equivalence R) (congr : ∀ {s t} a, R s t → R (f s a) (f t a))
    (swap : ∀ s {a b}, key a ≠ key b → R (f (f s a) b) (f (f s b) a)) (s : σ) {a : α}
    (others : ∀ b ∈ l, key b ≠ key a) : R (f (l.foldl f s) a) (l.foldl f (f s a)) := by
  induction l generalizing s with
  | nil => exact equiv.refl _
  | cons b l ih =>
    rw [List.forall_mem_cons] at others
    have later := ih (f s b) others.2
    exact equiv.trans later (foldl_congr congr (swap s others.1) l)

theorem foldl (equiv : Equivalence R) (congr : ∀ {s t} a, R s t → R (f s a) (f t a))
    (swap : ∀ s {a b}, key a ≠ key b → R (f (f s a) b) (f (f s b) a))
    (same : Rearranged key l l') {s t : σ} (start : R s t) : R (l.foldl f s) (l'.foldl f t) := by
  induction l generalizing l' s t with
  | nil =>
    rw [same.eq_nil]
    exact start
  | cons a l ih =>
    -- the other list takes the first step somewhere; taking it first there as well changes nothing
    obtain ⟨before, after, rfl, others, rest⟩ := same.exists_split
    have front : R ((before ++ after).foldl f (f t a)) ((before ++ a :: after).foldl f t) := by
      rw [List.foldl_append, List.foldl_append]
      exact equiv.symm (foldl_congr congr (foldl_step equiv congr swap t others) after)
    exact equiv.trans (ih rest (congr a start)) front

end

end Rearranged

end Handover
