import SharedVm.Bindings
import Mathlib.Tactic.Lemma

/-!
# What names are bound to

What a name is bound to after bindings have been changed, thinned out or sorted. Sorting keeps the
order of bindings of one name, so the first of them stays the first.
-/

namespace SharedVm

namespace Text

lemma le_refl (t : Text) : le t t = true := by
  induction t with
  | nil => rfl
  | cons a s ih => simp [le, ih]

lemma le_total (s t : Text) : (le s t || le t s) = true := by
  induction s generalizing t with
  | nil => rfl
  | cons a s ih =>
    cases t with
    | nil => rfl
    | cons b t =>
      rcases Nat.lt_trichotomy a.code b.code with h | h | h
      · simp [le, h]
      · simpa [le, h] using ih t
      · simp [le, h]

lemma le_trans (s t u : Text) (hs : le s t = true) (ht : le t u = true) : le s u = true := by
  induction s generalizing t u with
  | nil => rfl
  | cons a s ih =>
    cases t with
    | nil => cases hs
    | cons b t =>
      cases u with
      | nil => cases ht
      | cons c u =>
        simp only [le, Bool.or_eq_true, Bool.and_eq_true, decide_eq_true_eq] at hs ht ⊢
        rcases hs with hs | ⟨hs, hs'⟩ <;> rcases ht with ht | ⟨ht, ht'⟩
        · exact .inl (Nat.lt_trans hs ht)
        · exact .inl (ht ▸ hs)
        · exact .inl (hs ▸ ht)
        · exact .inr ⟨hs.trans ht, ih t u hs' ht'⟩

end Text

namespace Bindings

variable {α β : Type} (b : Bindings α) (name : Text)

lemma get?_eq_head? : b.get? name = ((b.filter (·.1 = name)).head?).map (·.2) := by
  induction b with
  | nil => rfl
  | cons p rest ih =>
    by_cases h : p.1 = name
    · simp [get?, h]
    · simp [get?, h, ih]

/-- Each of the names that has a value is bound to it. -/
lemma get?_filterMap (names : List Text) (value? : Text → Option α) :
    get? (names.filterMap fun key => (value? key).map (key, ·)) name =
      if name ∈ names then value? name else none := by
  induction names with
  | nil => rfl
  | cons key rest ih =>
    by_cases h : key = name
    · subst h
      cases hv : value? key <;> simp [hv, ih, get?]
    · have hne : ¬ name = key := fun he => h he.symm
      cases hv : value? key <;> simp [hv, ih, get?, h, hne]

lemma get?_map (f : α → β) :
    get? (b.map fun p => (p.1, f p.2)) name = (b.get? name).map f := by
  induction b with
  | nil => rfl
  | cons p rest ih =>
    by_cases h : p.1 = name
    · simp [get?, h]
    · simp [get?, h, ih]

lemma get?_filter (keep : Text → Bool) :
    get? (b.filter fun p => keep p.1) name = if keep name then b.get? name else none := by
  induction b with
  | nil => simp
  | cons p rest ih =>
    by_cases hk : keep p.1 = true <;> by_cases h : p.1 = name
    · simp_all [get?]
    · simp_all [get?]
    · subst h
      simp_all
    · simp_all [get?]

/-- Sorting keeps the bindings of one name in their order. -/
lemma filter_sorted : b.sorted.filter (·.1 = name) = b.filter (·.1 = name) := by
  have hle : (b.filter (·.1 = name)).Pairwise fun p q => Text.le p.1 q.1 = true := by
    refine List.Pairwise.imp_of_mem ?_ (List.pairwise_of_forall fun _ _ => trivial)
    intro p q hp hq _
    have hp := (List.mem_filter.1 hp).2
    have hq := (List.mem_filter.1 hq).2
    rw [of_decide_eq_true hp, of_decide_eq_true hq]
    exact Text.le_refl name
  have hsub : (b.filter (·.1 = name)).Sublist b.sorted :=
    List.sublist_mergeSort (fun p q r => Text.le_trans p.1 q.1 r.1)
      (fun p q => Text.le_total p.1 q.1) hle List.filter_sublist
  have hfilter := hsub.filter (·.1 = name)
  rw [List.filter_filter] at hfilter
  simp only [Bool.and_self] at hfilter
  have hperm : b.sorted.Perm b := List.mergeSort_perm b _
  exact (hfilter.eq_of_length (hperm.filter _).length_eq.symm).symm

lemma get?_sorted : b.sorted.get? name = b.get? name := by
  rw [get?_eq_head?, get?_eq_head?, filter_sorted]

/-! ### Names that are bound once -/

/-- No name is bound twice. -/
def Distinct (b : Bindings α) : Prop := (b.map (·.1)).Nodup

variable {b}

lemma mem_set {p : Text × α} {value : α} (h : p ∈ b.set name value) : p.1 = name ∨ p ∈ b := by
  induction b with
  | nil => exact .inl (by rw [List.mem_singleton.1 h])
  | cons q rest ih =>
    rw [set] at h
    split at h
    · rename_i hq
      rcases List.mem_cons.1 h with rfl | h
      · exact .inl hq
      · exact .inr (List.mem_cons_of_mem q h)
    · rcases List.mem_cons.1 h with rfl | h
      · exact .inr List.mem_cons_self
      · exact (ih h).imp_right (List.mem_cons_of_mem q)

lemma Distinct.set (h : b.Distinct) (value : α) : (b.set name value).Distinct := by
  unfold Distinct at h ⊢
  induction b with
  | nil => exact List.nodup_cons.2 ⟨List.not_mem_nil, List.nodup_nil⟩
  | cons p rest ih =>
    obtain ⟨hp, hrest⟩ := List.nodup_cons.1 h
    rw [Bindings.set]
    split
    · exact List.nodup_cons.2 ⟨hp, hrest⟩
    · rename_i hne
      refine List.nodup_cons.2 ⟨fun hm => ?_, ih hrest⟩
      obtain ⟨q, hq, hname⟩ := List.mem_map.1 hm
      rcases mem_set name hq with hq | hq
      · exact hne (hname.symm.trans hq)
      · exact hp (hname ▸ List.mem_map_of_mem hq)

lemma Distinct.filter (h : b.Distinct) (keep : Text × α → Bool) : Distinct (b.filter keep) :=
  (List.filter_sublist.map _).nodup h

lemma distinct_filterMap {names : List Text} (h : names.Nodup) (value? : Text → Option α) :
    Distinct (names.filterMap fun key => (value? key).map (key, ·)) := by
  have hsub : ∀ keys : List Text,
      ((keys.filterMap fun key => (value? key).map (key, ·)).map (·.1)).Sublist keys := by
    intro keys
    induction keys with
    | nil => exact .slnil
    | cons key rest ih =>
      cases hv : value? key with
      | none =>
        rw [List.filterMap_cons_none (by rw [hv]; rfl)]
        exact ih.cons key
      | some v =>
        rw [List.filterMap_cons_some (by rw [hv]; rfl)]
        exact ih.cons_cons key
  exact (hsub names).nodup h

lemma Distinct.sorted (h : b.Distinct) : b.sorted.Distinct :=
  ((List.mergeSort_perm b _).map _).nodup_iff.2 h

end Bindings

end SharedVm
