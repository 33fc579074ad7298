import PromptLibrary.Proofs.Entries

/-!
# The order of the keys after a removal

`Entries.swapErase` fills the gap with the last entry. What is left is the same entries in every
case (`Entries.keys_swapErase_perm`); this module says when they are also in the same order.

After one removal they are if at most one entry came after the removed one: then the entry that
moves stays behind everything that was before it. For two removals one after the other, at most one
of the entries that stay may have come after a removed one. There is one more case: the second key
stands right before the first one, and two entries come after both. The first removal exchanges
these two entries, and the second one exchanges them back
(`Entries.keys_swapErase_swapErase_eq_iff`).
-/

namespace PromptLibrary.Entries

/-! ## The last member first -/

section Lists

variable {κ : Type}

/-- The last member, then the others in order. -/
def lastFirst (ks : List κ) : List κ :=
  ks.getLast?.toList ++ ks.dropLast

@[simp] theorem lastFirst_concat (ks : List κ) (k : κ) : lastFirst (ks ++ [k]) = k :: ks := by
  simp [lastFirst]

theorem lastFirst_perm (ks : List κ) : (lastFirst ks).Perm ks := by
  rcases ks.eq_nil_or_concat' with rfl | ⟨init, last, rfl⟩
  · exact List.Perm.refl _
  · rw [lastFirst_concat]
    exact (List.perm_append_singleton last init).symm

theorem notMem_of_nodup_append_cons {k : κ} {before after : List κ}
    (h : (before ++ k :: after).Nodup) : k ∉ before := fun hmem ↦
  (List.nodup_append.mp h).2.2 k hmem k List.mem_cons_self rfl

theorem exists_sides {k : κ} {ks : List κ} (h : ks.Nodup) (hk : k ∈ ks) :
    ∃ before after, ks = before ++ k :: after ∧ k ∉ before ∧ k ∉ after ∧
      (before ++ after).Nodup := by
  obtain ⟨before, after, rfl⟩ := List.append_of_mem hk
  obtain ⟨hnotMem, hsides⟩ := List.nodup_cons.mp (List.perm_middle.nodup_iff.mp h)
  obtain ⟨hbefore, hafter⟩ := not_or.mp fun hmem ↦ hnotMem (List.mem_append.mpr hmem)
  exact ⟨before, after, rfl, hbefore, hafter, hsides⟩

/-- Two lists that begin with the same member, which one of them does not have before a later
place. -/
theorem cons_eq_append_cons_iff {k : κ} {ks before after : List κ} (h : k ∉ before) :
    k :: ks = before ++ k :: after ↔ before = [] ∧ ks = after := by
  cases before with
  | nil => simp
  | cons l before =>
    have hne : k ≠ l := fun heq ↦ h (heq ▸ List.mem_cons_self)
    simp [hne]

theorem lastFirst_eq_self_iff {ks : List κ} (h : ks.Nodup) : lastFirst ks = ks ↔ ks.length ≤ 1 := by
  rcases ks.eq_nil_or_concat' with rfl | ⟨init, last, rfl⟩
  · simp [lastFirst]
  · rw [lastFirst_concat, cons_eq_append_cons_iff (notMem_of_nodup_append_cons h),
      List.length_append, List.length_singleton]
    constructor
    · rintro ⟨rfl, -⟩
      simp
    · intro hlength
      have hnil : init = [] := List.eq_nil_of_length_eq_zero (by omega)
      exact ⟨hnil, hnil⟩

/-- The second member of the front is moved as well: only two members change places, and do so
twice. -/
theorem lastFirst_append_lastFirst_eq_iff {xs ys : List κ} (h : (xs ++ ys).Nodup) :
    lastFirst (xs ++ lastFirst ys) = xs ++ ys ↔
      (xs ++ ys).length ≤ 1 ∨ xs = [] ∧ ys.length = 2 := by
  rcases ys.eq_nil_or_concat' with rfl | ⟨ys, y, rfl⟩
  · rw [List.append_nil] at h
    have hnil : lastFirst ([] : List κ) = [] := rfl
    simp [hnil, lastFirst_eq_self_iff h]
  · rw [lastFirst_concat]
    rcases ys.eq_nil_or_concat' with rfl | ⟨ys, x, rfl⟩
    · have hy : y ∉ xs := by
        rw [List.nil_append] at h
        exact notMem_of_nodup_append_cons h
      simp [cons_eq_append_cons_iff hy]
    · have hlast : xs ++ y :: (ys ++ [x]) = (xs ++ y :: ys) ++ [x] := by simp
      have hsplit : xs ++ (ys ++ [x] ++ [y]) = (xs ++ ys) ++ x :: [y] := by simp
      have hx : x ∉ xs ++ ys := by
        rw [hsplit] at h
        exact notMem_of_nodup_append_cons h
      rw [hlast, lastFirst_concat, hsplit, cons_eq_append_cons_iff hx, List.append_eq_nil_iff]
      constructor
      · rintro ⟨⟨rfl, rfl⟩, -⟩
        exact .inr ⟨rfl, rfl⟩
      · rintro (hlength | ⟨rfl, hlength⟩)
        · simp only [List.length_append, List.length_cons] at hlength
          omega
        · have hnil : ys = [] := by simpa using hlength
          simp [hnil]

/-- A key that stands right before another one, with two keys after both. -/
theorem exists_suffix_iff {j k : κ} {before mid after : List κ}
    (h : (before ++ k :: (mid ++ j :: after)).Nodup) :
    (∃ x y, [k, j, x, y] <:+ before ++ k :: (mid ++ j :: after)) ↔ mid = [] ∧ after.length = 2 := by
  constructor
  · rintro ⟨x, y, front, hsuffix⟩
    have hk : k ∉ front ∧ k ∉ [j, x, y] := by grind
    have hj : j ∉ mid := by grind
    obtain ⟨-, -, hrest⟩ := (List.append_cons_inj_of_notMem hk.1 hk.2).mp hsuffix
    obtain ⟨hmid, hafter⟩ := (cons_eq_append_cons_iff hj).mp hrest
    exact ⟨hmid, by rw [← hafter]; rfl⟩
  · rintro ⟨rfl, hlength⟩
    obtain ⟨x, y, rfl⟩ := List.length_eq_two.mp hlength
    exact ⟨x, y, before, rfl⟩

theorem not_suffix_of_front {j k : κ} {before mid after : List κ}
    (h : (before ++ j :: (mid ++ k :: after)).Nodup) (x y : κ) :
    ¬[k, j, x, y] <:+ before ++ j :: (mid ++ k :: after) := by
  rintro ⟨front, hsuffix⟩
  rw [← hsuffix] at h
  have hsplit : (front ++ [k]) ++ j :: [x, y] = before ++ j :: (mid ++ k :: after) := by
    simpa using hsuffix
  have hj : j ∉ front ++ [k] ∧ j ∉ [x, y] := by grind
  -- the second key would come before the first one as well
  obtain ⟨rfl, -⟩ := (List.append_cons_inj_of_notMem hj.1 hj.2).mp hsplit
  grind

end Lists

/-! ## What stays -/

section Staying

variable {κ : Type} [BEq κ] [LawfulBEq κ]

/-- The keys that are not removed. -/
def others (removed ks : List κ) : List κ :=
  ks.filter fun k ↦ !removed.contains k

/-- The keys that are not removed and come after one that is. -/
def behind (removed ks : List κ) : List κ :=
  others removed (ks.dropWhile fun k ↦ !removed.contains k)

theorem others_congr {removed removed' ks : List κ} (h : ∀ k ∈ ks, k ∈ removed ↔ k ∈ removed') :
    others removed ks = others removed' ks := by
  refine List.filter_congr fun k hk ↦ ?_
  rw [Bool.eq_iff_iff]
  simp [h k hk]

theorem behind_congr {removed removed' ks : List κ} (h : ∀ k ∈ ks, k ∈ removed ↔ k ∈ removed') :
    behind removed ks = behind removed' ks := by
  induction ks with
  | nil => rfl
  | cons k ks ih =>
    have hks : ∀ l ∈ ks, l ∈ removed ↔ l ∈ removed' := fun l hl ↦ h l (List.mem_cons_of_mem _ hl)
    have hk : removed.contains k = removed'.contains k := by
      rw [Bool.eq_iff_iff]
      simp [h k List.mem_cons_self]
    rw [behind, behind, List.dropWhile_cons, List.dropWhile_cons, hk]
    split
    · exact ih hks
    · exact others_congr h

theorem not_contains_of_disjoint {removed ks : List κ} (h : ∀ k ∈ removed, k ∉ ks) {k : κ}
    (hk : k ∈ ks) : (!removed.contains k) = true := by
  have hnot : k ∉ removed := fun hmem ↦ h k hmem hk
  simpa using hnot

theorem others_eq_self {removed ks : List κ} (h : ∀ k ∈ removed, k ∉ ks) :
    others removed ks = ks :=
  List.filter_eq_self.mpr fun _ hk ↦ not_contains_of_disjoint h hk

theorem behind_eq_nil {removed ks : List κ} (h : ∀ k ∈ removed, k ∉ ks) :
    behind removed ks = [] := by
  have hdrop : (ks.dropWhile fun k ↦ !removed.contains k) = [] :=
    List.dropWhile_eq_nil_iff.mpr fun _ hk ↦ not_contains_of_disjoint h hk
  rw [behind, hdrop]
  rfl

theorem others_append_cons {removed before after : List κ} {k : κ} (hk : k ∈ removed)
    (hbefore : ∀ l ∈ removed, l ∉ before) :
    others removed (before ++ k :: after) = before ++ others removed after := by
  have hself : others removed before = before := others_eq_self hbefore
  rw [others] at hself
  rw [others, List.filter_append, hself, List.filter_cons_of_neg (by simpa using hk), others]

theorem behind_append_cons {removed before after : List κ} {k : κ} (hk : k ∈ removed)
    (hbefore : ∀ l ∈ removed, l ∉ before) :
    behind removed (before ++ k :: after) = others removed after := by
  have hpass : ∀ l ∈ before, (!removed.contains l) = true :=
    fun _ hl ↦ not_contains_of_disjoint hbefore hl
  have hdrop : ((before ++ k :: after).dropWhile fun l ↦ !removed.contains l) = k :: after := by
    rw [List.dropWhile_append_of_pos hpass, List.dropWhile_cons_of_neg (by simpa using hk)]
  rw [behind, hdrop, others, List.filter_cons_of_neg (by simpa using hk), others]

theorem others_and_behind_of_two {removed before mid after : List κ} {j k : κ} (hj : j ∈ removed)
    (hk : k ∈ removed) (hstay : ∀ l ∈ removed, l ∉ before ∧ l ∉ mid ∧ l ∉ after) :
    others removed (before ++ j :: (mid ++ k :: after)) = before ++ (mid ++ after) ∧
      behind removed (before ++ j :: (mid ++ k :: after)) = mid ++ after := by
  have hrest : others removed (mid ++ k :: after) = mid ++ after := by
    rw [others_append_cons hk fun l hl ↦ (hstay l hl).2.1,
      others_eq_self fun l hl ↦ (hstay l hl).2.2]
  have hbefore : ∀ l ∈ removed, l ∉ before := fun l hl ↦ (hstay l hl).1
  rw [others_append_cons hj hbefore, behind_append_cons hj hbefore, hrest]
  exact ⟨rfl, rfl⟩

end Staying

/-! ## Removals -/

section Removal

variable {κ α : Type} [BEq κ] [LawfulBEq κ]

theorem swapErase_of_notMem {k : κ} {es : Entries κ α} (h : k ∉ keys es) : swapErase k es = es := by
  obtain ⟨heq, -⟩ | ⟨before, e, after, hes, hkey, -⟩ := swapErase_cases k es
  · exact heq
  · have hother : (e.1 == k) = false := beq_eq_false_of_notMem h (by simp [hes])
    rw [hkey] at hother
    cases hother

theorem keys_swapErase_of_eq {k : κ} {es : Entries κ α} {before after : List κ}
    (hes : keys es = before ++ k :: after) (hbefore : k ∉ before) :
    keys (swapErase k es) = before ++ lastFirst after := by
  obtain ⟨xs, ys, rfl, rfl, hys⟩ := List.map_eq_append_iff.mp hes
  obtain ⟨e, zs, rfl, rfl, rfl⟩ := List.map_eq_cons_iff.mp hys
  have hpass : ∀ f ∈ xs, (!(f.1 == e.1)) = true := by
    intro f hf
    rw [beq_eq_false_of_notMem hbefore hf]
    rfl
  have htake : (xs ++ e :: zs).takeWhile (fun f ↦ !(f.1 == e.1)) = xs := by
    rw [List.takeWhile_append_of_pos hpass]
    simp
  have hdrop : (xs ++ e :: zs).dropWhile (fun f ↦ !(f.1 == e.1)) = e :: zs := by
    rw [List.dropWhile_append_of_pos hpass]
    simp
  rw [swapErase, htake, hdrop]
  rcases zs.eq_nil_or_concat' with rfl | ⟨init, last, rfl⟩
  · simp [keys, lastFirst]
  · simp [keys]

theorem keys_swapErase_perm {k : κ} {es : Entries κ α} (h : (keys es).Nodup) :
    (keys (swapErase k es)).Perm (others [k] (keys es)) := by
  by_cases hk : k ∈ keys es
  · obtain ⟨before, after, hes, hbefore, hafter, -⟩ := exists_sides h hk
    rw [keys_swapErase_of_eq hes hbefore, hes, others_append_cons List.mem_cons_self (by simpa),
      others_eq_self (by simpa)]
    exact (lastFirst_perm after).append_left before
  · rw [swapErase_of_notMem hk, others_eq_self (by simpa using hk)]

/-- **One removal.** The keys that are left are in their old order if and only if at most one of
them came after the removed key. -/
theorem keys_swapErase_eq_iff {k : κ} {es : Entries κ α} (h : (keys es).Nodup) :
    keys (swapErase k es) = others [k] (keys es) ↔ (behind [k] (keys es)).length ≤ 1 := by
  by_cases hk : k ∈ keys es
  · obtain ⟨before, after, hes, hbefore, hafter, hsides⟩ := exists_sides h hk
    have hdistinct : after.Nodup := (List.nodup_append.mp hsides).2.1
    rw [keys_swapErase_of_eq hes hbefore, hes, others_append_cons List.mem_cons_self (by simpa),
      behind_append_cons List.mem_cons_self (by simpa), others_eq_self (by simpa),
      List.append_cancel_left_eq, lastFirst_eq_self_iff hdistinct]
  · rw [swapErase_of_notMem hk, others_eq_self (by simpa using hk),
      behind_eq_nil (by simpa using hk)]
    simp

theorem keys_swapErase_swapErase_perm {j k : κ} {es : Entries κ α} (h : (keys es).Nodup) :
    (keys (swapErase k (swapErase j es))).Perm (others [j, k] (keys es)) := by
  have hfirst := keys_swapErase_perm (k := j) h
  have hsecond := keys_swapErase_perm (k := k) (nodup_keys_swapErase j h)
  refine hsecond.trans ((hfirst.filter _).trans (List.Perm.of_eq ?_))
  rw [others, others, List.filter_filter]
  refine List.filter_congr fun l _ ↦ ?_
  rw [Bool.eq_iff_iff]
  simp [and_comm]

theorem keys_swapErase_swapErase_of_front {j k : κ} {es : Entries κ α} {before mid after : List κ}
    (h : (keys es).Nodup) (hes : keys es = before ++ j :: (mid ++ k :: after)) :
    keys (swapErase k (swapErase j es)) = before ++ (mid ++ after) ↔ (mid ++ after).length ≤ 1 := by
  rw [hes] at h
  have hj : j ∉ before := notMem_of_nodup_append_cons h
  rcases after.eq_nil_or_concat' with rfl | ⟨after, z, rfl⟩
  · have hfirst : keys (swapErase j es) = before ++ k :: mid := by
      rw [keys_swapErase_of_eq hes hj, lastFirst_concat]
    have hk : k ∉ before := by grind
    have hmid : mid.Nodup := by grind
    rw [keys_swapErase_of_eq hfirst hk, List.append_cancel_left_eq, List.append_nil,
      lastFirst_eq_self_iff hmid]
  · -- the last key stays, and now it is before the keys between the two
    have hfirst : keys (swapErase j es) = (before ++ z :: mid) ++ k :: after := by
      have hlast : mid ++ k :: (after ++ [z]) = (mid ++ k :: after) ++ [z] := by simp
      rw [keys_swapErase_of_eq hes hj, hlast, lastFirst_concat]
      simp
    have hk : k ∉ before ++ z :: mid := by grind
    have hz : z ∉ mid ++ after := by grind
    rw [keys_swapErase_of_eq hfirst hk, List.append_assoc, List.append_cancel_left_eq,
      List.cons_append, ← List.append_assoc, cons_eq_append_cons_iff hz]
    constructor
    · rintro ⟨hnil, -⟩
      simp [hnil]
    · intro hlength
      have hzero : (mid ++ after).length = 0 := by
        simp only [List.length_append, List.length_singleton] at hlength ⊢
        omega
      have hnil := List.eq_nil_of_length_eq_zero hzero
      obtain ⟨rfl, rfl⟩ := List.append_eq_nil_iff.mp hnil
      exact ⟨rfl, rfl⟩

theorem keys_swapErase_swapErase_of_back {j k : κ} {es : Entries κ α} {before mid after : List κ}
    (h : (keys es).Nodup) (hes : keys es = before ++ k :: (mid ++ j :: after)) :
    keys (swapErase k (swapErase j es)) = before ++ (mid ++ after) ↔
      (mid ++ after).length ≤ 1 ∨ mid = [] ∧ after.length = 2 := by
  rw [hes] at h
  have hk : k ∉ before := notMem_of_nodup_append_cons h
  have hj : j ∉ before ++ k :: mid := by grind
  have hrest : (mid ++ after).Nodup := by grind
  have hfirst : keys (swapErase j es) = before ++ k :: (mid ++ lastFirst after) := by
    have hes' : keys es = (before ++ k :: mid) ++ j :: after := by simp [hes]
    rw [keys_swapErase_of_eq hes' hj]
    simp
  rw [keys_swapErase_of_eq hfirst hk, List.append_cancel_left_eq,
    lastFirst_append_lastFirst_eq_iff hrest]

/-- **Two removals.** The keys that are left are in their old order if and only if at most one of
them came after a removed key, or two came after both and the keys were removed from the back to the
front. -/
theorem keys_swapErase_swapErase_eq_iff {j k : κ} {es : Entries κ α} (h : (keys es).Nodup)
    (hne : j ≠ k) :
    keys (swapErase k (swapErase j es)) = others [j, k] (keys es) ↔
      (behind [j, k] (keys es)).length ≤ 1 ∨ ∃ x y, [k, j, x, y] <:+ keys es := by
  have hno (hnotMem : j ∉ keys es ∨ k ∉ keys es) : ¬∃ x y, [k, j, x, y] <:+ keys es := by
    rintro ⟨x, y, hsuffix⟩
    have hmem : j ∈ keys es ∧ k ∈ keys es := ⟨hsuffix.subset (by simp), hsuffix.subset (by simp)⟩
    tauto
  by_cases hj : j ∈ keys es
  · by_cases hk : k ∈ keys es
    · have hremoved : j ∈ [j, k] ∧ k ∈ [j, k] := by simp
      obtain ⟨before, after, hes, -⟩ := exists_sides h hj
      have hk' : k ∈ before ∨ k ∈ after := by grind
      rcases hk' with hk' | hk'
      · obtain ⟨before, mid, rfl⟩ := List.append_of_mem hk'
        have hes' : keys es = before ++ k :: (mid ++ j :: after) := by simp [hes]
        have hstay : ∀ l ∈ [j, k], l ∉ before ∧ l ∉ mid ∧ l ∉ after := by grind
        obtain ⟨hothers, hbehind⟩ := others_and_behind_of_two hremoved.2 hremoved.1 hstay
        rw [hes', hothers, hbehind, keys_swapErase_swapErase_of_back h hes',
          exists_suffix_iff (hes' ▸ h)]
      · obtain ⟨mid, after, rfl⟩ := List.append_of_mem hk'
        have hstay : ∀ l ∈ [j, k], l ∉ before ∧ l ∉ mid ∧ l ∉ after := by grind
        obtain ⟨hothers, hbehind⟩ := others_and_behind_of_two hremoved.1 hremoved.2 hstay
        have hfront := not_suffix_of_front (hes ▸ h)
        rw [hes, hothers, hbehind, keys_swapErase_swapErase_of_front h hes]
        simp [hfront]
    · have hrest : k ∉ keys (swapErase j es) := fun hmem ↦
        hk ((keys_swapErase_perm h).subset hmem |> List.mem_of_mem_filter)
      have honly : ∀ l ∈ keys es, l ∈ [j, k] ↔ l ∈ [j] := by grind
      rw [swapErase_of_notMem hrest, others_congr honly, keys_swapErase_eq_iff h,
        behind_congr honly, or_iff_left (hno (.inr hk))]
  · have honly : ∀ l ∈ keys es, l ∈ [j, k] ↔ l ∈ [k] := by grind
    rw [swapErase_of_notMem hj, others_congr honly, keys_swapErase_eq_iff h, behind_congr honly,
      or_iff_left (hno (.inl hj))]

end Removal

end PromptLibrary.Entries
