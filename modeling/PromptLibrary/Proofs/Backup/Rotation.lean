import PromptLibrary.Proofs.Backup
import PromptLibrary.Proofs.Path

/-!
# What a finished rotation moves

The slots of a file are pairwise different paths, and none of them is the directory that they lie
in. So a rotation that nothing stands in the way of moves every generation on by one slot
(`Rotator.Rotated`), whichever slots are occupied. With the copy of the file after it, the content
of every slot is known exactly (`Rotator.backup_moves_on`).

## Order

The oldest generation is moved first. By the time a generation is moved, what was in the slot after
it has been moved on or there was nothing, so a move loses a text only at the end of the row. The
induction is on the number of generations that are still to be moved: the first move is that of the
oldest one, and no later move names the slot that it went to.
-/

namespace PromptLibrary.Rotator

open MemoryStore

/-! ## Names of slots -/

/-- The file name of a slot. -/
def slotName (r : Rotator) (i : Nat) : String :=
  ((r.path.stem.getD "").map fun c ↦ if c = '.' then '_' else c) ++ ".bak" ++ toString i

theorem toList_slotName (r : Rotator) (i : Nat) :
    (r.slotName i).toList =
      ((r.path.stem.getD "").toList.map fun c ↦ if c = '.' then '_' else c) ++
        (['.', 'b', 'a', 'k'] ++ Nat.toDigits 10 i) := by
  simp [slotName, String.toList_append, String.toList_map]

theorem slotName_injective (r : Rotator) {i j : Nat} (h : r.slotName i = r.slotName j) :
    i = j := by
  have hlist := congrArg String.toList h
  rw [toList_slotName, toList_slotName] at hlist
  have hdigits := List.append_cancel_left (List.append_cancel_left hlist)
  calc
    i = Nat.ofDigitChars 10 (Nat.toDigits 10 i) 0 := Nat.ofDigitChars_ten_toDigits.symm
    _ = j := by rw [hdigits, Nat.ofDigitChars_ten_toDigits]

theorem isName_slotName (r : Rotator) (i : Nat) : Path.IsName (r.slotName i) := by
  have hstem : '/' ∉ (r.path.stem.getD "").toList := by
    cases h : r.path.stem with
    | none => exact List.not_mem_nil
    | some n => exact Path.notMem_of_stem h
  -- a letter stands in the name, so it is neither empty nor made of dots
  have hletter : 'b' ∈ (r.slotName i).toList := by simp [toList_slotName]
  refine ⟨?_, ?_, ?_, ?_⟩
  · intro h
    rw [h] at hletter
    exact absurd hletter List.not_mem_nil
  · rw [toList_slotName]
    intro hmem
    rcases List.mem_append.mp hmem with hmem | hmem
    · obtain ⟨c, hc, heq⟩ := List.mem_map.mp hmem
      split at heq
      · exact absurd heq (by decide)
      · rw [heq] at hc
        exact hstem hc
    · rcases List.mem_append.mp hmem with hmem | hmem
      · exact absurd hmem (by decide)
      · have hdigit := Nat.isDigit_of_mem_toDigits (by decide) (by decide) hmem
        exact absurd hdigit (by decide)
  · intro h
    rw [h] at hletter
    exact absurd hletter (by decide)
  · intro h
    rw [h] at hletter
    exact absurd hletter (by decide)

theorem components_slot (r : Rotator) (i : Nat) :
    (r.slot i).components = (r.path.parent.getD ⟨""⟩).components ++ [.name (r.slotName i)] :=
  Path.components_join _ (r.isName_slotName i)

theorem slot_ne {i j : Nat} (r : Rotator) (h : i ≠ j) : (r.slot i == r.slot j) = false := by
  rw [Bool.eq_false_iff, ne_eq, Path.beq_iff, components_slot, components_slot]
  intro heq
  have hname := List.append_cancel_left heq
  exact h (r.slotName_injective (Component.name.inj (List.cons.inj hname).1))

theorem parent_ne_slot {r : Rotator} {d : Path} (h : r.path.parent = some d) (i : Nat) :
    (d == r.slot i) = false := by
  rw [Bool.eq_false_iff, ne_eq, Path.beq_iff, components_slot, h]
  intro heq
  have hlength := congrArg List.length heq
  simp at hlength

/-! ## Rotations -/

/-- The first `n` generations have been moved on by one slot. -/
structure Rotated (r : Rotator) (n : Nat) (s t : MemoryStore) : Prop where
  /-- A generation is in the next slot. -/
  moved : ∀ i < n, ∀ text, s.get? (r.slot (i + 1)) = some text →
    t.get? (r.slot (i + 2)) = some text
  /-- A slot that nothing is moved into or out of is as before. -/
  kept : ∀ i, i = 0 ∨ n < i ∨ s.get? (r.slot i) = none →
    n ≤ i ∨ s.get? (r.slot (i + 1)) = none → t.get? (r.slot (i + 1)) = s.get? (r.slot (i + 1))
  /-- A slot that something is only moved out of is empty. -/
  emptied : s.Apart → ∀ i < n, i = 0 ∨ s.get? (r.slot i) = none → t.get? (r.slot (i + 1)) = none

theorem Rotated.zero (r : Rotator) (s : MemoryStore) : Rotated r 0 s s :=
  ⟨fun _ h ↦ absurd h (Nat.not_lt_zero _), fun _ _ _ ↦ rfl,
    fun _ _ h ↦ absurd h (Nat.not_lt_zero _)⟩

theorem Rotated.skip {r : Rotator} {n : Nat} {s t : MemoryStore}
    (hempty : s.get? (r.slot (n + 1)) = none) (h : Rotated r n s t) : Rotated r (n + 1) s t where
  moved i hi text htext := by
    rcases Nat.lt_succ_iff_lt_or_eq.mp hi with hlt | rfl
    · exact h.moved i hlt text htext
    · rw [hempty] at htext
      cases htext
  kept i hbefore hself := by
    refine h.kept i ?_ ?_
    · rcases hbefore with h0 | hlt | hnone
      · exact .inl h0
      · exact .inr (.inl (by omega))
      · exact .inr (.inr hnone)
    · rcases hself with hle | hnone
      · exact .inl (by omega)
      · exact .inr hnone
  emptied hs i hi hbefore := by
    rcases Nat.lt_succ_iff_lt_or_eq.mp hi with hlt | rfl
    · exact h.emptied hs i hlt hbefore
    · rw [h.kept i (hbefore.imp_right .inr) (.inl (Nat.le_refl _)), hempty]

theorem get?_slot_of_moved {r : Rotator} {n : Nat} {s u : MemoryStore}
    (hf : Frame [r.slot (n + 1), r.slot (n + 2)] s u) {i : Nat} (hsource : i ≠ n + 1)
    (htarget : i ≠ n + 2) : u.get? (r.slot i) = s.get? (r.slot i) := by
  refine hf.files _ ?_
  rintro p (_ | ⟨_, _ | ⟨_, ⟨⟩⟩⟩)
  · exact r.slot_ne (Ne.symm hsource)
  · exact r.slot_ne (Ne.symm htarget)

theorem Rotated.step {r : Rotator} {n : Nat} {s u t : MemoryStore} {text : String}
    (hfull : s.get? (r.slot (n + 1)) = some text)
    (hf : Frame [r.slot (n + 1), r.slot (n + 2)] s u) (hnew : u.get? (r.slot (n + 2)) = some text)
    (hold : s.Apart → u.Apart ∧ u.get? (r.slot (n + 1)) = none) (h : Rotated r n u t) :
    Rotated r (n + 1) s t := by
  have hother : ∀ i, i ≠ n + 1 → i ≠ n + 2 → u.get? (r.slot i) = s.get? (r.slot i) :=
    fun i h1 h2 ↦ get?_slot_of_moved hf h1 h2
  have hn : ∀ {i}, s.get? (r.slot i) = none → i ≠ n + 1 := by
    rintro i hnone rfl
    rw [hfull] at hnone
    cases hnone
  refine ⟨fun i hi text' htext' ↦ ?_, fun i hbefore hself ↦ ?_, fun hs i hi hbefore ↦ ?_⟩
  · rcases Nat.lt_succ_iff_lt_or_eq.mp hi with hlt | rfl
    · refine h.moved i hlt text' ?_
      rw [hother (i + 1) (by omega) (by omega), htext']
    · -- no later move names the slot that the oldest generation went to
      rw [h.kept (i + 1) (.inr (.inl (by omega))) (.inl (by omega)), hnew, ← hfull, htext']
  · have hne : i ≠ n := by
      rintro rfl
      rcases hself with hle | hnone
      · omega
      · exact hn hnone rfl
    have hne' : i ≠ n + 1 := by
      rintro rfl
      rcases hbefore with h0 | hlt | hnone
      · omega
      · omega
      · exact hn hnone rfl
    have hsame := hother (i + 1) (by omega) (by omega)
    rw [← hsame]
    refine h.kept i ?_ ?_
    · rcases hbefore with h0 | hlt | hnone
      · exact .inl h0
      · exact .inr (.inl (by omega))
      · by_cases hi : n < i
        · exact .inr (.inl hi)
        · exact .inr (.inr (by rw [hother i hne' (by omega), hnone]))
    · rcases hself with hle | hnone
      · exact .inl (by omega)
      · exact .inr (hsame.trans hnone)
  · obtain ⟨hapart, hgone⟩ := hold hs
    have hbefore' : i = 0 ∨ u.get? (r.slot i) = none := by
      rcases hbefore with h0 | hnone
      · exact .inl h0
      · exact .inr (by rw [hother i (by omega) (by omega), hnone])
    rcases Nat.lt_succ_iff_lt_or_eq.mp hi with hlt | rfl
    · exact h.emptied hapart i hlt hbefore'
    · rw [h.kept i (hbefore'.imp_right .inr) (.inl (Nat.le_refl _)), hgone]

theorem rotated_shift {r : Rotator} {n : Nat} (hn : n < r.generations) {s : MemoryStore}
    (hs : s.Unobstructed r.slots) : ∃ t, perform (r.shift n) s = (.ok (), t) ∧ Rotated r n s t := by
  induction n generalizing s with
  | zero => exact ⟨s, rfl, .zero r s⟩
  | succ n ih =>
    have hlt : n < r.generations := by omega
    rw [perform_shift_succ]
    cases htext : s.get? (r.slot (n + 1)) with
    | none =>
      have hhas : s.has (r.slot (n + 1)) = false := by
        rw [has_eq, htext, (hs _ (slot_mem_slots hlt)).2]
        rfl
      obtain ⟨t, ht, hrotated⟩ := ih hlt hs
      rw [if_neg (by simp [hhas])]
      exact ⟨t, ht, hrotated.skip htext⟩
    | some text =>
      obtain ⟨u, hu, hf, hnew, hold⟩ := rename_spec (hs _ (slot_mem_slots hn)).1 htext
      obtain ⟨t, ht, hrotated⟩ := ih hlt (hs.of_frame hf)
      rw [if_pos (has_of_get? htext), hu]
      refine ⟨t, ht, hrotated.step htext hf hnew fun hs ↦ ?_⟩
      exact (hold hs).imp_right fun h ↦ h (r.slot_ne (by omega))

theorem perform_backup_of_shift {r : Rotator} {s t : MemoryStore} (hhas : s.has r.path = true)
    (hshift : perform (r.shift (r.generations - 1)) s = (.ok (), t)) :
    perform r.backup s =
      match t.copy r.path (r.slot 1) with
      | (.ok (), u) => (.ok true, u)
      | (.error e, u) => (.error (.backupFailed r.path (.copyTo (r.slot 1)) e), u) := by
  have hbackup := perform_backup r s
  rw [if_pos hhas, hshift] at hbackup
  exact hbackup

/-- What a backup that nothing stands in the way of does: it rotates the slots and puts the text of
the file into the first one. -/
theorem rotated_backup {r : Rotator} (hr : r.Apart) {s : MemoryStore}
    (hs : s.Unobstructed r.slots) {text : String} (htext : s.get? r.path = some text) :
    ∃ t u, perform r.backup s = (.ok true, u) ∧ Rotated r (r.generations - 1) s t ∧
      Frame [r.slot 1] t u ∧ u.get? (r.slot 1) = some text := by
  have hlt := r.generations_sub_one_lt
  have hframe := frame_shift hlt s
  obtain ⟨t, ht, hrotated⟩ := rotated_shift hlt hs
  rw [ht] at hframe
  rw [perform_backup_of_shift (has_of_get? htext) ht]
  have hfile : t.get? r.path = some text := (hframe.files r.path hr).trans htext
  have hcopy := copy_ok (hs.of_frame hframe _ r.first_mem_slots).1 (p := r.path) (by simp [hfile])
  obtain ⟨e, he⟩ | ⟨u, text', hu, htext', hslot, hf⟩ := copy_cases t r.path (r.slot 1)
  · rw [he] at hcopy
    cases hcopy
  · refine ⟨t, u, by rw [hu], hrotated, hf, ?_⟩
    rw [hslot, ← htext', hfile]

/-! ## The exact effect -/

/-- From the second slot on, every slot has what was in the slot before it, and nothing if nothing
was there. Only the last slot keeps what it had if there is nothing to move into it. -/
theorem Rotated.get?_slot {r : Rotator} {s t : MemoryStore} (hs : s.Apart)
    (h : Rotated r (r.generations - 1) s t) {i : Nat} (hi : 2 ≤ i) (hlast : i ≤ r.generations) :
    t.get? (r.slot i) =
      if i < r.generations then s.get? (r.slot (i - 1))
      else (s.get? (r.slot (i - 1))).or (s.get? (r.slot i)) := by
  obtain ⟨j, rfl⟩ : ∃ j, i = j + 2 := ⟨i - 2, by omega⟩
  show t.get? (r.slot (j + 2)) =
    if j + 2 < r.generations then s.get? (r.slot (j + 1))
    else (s.get? (r.slot (j + 1))).or (s.get? (r.slot (j + 2)))
  cases htext : s.get? (r.slot (j + 1)) with
  | some text =>
    rw [h.moved j (by omega) text htext, Option.some_or, ite_self]
  | none =>
    rw [Option.none_or]
    split
    · exact h.emptied hs (j + 1) (by omega) (.inr htext)
    · exact h.kept (j + 1) (.inr (.inr htext)) (.inl (by omega))

theorem get?_slot_of_copied {r : Rotator} {t u : MemoryStore} (h : Frame [r.slot 1] t u) {i : Nat}
    (hi : 2 ≤ i) : u.get? (r.slot i) = t.get? (r.slot i) := by
  refine h.files _ ?_
  rintro p (_ | ⟨_, ⟨⟩⟩)
  exact r.slot_ne (by omega)

/-- What was in a slot is in one of the slots from the second on, unless it was in the last slot and
another generation was moved onto it, or there is one slot alone. -/
theorem Rotated.exists_slot {r : Rotator} {s t : MemoryStore} (hs : s.Apart)
    (h : Rotated r (r.generations - 1) s t) {i : Nat} (hi : 1 ≤ i) (hle : i ≤ r.generations)
    {old : String} (hold : s.get? (r.slot i) = some old) :
    (∃ j, 2 ≤ j ∧ j ≤ r.generations ∧ t.get? (r.slot j) = some old) ∨
      i = r.generations ∧
        (2 ≤ r.generations → (s.get? (r.slot (r.generations - 1))).isSome = true) := by
  rcases Nat.lt_or_eq_of_le hle with hlt | rfl
  · -- every generation but the oldest one is moved on
    left
    obtain ⟨j, rfl⟩ : ∃ j, i = j + 1 := ⟨i - 1, by omega⟩
    exact ⟨j + 2, by omega, hlt, h.moved j (by omega) old hold⟩
  · by_cases hcovered : 2 ≤ r.generations → (s.get? (r.slot (r.generations - 1))).isSome = true
    · exact .inr ⟨rfl, hcovered⟩
    · left
      obtain ⟨htwo, hempty⟩ := Classical.not_imp.mp hcovered
      refine ⟨r.generations, htwo, Nat.le_refl _, ?_⟩
      rw [h.get?_slot hs htwo (Nat.le_refl _), if_neg (Nat.lt_irrefl _),
        Option.not_isSome_iff_eq_none.mp hempty, Option.none_or, hold]

/-- **The exact effect of a backup.** If nothing stands in its way, a backup of a file succeeds. The
first slot then has the text of the file, and every other slot has what was in the slot before it;
only the last one keeps what it had if the slot before it was empty. The file and all other files
are as before. So nothing is lost but what was in the last slot, and this only if the slot before it
was not empty or there is one slot alone. -/
theorem backup_moves_on (r : Rotator) (s : MemoryStore) {text : String} (hr : r.Apart)
    (hs : s.Apart) (hfile : s.get? r.path = some text)
    (hdirs : ∀ p ∈ r.slots, s.dirs.any (· == p) = false) (hfailing : s.failing = []) :
    let n := r.generations
    ∃ t, perform r.backup s = (.ok true, t) ∧
      t.get? (r.slot 1) = some text ∧
      (∀ i, 2 ≤ i → i < n → t.get? (r.slot i) = s.get? (r.slot (i - 1))) ∧
      (2 ≤ n → t.get? (r.slot n) = (s.get? (r.slot (n - 1))).or (s.get? (r.slot n))) ∧
      (∀ i, 1 ≤ i → i ≤ n → t.has (r.slot i) = (t.get? (r.slot i)).isSome) ∧
      t.get? r.path = some text ∧
      (∀ q, (∀ p ∈ r.slots, (p == q) = false) → t.get? q = s.get? q ∧ t.has q = s.has q) ∧
      ∀ i, 1 ≤ i → i ≤ n → ∀ old, s.get? (r.slot i) = some old →
        (∃ j, 1 ≤ j ∧ j ≤ n ∧ t.get? (r.slot j) = some old) ∨
          i = n ∧ (2 ≤ n → (s.get? (r.slot (n - 1))).isSome = true) := by
  intro n
  have hunobstructed : s.Unobstructed r.slots := by
    intro p hp
    refine ⟨?_, hdirs p hp⟩
    rw [MemoryStore.refuses, hfailing]
    rfl
  obtain ⟨t, u, hu, hrotated, hcopied, hfirst⟩ := rotated_backup hr hunobstructed hfile
  have hframe : Frame r.slots s u := by
    have hbacked := (backed_backup hr s).frame
    rwa [hu] at hbacked
  refine ⟨u, hu, hfirst, ?_, ?_, ?_, ?_, ?_, ?_⟩
  · intro i hi hlt
    rw [get?_slot_of_copied hcopied hi, hrotated.get?_slot hs hi (Nat.le_of_lt hlt), if_pos hlt]
  · intro hn
    rw [get?_slot_of_copied hcopied hn, hrotated.get?_slot hs hn (Nat.le_refl n),
      if_neg (Nat.lt_irrefl n)]
  · intro i hi hle
    have hmem : r.slot i ∈ r.slots := by
      obtain ⟨j, rfl⟩ : ∃ j, i = j + 1 := ⟨i - 1, by omega⟩
      exact slot_mem_slots hle
    rw [has_eq, hframe.dirs, hdirs _ hmem, Bool.or_false]
  · rw [hframe.files _ hr, hfile]
  · exact fun q hq ↦ ⟨hframe.files q hq, hframe.has_eq hq⟩
  · intro i hi hle old hold
    refine (hrotated.exists_slot hs hi hle hold).imp_left ?_
    rintro ⟨j, hj, hjn, hnew⟩
    exact ⟨j, by omega, hjn, (get?_slot_of_copied hcopied hj).trans hnew⟩

/-- A row of three slots with a gap: the gap moves on, and the oldest generation is lost. -/
theorem backup_moves_on_gap :
    let r : Rotator := ⟨⟨"/data/prompts.v2.json"⟩, 3⟩
    let s : MemoryStore := { files := [(⟨"/data/prompts.v2.json"⟩, "current"),
      (⟨"/data/prompts_v2.bak3"⟩, "three"), (⟨"/data/prompts_v2.bak2"⟩, "two")] }
    (r.Apart ∧ s.Apart ∧ s.get? r.path = some "current" ∧
      (∀ p ∈ r.slots, s.dirs.any (· == p) = false) ∧ s.failing = []) ∧
    ∃ t, perform r.backup s = (.ok true, t) ∧ t.get? (r.slot 1) = some "current" ∧
      t.has (r.slot 2) = false ∧ t.get? (r.slot 3) = some "two" ∧
      t.get? r.path = some "current" := by
  intro r s
  have hr : r.Apart := by
    rw [Apart]
    decide +kernel
  have hs : s.Apart := by
    rw [MemoryStore.Apart, Entries.Apart]
    decide +kernel
  have hfile : s.get? r.path = some "current" := by decide +kernel
  have hdirs : ∀ p ∈ r.slots, s.dirs.any (· == p) = false := fun _ _ ↦ rfl
  obtain ⟨t, ht, hfirst, hinner, hlast, hhas, hkept, -, -⟩ :=
    backup_moves_on r s hr hs hfile hdirs rfl
  refine ⟨⟨hr, hs, hfile, hdirs, rfl⟩, t, ht, hfirst, ?_, ?_, hkept⟩
  · rw [hhas 2 (by decide) (by decide), hinner 2 (by decide) (by decide)]
    decide +kernel
  · refine (hlast (by decide)).trans ?_
    decide +kernel

end PromptLibrary.Rotator
