import PromptLibrary.Backup
import PromptLibrary.Library.File
import PromptLibrary.Proofs.Store.Memory

/-!
# What a backup and a save leave behind

A rotation moves and overwrites slots, and it may stop half way. Whatever it does stays inside the
frame of the slots, so a guarded file that is none of its own slots (`Rotator.Apart`) comes through
every rotation, finished or not. A save is a rotation followed by one write. It leaves one of two
situations behind: either it failed and at most slots differ, or it succeeded and the file holds
the new text and the first slot the text that the file had before.
-/

namespace PromptLibrary

open MemoryStore

/-- Changes to the paths are not refused and no directory is recorded there. -/
def MemoryStore.Unobstructed (s : MemoryStore) (ps : List Path) : Prop :=
  ∀ p ∈ ps, s.refuses p = false ∧ s.dirs.any (· == p) = false

theorem MemoryStore.Unobstructed.of_frame {ps qs : List Path} {s t : MemoryStore}
    (h : s.Unobstructed ps) (hf : Frame qs s t) : t.Unobstructed ps := by
  intro p hp
  rw [hf.refuses_eq, hf.dirs]
  exact h p hp

theorem MemoryStore.Unobstructed.isSome_get? {ps : List Path} {s : MemoryStore} {p : Path}
    (h : s.Unobstructed ps) (hp : p ∈ ps) (hs : s.has p = true) : (s.get? p).isSome = true := by
  rwa [has_eq, (h p hp).2, Bool.or_false] at hs

namespace Rotator

/-! ## Slots -/

/-- The guarded file is none of its own slots. -/
def Apart (r : Rotator) : Prop :=
  ∀ p ∈ r.slots, (p == r.path) = false

theorem generations_pos (r : Rotator) : 0 < r.generations := by
  rw [generations]
  omega

theorem generations_sub_one_lt (r : Rotator) : r.generations - 1 < r.generations :=
  Nat.sub_one_lt (Nat.ne_of_gt r.generations_pos)

theorem slot_mem_slots {r : Rotator} {i : Nat} (h : i < r.generations) :
    r.slot (i + 1) ∈ r.slots :=
  List.mem_map.mpr ⟨i, List.mem_range.mpr h, rfl⟩

theorem first_mem_slots (r : Rotator) : r.slot 1 ∈ r.slots :=
  slot_mem_slots r.generations_pos

/-! ## Rotation -/

theorem perform_shift_succ (r : Rotator) (n : Nat) (s : MemoryStore) :
    perform (r.shift (n + 1)) s =
      if s.has (r.slot (n + 1)) then
        match s.rename (r.slot (n + 1)) (r.slot (n + 2)) with
        | (.ok (), t) => perform (r.shift n) t
        | (.error e, t) => (.error (.backupFailed r.path (.rotate (r.slot (n + 1))) e), t)
      else perform (r.shift n) s := by
  rw [shift, perform_bind, perform_has]
  cases s.has (r.slot (n + 1)) with
  | true =>
    simp only [if_true]
    rw [perform_bind, step, perform_adapt, perform_rename]
    rcases s.rename (r.slot (n + 1)) (r.slot (n + 2)) with ⟨_ | _, t⟩ <;> rfl
  | false => rfl

theorem frame_slots_of_moved {r : Rotator} {n : Nat} (hn : n + 1 < r.generations)
    {s t : MemoryStore} (hf : Frame [r.slot (n + 1), r.slot (n + 2)] s t) : Frame r.slots s t := by
  refine hf.mono ?_
  rintro p (_ | ⟨_, _ | ⟨_, ⟨⟩⟩⟩)
  · exact slot_mem_slots (by omega)
  · exact slot_mem_slots hn

theorem frame_shift {r : Rotator} {n : Nat} (hn : n < r.generations) (s : MemoryStore) :
    Frame r.slots s (perform (r.shift n) s).2 := by
  induction n generalizing s with
  | zero => exact Frame.refl _ _
  | succ n ih =>
    -- the oldest generation is moved first, and only then the younger ones
    have hlt : n < r.generations := by omega
    rw [perform_shift_succ]
    split
    · rcases rename_cases s (r.slot (n + 1)) (r.slot (n + 2)) with ⟨e, he⟩ | ⟨t, ht, hf⟩
      · rw [he]
        exact Frame.refl _ _
      · rw [ht]
        exact (frame_slots_of_moved hn hf).trans (ih hlt t)
    · exact ih hlt s

theorem shift_ok {r : Rotator} {n : Nat} (hn : n < r.generations) {s : MemoryStore}
    (hs : s.Unobstructed r.slots) : (perform (r.shift n) s).1 = .ok () := by
  induction n generalizing s with
  | zero => rfl
  | succ n ih =>
    have hlt : n < r.generations := by omega
    rw [perform_shift_succ]
    split
    · rename_i hhas
      have hsome := hs.isSome_get? (slot_mem_slots hlt) hhas
      have hok := rename_ok (hs _ (slot_mem_slots hn)).1 hsome
      rcases rename_cases s (r.slot (n + 1)) (r.slot (n + 2)) with ⟨e, he⟩ | ⟨t, ht, hf⟩
      · rw [he] at hok
        cases hok
      · rw [ht]
        exact ih hlt (hs.of_frame hf)
    · exact ih hlt hs

/-! ## Backups -/

/-- The three ways in which a backup can end. -/
inductive Backed (r : Rotator) (s : MemoryStore) : Except Error Bool × MemoryStore → Prop where
  /-- There was no file and nothing was done. -/
  | absent (h : s.has r.path = false) : Backed r s (.ok false, s)
  /-- A step failed. -/
  | failed {e : Error} {t : MemoryStore} (hf : Frame r.slots s t) : Backed r s (.error e, t)
  /-- The text of the file is in the first slot. -/
  | done {text : String} {t : MemoryStore} (hf : Frame r.slots s t)
    (hfile : s.get? r.path = some text) (hslot : t.get? (r.slot 1) = some text) :
    Backed r s (.ok true, t)

theorem perform_backup (r : Rotator) (s : MemoryStore) :
    perform r.backup s =
      if s.has r.path then
        match perform (r.shift (r.generations - 1)) s with
        | (.ok (), t) =>
          match t.copy r.path (r.slot 1) with
          | (.ok (), u) => (.ok true, u)
          | (.error e, u) => (.error (.backupFailed r.path (.copyTo (r.slot 1)) e), u)
        | (.error e, t) => (.error e, t)
      else (.ok false, s) := by
  rw [backup, perform_bind, perform_has]
  cases s.has r.path with
  | true =>
    simp only [if_true]
    rw [perform_bind]
    rcases perform (r.shift (r.generations - 1)) s with ⟨_ | _, t⟩
    · rfl
    · simp only
      rw [perform_bind, step, perform_adapt, perform_copy]
      rcases t.copy r.path (r.slot 1) with ⟨_ | _, u⟩ <;> rfl
  | false => rfl

theorem backed_backup {r : Rotator} (hr : r.Apart) (s : MemoryStore) :
    Backed r s (perform r.backup s) := by
  have hlt := r.generations_sub_one_lt
  have hshift := frame_shift hlt s
  rw [perform_backup]
  cases hhas : s.has r.path with
  | false => exact .absent hhas
  | true =>
    rw [if_pos rfl]
    rcases hrun : perform (r.shift (r.generations - 1)) s with ⟨_ | _, t⟩
    · rw [hrun] at hshift
      exact .failed hshift
    · rw [hrun] at hshift
      rcases copy_cases t r.path (r.slot 1) with ⟨e, he⟩ | ⟨u, text, hu, htext, hslot, hf⟩
      · simp only [he]
        exact .failed hshift
      · simp only [hu]
        -- the rotation has not touched the file, so the copied text is the one from before
        have hfile : s.get? r.path = some text := (hshift.files r.path hr).symm.trans htext
        have hsub : ∀ p ∈ [r.slot 1], p ∈ r.slots := by
          rintro p (_ | ⟨_, ⟨⟩⟩)
          exact r.first_mem_slots
        exact .done (hshift.trans (hf.mono hsub)) hfile hslot

theorem Backed.frame {r : Rotator} {s : MemoryStore} {o : Except Error Bool × MemoryStore}
    (h : Backed r s o) : Frame r.slots s o.2 := by
  cases h with
  | absent => exact Frame.refl _ _
  | failed hf => exact hf
  | done hf => exact hf

theorem backup_ok {r : Rotator} (hr : r.Apart) {s : MemoryStore}
    (hs : s.Unobstructed (r.path :: r.slots)) : ∃ b, (perform r.backup s).1 = .ok b := by
  have hlt := r.generations_sub_one_lt
  have hslots : s.Unobstructed r.slots := fun p hp ↦ hs p (List.mem_cons_of_mem _ hp)
  have hshift := shift_ok hlt hslots
  have hframe := frame_shift hlt s
  rw [perform_backup]
  cases hhas : s.has r.path with
  | false => exact ⟨false, rfl⟩
  | true =>
    rw [if_pos rfl]
    rcases hrun : perform (r.shift (r.generations - 1)) s with ⟨_ | _, t⟩
    · rw [hrun] at hshift
      cases hshift
    · rw [hrun] at hframe
      have hsome : (t.get? r.path).isSome = true := by
        rw [hframe.files r.path hr]
        exact hs.isSome_get? List.mem_cons_self hhas
      have hcopy := copy_ok (hslots.of_frame hframe _ r.first_mem_slots).1 hsome
      rcases hc : t.copy r.path (r.slot 1) with ⟨_ | _, u⟩
      · rw [hc] at hcopy
        cases hcopy
      · exact ⟨true, by simp only [hc]⟩

end Rotator

namespace Library

/-! ## Saves -/

/-- The two ways in which a save can end. -/
inductive Saved (l : Library) (r : Rotator) (s : MemoryStore) :
    Except Error Unit × MemoryStore → Prop where
  /-- The backup or the write failed. -/
  | failed {e : Error} {t : MemoryStore} (hf : Frame r.slots s t) : Saved l r s (.error e, t)
  /-- The file holds the library, and the first slot what the file held before. -/
  | done {t : MemoryStore} (hfile : t.get? r.path = some l.toText)
    (hslot : s.has r.path = true →
      (s.get? r.path).isSome = true ∧ t.get? (r.slot 1) = s.get? r.path)
    (hrest : ∀ q, (r.path == q) = false → (∀ p ∈ r.slots, (p == q) = false) →
      t.get? q = s.get? q) : Saved l r s (.ok (), t)

theorem perform_save (l : Library) (path : Path) (limit : Nat) (s : MemoryStore) :
    perform (l.save path limit) s =
      match perform (Rotator.mk path limit).backup s with
      | (.ok _, t) => ((t.write path l.toText).1.mapError Error.file, (t.write path l.toText).2)
      | (.error e, t) => (.error e, t) := by
  rw [save, perform_bind]
  rcases perform (Rotator.mk path limit).backup s with ⟨_ | _, t⟩
  · rfl
  · simp only
    rw [withFileErrors, perform_adapt, perform_write]

/-- The write comes last, so after a save the file holds the library even if it is one of its own
slots. -/
theorem get?_of_save {l : Library} {path : Path} {limit : Nat} {s t : MemoryStore}
    (h : perform (l.save path limit) s = (.ok (), t)) : t.get? path = some l.toText := by
  rw [perform_save] at h
  rcases hrun : perform (Rotator.mk path limit).backup s with ⟨e | b, u⟩
  all_goals rw [hrun] at h
  · cases h
  · dsimp only at h
    cases hw : u.refuses path with
    | true =>
      rw [write_of_refuses _ hw] at h
      cases h
    | false =>
      obtain ⟨u', hu, hget⟩ := write_spec l.toText hw
      rw [hu] at h
      cases h
      rw [hget, if_pos BEq.rfl]

theorem saved_save (l : Library) {path : Path} {limit : Nat} (hr : (Rotator.mk path limit).Apart)
    (s : MemoryStore) : Saved l ⟨path, limit⟩ s (perform (l.save path limit) s) := by
  have hb := Rotator.backed_backup hr s
  have hslot1 : (path == (Rotator.mk path limit).slot 1) = false := by
    rw [BEq.comm]
    exact hr _ (Rotator.first_mem_slots _)
  rw [perform_save]
  rcases hrun : perform (Rotator.mk path limit).backup s with ⟨e | b, t⟩
  · rw [hrun] at hb
    exact .failed hb.frame
  · rw [hrun] at hb
    have hf := hb.frame
    simp only
    cases hw : t.refuses path with
    | true =>
      rw [write_of_refuses _ hw]
      exact .failed hf
    | false =>
      obtain ⟨u, hu, hget⟩ := write_spec l.toText hw
      rw [hu]
      refine .done ?_ ?_ ?_
      · rw [hget, if_pos BEq.rfl]
      · intro hhas
        cases hb with
        | absent h =>
          rw [h] at hhas
          cases hhas
        | done hf hfile hslot =>
          rw [hget, if_neg (by simp [hslot1]), hslot, hfile]
          exact ⟨rfl, rfl⟩
      · intro q hq hslots
        rw [hget, if_neg (by simp [hq])]
        exact hf.files q hslots

theorem save_ok (l : Library) {path : Path} {limit : Nat} (hr : (Rotator.mk path limit).Apart)
    {s : MemoryStore} (hs : s.Unobstructed (path :: (Rotator.mk path limit).slots)) :
    (perform (l.save path limit) s).1 = .ok () := by
  obtain ⟨b, hb⟩ := Rotator.backup_ok hr hs
  have hf := (Rotator.backed_backup hr s).frame
  rw [perform_save]
  rcases hrun : perform (Rotator.mk path limit).backup s with ⟨e | b, t⟩
  · rw [hrun] at hb
    cases hb
  · rw [hrun] at hf
    have hw := (hs.of_frame hf path List.mem_cons_self).1
    obtain ⟨u, hu, -⟩ := write_spec l.toText hw
    simp only [hu]
    rfl

end Library

end PromptLibrary
