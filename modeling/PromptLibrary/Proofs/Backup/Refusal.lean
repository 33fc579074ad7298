import Mathlib.Order.Bounds.Basic
import PromptLibrary.Proofs.Backup.Rotation

/-!
# Backups that are refused

A store can refuse the changes to any set of paths, so a backup can come to a halt before each of
its steps. It is refused exactly if there is a generation to be moved into a slot that must not be
changed, or if the first slot must not be changed (`Rotator.refused_backup`). The oldest such slot
is where it halts. Then the older slots are as after a full rotation, the younger ones are as
before, and between them there is a gap.

## Two rotations in step

Nothing here computes the slots a second time. `Rotator.Reaches` says which part of a rotation is
still to be done in which files. Up to the halt, a rotation that is refused does what it would do if
nothing were refused, so the rotation of the unrefused store reaches the same files
(`Rotator.Reaches.unrefused`). What it does from there on concerns the slots up to the halt only.
-/

namespace PromptLibrary

namespace MemoryStore

/-! ## Refusals -/

/-- The same files and directories, with no change refused. -/
def unrefused (s : MemoryStore) : MemoryStore :=
  { s with failing := [] }

theorem rename_eq_ok_iff {s t : MemoryStore} {p q : Path} :
    s.rename p q = (.ok (), t) ↔ s.refuses q = false ∧ ∃ text, s.get? p = some text ∧
      t = ({ s with files := Entries.erase p s.files }.put q text).logged (.rename p q) := by
  rw [rename]
  cases s.refuses q with
  | true => simp
  | false =>
    cases s.get? p with
    | none => simp
    | some text => simp [eq_comm]

theorem rename_unrefused {s t : MemoryStore} {p q : Path} (h : s.rename p q = (.ok (), t)) :
    s.unrefused.rename p q = (.ok (), t.unrefused) := by
  obtain ⟨-, text, htext, rfl⟩ := rename_eq_ok_iff.mp h
  exact rename_eq_ok_iff.mpr ⟨rfl, text, htext, rfl⟩

/-- All changes from one store to another one were moves. -/
def OnlyMoves (s t : MemoryStore) : Prop :=
  ∃ moves, t.log = moves ++ s.log ∧ ∀ c ∈ moves, ∃ p q, c = .rename p q

theorem OnlyMoves.refl (s : MemoryStore) : OnlyMoves s s :=
  ⟨[], rfl, nofun⟩

theorem OnlyMoves.move {s u t : MemoryStore} {p q : Path} (hmove : s.rename p q = (.ok (), u))
    (h : OnlyMoves u t) : OnlyMoves s t := by
  obtain ⟨-, text, -, rfl⟩ := rename_eq_ok_iff.mp hmove
  obtain ⟨moves, hlog, hmoves⟩ := h
  refine ⟨moves ++ [.rename p q], ?_, ?_⟩
  · rw [hlog, List.append_assoc]
    rfl
  · intro c hc
    rcases List.mem_append.mp hc with hc | hc
    · exact hmoves c hc
    · exact ⟨p, q, List.mem_singleton.mp hc⟩

end MemoryStore

namespace Rotator

open MemoryStore

variable {r : Rotator} {n k : Nat} {s t : MemoryStore}

/-! ## The course of a rotation -/

/-- In the course of moving the first `n` generations of `s`, it remains to move the first `k`
generations of `t`. -/
inductive Reaches (r : Rotator) : Nat → MemoryStore → Nat → MemoryStore → Prop where
  /-- Nothing has been done. -/
  | start (n : Nat) (s : MemoryStore) : Reaches r n s n s
  /-- The oldest slot is empty. -/
  | skip {n k : Nat} {s t : MemoryStore} (hempty : s.has (r.slot (n + 1)) = false)
    (h : Reaches r n s k t) : Reaches r (n + 1) s k t
  /-- The oldest generation is moved on. -/
  | move {n k : Nat} {s u t : MemoryStore}
    (hmove : s.rename (r.slot (n + 1)) (r.slot (n + 2)) = (.ok (), u))
    (h : Reaches r n u k t) : Reaches r (n + 1) s k t

namespace Reaches

theorem le (h : Reaches r n s k t) : k ≤ n := by
  induction h with
  | start n s => exact Nat.le_refl n
  | skip _ _ ih => exact Nat.le_succ_of_le ih
  | move _ _ ih => exact Nat.le_succ_of_le ih

theorem eq_of_le (h : Reaches r n s k t) (hle : n ≤ k) : t = s := by
  cases h with
  | start n s => rfl
  | skip _ h => exact absurd (Nat.le_trans hle h.le) (Nat.not_succ_le_self _)
  | move _ h => exact absurd (Nat.le_trans hle h.le) (Nat.not_succ_le_self _)

theorem perform_shift (h : Reaches r n s k t) :
    perform (r.shift n) s = perform (r.shift k) t := by
  induction h with
  | start n s => rfl
  | skip hempty _ ih => rw [perform_shift_succ, if_neg (by simp [hempty]), ih]
  | move hmove _ ih =>
    obtain ⟨-, text, htext, -⟩ := rename_eq_ok_iff.mp hmove
    rw [perform_shift_succ, if_pos (has_of_get? htext), hmove]
    exact ih

theorem unrefused (h : Reaches r n s k t) : Reaches r n s.unrefused k t.unrefused := by
  induction h with
  | start n s => exact .start n s.unrefused
  | skip hempty _ ih => exact .skip hempty ih
  | move hmove _ ih => exact .move (rename_unrefused hmove) ih

theorem onlyMoves (h : Reaches r n s k t) : OnlyMoves s t := by
  induction h with
  | start n s => exact .refl s
  | skip _ _ ih => exact ih
  | move hmove _ ih => exact .move hmove ih

end Reaches

theorem frame_move {u : MemoryStore}
    (hmove : s.rename (r.slot (n + 1)) (r.slot (n + 2)) = (.ok (), u)) :
    Frame [r.slot (n + 1), r.slot (n + 2)] s u := by
  obtain ⟨e, he⟩ | ⟨v, hv, hf⟩ := rename_cases s (r.slot (n + 1)) (r.slot (n + 2))
  · rw [he] at hmove
    cases hmove
  · obtain rfl : v = u := (Prod.mk.inj (hv.symm.trans hmove)).2
    exact hf

theorem get?_move {u : MemoryStore} {i : Nat} (hi : i ≤ n)
    (hmove : s.rename (r.slot (n + 1)) (r.slot (n + 2)) = (.ok (), u)) :
    u.get? (r.slot i) = s.get? (r.slot i) :=
  get?_slot_of_moved (frame_move hmove) (by omega) (by omega)

namespace Reaches

theorem frame (hn : n < r.generations) (h : Reaches r n s k t) : Frame r.slots s t := by
  induction h with
  | start n s => exact .refl _ _
  | skip _ _ ih => exact ih (by omega)
  | move hmove _ ih => exact (frame_slots_of_moved hn (frame_move hmove)).trans (ih (by omega))

theorem get?_younger (h : Reaches r n s k t) {i : Nat} (hi : i ≤ k) :
    t.get? (r.slot i) = s.get? (r.slot i) := by
  induction h with
  | start n s => rfl
  | skip _ _ ih => exact ih hi
  | move hmove h ih => rw [ih hi, get?_move (Nat.le_trans hi h.le) hmove]

theorem has_younger (hn : n < r.generations) (h : Reaches r n s k t) {i : Nat} (hi : i ≤ k) :
    t.has (r.slot i) = s.has (r.slot i) := by
  rw [has_eq, has_eq, h.get?_younger hi, (h.frame hn).dirs]

/-- The slot before which the rotation has come is empty, unless it is the one after the last that
is to be moved. -/
theorem get?_gap (h : Reaches r n s k t) (hs : s.Apart) (hlt : k < n) :
    t.get? (r.slot (k + 1)) = none := by
  induction h with
  | start n s => exact absurd hlt (Nat.lt_irrefl n)
  | @skip n k s t hempty h ih =>
    rcases Nat.lt_succ_iff_lt_or_eq.mp hlt with hlt | rfl
    · exact ih hs hlt
    · rw [h.eq_of_le (Nat.le_refl k)]
      rw [has_eq, Bool.or_eq_false_iff, Option.isSome_eq_false_iff] at hempty
      exact Option.isNone_iff_eq_none.mp hempty.1
  | @move n k s u t hmove h ih =>
    obtain ⟨hrefuses, text, htext, -⟩ := rename_eq_ok_iff.mp hmove
    obtain ⟨v, hv, -, -, hold⟩ := rename_spec hrefuses htext
    obtain rfl : v = u := (Prod.mk.inj (hv.symm.trans hmove)).2
    obtain ⟨hu, hgone⟩ := hold hs
    rcases Nat.lt_succ_iff_lt_or_eq.mp hlt with hlt | rfl
    · exact ih hu hlt
    · rw [h.eq_of_le (Nat.le_refl k)]
      exact hgone (r.slot_ne (by omega))

theorem not_refused (h : Reaches r n s k t) (hn : n < r.generations) {j : Nat} (hk : k < j)
    (hj : j ≤ n) (hhas : s.has (r.slot j) = true) : s.refuses (r.slot (j + 1)) = false := by
  induction h with
  | start n s => omega
  | @skip n k s t hempty h ih =>
    rcases Nat.lt_succ_iff_lt_or_eq.mp (Nat.lt_succ_of_le hj) with hlt | rfl
    · exact ih (by omega) hk (by omega) hhas
    · rw [hempty] at hhas
      cases hhas
  | @move n k s u t hmove h ih =>
    rcases Nat.lt_succ_iff_lt_or_eq.mp (Nat.lt_succ_of_le hj) with hlt | rfl
    · have hf := frame_move hmove
      rw [← hf.refuses_eq]
      refine ih (by omega) hk (by omega) ?_
      rw [has_eq, get?_move (by omega) hmove, hf.dirs, ← has_eq]
      exact hhas
    · exact (rename_eq_ok_iff.mp hmove).1

end Reaches

/-- A rotation of files comes to its end, or to a generation that cannot be moved. -/
theorem exists_reaches (hn : n < r.generations)
    (hdirs : ∀ p ∈ r.slots, s.dirs.any (· == p) = false) :
    ∃ k t, Reaches r n s k t ∧
      (k = 0 ∨ t.has (r.slot k) = true ∧ t.refuses (r.slot (k + 1)) = true) := by
  induction n generalizing s with
  | zero => exact ⟨0, s, .start 0 s, .inl rfl⟩
  | succ n ih =>
    cases hhas : s.has (r.slot (n + 1)) with
    | false =>
      obtain ⟨k, t, h, hstop⟩ := ih (by omega) hdirs
      exact ⟨k, t, .skip hhas h, hstop⟩
    | true =>
      cases hrefuses : s.refuses (r.slot (n + 2)) with
      | true => exact ⟨n + 1, s, .start _ s, .inr ⟨hhas, hrefuses⟩⟩
      | false =>
        rw [has_eq, hdirs _ (slot_mem_slots (by omega)), Bool.or_false] at hhas
        obtain ⟨text, htext⟩ := Option.isSome_iff_exists.mp hhas
        obtain ⟨u, hmove, hf, -⟩ := rename_spec hrefuses htext
        obtain ⟨k, t, h, hstop⟩ := ih (s := u) (by omega) (by rwa [hf.dirs])
        exact ⟨k, t, .move hmove h, hstop⟩

/-! ## Where a backup halts -/

/-- A generation is to be moved into the slot, and changes to the slot are refused. -/
def Blocked (r : Rotator) (s : MemoryStore) (k : Nat) : Prop :=
  2 ≤ k ∧ k ≤ r.generations ∧ s.has (r.slot (k - 1)) = true ∧ s.refuses (r.slot k) = true

/-- The complaint about a slot. The first one is the target of the copy, the others are those of the
moves. -/
def refusal (r : Rotator) (k : Nat) : Error :=
  .backupFailed r.path (if k = 1 then .copyTo (r.slot 1) else .rotate (r.slot (k - 1)))
    (.write (r.slot k) .injected)

/-- What a backup leaves that was refused at a slot, compared with the files before and with those
after a full rotation. -/
structure Halted (r : Rotator) (k : Nat) (s full t : MemoryStore) : Prop where
  /-- The older slots are as after a full rotation. -/
  older : ∀ i, k < i → i ≤ r.generations → t.get? (r.slot i) = full.get? (r.slot i)
  /-- The slot itself is empty, since what was in it has been moved on, unless it is the last. -/
  here : t.get? (r.slot k) = if k < r.generations then none else s.get? (r.slot k)
  /-- The younger slots are as before. -/
  younger : ∀ i, 1 ≤ i → i < k → t.get? (r.slot i) = s.get? (r.slot i)

theorem perform_shift_of_refused (hhas : s.has (r.slot (k + 1)) = true)
    (hrefuses : s.refuses (r.slot (k + 2)) = true) :
    perform (r.shift (k + 1)) s = (.error (r.refusal (k + 2)), s) := by
  have hrename : s.rename (r.slot (k + 1)) (r.slot (k + 2)) =
      (.error (.write (r.slot (k + 2)) .injected), s) := by
    rw [rename, if_pos hrefuses]
  rw [perform_shift_succ, if_pos hhas, hrename]
  rfl

/-! ## What a halted backup leaves -/

namespace Reaches

theorem get?_older (h : Reaches r (r.generations - 1) s k t) (hs : s.Apart)
    (hdirs : ∀ p ∈ r.slots, s.dirs.any (· == p) = false) {u : MemoryStore}
    (hu : Rotated r (r.generations - 1) s.unrefused u) {i : Nat} (hk : k + 1 < i)
    (hi : i ≤ r.generations) : t.get? (r.slot i) = u.get? (r.slot i) := by
  have hlt := r.generations_sub_one_lt
  obtain ⟨v, hv, hfull⟩ := rotated_shift (s := s.unrefused) hlt fun p hp ↦ ⟨rfl, hdirs p hp⟩
  have hdirs' : ∀ p ∈ r.slots, t.dirs.any (· == p) = false := by
    rw [(h.frame hlt).dirs]
    exact hdirs
  obtain ⟨w, hw, hrest⟩ := rotated_shift (s := t.unrefused) (n := k) (by omega)
    fun p hp ↦ ⟨rfl, hdirs' p hp⟩
  obtain rfl : v = w := by
    rw [h.unrefused.perform_shift, hw] at hv
    exact (Prod.mk.inj hv).2.symm
  -- what was still to be done concerns the slots up to the halt
  have hkept : v.get? (r.slot (i - 1 + 1)) = t.get? (r.slot (i - 1 + 1)) :=
    hrest.kept (i - 1) (.inr (.inl (by omega))) (.inl (by omega))
  rw [Nat.sub_add_cancel (by omega)] at hkept
  have hs' : s.unrefused.Apart := hs
  rw [← hkept, hfull.get?_slot hs' (by omega) hi, hu.get?_slot hs' (by omega) hi]

theorem halted (h : Reaches r (r.generations - 1) s k t) (hs : s.Apart)
    (hdirs : ∀ p ∈ r.slots, s.dirs.any (· == p) = false) {u full : MemoryStore}
    (hu : Rotated r (r.generations - 1) s.unrefused u) (hcopied : Frame [r.slot 1] u full) :
    r.Halted (k + 1) s full t where
  older i hk hi := by
    rw [h.get?_older hs hdirs hu hk hi, get?_slot_of_copied hcopied (by omega)]
  here := by
    split
    · exact h.get?_gap hs (by omega)
    · rw [h.eq_of_le (by omega)]
  younger i _ hi := h.get?_younger (Nat.le_of_lt_succ hi)

/-- No generation but the oldest can be lost: the others are in their own slot or the next one. -/
theorem get?_own_or_next (h : Reaches r (r.generations - 1) s k t) (hs : s.Apart)
    (hdirs : ∀ p ∈ r.slots, s.dirs.any (· == p) = false) {i : Nat} (hi : 1 ≤ i)
    (hlast : i < r.generations) {old : String} (hold : s.get? (r.slot i) = some old) :
    t.get? (r.slot i) = some old ∨ t.get? (r.slot (i + 1)) = some old := by
  rcases Nat.lt_or_ge k i with hlt | hge
  · obtain ⟨u, -, hu⟩ := rotated_shift (s := s.unrefused) (n := r.generations - 1) (by omega)
      fun p hp ↦ ⟨rfl, hdirs p hp⟩
    obtain ⟨j, rfl⟩ : ∃ j, i = j + 1 := ⟨i - 1, by omega⟩
    right
    rw [h.get?_older hs hdirs hu (by omega) (by omega)]
    exact hu.moved j (by omega) old hold
  · left
    rw [h.get?_younger hge, hold]

end Reaches

/-! ## When a backup is refused -/

/-- With `k` generations still to be moved, the next step is refused. -/
def Stopped (r : Rotator) (s : MemoryStore) (k : Nat) : Prop :=
  (k = 0 ∨ s.has (r.slot k) = true) ∧ s.refuses (r.slot (k + 1)) = true

/-- Something is in the way of a backup. -/
def Refused (r : Rotator) (s : MemoryStore) : Prop :=
  (∃ k, r.Blocked s k) ∨ s.refuses (r.slot 1) = true

namespace Reaches

theorem blocked (h : Reaches r (r.generations - 1) s k t) (hstop : r.Stopped s k) (hk : k ≠ 0) :
    r.Blocked s (k + 1) := by
  have hpos := r.generations_pos
  have hle := h.le
  exact ⟨by omega, by omega, hstop.1.resolve_left hk, hstop.2⟩

theorem refused (h : Reaches r (r.generations - 1) s k t) (hstop : r.Stopped s k) :
    r.Refused s := by
  by_cases hk : k = 0
  · subst hk
    exact .inr hstop.2
  · exact .inl ⟨k + 1, h.blocked hstop hk⟩

theorem refused_after (h : Reaches r (r.generations - 1) s k t) (hstop : r.Stopped s k) :
    r.Refused t := by
  have hlt := r.generations_sub_one_lt
  have hrefuses : t.refuses (r.slot (k + 1)) = true := (h.frame hlt).refuses_eq _ ▸ hstop.2
  by_cases hk : k = 0
  · subst hk
    exact .inr hrefuses
  · obtain ⟨h2, hle, hhas, -⟩ := h.blocked hstop hk
    rw [Nat.add_sub_cancel, ← h.has_younger hlt (Nat.le_refl k)] at hhas
    exact .inl ⟨k + 1, h2, hle, hhas, hrefuses⟩

theorem le_of_blocked (h : Reaches r (r.generations - 1) s k t) {j : Nat} (hj : r.Blocked s j) :
    j ≤ k + 1 := by
  obtain ⟨h2, hle, hhas, hrefuses⟩ := hj
  by_contra hlt
  have hfree := h.not_refused r.generations_sub_one_lt (j := j - 1) (by omega) (by omega) hhas
  rw [Nat.sub_add_cancel (by omega), hrefuses] at hfree
  cases hfree

/-- The halt is at the oldest slot in the way of a move. -/
theorem eq_of_isGreatest (h : Reaches r (r.generations - 1) s k t) (hstop : r.Stopped s k) {j : Nat}
    (hj : IsGreatest {i | r.Blocked s i} j) : j = k + 1 := by
  have hle := h.le_of_blocked hj.1
  have hk : k ≠ 0 := by
    have h2 := hj.1.1
    omega
  exact Nat.le_antisymm hle (hj.2 (h.blocked hstop hk))

theorem eq_zero (h : Reaches r (r.generations - 1) s k t) (hstop : r.Stopped s k)
    (hnone : ∀ j, ¬r.Blocked s j) : k = 0 := by
  by_contra hk
  exact hnone _ (h.blocked hstop hk)

end Reaches

section Backup

variable {text : String} (hr : r.Apart) (hfile : s.get? r.path = some text)
  (hdirs : ∀ p ∈ r.slots, s.dirs.any (· == p) = false)

include hr hfile hdirs

/-- How far a backup of a file gets: to its end, or to the first refusal. -/
theorem perform_backup_cases :
    ∃ k t, Reaches r (r.generations - 1) s k t ∧
      ((k = 0 ∧ s.refuses (r.slot 1) = false ∧ ∃ u, perform r.backup s = (.ok true, u)) ∨
        r.Stopped s k ∧ perform r.backup s = (.error (r.refusal (k + 1)), t)) := by
  have hlt := r.generations_sub_one_lt
  obtain ⟨k, t, h, hstop⟩ := exists_reaches hlt hdirs
  have hframe := h.frame hlt
  refine ⟨k, t, h, ?_⟩
  cases k with
  | zero =>
    have hshift : perform (r.shift (r.generations - 1)) s = (.ok (), t) := h.perform_shift
    have hfile' : t.get? r.path = some text := (hframe.files _ hr).trans hfile
    rw [perform_backup_of_shift (has_of_get? hfile) hshift]
    cases hrefuses : s.refuses (r.slot 1) with
    | true =>
      refine .inr ⟨⟨.inl rfl, hrefuses⟩, ?_⟩
      rw [copy, if_pos ((hframe.refuses_eq _).trans hrefuses)]
      rfl
    | false =>
      refine .inl ⟨rfl, rfl, ?_⟩
      rw [copy, if_neg (by simp [hframe.refuses_eq, hrefuses]), hfile']
      exact ⟨_, rfl⟩
  | succ k =>
    obtain ⟨hhas, hrefuses⟩ := hstop.resolve_left (Nat.succ_ne_zero k)
    refine .inr ⟨⟨.inr ?_, (hframe.refuses_eq _).symm.trans hrefuses⟩, ?_⟩
    · rw [← h.has_younger hlt (Nat.le_refl _), hhas]
    · rw [perform_backup, if_pos (has_of_get? hfile), h.perform_shift,
        perform_shift_of_refused hhas hrefuses]

theorem exists_stopped_of_error {e : Error} (ht : perform r.backup s = (.error e, t)) :
    ∃ k, Reaches r (r.generations - 1) s k t ∧ r.Stopped s k ∧ e = r.refusal (k + 1) := by
  obtain ⟨k, v, h, ⟨-, -, u, hu⟩ | ⟨hstop, hv⟩⟩ := perform_backup_cases hr hfile hdirs
  · rw [hu] at ht
    cases ht
  · rw [hv] at ht
    obtain ⟨he, rfl⟩ := Prod.mk.inj ht
    exact ⟨k, h, hstop, (Except.error.inj he).symm⟩

theorem exists_stopped_of_refused (hrefused : r.Refused s) :
    ∃ k t, Reaches r (r.generations - 1) s k t ∧ r.Stopped s k ∧
      perform r.backup s = (.error (r.refusal (k + 1)), t) := by
  obtain ⟨k, t, h, ⟨rfl, hfree, -⟩ | ⟨hstop, ht⟩⟩ := perform_backup_cases hr hfile hdirs
  · obtain ⟨j, hj⟩ | hfirst := hrefused
    · exact absurd (h.le_of_blocked hj) (Nat.not_le_of_gt hj.1)
    · rw [hfree] at hfirst
      cases hfirst
  · exact ⟨k, t, h, hstop, ht⟩

theorem perform_backup_of_not_refused (hfree : ¬r.Refused s) :
    (perform r.backup s).1 = .ok true := by
  obtain ⟨k, t, h, ⟨-, -, u, hu⟩ | ⟨hstop, -⟩⟩ := perform_backup_cases hr hfile hdirs
  · rw [hu]
  · exact absurd (h.refused hstop) hfree

end Backup

theorem perform_save_of_error (l : Library) {e : Error} (h : perform r.backup s = (.error e, t)) :
    perform (l.save r.path r.limit) s = (.error e, t) := by
  rw [Library.perform_save, show (⟨r.path, r.limit⟩ : Rotator) = r from rfl, h]

/-- **A refused backup halts cleanly.** A backup of a file fails exactly if a generation is to be
moved into a slot that must not be changed, or if the first slot must not be changed; otherwise it
succeeds. When it fails, it has halted at the oldest slot into which a generation should have been
moved, or else at the first slot. The older slots are as after a full rotation, the younger ones are
as before, and the slot of the halt is empty unless it is the last one. The file and all files that
are no slots are as before, and of the generations only the oldest one can be lost. A save fails
with the same complaint and leaves the same files, and another one after that fails as well; neither
writes the file. -/
theorem refused_backup (r : Rotator) (s : MemoryStore) {text : String} (hr : r.Apart)
    (hs : s.Apart) (hfile : s.get? r.path = some text)
    (hdirs : ∀ p ∈ r.slots, s.dirs.any (· == p) = false) :
    ((∃ e t, perform r.backup s = (.error e, t)) ↔
      (∃ k, r.Blocked s k) ∨ s.refuses (r.slot 1) = true) ∧
    (¬((∃ k, r.Blocked s k) ∨ s.refuses (r.slot 1) = true) →
      (perform r.backup s).1 = .ok true) ∧
    ∃ full, perform r.backup s.unrefused = (.ok true, full) ∧
      ∀ e t, perform r.backup s = (.error e, t) →
        (∀ k, IsGreatest {j | r.Blocked s j} k → e = r.refusal k ∧ r.Halted k s full t) ∧
        ((∀ j, ¬r.Blocked s j) → e = r.refusal 1 ∧ r.Halted 1 s full t) ∧
        t.get? r.path = some text ∧
        (∀ q, (∀ p ∈ r.slots, (p == q) = false) → t.get? q = s.get? q ∧ t.has q = s.has q) ∧
        (∀ i, 1 ≤ i → i < r.generations → ∀ old, s.get? (r.slot i) = some old →
          t.get? (r.slot i) = some old ∨ t.get? (r.slot (i + 1)) = some old) ∧
        ∀ l : Library, perform (l.save r.path r.limit) s = (.error e, t) ∧ OnlyMoves s t ∧
          ∃ k u, perform (l.save r.path r.limit) t = (.error (r.refusal k), u) ∧
            u.get? r.path = some text ∧ OnlyMoves t u := by
  obtain ⟨v, full, hfull, hrotated, hcopied, -⟩ :=
    rotated_backup (s := s.unrefused) hr (fun p hp ↦ ⟨rfl, hdirs p hp⟩) hfile
  refine ⟨⟨fun ⟨e, t, ht⟩ ↦ ?_, fun hrefused ↦ ?_⟩, perform_backup_of_not_refused hr hfile hdirs,
    full, hfull, fun e t ht ↦ ?_⟩
  · obtain ⟨k, h, hstop, -⟩ := exists_stopped_of_error hr hfile hdirs ht
    exact h.refused hstop
  · obtain ⟨k, t, -, -, ht⟩ := exists_stopped_of_refused hr hfile hdirs hrefused
    exact ⟨_, t, ht⟩
  · obtain ⟨k, h, hstop, rfl⟩ := exists_stopped_of_error hr hfile hdirs ht
    have hframe := h.frame r.generations_sub_one_lt
    have hhalted := h.halted hs hdirs hrotated hcopied
    have hfile' : t.get? r.path = some text := (hframe.files _ hr).trans hfile
    have hdirs' : ∀ p ∈ r.slots, t.dirs.any (· == p) = false := by
      rw [hframe.dirs]
      exact hdirs
    -- the second save meets what the first one has met, but may halt at an older slot
    obtain ⟨j, u, h', -, hu⟩ :=
      exists_stopped_of_refused hr hfile' hdirs' (h.refused_after hstop)
    have hframe' := h'.frame r.generations_sub_one_lt
    refine ⟨fun i hi ↦ ?_, fun hnone ↦ ?_, hfile',
      fun q hq ↦ ⟨hframe.files q hq, hframe.has_eq hq⟩,
      fun i hi hlast old hold ↦ h.get?_own_or_next hs hdirs hi hlast hold,
      fun l ↦ ⟨perform_save_of_error l ht, h.onlyMoves, j + 1, u, perform_save_of_error l hu,
        (hframe'.files _ hr).trans hfile', h'.onlyMoves⟩⟩
    · rw [h.eq_of_isGreatest hstop hi]
      exact ⟨rfl, hhalted⟩
    · obtain rfl := h.eq_zero hstop hnone
      exact ⟨rfl, hhalted⟩

/-- In a row of four slots with a gap the second slot must not be changed. What was in it has been
moved on into the gap, and the first generation has stayed. -/
theorem refused_backup_second_slot :
    let r : Rotator := ⟨⟨"/data/prompts.json"⟩, 4⟩
    let s : MemoryStore :=
      { files := [(⟨"/data/prompts.json"⟩, "current"), (⟨"/data/prompts.bak4"⟩, "four"),
          (⟨"/data/prompts.bak2"⟩, "two"), (⟨"/data/prompts.bak1"⟩, "one")]
        failing := [⟨"/data/prompts.bak2"⟩] }
    (r.Apart ∧ s.Apart ∧ s.get? r.path = some "current" ∧
      ∀ p ∈ r.slots, s.dirs.any (· == p) = false) ∧
    ∃ t, perform r.backup s = (.error (r.refusal 2), t) ∧ t.get? (r.slot 1) = some "one" ∧
      t.get? (r.slot 2) = none ∧ t.get? (r.slot 3) = some "two" ∧
      t.get? (r.slot 4) = some "four" ∧ t.get? r.path = some "current" ∧
      ∀ l : Library, perform (l.save r.path r.limit) s = (.error (r.refusal 2), t) := by
  intro r s
  have hr : r.Apart := by
    rw [Apart]
    decide +kernel
  have hs : s.Apart := by
    rw [MemoryStore.Apart, Entries.Apart]
    decide +kernel
  have hfile : s.get? r.path = some "current" := by decide +kernel
  have hdirs : ∀ p ∈ r.slots, s.dirs.any (· == p) = false := fun _ _ ↦ rfl
  have hblocked : ∀ k, r.Blocked s k ↔ k = 2 := by
    intro k
    rw [Blocked]
    constructor
    · rintro ⟨h2, hle, -, hrefuses⟩
      have h4 : k ≤ 4 := hle
      obtain rfl | rfl | rfl : k = 2 ∨ k = 3 ∨ k = 4 := by omega
      · rfl
      · exact absurd hrefuses (by decide +kernel)
      · exact absurd hrefuses (by decide +kernel)
    · rintro rfl
      decide +kernel
  have hgreatest : IsGreatest {j | r.Blocked s j} 2 :=
    ⟨(hblocked 2).mpr rfl, fun j hj ↦ Nat.le_of_eq ((hblocked j).mp hj)⟩
  obtain ⟨hiff, -, full, hfull, hhalts⟩ := refused_backup r s hr hs hfile hdirs
  obtain ⟨e, t, ht⟩ := hiff.mpr (.inl ⟨2, hgreatest.1⟩)
  obtain ⟨hhalt, -, hkept, -, -, hsave⟩ := hhalts e t ht
  obtain ⟨rfl, hhalted⟩ := hhalt 2 hgreatest
  have hmoved : full.get? (r.slot 3) = some "two" ∧ full.get? (r.slot 4) = some "four" := by
    rw [show full = (perform r.backup s.unrefused).2 by rw [hfull]]
    decide +kernel
  refine ⟨⟨hr, hs, hfile, hdirs⟩, t, ht, ?_, ?_, ?_, ?_, hkept, fun l ↦ (hsave l).1⟩
  · rw [hhalted.younger 1 (by decide) (by decide)]
    decide +kernel
  · exact hhalted.here
  · rw [hhalted.older 3 (by decide) (by decide), hmoved.1]
  · rw [hhalted.older 4 (by decide) (by decide), hmoved.2]

end Rotator

end PromptLibrary
