import PromptLibrary.Proofs.Backup.Rotation

/-!
# Files that are their own slots

A backup should leave the file that it guards alone. It does so for a file that is none of its own
slots, and it does so if there is one slot only, since the rotation is empty then and a file that is
copied onto itself keeps its text. In every other case there are files that a backup destroys
(`Rotator.forall_keepsFile_iff`), and nothing prevents a file from being named like that.

How the file is lost depends on the slot. The first slot is moved on before it is copied, and then
there is nothing to copy. Any later slot takes the generation before it, and the backup succeeds
with the older text in place of the current one.
-/

namespace PromptLibrary.Rotator

open MemoryStore

/-- A backup of these files, whether it succeeds or not, leaves the guarded file as it was. -/
def KeepsFile (r : Rotator) (s : MemoryStore) : Prop :=
  (perform r.backup s).2.get? r.path = s.get? r.path ∧
    (perform r.backup s).2.has r.path = s.has r.path

theorem snd_perform_backup {r : Rotator} {s t : MemoryStore} (hhas : s.has r.path = true)
    (hshift : perform (r.shift (r.generations - 1)) s = (.ok (), t)) :
    (perform r.backup s).2 = (t.copy r.path (r.slot 1)).2 := by
  rw [perform_backup_of_shift hhas hshift]
  rcases t.copy r.path (r.slot 1) with ⟨_ | _, u⟩ <;> rfl

/-! ## Files that are kept -/

theorem keepsFile_of_apart {r : Rotator} (hr : r.Apart) (s : MemoryStore) : r.KeepsFile s := by
  have hframe := (backed_backup hr s).frame
  exact ⟨hframe.files _ hr, hframe.has_eq hr⟩

/-- With one slot nothing is moved, and the copy gives a file that is this slot the text that it
has. -/
theorem keepsFile_of_single {r : Rotator} (hr : r.limit ≤ 1) (s : MemoryStore) :
    r.KeepsFile s := by
  have hgenerations : r.generations - 1 = 0 := by rw [generations]; omega
  cases hhas : s.has r.path with
  | false =>
    rw [KeepsFile, perform_backup, if_neg (by simp [hhas])]
    exact ⟨rfl, rfl⟩
  | true =>
    have hshift : perform (r.shift (r.generations - 1)) s = (.ok (), s) := by
      rw [hgenerations]
      rfl
    rw [KeepsFile, snd_perform_backup hhas hshift]
    obtain ⟨e, he⟩ | ⟨u, text, hu, htext, hslot, hf⟩ := copy_cases s r.path (r.slot 1)
    · rw [he]
      exact ⟨rfl, rfl⟩
    · have hfile : u.get? r.path = s.get? r.path := by
        cases hown : r.slot 1 == r.path with
        | true => rw [← get?_congr hown, hslot, htext]
        | false => exact hf.files _ (by simpa using hown)
      rw [hu, has_eq, has_eq, hfile, hf.dirs]
      exact ⟨rfl, rfl⟩

/-! ## Files that are lost -/

/-- A file that is the first of several slots is moved away, and nothing comes in its place. -/
theorem not_keepsFile_of_first {r : Rotator} (hr : 1 < r.limit)
    (hown : (r.slot 1 == r.path) = true) (text : String) :
    ¬r.KeepsFile { files := [(r.path, text)] } := by
  have hgenerations : 1 < r.generations := by rw [generations]; omega
  let s : MemoryStore := { files := [(r.path, text)] }
  have hs : s.Unobstructed r.slots := fun _ _ ↦ ⟨rfl, rfl⟩
  have hapart : s.Apart := List.pairwise_singleton _ _
  have htext : s.get? r.path = some text := by
    show Entries.get? [(r.path, text)] r.path = _
    rw [Entries.get?_cons, if_pos BEq.rfl]
  obtain ⟨t, ht, hrotated⟩ := rotated_shift (n := r.generations - 1) (by omega) hs
  have hgone : t.get? r.path = none := by
    rw [← get?_congr hown]
    exact hrotated.emptied hapart 0 (by omega) (.inl rfl)
  intro hkeeps
  have hkept := hkeeps.1
  rw [snd_perform_backup (has_of_get? htext) ht] at hkept
  obtain ⟨e, he⟩ | ⟨u, text', -, htext', -⟩ := copy_cases t r.path (r.slot 1)
  · rw [he] at hkept
    rw [hkept.trans htext] at hgone
    cases hgone
  · rw [htext'] at hgone
    cases hgone

/-- A file that is a later slot is overwritten by the generation before it. -/
theorem not_keepsFile_of_later {r : Rotator} {i : Nat} (hi : i + 1 < r.generations)
    (hown : (r.slot (i + 2) == r.path) = true) {text older : String} (hne : older ≠ text) :
    ¬r.KeepsFile { files := [(r.path, text), (r.slot (i + 1), older)] } := by
  let s : MemoryStore := { files := [(r.path, text), (r.slot (i + 1), older)] }
  have hs : s.Unobstructed r.slots := fun _ _ ↦ ⟨rfl, rfl⟩
  have hother : ∀ j, j ≠ i + 2 → (r.path == r.slot j) = false := by
    intro j hj
    rw [← BEq.congr_left hown]
    exact r.slot_ne (Ne.symm hj)
  have htext : s.get? r.path = some text := by
    show Entries.get? [(r.path, text), (r.slot (i + 1), older)] r.path = _
    rw [Entries.get?_cons, if_pos BEq.rfl]
  have holder : s.get? (r.slot (i + 1)) = some older := by
    show Entries.get? [(r.path, text), (r.slot (i + 1), older)] (r.slot (i + 1)) = _
    rw [Entries.get?_cons, if_neg (by simp [hother (i + 1) (by omega)]), Entries.get?_cons,
      if_pos BEq.rfl]
  obtain ⟨t, ht, hrotated⟩ := rotated_shift (n := r.generations - 1) (by omega) hs
  have hlost : t.get? r.path = some older := by
    rw [← get?_congr hown]
    exact hrotated.moved i (by omega) older holder
  -- the first slot is another one, so the copy cannot bring the text back
  have hcopied : (t.copy r.path (r.slot 1)).2.get? r.path = t.get? r.path := by
    obtain ⟨e, he⟩ | ⟨u, text', hu, -, -, hf⟩ := copy_cases t r.path (r.slot 1)
    · rw [he]
    · rw [hu]
      refine hf.files _ ?_
      rintro p (_ | ⟨_, ⟨⟩⟩)
      rw [BEq.comm]
      exact hother 1 (by omega)
  intro hkeeps
  have hkept := hkeeps.1
  rw [snd_perform_backup (has_of_get? htext) ht, hcopied, hlost, htext] at hkept
  exact hne (Option.some.inj hkept)

/-- **When a backup keeps its file.** Whatever files there are and whichever changes are refused, a
backup leaves the guarded file as it was: this is so exactly for a file that is none of its own
slots, or with no more than one slot. -/
theorem forall_keepsFile_iff (r : Rotator) :
    (∀ s, r.KeepsFile s) ↔ r.Apart ∨ r.limit ≤ 1 := by
  constructor
  · intro hkeeps
    by_contra hcontra
    obtain ⟨hapart, hlimit⟩ := not_or.mp hcontra
    have hown : ∃ i < r.generations, (r.slot (i + 1) == r.path) = true := by
      by_contra hnone
      refine hapart fun p hp ↦ ?_
      obtain ⟨i, hi, rfl⟩ := List.mem_map.mp hp
      exact Bool.eq_false_iff.mpr fun heq ↦ hnone ⟨i, List.mem_range.mp hi, heq⟩
    obtain ⟨i, hi, hown⟩ := hown
    cases i with
    | zero => exact not_keepsFile_of_first (by omega) hown "" (hkeeps _)
    | succ i =>
      have hne : "older" ≠ "current" := by decide
      exact not_keepsFile_of_later hi hown hne (hkeeps _)
  · rintro (hapart | hlimit) s
    · exact keepsFile_of_apart hapart s
    · exact keepsFile_of_single hlimit s

/-- A library that is named like its second slot: the backup reports success, and the older
generation has taken the place of the current text. -/
theorem not_keepsFile_second_slot :
    let r : Rotator := ⟨⟨"/lib/prompts.bak2"⟩, 2⟩
    let s : MemoryStore :=
      { files := [(⟨"/lib/prompts.bak2"⟩, "current"), (⟨"/lib/prompts.bak1"⟩, "older")] }
    (perform r.backup s).1.toOption = some true ∧ s.get? r.path = some "current" ∧
      (perform r.backup s).2.get? r.path = some "older" ∧ ¬r.KeepsFile s := by
  intro r s
  have hfile : s.get? r.path = some "current" := by decide +kernel
  have hlost : (perform r.backup s).2.get? r.path = some "older" := by decide +kernel
  refine ⟨by decide +kernel, hfile, hlost, fun hkeeps ↦ ?_⟩
  have heq : some "older" = some "current" := hlost.symm.trans (hkeeps.1.trans hfile)
  exact absurd heq (by decide)

end PromptLibrary.Rotator
