import PromptLibrary.Proofs.Entries
import PromptLibrary.Store.Memory

/-!
# Programs over files in memory

A program over a store in memory is carried out by `perform`, which gives its result and the store
it leaves. The equations of this file say what each operation does to the texts of the files and to
the recorded directories.

## Frames

`MemoryStore.Frame ps s t` says that `t` differs from `s` at most in the files at the paths `ps`:
every other file has the same text, and directories and refusals are the same. Copying and moving
files stay inside the frame of the paths they name, so a whole rotation of backups stays inside the
frame of its slots. Writing a file records its parent directory as well; this is why the law of
`write` speaks of texts only.
-/

namespace PromptLibrary

/-! ## Carrying programs out -/

section Perform

variable {ε ε' σ α β : Type}

/-- The result of a program over a state, and the state that it leaves. -/
def perform (x : ExceptT ε (StateM σ) α) (s : σ) : Except ε α × σ :=
  x.run.run s

@[simp] theorem perform_lift (x : StateM σ α) (s : σ) :
    perform (liftM x : ExceptT ε (StateM σ) α) s = (.ok (x.run s).1, (x.run s).2) := rfl

@[simp] theorem perform_get (s : σ) :
    perform (get : ExceptT ε (StateM σ) σ) s = (.ok s, s) := rfl

theorem perform_bind (x : ExceptT ε (StateM σ) α) (f : α → ExceptT ε (StateM σ) β) (s : σ) :
    perform (x >>= f) s =
      match perform x s with
      | (.ok a, t) => perform (f a) t
      | (.error e, t) => (.error e, t) := by
  rw [perform, perform, ExceptT.run_bind, StateT.run_bind]
  rcases x.run.run s with ⟨_ | _, t⟩ <;> rfl

@[simp] theorem perform_adapt (f : ε → ε') (x : ExceptT ε (StateM σ) α) (s : σ) :
    perform (ExceptT.adapt f x) s = ((perform x s).1.mapError f, (perform x s).2) := rfl

end Perform

namespace MemoryStore

variable {ε : Type}

@[simp] theorem perform_has (p : Path) (s : MemoryStore) :
    perform (liftM (FileStore.has p : StateM MemoryStore Bool) :
      ExceptT ε (StateM MemoryStore) Bool) s = (.ok (s.has p), s) := rfl

@[simp] theorem perform_read (p : Path) (s : MemoryStore) :
    perform (FileStore.read p : ExceptT FileError (StateM MemoryStore) String) s =
      ((s.get? p).elim (.error (.notFound p)) .ok, s) := rfl

@[simp] theorem perform_write (p : Path) (text : String) (s : MemoryStore) :
    perform (FileStore.write p text : ExceptT FileError (StateM MemoryStore) Unit) s =
      s.write p text := rfl

@[simp] theorem perform_copy (p q : Path) (s : MemoryStore) :
    perform (FileStore.copy p q : ExceptT FileError (StateM MemoryStore) Unit) s =
      s.copy p q := rfl

@[simp] theorem perform_rename (p q : Path) (s : MemoryStore) :
    perform (FileStore.rename p q : ExceptT FileError (StateM MemoryStore) Unit) s =
      s.rename p q := rfl

/-! ## Texts of files -/

theorem get?_congr {s : MemoryStore} {p q : Path} (h : (p == q) = true) : s.get? p = s.get? q :=
  Entries.get?_congr h

@[simp] theorem get?_put (s : MemoryStore) (p : Path) (text : String) (q : Path) :
    (s.put p text).get? q = if p == q then some text else s.get? q :=
  Entries.get?_insert p text s.files q

theorem has_eq (s : MemoryStore) (p : Path) :
    s.has p = ((s.get? p).isSome || s.dirs.any (· == p)) := by
  rw [has, Entries.contains_eq_isSome_get?, get?]

theorem has_of_get? {s : MemoryStore} {p : Path} {text : String} (h : s.get? p = some text) :
    s.has p = true := by
  rw [has_eq, h]
  rfl

/-! ## Frames -/

/-- At most the files at some paths differ. -/
structure Frame (ps : List Path) (s t : MemoryStore) : Prop where
  /-- Every other file has the same text. -/
  files : ∀ q, (∀ p ∈ ps, (p == q) = false) → t.get? q = s.get? q
  /-- The recorded directories are the same. -/
  dirs : t.dirs = s.dirs
  /-- The same changes are refused. -/
  failing : t.failing = s.failing

theorem Frame.refl (ps : List Path) (s : MemoryStore) : Frame ps s s :=
  ⟨fun _ _ ↦ rfl, rfl, rfl⟩

theorem Frame.trans {ps : List Path} {s t u : MemoryStore} (h₁ : Frame ps s t)
    (h₂ : Frame ps t u) : Frame ps s u where
  files q hq := (h₂.files q hq).trans (h₁.files q hq)
  dirs := h₂.dirs.trans h₁.dirs
  failing := h₂.failing.trans h₁.failing

theorem Frame.mono {ps qs : List Path} {s t : MemoryStore} (h : Frame ps s t)
    (hsub : ∀ p ∈ ps, p ∈ qs) : Frame qs s t where
  files q hq := h.files q fun p hp ↦ hq p (hsub p hp)
  dirs := h.dirs
  failing := h.failing

theorem Frame.refuses_eq {ps : List Path} {s t : MemoryStore} (h : Frame ps s t) (p : Path) :
    t.refuses p = s.refuses p := by
  rw [refuses, refuses, h.failing]

theorem Frame.has_eq {ps : List Path} {s t : MemoryStore} (h : Frame ps s t) {q : Path}
    (hq : ∀ p ∈ ps, (p == q) = false) : t.has q = s.has q := by
  rw [MemoryStore.has_eq, MemoryStore.has_eq, h.files q hq, h.dirs]

/-! ## What the operations change -/

theorem write_of_refuses {s : MemoryStore} {p : Path} (text : String) (h : s.refuses p = true) :
    s.write p text = (.error (.write p .injected), s) := by
  rw [write, if_pos h]

theorem write_spec {s : MemoryStore} {p : Path} (text : String) (h : s.refuses p = false) :
    ∃ t, s.write p text = (.ok (), t) ∧
      ∀ q, t.get? q = if p == q then some text else s.get? q := by
  rw [write, if_neg (by simp [h])]
  exact ⟨_, rfl, fun q ↦ get?_put _ p text q⟩

/-- A copy either fails and changes nothing, or gives the target the text of the source. -/
theorem copy_cases (s : MemoryStore) (p q : Path) :
    (∃ e, s.copy p q = (.error e, s)) ∨
      ∃ t text, s.copy p q = (.ok (), t) ∧ s.get? p = some text ∧ t.get? q = some text ∧
        Frame [q] s t := by
  rw [copy]
  split
  · exact .inl ⟨_, rfl⟩
  · split
    · exact .inl ⟨_, rfl⟩
    · rename_i text htext
      refine .inr ⟨_, text, rfl, htext, ?_, ?_, rfl, rfl⟩
      · exact (get?_put s q text q).trans (if_pos BEq.rfl)
      · intro r hr
        have hne := hr q (List.mem_singleton.mpr rfl)
        exact (get?_put s q text r).trans (if_neg (by simp [hne]))

/-- A move either fails and changes nothing, or stays inside the frame of its two paths. -/
theorem rename_cases (s : MemoryStore) (p q : Path) :
    (∃ e, s.rename p q = (.error e, s)) ∨
      ∃ t, s.rename p q = (.ok (), t) ∧ Frame [p, q] s t := by
  rw [rename]
  split
  · exact .inl ⟨_, rfl⟩
  · split
    · exact .inl ⟨_, rfl⟩
    · rename_i text htext
      refine .inr ⟨_, rfl, ?_, rfl, rfl⟩
      intro r hr
      have hp := hr p (by simp)
      have hq := hr q (by simp)
      refine (get?_put _ q text r).trans ?_
      rw [if_neg (by simp [hq])]
      exact Entries.get?_erase_of_ne s.files hp

/-- A write records at most the parent of its path. -/
theorem dirs_write {s : MemoryStore} {p q : Path} (text : String)
    (hq : ∀ d, p.parent = some d → (d == q) = false) :
    (s.write p text).2.dirs.any (· == q) = s.dirs.any (· == q) := by
  rw [write]
  split
  · rfl
  · cases hd : p.parent with
    | none => rfl
    | some d =>
      show (recordDir d s.dirs).any (· == q) = _
      rw [recordDir]
      split
      · rfl
      · rw [List.any_append, List.any_cons, List.any_nil, hq d hd, Bool.or_false, Bool.or_false]

@[simp] theorem failing_write (s : MemoryStore) (p : Path) (text : String) :
    (s.write p text).2.failing = s.failing := by
  rw [write]
  split <;> rfl

/-- Every file of the store has one path. -/
def Apart (s : MemoryStore) : Prop :=
  Entries.Apart s.files

/-- A file that can be moved is at its new place with its text, and no longer at the old one. -/
theorem rename_spec {s : MemoryStore} {p q : Path} {text : String} (hq : s.refuses q = false)
    (hp : s.get? p = some text) :
    ∃ t, s.rename p q = (.ok (), t) ∧ Frame [p, q] s t ∧ t.get? q = some text ∧
      (s.Apart → t.Apart ∧ ((q == p) = false → t.get? p = none)) := by
  obtain ⟨e, he⟩ | ⟨t, ht, hf⟩ := rename_cases s p q
  · simp [rename, hq, hp] at he
  · have heq :
        t = ({ s with files := Entries.erase p s.files }.put q text).logged (.rename p q) := by
      have hrename := ht
      rw [rename, if_neg (by simp [hq]), hp] at hrename
      exact (Prod.mk.inj hrename).2.symm
    refine ⟨t, ht, hf, ?_, fun hs ↦ ⟨?_, fun hne ↦ ?_⟩⟩
    · rw [heq]
      exact (get?_put _ q text q).trans (if_pos BEq.rfl)
    · rw [heq]
      exact (Entries.Apart.erase hs p).insert q text
    · rw [heq]
      refine (get?_put _ q text p).trans ?_
      rw [if_neg (by simp [hne])]
      exact Entries.get?_erase_self hs p

theorem copy_ok {s : MemoryStore} {p q : Path} (hq : s.refuses q = false)
    (hp : (s.get? p).isSome = true) : (s.copy p q).1 = .ok () := by
  obtain ⟨text, htext⟩ := Option.isSome_iff_exists.mp hp
  simp [copy, hq, htext]

theorem rename_ok {s : MemoryStore} {p q : Path} (hq : s.refuses q = false)
    (hp : (s.get? p).isSome = true) : (s.rename p q).1 = .ok () := by
  obtain ⟨text, htext⟩ := Option.isSome_iff_exists.mp hp
  simp [rename, hq, htext]

end MemoryStore

end PromptLibrary
