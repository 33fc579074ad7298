import PromptLibrary.Proofs.Backup
import PromptLibrary.Workspace

/-!
# Sessions over files in memory

A session keeps two things: the workspace that is loaded and the files. This module carries sessions
out on both, and proves that a commit changes them together or not at all.

A save inside a session runs the program of `PromptLibrary.Library.File` below the layer of the
workspace. `Session.Lifts` says that a session does what a program on the files does and leaves the
workspace alone; it is closed under sequencing, so a save is lifted operation by operation.
-/

namespace PromptLibrary

open MemoryStore

namespace Session

variable {ω α β : Type}

/-! ## Carrying sessions out -/

/-- The result of a session, and the workspace and the files that it leaves. While a catalog is
filled, the catalog stands in for the workspace. -/
def perform (x : ExceptT Error (StateT ω (StateM MemoryStore)) α) (w : ω) (s : MemoryStore) :
    Except Error α × ω × MemoryStore :=
  let ((result, w'), t) := (x.run.run w).run s
  (result, w', t)

theorem perform_bind (x : ExceptT Error (StateT ω (StateM MemoryStore)) α)
    (f : α → ExceptT Error (StateT ω (StateM MemoryStore)) β) (w : ω) (s : MemoryStore) :
    perform (x >>= f) w s =
      match perform x w s with
      | (.ok a, w', t) => perform (f a) w' t
      | (.error e, w', t) => (.error e, w', t) := by
  rw [perform, perform, ExceptT.run_bind, StateT.run_bind, StateT.run_bind]
  rcases (x.run.run w).run s with ⟨⟨_ | _, w'⟩, t⟩ <;> rfl

/-! ## Programs below a session -/

/-- The session does to the files what the program does, and leaves the workspace alone. -/
def Lifts (x : Session (StateM MemoryStore) α) (y : ExceptT Error (StateM MemoryStore) α) : Prop :=
  ∀ w s, perform x w s = ((PromptLibrary.perform y s).1, w, (PromptLibrary.perform y s).2)

theorem Lifts.bind {x : Session (StateM MemoryStore) α} {y : ExceptT Error (StateM MemoryStore) α}
    {f : α → Session (StateM MemoryStore) β} {g : α → ExceptT Error (StateM MemoryStore) β}
    (hx : Lifts x y) (hf : ∀ a, Lifts (f a) (g a)) : Lifts (x >>= f) (y >>= g) := by
  intro w s
  rw [perform_bind, PromptLibrary.perform_bind, hx w s]
  rcases PromptLibrary.perform y s with ⟨_ | a, t⟩
  · rfl
  · exact hf a w t

theorem lifts_pure (a : α) : Lifts (pure a) (pure a) := fun _ _ ↦ rfl

theorem lifts_has (p : Path) :
    Lifts (liftM (FileStore.has p : StateT Workspace (StateM MemoryStore) Bool))
      (liftM (FileStore.has p : StateM MemoryStore Bool)) := fun _ _ ↦ rfl

theorem lifts_rename (f : FileError → Error) (p q : Path) :
    Lifts (ExceptT.adapt f (FileStore.rename p q)) (ExceptT.adapt f (FileStore.rename p q)) :=
  fun _ _ ↦ rfl

theorem lifts_copy (f : FileError → Error) (p q : Path) :
    Lifts (ExceptT.adapt f (FileStore.copy p q)) (ExceptT.adapt f (FileStore.copy p q)) :=
  fun _ _ ↦ rfl

theorem lifts_write (f : FileError → Error) (p : Path) (text : String) :
    Lifts (ExceptT.adapt f (FileStore.write p text)) (ExceptT.adapt f (FileStore.write p text)) :=
  fun _ _ ↦ rfl

theorem lifts_shift (r : Rotator) (n : Nat) : Lifts (r.shift n) (r.shift n) := by
  induction n with
  | zero => exact lifts_pure ()
  | succ n ih =>
    rw [Rotator.shift, Rotator.shift]
    refine (lifts_has _).bind fun b ↦ ?_
    cases b with
    | true => exact (lifts_rename _ _ _).bind fun _ ↦ ih
    | false => exact (lifts_pure ()).bind fun _ ↦ ih

theorem lifts_backup (r : Rotator) : Lifts r.backup r.backup := by
  rw [Rotator.backup, Rotator.backup]
  refine (lifts_has _).bind fun b ↦ ?_
  cases b with
  | true => exact (lifts_shift r _).bind fun _ ↦ (lifts_copy _ _ _).bind fun _ ↦ lifts_pure true
  | false => exact lifts_pure false

theorem lifts_save (l : Library) (path : Path) (limit : Nat) :
    Lifts (l.save path limit) (l.save path limit) := by
  rw [Library.save, Library.save]
  exact (lifts_backup _).bind fun _ ↦ lifts_write _ _ _

/-! ## Commits -/

/-- The edit is made on a copy, which takes the place of the library once it is saved. -/
theorem perform_commit (edit : Library.Change Unit) (w : Workspace) (s : MemoryStore) :
    perform (commit edit) w s =
      match edit.after w.library with
      | .error e => (.error e, w, s)
      | .ok l =>
        match PromptLibrary.perform (l.save w.config.libraryFile w.config.maxBackups) s with
        | (.ok (), t) => (.ok (), { w with library := l }, t)
        | (.error e, t) => (.error e, w, t) := by
  rw [commit, perform_bind]
  change perform (ExceptT.mk (pure (edit.after w.library)) >>= _) w s = _
  rw [perform_bind]
  cases edit.after w.library with
  | error e => rfl
  | ok l =>
    change perform (l.save w.config.libraryFile w.config.maxBackups >>= _) w s = _
    rw [perform_bind, lifts_save l w.config.libraryFile w.config.maxBackups w s]
    dsimp only
    rcases PromptLibrary.perform (l.save w.config.libraryFile w.config.maxBackups) s with ⟨_ | _, t⟩
    · rfl
    · rfl

end Session

end PromptLibrary
