import PromptLibrary.Error

/-!
# Generations of backups

Before a file is overwritten its content is copied into the first of a row of slots, after the older
generations have been moved on by one slot each, the oldest first. What was in the last slot is
lost, but only if a generation is moved into it: an empty slot before it leaves it alone.

The slots lie next to the file. Their names are made from the file's name without its extension, so
two files may share slots, and a file may even be one of its own slots.
-/

namespace PromptLibrary

/-- The backups of one file. -/
structure Rotator where
  /-- The guarded file. -/
  path : Path
  /-- The number of generations that was asked for. -/
  limit : Nat

namespace Rotator

/-! ## Slots -/

/-- The number of generations that are kept; never none. -/
def generations (r : Rotator) : Nat :=
  max r.limit 1

/-- The slot of a generation. The first one is the most recent. -/
def slot (r : Rotator) (i : Nat) : Path :=
  let stem := (r.path.stem.getD "").map fun c ↦ if c = '.' then '_' else c
  (r.path.parent.getD ⟨""⟩).join (stem ++ ".bak" ++ toString i)

/-- All slots, the most recent generation first. -/
def slots (r : Rotator) : List Path :=
  (List.range r.generations).map fun i ↦ r.slot (i + 1)

/-! ## Rotation -/

variable {m : Type → Type} [Monad m] [FileStore m]

/-- A failed step of the backup. -/
def step (r : Rotator) (s : BackupStep) (x : ExceptT FileError m Unit) : ExceptT Error m Unit :=
  ExceptT.adapt (fun e ↦ .backupFailed r.path s e) x

/-- Moves the first `count` generations on by one slot, the oldest of them first. -/
def shift (r : Rotator) : Nat → ExceptT Error m Unit
  | 0 => pure ()
  | count + 1 => do
    let older := r.slot (count + 1)
    if ← (FileStore.has older : m Bool) then
      r.step (.rotate older) (FileStore.rename older (r.slot (count + 2)))
    r.shift count

/-- Backs up the file. Nothing is done, and the answer is no, if there is no such file. -/
def backup (r : Rotator) : ExceptT Error m Bool := do
  if ← (FileStore.has r.path : m Bool) then
    r.shift (r.generations - 1)
    r.step (.copyTo (r.slot 1)) (FileStore.copy r.path (r.slot 1))
    return true
  else
    return false

end Rotator

end PromptLibrary
