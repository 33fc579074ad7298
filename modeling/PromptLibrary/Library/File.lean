import PromptLibrary.Backup
import PromptLibrary.Library.Basic

/-!
# Library files

Loading and saving a library. A save backs up the previous file first and writes nothing if that
fails.
-/

namespace PromptLibrary.Library

variable {m : Type → Type} [Monad m] [FileStore m]

/-- Loads a library file. -/
def load (path : Path) : ExceptT Error m Library := do
  let text ← withFileErrors (FileStore.read path)
  ExceptT.mk (pure (ofText text path))

/-- Backs up the previous file and writes the library. -/
def save (l : Library) (path : Path) (maxBackups : Nat) : ExceptT Error m Unit := do
  let _ ← (Rotator.mk path maxBackups).backup
  withFileErrors (FileStore.write path l.toText)

end PromptLibrary.Library
