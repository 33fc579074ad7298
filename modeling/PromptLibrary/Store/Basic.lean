import PromptLibrary.Path

/-!
# Stores of text files

What the library needs from a file system, as a class over the monad that the operations run in. The
same programs run on files kept in memory (`PromptLibrary.Store.Memory`), on a modelled directory
tree (`PromptLibrary.Store.Tree`) and on the machine's own files.

An operation that fails reports a `FileError`; whatever it did to the store before stays.
-/

namespace PromptLibrary

/-! ## Failures -/

/-- Why an operation on a file failed. -/
inductive Fault where
  /-- The operating system refused with this error number. -/
  | system (code : Nat)
  /-- The source of a copy is not a regular file. -/
  | notRegular
  /-- The path contains a null character. -/
  | nullInName
  /-- The content is not UTF-8. -/
  | invalidText
  /-- The store was told to refuse. -/
  | injected
  deriving DecidableEq

namespace Fault

/-- The path does not lead anywhere. -/
def notFound : Fault := .system 2

/-- The wording of a failure. Of an operating system's error only the number is told. -/
def message : Fault → String
  | .system code => "(os error " ++ toString code ++ ")"
  | .notRegular => "the source path is neither a regular file nor a symlink to a regular file"
  | .nullInName => "file name contained an unexpected NUL byte"
  | .invalidText => "invalid UTF-8"
  | .injected => "injected failure"

end Fault

/-- A failed operation on a file. -/
inductive FileError where
  /-- The file, or a directory on the way to it, does not exist. -/
  | notFound (path : Path)
  /-- The operation is not permitted. -/
  | denied (path : Path)
  /-- Reading failed. -/
  | read (path : Path) (fault : Fault)
  /-- Writing, copying, renaming or creating failed. -/
  | write (path : Path) (fault : Fault)

namespace FileError

/-- The wording of a failed operation. -/
def message : FileError → String
  | .notFound p => "path not found: " ++ p.text
  | .denied p => "permission denied: " ++ p.text
  | .read p f => "file read error: " ++ p.text ++ ": " ++ f.message
  | .write p f => "file write error: " ++ p.text ++ ": " ++ f.message

/-- The fault behind a failed operation. -/
def fault : FileError → Fault
  | .notFound _ => .notFound
  | .denied _ => .system 13
  | .read _ f => f
  | .write _ f => f

end FileError

/-! ## Operations -/

/-- A monad in which text files can be read and changed. -/
class FileStore (m : Type → Type) where
  /-- The text of a file. -/
  read : Path → ExceptT FileError m String
  /-- Gives a file its text, creating it if needed. -/
  write : Path → String → ExceptT FileError m Unit
  /-- Copies the first file over the second one. -/
  copy : Path → Path → ExceptT FileError m Unit
  /-- Moves the first file to the second place, replacing what is there. -/
  rename : Path → Path → ExceptT FileError m Unit
  /-- Creates a directory and those above it. -/
  makeDirs : Path → ExceptT FileError m Unit
  /-- There is a file or a directory. -/
  has : Path → m Bool
  /-- There is a file. -/
  isFile : Path → m Bool

/-- A store below another layer of state. -/
instance {m : Type → Type} {σ : Type} [Monad m] [FileStore m] : FileStore (StateT σ m) where
  read p := ExceptT.mk (liftM (FileStore.read p : ExceptT FileError m String).run)
  write p s := ExceptT.mk (liftM (FileStore.write p s : ExceptT FileError m Unit).run)
  copy p q := ExceptT.mk (liftM (FileStore.copy p q : ExceptT FileError m Unit).run)
  rename p q := ExceptT.mk (liftM (FileStore.rename p q : ExceptT FileError m Unit).run)
  makeDirs p := ExceptT.mk (liftM (FileStore.makeDirs p : ExceptT FileError m Unit).run)
  has p := liftM (FileStore.has p : m Bool)
  isFile p := liftM (FileStore.isFile p : m Bool)

end PromptLibrary
