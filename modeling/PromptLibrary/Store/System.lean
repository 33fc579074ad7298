import PromptLibrary.Store.Basic

/-!
# Text files over a file system

The operations of a store in terms of the calls that an operating system offers. This is where
content must be UTF-8, where writing creates missing parent directories, and where faults are
attributed to the path that a caller knows.
-/

namespace PromptLibrary

/-- What a path leads to. -/
inductive FileKind where
  /-- A regular file. -/
  | file
  /-- A directory. -/
  | directory
  deriving DecidableEq

/-- A monad with the calls of a file system. -/
class FileSystem (m : Type → Type) where
  /-- What the path leads to. -/
  kind : Path → m (Except Fault FileKind)
  /-- The content of a file. -/
  readBytes : Path → m (Except Fault ByteArray)
  /-- Creates or truncates a file and fills it. -/
  writeBytes : Path → ByteArray → m (Except Fault Unit)
  /-- Creates or truncates the second file and fills it from the first one. -/
  copyFile : Path → Path → m (Except Fault Unit)
  /-- Moves a file or a directory. -/
  move : Path → Path → m (Except Fault Unit)
  /-- Creates one directory. -/
  makeDir : Path → m (Except Fault Unit)

namespace FileSystem

variable {m : Type → Type} [Monad m] [FileSystem m]

/-! ## Questions -/

/-- The path leads somewhere. -/
def has (p : Path) : m Bool := do
  return (← FileSystem.kind p).toBool

/-- The path leads to a regular file. -/
def isFile (p : Path) : m Bool := do
  match ← FileSystem.kind p with
  | .ok .file => return true
  | _ => return false

/-- The path leads to a directory. -/
def isDirectory (p : Path) : m Bool := do
  match ← FileSystem.kind p with
  | .ok .directory => return true
  | _ => return false

/-! ## Attributing faults -/

/-- A fault of a change to a path. -/
def changeError (p : Path) (f : Fault) : FileError :=
  if f = .notFound then .notFound p
  else if f = .system 13 then .denied p
  else .write p f

/-- The outcome of a change to a path. -/
def changed (p : Path) : Except Fault Unit → Except FileError Unit
  | .ok () => .ok ()
  | .error f => .error (changeError p f)

/-- The outcome of a change that has a source: a missing source is blamed on the source. -/
def transferred (source target : Path) : Except Fault Unit → m (Except FileError Unit)
  | .ok () => return .ok ()
  | .error f => do
    if f = .notFound && !(← has source) then return .error (.notFound source)
    else return .error (changeError target f)

/-! ## Operations -/

/-- The text of a file. -/
def readText (p : Path) : m (Except FileError String) := do
  match ← FileSystem.readBytes p with
  | .ok bytes =>
    match String.fromUTF8? bytes with
    | some text => return .ok text
    | none => return .error (.read p .invalidText)
  | .error f => return .error (if f = .notFound then .notFound p else .read p f)

/-- Creates a directory and what is missing above it. A directory that is there is no failure. The
fuel bounds the number of directories above. -/
def makeDirsWithin : Nat → Path → m (Except Fault Unit)
  | 0, _ => return .ok ()
  | fuel + 1, p => do
    if p.text == "" then return .ok ()
    match ← FileSystem.makeDir p with
    | .ok () => return .ok ()
    | .error f =>
      if f = .notFound then
        match p.parent with
        | none => return .error f
        | some d =>
          match ← makeDirsWithin fuel d with
          | .error f => return .error f
          | .ok () =>
            match ← FileSystem.makeDir p with
            | .ok () => return .ok ()
            | .error f => if ← isDirectory p then return .ok () else return .error f
      else if ← isDirectory p then return .ok ()
      else return .error f

/-- Creates a directory and what is missing above it. -/
def makeDirs (p : Path) : m (Except FileError Unit) := do
  return changed p (← makeDirsWithin (p.components.length + 2) p)

/-- Writes a file, after creating a parent directory that is missing. -/
def writeText (p : Path) (text : String) : m (Except FileError Unit) := do
  let ready ← match p.parent with
    | some d =>
      if d.text == "" then pure (.ok ())
      else if ← has d then pure (.ok ())
      else makeDirs d
    | none => pure (.ok ())
  match ready with
  | .error e => return .error e
  | .ok () => return changed p (← FileSystem.writeBytes p text.toUTF8)

instance : FileStore m where
  read p := ExceptT.mk (readText p)
  write p text := ExceptT.mk (writeText p text)
  copy p q := ExceptT.mk do transferred p q (← FileSystem.copyFile p q)
  rename p q := ExceptT.mk do transferred p q (← FileSystem.move p q)
  makeDirs p := ExceptT.mk (makeDirs p)
  has p := has p
  isFile p := isFile p

end FileSystem

end PromptLibrary
