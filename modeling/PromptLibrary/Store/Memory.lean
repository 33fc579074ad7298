import PromptLibrary.Entries
import PromptLibrary.Store.Basic

/-!
# Files kept in memory

A store that is a value: files by path, the directories seen so far, and a log of what was changed.
It can be told to refuse changes to certain paths; a refused or failed operation changes nothing.

A file keeps the first spelling of its path. Directories are only recorded, never required: writing
a file records its parent, and creating a directory records it and those above it.
-/

namespace PromptLibrary

/-- A change to a store. -/
inductive Change where
  /-- A file was written. -/
  | write (path : Path)
  /-- A file was copied. -/
  | copy (source target : Path)
  /-- A file was moved. -/
  | rename (source target : Path)
  /-- A directory was created. -/
  | makeDirs (path : Path)

/-- The state of a store in memory. -/
structure MemoryStore where
  /-- The texts of the files. -/
  files : Entries Path String := []
  /-- The directories that were recorded. -/
  dirs : List Path := []
  /-- The paths that must not be changed. -/
  failing : List Path := []
  /-- The changes made so far, the latest one first. -/
  log : List Change := []

namespace MemoryStore

/-! ## Views -/

/-- The text of a file. -/
def get? (s : MemoryStore) (p : Path) : Option String :=
  Entries.get? s.files p

/-- There is a file or a recorded directory. -/
def has (s : MemoryStore) (p : Path) : Bool :=
  Entries.contains s.files p || s.dirs.any (· == p)

/-- The changes in the order in which they were made. -/
def changes (s : MemoryStore) : List Change :=
  s.log.reverse

/-! ## Changes -/

/-- Refuses later changes to a path. -/
def failOn (s : MemoryStore) (p : Path) : MemoryStore :=
  { s with failing := p :: s.failing }

/-- Changes to the path are refused. -/
def refuses (s : MemoryStore) (p : Path) : Bool :=
  s.failing.any (· == p)

/-- Forgets files, directories and the log, but not the paths that must not be changed. -/
def clear (s : MemoryStore) : MemoryStore :=
  { s with files := [], dirs := [], log := [] }

/-- Records a directory. -/
def recordDir (p : Path) (dirs : List Path) : List Path :=
  if dirs.any (· == p) then dirs else dirs ++ [p]

/-- Puts a text under a path. -/
def put (s : MemoryStore) (p : Path) (text : String) : MemoryStore :=
  { s with files := Entries.insert p text s.files }

/-- Adds a change to the log. -/
def logged (s : MemoryStore) (c : Change) : MemoryStore :=
  { s with log := c :: s.log }

/-- Writes a file and records its parent directory. -/
def write (s : MemoryStore) (p : Path) (text : String) : Except FileError Unit × MemoryStore :=
  if s.refuses p then (.error (.write p .injected), s)
  else
    let dirs := match p.parent with
      | some d => recordDir d s.dirs
      | none => s.dirs
    (.ok (), ({ s with dirs := dirs }.put p text).logged (.write p))

/-- Copies a file. -/
def copy (s : MemoryStore) (p q : Path) : Except FileError Unit × MemoryStore :=
  if s.refuses q then (.error (.write q .injected), s)
  else
    match s.get? p with
    | none => (.error (.notFound p), s)
    | some text => (.ok (), (s.put q text).logged (.copy p q))

/-- Moves a file. -/
def rename (s : MemoryStore) (p q : Path) : Except FileError Unit × MemoryStore :=
  if s.refuses q then (.error (.write q .injected), s)
  else
    match s.get? p with
    | none => (.error (.notFound p), s)
    | some text =>
      (.ok (), ({ s with files := Entries.erase p s.files }.put q text).logged (.rename p q))

/-- The path, its parent and so on up to the root or the end of a relative path, given that the path
has at most `fuel` components. -/
def ancestors : Nat → Path → List Path
  | 0, _ => []
  | fuel + 1, p =>
    if p.text == "" || p == ⟨"/"⟩ then []
    else
      match p.parent with
      | some d => p :: ancestors fuel d
      | none => [p]

/-- Records a directory and those above it. -/
def makeDirs (s : MemoryStore) (p : Path) : Except FileError Unit × MemoryStore :=
  let dirs := (ancestors (p.components.length + 1) p).foldl (fun ds d ↦ recordDir d ds) s.dirs
  (.ok (), { s with dirs := dirs }.logged (.makeDirs p))

instance : FileStore (StateM MemoryStore) where
  read p := fun s ↦
    pure (((s.get? p).elim (.error (.notFound p)) .ok : Except FileError String), s)
  write p text := fun s ↦ pure (s.write p text)
  copy p q := fun s ↦ pure (s.copy p q)
  rename p q := fun s ↦ pure (s.rename p q)
  makeDirs p := fun s ↦ pure (s.makeDirs p)
  has p := fun s ↦ pure (s.has p, s)
  isFile p := fun s ↦ pure (Entries.contains s.files p, s)

end MemoryStore

end PromptLibrary
