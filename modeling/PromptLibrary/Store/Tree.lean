import PromptLibrary.Entries
import PromptLibrary.Store.System

/-!
# A directory tree

A file system as a value: regular files and directories below one root, with a working directory for
relative paths. Paths are followed name by name from their text, not from their components: a
trailing slash demands a directory, and a name after a file is an error even if two dots would undo
it. The order in which the checks of a call are made is the one of a POSIX system, so that of
several faults the same one is reported.
-/

namespace PromptLibrary

/-- A file or a directory of a tree. -/
inductive Node where
  /-- A regular file. -/
  | file (content : ByteArray)
  /-- A directory; what it holds is recorded under the longer names. -/
  | directory

/-- A directory tree. Nodes are recorded under the names that lead to them from the root. -/
structure Tree where
  /-- The nodes below the root. -/
  nodes : Entries (List String) Node
  /-- The working directory. -/
  cwd : List String

namespace Tree

/-! ## Following paths -/

/-- The node at a place. The root and the working directory are always there. -/
def node? (t : Tree) (place : List String) : Option Node :=
  if place = [] || place = t.cwd then some .directory else Entries.get? t.nodes place

/-- The place holds a directory. -/
def isDirectory (t : Tree) (place : List String) : Bool :=
  match t.node? place with
  | some .directory => true
  | _ => false

/-- The longest name of a node, in bytes. -/
def nameLimit : Nat := 255

/-- The length, in bytes, that a path must stay below. -/
def pathLimit : Nat := 4096

/-- Follows the names of a path from a place. -/
def follow (t : Tree) : List String → List String → Except Fault (List String)
  | place, [] => .ok place
  | place, name :: names =>
    if !t.isDirectory place then .error (.system 20)
    else if name = "" || name = "." then follow t place names
    else if name = ".." then follow t place.dropLast names
    else if name.utf8ByteSize > nameLimit then .error (.system 36)
    else if (t.node? (place ++ [name])).isSome then follow t (place ++ [name]) names
    else .error .notFound

/-- Where a path begins and the texts between its slashes. -/
def start (t : Tree) (p : Path) : Except Fault (List String × List String) :=
  let names := (Path.segments p.text.toList).map String.ofList
  if p.text.toList.contains '\x00' then .error .nullInName
  else if p.text = "" then .error .notFound
  else if p.text.utf8ByteSize ≥ pathLimit then .error (.system 36)
  else if p.isAbsolute then .ok ([], names.drop 1)
  else .ok (t.cwd, names)

/-- The place that a path leads to. -/
def locate (t : Tree) (p : Path) : Except Fault (List String) := do
  let (place, names) ← t.start p
  t.follow place names

/-- The last name of a path, for a call that may create it. -/
structure Target where
  /-- The directory that holds the name. -/
  holder : List String
  /-- The name; none if the path ends in dots or is the root. -/
  name : Option String
  /-- The path ends in a slash. -/
  trailing : Bool

/-- The directory and the last name of a path. -/
def target (t : Tree) (p : Path) : Except Fault Target := do
  let (place, names) ← t.start p
  let kept := (names.reverse.dropWhile (· = "")).reverse
  let trailing := kept.length < names.length
  match kept.getLast? with
  | none => return ⟨place, none, trailing⟩
  | some last =>
    let holder ← t.follow place kept.dropLast
    if !t.isDirectory holder then throw (.system 20)
    if last = "." || last = ".." then return ⟨holder, none, trailing⟩
    return ⟨holder, some last, trailing⟩

/-- The place of a target's name. -/
def Target.place? (g : Target) : Option (List String) :=
  g.name.map fun n ↦ g.holder ++ [n]

/-! ## Calls -/

/-- What a path leads to. -/
def kind (t : Tree) (p : Path) : Except Fault FileKind := do
  match t.node? (← t.locate p) with
  | some (.file _) => return .file
  | some .directory => return .directory
  | none => throw .notFound

/-- The content of a file. -/
def readBytes (t : Tree) (p : Path) : Except Fault ByteArray := do
  match t.node? (← t.locate p) with
  | some (.file content) => return content
  | some .directory => throw (.system 21)
  | none => throw .notFound

/-- The place at which a file can be created or truncated. -/
def openForWriting (t : Tree) (p : Path) : Except Fault (List String) := do
  let g ← t.target p
  match g.name with
  | none => throw (.system 21)
  | some name =>
    if g.trailing then throw (.system 21)
    if name.utf8ByteSize > nameLimit then throw (.system 36)
    let place := g.holder ++ [name]
    if t.isDirectory place then throw (.system 21)
    return place

/-- Gives the file at a place its content. -/
def put (t : Tree) (place : List String) (content : ByteArray) : Tree :=
  { t with nodes := Entries.insert place (.file content) t.nodes }

/-- Creates or truncates a file and fills it. -/
def writeBytes (t : Tree) (p : Path) (content : ByteArray) : Except Fault Tree := do
  return t.put (← t.openForWriting p) content

/-- Creates or truncates the second file and fills it from the first one. The target is truncated
before the source is read, so a file that is copied onto itself ends up empty. -/
def copyFile (t : Tree) (p q : Path) : Except Fault Tree := do
  let source ← t.locate p
  if t.isDirectory source then throw .notRegular
  let truncated := t.put (← t.openForWriting q) ByteArray.empty
  let content ← truncated.readBytes p
  truncated.writeBytes q content

/-- Something is recorded below a place. -/
def isOccupied (t : Tree) (place : List String) : Bool :=
  t.nodes.any fun e ↦ place.length < e.1.length && place.isPrefixOf e.1

/-- Records everything at or below one place at or below another one instead. -/
def relocate (t : Tree) (source target : List String) : Tree :=
  let kept := t.nodes.filter fun e ↦ !(target.isPrefixOf e.1)
  { t with nodes := kept.map fun e ↦
      if source.isPrefixOf e.1 then (target ++ e.1.drop source.length, e.2) else e }

/-- Moves a file or a directory. -/
def move (t : Tree) (p q : Path) : Except Fault Tree := do
  if q.text.toList.contains '\x00' then throw .nullInName
  let g ← t.target p
  let h ← t.target q
  let some source := g.place? | throw (.system 16)
  let some target := h.place? | throw (.system 16)
  if (g.name.getD "").utf8ByteSize > nameLimit then throw (.system 36)
  let some node := t.node? source | throw .notFound
  if (h.name.getD "").utf8ByteSize > nameLimit then throw (.system 36)
  let replaced := t.node? target
  match node with
  | .file _ =>
    if g.trailing || h.trailing then throw (.system 20)
    if target.isPrefixOf source && target ≠ source then throw (.system 39)
    if source = target then return t
    if let some .directory := replaced then throw (.system 21)
    return t.relocate source target
  | .directory =>
    if source.isPrefixOf target && source ≠ target then throw (.system 22)
    if target.isPrefixOf source && target ≠ source then throw (.system 39)
    if source = target then return t
    if let some (.file _) := replaced then throw (.system 20)
    if t.isOccupied target then throw (.system 39)
    return t.relocate source target

/-- Creates one directory. -/
def makeDir (t : Tree) (p : Path) : Except Fault Tree := do
  let g ← t.target p
  let some place := g.place? | throw (.system 17)
  if (g.name.getD "").utf8ByteSize > nameLimit then throw (.system 36)
  if (t.node? place).isSome then throw (.system 17)
  return { t with nodes := t.nodes ++ [(place, .directory)] }

/-! ## The tree as a file system -/

/-- A call that changes the tree if it succeeds. -/
def transition (f : Tree → Except Fault Tree) : StateM Tree (Except Fault Unit) := fun t ↦
  match f t with
  | .ok t' => (.ok (), t')
  | .error e => (.error e, t)

instance : FileSystem (StateM Tree) where
  kind p := fun t ↦ pure (t.kind p, t)
  readBytes p := fun t ↦ pure (t.readBytes p, t)
  writeBytes p content := transition (·.writeBytes p content)
  copyFile p q := transition (·.copyFile p q)
  move p q := transition (·.move p q)
  makeDir p := transition (·.makeDir p)

/-! ## Building and listing -/

/-- A tree with nothing but a working directory. -/
def empty : Tree :=
  ⟨[], ["work"]⟩

/-- The regular files below the working directory, by their paths from there. -/
def files (t : Tree) : List (String × ByteArray) :=
  t.nodes.filterMap fun e ↦
    match e.2 with
    | .file content =>
      if t.cwd.isPrefixOf e.1 && t.cwd.length < e.1.length then
        some (String.intercalate "/" (e.1.drop t.cwd.length), content)
      else none
    | .directory => none

end Tree

end PromptLibrary
