import PromptLibrary.Json.Decode
import PromptLibrary.Json.Printer
import PromptLibrary.Store.Basic
import PromptLibrary.Text.Quoted

/-!
# Loaders of file content

How a file becomes text for a prompt depends on its extension. A registry maps extensions to
loaders; extensions are compared in lower case and with their dot.
-/

namespace PromptLibrary

/-- A loader makes text of a file. It is told which file it is, and what the file contains or that
it cannot be read as text, and may fail. -/
structure Loader where
  /-- The text, given the path and the content. -/
  load : Path → Option String → Option String

namespace Loader

/-- Takes the content as it is. -/
def plain : Loader := ⟨fun _ content ↦ content⟩

/-- Takes the content as a JSON document and lays it out anew. -/
def json : Loader :=
  ⟨fun _ content ↦ content.bind fun s ↦ (Json.parse? s).map (Json.pretty 2)⟩

/-- Applies a function to the content. -/
def mapping (f : String → String) : Loader := ⟨fun _ content ↦ content.map f⟩

/-- Takes the content in upper case, like a loader that is added to a registry by its user. -/
def upper : Loader := mapping Text.upper

/-- Always the same text, or always a failure. -/
def constant (result : Option String) : Loader := ⟨fun _ _ ↦ result⟩

variable {m : Type → Type} [Monad m] [FileStore m]

/-- Loads a file. -/
def loadFile (l : Loader) (p : Path) : m (Option String) := do
  return l.load p (← (FileStore.read p : ExceptT FileError m String).run).toOption

end Loader

/-! ## Extensions -/

/-- The form in which extensions are compared: lower case, with a dot unless there is nothing. -/
def normalizeExtension (extension : String) : String :=
  let s := Text.lower extension
  if s = "" || s.startsWith "." then s else "." ++ s

/-- The extension of a path as a key of a registry, or nothing if the path has none. -/
def Path.extensionKey (p : Path) : String :=
  match p.extension with
  | some e => "." ++ Text.lower e
  | none => ""

/-! ## Registries -/

/-- Loaders by extension. -/
structure LoaderRegistry where
  /-- The loaders under normalized extensions. -/
  loaders : Entries String Loader := []

namespace LoaderRegistry

/-- Registers a loader, replacing the one that the extension had. -/
def register (r : LoaderRegistry) (extension : String) (l : Loader) : LoaderRegistry :=
  ⟨Entries.insert (normalizeExtension extension) l r.loaders⟩

/-- The registry in which later pairs win. -/
def ofPairs (ps : List (String × Loader)) : LoaderRegistry :=
  ps.foldl (fun r p ↦ r.register p.1 p.2) {}

/-- The loader for an extension. -/
def get? (r : LoaderRegistry) (extension : String) : Option Loader :=
  Entries.get? r.loaders (normalizeExtension extension)

/-- The registered extensions in ascending order. -/
def extensions (r : LoaderRegistry) : List String :=
  (Entries.keys r.loaders).mergeSort fun a b ↦ decide (a ≤ b)

/-- The extensions of files that are text as they are. -/
def textExtensions : List String :=
  [".txt", ".md", ".markdown", ".csv", ".tsv", ".log", ".yaml", ".yml", ".toml", ".xml", ".html",
   ".htm", ".ini", ".py", ".rs", ".js", ".ts", ".sh", ".sql"]

/-- The loaders for text files and JSON documents. -/
def standard : LoaderRegistry :=
  ofPairs (textExtensions.map (·, Loader.plain) ++ [(".json", Loader.json)])

/-- The registry on one line, for a diagnostic. -/
def describe (r : LoaderRegistry) : String :=
  let extensions := String.intercalate ", " (r.extensions.map Text.quoted)
  "LoaderRegistry \x7b extensions: [" ++ extensions ++ "] \x7d"

end LoaderRegistry

end PromptLibrary
