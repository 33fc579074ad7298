import PromptLibrary.Placeholder.Pattern

/-!
# Scanning a prompt

What a prompt asks for: the names of its placeholders of each kind, each once, in the order in which
they first occur. The three kinds are looked for independently of each other.
-/

namespace PromptLibrary

namespace Placeholder

/-- The names in order of their first occurrence, each once. -/
def firstOccurrences (names : List String) : List String :=
  names.foldl (fun seen n ↦ if seen.contains n then seen else seen ++ [n]) []

/-- The names of the placeholders of one kind. -/
def Kind.scan (k : Kind) (text : String) : List String :=
  firstOccurrences (((Pattern.ofKind k).tokens text.toList).map fun t ↦ String.ofList t.name)

/-- The names of the placeholders of a prompt. -/
structure Names where
  /-- The names of the text placeholders. -/
  text : List String
  /-- The names of the file placeholders. -/
  file : List String
  /-- The names of the output placeholders. -/
  output : List String
  deriving DecidableEq

namespace Names

/-- The names of one kind. -/
def ofKind (n : Names) : Kind → List String
  | .text => n.text
  | .file => n.file
  | .output => n.output

/-- There is no placeholder of any kind. -/
def isEmpty (n : Names) : Bool :=
  n.text.isEmpty && n.file.isEmpty && n.output.isEmpty

/-- There is a placeholder that has to be replaced. -/
def needValues (n : Names) : Bool :=
  !n.text.isEmpty || !n.file.isEmpty

/-- All placeholders: text, then file, then output. -/
def placeholders (n : Names) : List Placeholder :=
  Kind.all.flatMap fun k ↦ (n.ofKind k).map fun name ↦ ⟨k, name⟩

end Names

/-- The names of the placeholders of a prompt. -/
def scan (text : String) : Names :=
  ⟨Kind.text.scan text, Kind.file.scan text, Kind.output.scan text⟩

/-- The prompt without its output placeholders, whether or not they have blanks around the name. -/
def stripOutput (text : String) : String :=
  String.ofList (Pattern.looseOutput.remove text.toList)

end Placeholder

end PromptLibrary
