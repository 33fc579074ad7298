/-!
# Placeholders

A placeholder is a name between a pair of delimiters. The delimiters tell its kind: a text
placeholder `<< name >>` is replaced by a value, a file placeholder `%% name %%` by the content of a
file, and an output placeholder `@@ name @@` names a field of the answer that is expected.
-/

namespace PromptLibrary

namespace Placeholder

/-- The kinds of placeholder. -/
inductive Kind where
  /-- Replaced by a value. -/
  | text
  /-- Replaced by the content of a file. -/
  | file
  /-- Names a field of the answer. -/
  | output
  deriving DecidableEq

namespace Kind

/-- The kinds in the order in which they are listed. -/
def all : List Kind := [.text, .file, .output]

/-- What opens a placeholder. -/
def opening : Kind → List Char
  | .text => ['<', '<']
  | .file => ['%', '%']
  | .output => ['@', '@']

/-- What closes a placeholder. -/
def closing : Kind → List Char
  | .text => ['>', '>']
  | .file => ['%', '%']
  | .output => ['@', '@']

/-- The word for a kind. -/
def label : Kind → String
  | .text => "text"
  | .file => "file"
  | .output => "output"

/-- The canonical spelling of a placeholder: one space on either side of the name. -/
def spell (k : Kind) (name : List Char) : List Char :=
  k.opening ++ ' ' :: name ++ ' ' :: k.closing

/-- The canonical spelling, as a text. -/
def token (k : Kind) (name : String) : String :=
  String.ofList (k.spell name.toList)

end Kind

end Placeholder

/-- A placeholder: its name and its kind. -/
structure Placeholder where
  /-- The kind. -/
  kind : Placeholder.Kind
  /-- The name, without delimiters or blanks. -/
  name : String
  deriving DecidableEq

end PromptLibrary
