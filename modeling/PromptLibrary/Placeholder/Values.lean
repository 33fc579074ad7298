import PromptLibrary.Entries
import PromptLibrary.Path

/-!
# Values for placeholders

The values for one run. Text values and file paths are kept apart, so a text placeholder and a file
placeholder may share a name.
-/

namespace PromptLibrary.Placeholder

/-- What is filled in for placeholders. -/
structure Values where
  /-- The values of text placeholders. -/
  texts : Entries String String := []
  /-- The files of file placeholders. -/
  files : Entries String Path := []

namespace Values

/-- The values in which later pairs win. -/
def ofPairs (texts : List (String × String)) (files : List (String × Path)) : Values :=
  ⟨Entries.ofPairs texts, Entries.ofPairs files⟩

/-- The value of a text placeholder. -/
def text? (v : Values) (name : String) : Option String :=
  Entries.get? v.texts name

/-- The file of a file placeholder. -/
def file? (v : Values) (name : String) : Option Path :=
  Entries.get? v.files name

/-- Every one of the names has its value. -/
def covers (v : Values) (textNames fileNames : List String) : Bool :=
  textNames.all (fun n ↦ (v.text? n).isSome) && fileNames.all (fun n ↦ (v.file? n).isSome)

end Values

/-! ## Asking for values -/

/-- The answer to a request for values. -/
inductive Answer where
  /-- Values, perhaps only for some of the names. -/
  | values (v : Values)
  /-- The request was dismissed. -/
  | cancelled

/-- Somebody who can be asked for the values of text placeholders and the files of file
placeholders. A failure is a reason in words. -/
def Provider (m : Type → Type) : Type :=
  List String → List String → m (Except String Answer)

/-- A provider that gives the same answer whatever it is asked. -/
def Provider.always {m : Type → Type} [Monad m] (answer : Answer) : Provider m :=
  fun _ _ ↦ pure (.ok answer)

end PromptLibrary.Placeholder
