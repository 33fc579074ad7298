import PromptLibrary.Placeholder.Values
import PromptLibrary.Text.Blank

/-!
# The form for values

A form asks for all values at once: a line of text for every text placeholder, then one for every
file. It is edited by key presses until it is submitted or dismissed; what is pressed after that
counts for nothing.
-/

namespace PromptLibrary

/-- A key press. -/
inductive Key where
  /-- Submits the form. -/
  | enter
  /-- Dismisses the form. -/
  | escape
  /-- Goes on to the next field. -/
  | tab
  /-- Goes back to the previous field. -/
  | backTab
  /-- Goes back to the previous field. -/
  | up
  /-- Goes on to the next field. -/
  | down
  /-- Deletes a character. -/
  | backspace
  /-- A character, perhaps with the control key held down. -/
  | char (c : Char) (control : Bool)
  /-- Any other key. -/
  | other
  deriving DecidableEq

namespace Form

/-! ## The state of a form -/

/-- What a field asks for. -/
inductive FieldKind where
  /-- The value of a text placeholder. -/
  | text
  /-- The path for a file placeholder. -/
  | file
  deriving DecidableEq

/-- A field of a form. -/
structure Field where
  /-- What is asked for. -/
  kind : FieldKind
  /-- The name of the placeholder. -/
  name : String
  /-- The characters that have been entered. -/
  input : List Char
  deriving DecidableEq

/-- How far a form has come. -/
inductive Status where
  /-- It is being edited. -/
  | editing
  /-- Its values are to be used. -/
  | submitted
  /-- It was dismissed. -/
  | dismissed
  deriving DecidableEq

end Form

/-- A form. -/
structure Form where
  /-- The fields in order. -/
  fields : List Form.Field
  /-- The position of the field that is edited. -/
  selected : Nat := 0
  /-- How far the form has come. -/
  status : Form.Status := .editing
  deriving DecidableEq

namespace Form

/-- The form for the given names, filled in as far as there are values. -/
def new (textNames fileNames : List String) (prefilled : Placeholder.Values) : Form :=
  let texts := textNames.map fun n ↦ Field.mk .text n ((prefilled.text? n).getD "").toList
  let files := fileNames.map fun n ↦ Field.mk .file n ((prefilled.file? n).elim "" (·.text)).toList
  { fields := texts ++ files }

/-! ## Editing -/

/-- Changes the input of the selected field. -/
def edit (f : Form) (g : List Char → List Char) : Form :=
  { f with fields := f.fields.modify f.selected fun x ↦ { x with input := g x.input } }

/-- Moves the selection by a number of fields, and from the last one on to the first one. Without
fields there is nothing to select. -/
def move (f : Form) (distance : Nat) : Form :=
  if f.fields.length > 0 then { f with selected := (f.selected + distance) % f.fields.length }
  else f

/-- The form after a key press while it is being edited. -/
def edited (f : Form) : Key → Form
  | .enter => { f with status := .submitted }
  | .escape => { f with status := .dismissed }
  | .tab | .down => f.move 1
  | .backTab | .up => f.move (f.fields.length - 1)
  | .backspace => f.edit List.dropLast
  | .char c control =>
    if c = 'c' && control then { f with status := .dismissed } else f.edit (· ++ [c])
  | .other => f

/-- The form after a key press. -/
def press (f : Form) (k : Key) : Form :=
  match f.status with
  | .editing => f.edited k
  | _ => f

/-- The form after some key presses. -/
def pressAll (f : Form) (ks : List Key) : Form :=
  ks.foldl press f

/-! ## Values -/

/-- The path in a file field, if it is not blank. -/
def Field.path? (x : Field) : Option Path :=
  let trimmed := Text.trimChars x.input
  if trimmed.isEmpty then none else some ⟨String.ofList trimmed⟩

/-- The values of a form. A text field has a value even if it is empty, a file field only if it is
not blank. -/
def values (f : Form) : Placeholder.Values :=
  .ofPairs ((f.fields.filter (·.kind = .text)).map fun x ↦ (x.name, String.ofList x.input))
    ((f.fields.filter (·.kind = .file)).filterMap fun x ↦ x.path?.map (x.name, ·))

/-- The answer that a form gives. -/
def answer (f : Form) : Placeholder.Answer :=
  match f.status with
  | .submitted => .values f.values
  | _ => .cancelled

/-! ## Asking -/

/-- The reason why a form cannot be shown. -/
def noTerminal : String := "Failed to enable raw mode: (os error 6)"

/-- A provider that shows a form. The keys are those pressed at the terminal, if there is one. -/
def provider {m : Type → Type} [Monad m] (keys : m (Option (List Key)))
    (prefilled : Placeholder.Values) : Placeholder.Provider m := fun textNames fileNames ↦ do
  match ← keys with
  | none => return .error noTerminal
  | some ks => return .ok ((new textNames fileNames prefilled).pressAll ks).answer

end Form

end PromptLibrary
