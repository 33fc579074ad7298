import PromptLibrary.Loader
import PromptLibrary.Placeholder.Scan
import PromptLibrary.Placeholder.Values

/-!
# Filling a prompt

The file placeholders and text placeholders of a prompt are replaced; output placeholders stay.
First the prompt is cut at its file placeholders, of which only the canonical spelling counts, and
then the text placeholders of every segment between two cuts are replaced. What is inserted is never
looked at again: neither a value nor the content of a file can bring a placeholder with it.
-/

namespace PromptLibrary.Placeholder

/-! ## Cutting at file placeholders -/

/-- The content for the canonical token, if any of them begins here. -/
def fileTokenAt? (contents : List (String × String)) (cs : List Char) : Option (Nat × String) :=
  contents.findSome? fun e ↦
    let token := Kind.file.spell e.1.toList
    if token.isPrefixOf cs then some (token.length, e.2) else none

/-- A prompt cut at its file placeholders: the segment before the first cut, and for every cut the
content that is inserted and the segment that follows. -/
structure Cuts where
  /-- The segment before the first cut. -/
  first : List Char
  /-- The contents to insert, each with the segment after it. -/
  later : List (String × List Char)

/-- The cuts of the input after `skip` characters, which belong to a token already cut out. -/
def cutAfter (contents : List (String × String)) : Nat → List Char → Cuts
  | _, [] => ⟨[], []⟩
  | skip + 1, _ :: cs => cutAfter contents skip cs
  | 0, c :: cs =>
    match fileTokenAt? contents (c :: cs) with
    | some (length, content) =>
      let rest := cutAfter contents (length - 1) cs
      ⟨[], (content, rest.first) :: rest.later⟩
    | none =>
      let rest := cutAfter contents 0 cs
      ⟨c :: rest.first, rest.later⟩

/-! ## Replacing text placeholders -/

/-- The token at the beginning of the input, with its value, if its name is one of those
supplied. -/
def suppliedTokenAt? (supplied : Entries String String) (cs : List Char) :
    Option (Token × String) := do
  let t ← (Pattern.ofKind .text).tokenAt? cs
  let value ← Entries.get? supplied (String.ofList t.name)
  return (t, value)

/-- A segment with its text placeholders replaced, after `skip` characters, which belong to a token
already replaced. -/
def fillAfter (supplied : Entries String String) : Nat → List Char → List Char
  | _, [] => []
  | skip + 1, _ :: cs => fillAfter supplied skip cs
  | 0, c :: cs =>
    match suppliedTokenAt? supplied (c :: cs) with
    | some (t, value) => value.toList ++ fillAfter supplied (t.spelling.length - 1) cs
    | none => c :: fillAfter supplied 0 cs

/-- A segment with its text placeholders replaced. -/
def fillTexts (supplied : Entries String String) (segment : List Char) : List Char :=
  fillAfter supplied 0 segment

/-! ## Substitution -/

/-- The names that have a value, with their values. -/
def suppliedTexts (names : List String) (values : Values) : Entries String String :=
  names.filterMap fun n ↦ (values.text? n).map (n, ·)

/-- A prompt with its placeholders replaced, given the content for the name of every file
placeholder and the supplied values of text placeholders. -/
def substitute (contents : List (String × String)) (supplied : Entries String String)
    (text : String) : String :=
  let cuts := cutAfter contents 0 text.toList
  String.ofList (fillTexts supplied cuts.first ++
    cuts.later.flatMap fun e ↦ e.1.toList ++ fillTexts supplied e.2)

/-! ## Resolution -/

/-- The outcome of filling a prompt. -/
inductive Resolution where
  /-- The prompt with its placeholders replaced. -/
  | resolved (text : String)
  /-- The request for values was dismissed; the prompt is as it was. -/
  | cancelled (text : String)
  deriving DecidableEq

/-- The text of an outcome. -/
def Resolution.text : Resolution → String
  | .resolved s => s
  | .cancelled s => s

/-- The request for values was dismissed. -/
def Resolution.isCancelled : Resolution → Bool
  | .resolved _ => false
  | .cancelled _ => true

variable {m : Type → Type} [Monad m] [FileStore m]

/-- What is inserted for a file placeholder: the trimmed text that the loader for the file's
extension makes of it, or a note in brackets that says why there is none. -/
def fileContent (registry : LoaderRegistry) (path : Option Path) : m String := do
  let path := path.getD ⟨""⟩
  let base := path.fileName.getD ""
  if path.text = "" then return "[Missing file: " ++ base ++ "]"
  if !(← FileStore.has path) then return "[Missing file: " ++ base ++ "]"
  match registry.get? path.extensionKey with
  | none => return "[Unsupported file type: " ++ path.extensionKey ++ "]"
  | some loader =>
    match ← loader.loadFile path with
    | some content => return Text.trim content
    | none => return "[Error reading file: " ++ base ++ "]"

/-- The contents for the file placeholders of a prompt. -/
def fileContents (registry : LoaderRegistry) (names : List String) (values : Values) :
    m (List (String × String)) :=
  names.mapM fun n ↦ do return (n, ← fileContent registry (values.file? n))

/-- A prompt with its placeholders replaced. The names are those of the placeholders of the prompt;
every file is loaded once. -/
def fill (registry : LoaderRegistry) (names : Names) (values : Values) (text : String) :
    m String := do
  let contents ← fileContents registry names.file values
  return substitute contents (suppliedTexts names.text values) text

/-- Fills a prompt. The provider is asked once, for all names together, and only if the prompt has a
placeholder to be replaced. A file that cannot be loaded is no failure. -/
def resolve (registry : LoaderRegistry) (provider : Provider m) (text : String) :
    m (Except String Resolution) := do
  let names := scan text
  if !names.needValues then return .ok (.resolved text)
  match ← provider names.text names.file with
  | .error reason => return .error reason
  | .ok .cancelled => return .ok (.cancelled text)
  | .ok (.values values) => return .ok (.resolved (← fill registry names values text))

end PromptLibrary.Placeholder
