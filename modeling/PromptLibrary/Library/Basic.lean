import PromptLibrary.Template
import PromptLibrary.Text.Blank

/-!
# Template libraries

A library is a header and templates under distinct names, in the order of its file. Names are
trimmed when a template is added, but not when one is looked up.

A library is changed in place (`Library.Change`). Whoever works on a copy asks for the library after
the change (`Library.Change.after`), and has none if the change fails.
-/

namespace PromptLibrary

/-- The header of a library file. -/
structure Header where
  /-- The program that the library belongs to. -/
  appName : String := ""
  /-- The version of the data. -/
  dataVersion : String := ""
  /-- The kind of file. -/
  fileType : String := ""
  deriving DecidableEq

/-- A template library. -/
structure Library where
  /-- The header. -/
  header : Header := {}
  /-- The templates by name. -/
  templates : Entries String Template := []

namespace Library

/-! ## Looking up -/

/-- The names in order. -/
def names (l : Library) : List String :=
  Entries.keys l.templates

/-- The template of a name. -/
def get? (l : Library) (name : String) : Option Template :=
  Entries.get? l.templates name

/-- The template of a name, which must be there. -/
def require (l : Library) (name : String) : Except Error Template :=
  match l.get? name with
  | some t => .ok t
  | none => .error (.templateNotFound name)

/-- The names of the system templates in order. -/
def systemNames (l : Library) : List String :=
  Entries.keys (l.templates.filter fun e ↦ e.2.isSystem)

/-! ## Changing in place -/

/-- What is done to a library in place and may fail. What was changed before a failure stays. -/
abbrev Change : Type → Type :=
  ExceptT Error (StateM Library)

namespace Change

/-- The template of a name, which must be there. -/
def require (name : String) : Change Template := do
  let l ← get
  ExceptT.mk (pure (l.require name))

/-- Adds a template at the end under a trimmed name, which must not be empty or taken. -/
def insert (name : String) (t : Template) : Change Unit := do
  let l ← get
  let name := Text.trim name
  if name = "" then throw (.invalidTemplateName name)
  else if Entries.contains l.templates name then throw (.templateExists name)
  else set { l with templates := Entries.insert name t l.templates }

/-- Adds an empty user template. -/
def create (name : String) : Change Unit :=
  insert name {}

/-- Changes a template in place; it must be there. -/
def update (name : String) (f : Template → Template) : Change Unit := do
  let _ ← require name
  modify fun l ↦ { l with templates := Entries.modify name f l.templates }

/-- Removes a template, which must be there, and keeps the order of the rest. -/
def remove (name : String) : Change Template := do
  let t ← require name
  modify fun l ↦ { l with templates := Entries.erase name l.templates }
  return t

/-- Stores the response format that somebody has written. -/
def setResponseFormat (name text : String) : Change Unit := do
  let _ ← require name
  let format ← ExceptT.mk (pure ((Schema.parseFormat text).mapError Error.schemaParse))
  update name (·.setResponseFormat (some format))

/-! ## Changed libraries -/

/-- What a change gives if it succeeds: its result and the changed library. -/
def result {α : Type} (x : Change α) (l : Library) : Except Error (α × Library) :=
  match x.run.run l with
  | (.ok a, l') => .ok (a, l')
  | (.error e, _) => .error e

/-- The library after a change that succeeds. -/
def after {α : Type} (x : Change α) (l : Library) : Except Error Library :=
  (x.result l).map (·.2)

end Change

/-- The library with one more template. -/
def insert (l : Library) (name : String) (t : Template) : Except Error Library :=
  (Change.insert name t).after l

/-- The library with one more template, an empty one. -/
def create (l : Library) (name : String) : Except Error Library :=
  (Change.create name).after l

/-- The library with one template changed. -/
def update (l : Library) (name : String) (f : Template → Template) : Except Error Library :=
  (Change.update name f).after l

/-- A template, and the library without it. -/
def remove (l : Library) (name : String) : Except Error (Template × Library) :=
  (Change.remove name).result l

/-- The library with the response format that somebody has written. -/
def setResponseFormat (l : Library) (name : String) (text : String) : Except Error Library :=
  (Change.setResponseFormat name text).after l

end Library

/-! ## Libraries as JSON -/

namespace Header

/-- The header as a record. -/
def toJson (h : Header) : Json :=
  .object [("app_name", .string h.appName), ("data_version", .string h.dataVersion),
    ("file_type", .string h.fileType)]

/-- Reads a header back. Every field may be missing. -/
def decode (budget : Nat) (d : Json.Document) : Option Header := do
  let r ← d.record? ["app_name", "data_version", "file_type"] budget
  return {
    appName := ← r.optional "app_name" Json.Document.text? ""
    dataVersion := ← r.optional "data_version" Json.Document.text? ""
    fileType := ← r.optional "file_type" Json.Document.text? "" }

end Header

namespace Library

/-- The library as a record. -/
def toJson (l : Library) : Json :=
  .object [("header", l.header.toJson),
    ("data", .object (l.templates.map fun e ↦ (e.1, e.2.toJson)))]

/-- Reads a library back. -/
def decode (budget : Nat) (d : Json.Document) : Option Library := do
  let r ← d.record? ["header", "data"] budget
  return {
    header := ← r.optional "header" (Header.decode r.budget) {}
    templates := ← r.optional "data" (Json.Document.entries? Template.decode r.budget) [] }

/-- The text of a library file. -/
def toText (l : Library) : String :=
  Json.pretty 4 l.toJson

/-- The library of a file's text. The path is for the error only. -/
def ofText (text : String) (path : Path) : Except Error Library :=
  match Json.decodeWith decode text with
  | some l => .ok l
  | none => .error (.libraryParse path)

end Library

end PromptLibrary
