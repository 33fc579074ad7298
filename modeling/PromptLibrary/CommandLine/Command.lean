import PromptLibrary.CommandLine.Grammar
import PromptLibrary.Run

/-!
# Commands

What can be asked of the program, and how it is spelled on a command line.
-/

namespace PromptLibrary.CommandLine

/-! ## Commands -/

/-- A change to a field that is asked for. -/
inductive EditWord where
  /-- The field becomes required. -/
  | require
  /-- The field becomes optional. -/
  | optional
  /-- The field gets the type that is spelled like this. -/
  | type (spelling : String)
  /-- The field gets a description. -/
  | describe (text : String)
  deriving DecidableEq

/-- A command. -/
inductive Command where
  /-- Creates the files of a workspace. -/
  | init
  /-- Lists the templates. -/
  | list
  /-- Adds a template. -/
  | new (name : String) (role : Role) (subtype : Subtype) (text : String)
  /-- Shows the placeholders of a template. -/
  | scan (name : String)
  /-- Prepares a run with values for text placeholders and paths for file placeholders. -/
  | run (name : String) (mode : ResponseMode) (model : Option String)
    (texts files : List (String × String))
  /-- Stores the output schema of a template after some changes to its fields. -/
  | schema (name : String) (edits : List (String × EditWord)) (title : Option String)
  /-- Stores a response format from a file. -/
  | setFormat (name : String) (file : Path)
  /-- Checks the answer in a file. -/
  | check (name : String) (file : Path) (nulls : Bool)
  /-- Backs up the library file. -/
  | backup

/-- A command with the directory that it works on. -/
structure Invocation where
  /-- The root directory; the working directory if none is given. -/
  root : Option Path
  /-- The command. -/
  command : Command

/-! ## Spelling -/

/-- The name of the program. -/
def programName : String := "pmgr"

/-- The version of the program. -/
def programVersion : String := "0.1.0"

/-- A pair that is spelled with an equals sign. The part before it is trimmed and must not be
empty. -/
def pair? (s : String) : Option (String × String) :=
  match Text.splitFirst '=' s with
  | (_, none) => none
  | (key, some value) =>
    let key := Text.trim key
    if key = "" then none else some (key, value)

/-- The text is not empty, as a path must not be. -/
def isPath (s : String) : Bool :=
  s ≠ ""

/-- The options that are understood before and after the name of a command. There is no log, so that
asking for a detailed one changes nothing. -/
def commonOptions : List OptionSpec :=
  [⟨"root", .single, none, isPath⟩, ⟨"verbose", .flag, some 'v', fun _ ↦ true⟩,
   ⟨"version", .version, some 'V', fun _ ↦ true⟩]

/-- An option whose values are pairs. -/
def pairOption (name : String) : OptionSpec :=
  ⟨name, .repeated, none, fun s ↦ (pair? s).isSome⟩

/-- Any text is accepted. -/
def anyText : String → Bool := fun _ ↦ true

/-- The commands by name, with their own options and their operands. -/
def commandGrammars : List (String × Grammar) :=
  [("init", ⟨[], []⟩),
   ("list", ⟨[], []⟩),
   ("new", ⟨[⟨"system", .flag, none, anyText⟩,
      ⟨"subtype", .single, none, fun s ↦ (Subtype.parse s).toBool⟩,
      ⟨"text", .single, none, anyText⟩], [anyText]⟩),
   ("scan", ⟨[], [anyText]⟩),
   ("run", ⟨[⟨"chat", .flag, none, anyText⟩, ⟨"model", .single, none, anyText⟩,
      pairOption "set", pairOption "file"], [anyText]⟩),
   ("schema", ⟨[⟨"require", .repeated, none, anyText⟩, ⟨"optional", .repeated, none, anyText⟩,
      pairOption "type", pairOption "describe", ⟨"title", .single, none, anyText⟩], [anyText]⟩),
   ("set-format", ⟨[], [anyText, isPath]⟩),
   ("check", ⟨[⟨"all", .flag, none, anyText⟩], [anyText, isPath]⟩),
   ("backup", ⟨[], []⟩)]

/-- The values of an option that are pairs. -/
def Reading.pairs (r : Reading) (name : String) : List (String × String) :=
  (r.values name).filterMap pair?

/-- The changes to fields: first what is required, then what is optional, then types, then
descriptions. -/
def Reading.edits (r : Reading) : List (String × EditWord) :=
  (r.values "require").map (·, .require) ++ (r.values "optional").map (·, .optional) ++
    (r.pairs "type").map (fun p ↦ (p.1, .type p.2)) ++
    (r.pairs "describe").map (fun p ↦ (p.1, .describe p.2))

/-- The command of a name with what was read after it. -/
def commandOf (name : String) (r : Reading) : Option Command :=
  match name, r.operands with
  | "init", [] => some .init
  | "list", [] => some .list
  | "new", [template] =>
    let subtype := (r.value? "subtype").bind fun s ↦ (Subtype.parse s).toOption
    some (.new template (if r.has "system" then .system else .user) (subtype.getD .query)
      ((r.value? "text").getD ""))
  | "scan", [template] => some (.scan template)
  | "run", [template] =>
    some (.run template (if r.has "chat" then .chat else .question) (r.value? "model")
      (r.pairs "set") (r.pairs "file"))
  | "schema", [template] => some (.schema template r.edits (r.value? "title"))
  | "set-format", [template, file] => some (.setFormat template ⟨file⟩)
  | "check", [template, file] => some (.check template ⟨file⟩ (r.has "all"))
  | "backup", [] => some .backup
  | _, _ => none

/-- Reads the words of a command line. A root that is given after the name of the command counts
before one that is given ahead of it. -/
def Invocation.parse (words : List String) : Except Interruption Invocation := do
  let isCommand (word : String) : Bool := (commandGrammars.lookup word).isSome
  let (outer, rest) ← Grammar.readFrom programName ⟨commonOptions, []⟩ isCommand none words {}
  let name :: words := rest | throw .misuse
  let some g := commandGrammars.lookup name | throw .misuse
  let g := { g with options := g.options ++ commonOptions }
  let inner ← Grammar.read (programName ++ "-" ++ name) g words
  let some command := commandOf name inner | throw .misuse
  return ⟨((inner.value? "root").or (outer.value? "root")).map Path.mk, command⟩

end PromptLibrary.CommandLine
