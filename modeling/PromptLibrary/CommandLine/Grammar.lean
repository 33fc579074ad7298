import PromptLibrary.Text.Split

/-!
# Options and operands

How the words of a command line are read. An option is spelled `--name`, and perhaps with a letter
as well; one that takes a value is followed by it as the next word or after an equals sign. A word
that looks like an option is never taken for a value or an operand, unless it comes after `--`.

Words are read strictly from left to right, so a demand for the version counts if nothing before it
is wrong.
-/

namespace PromptLibrary.CommandLine

/-! ## Grammars -/

/-- What an option is good for. -/
inductive OptionKind where
  /-- It has no value and may be given once. -/
  | flag
  /-- It has a value and may be given once. -/
  | single
  /-- It has a value and may be repeated. -/
  | repeated
  /-- It asks for the version of the program. -/
  | version
  deriving DecidableEq

/-- An option. -/
structure OptionSpec where
  /-- The name, without dashes. -/
  name : String
  /-- What it is good for. -/
  kind : OptionKind
  /-- The letter that can stand for the name. -/
  letter : Option Char := none
  /-- The values that are accepted. -/
  accepts : String → Bool := fun _ ↦ true

/-- The option takes a value. -/
def OptionSpec.takesValue (o : OptionSpec) : Bool :=
  o.kind = .single || o.kind = .repeated

/-- What a command understands. -/
structure Grammar where
  /-- The options. -/
  options : List OptionSpec
  /-- What is accepted for each operand. All operands must be given. -/
  operands : List (String → Bool)

/-- Why reading stopped before the end. -/
inductive Interruption where
  /-- The words do not make sense. -/
  | misuse
  /-- The version of a program is asked for. -/
  | version (program : String)
  deriving DecidableEq

/-- What has been read. -/
structure Reading where
  /-- The options with their values, in order. A flag has an empty value. -/
  options : List (String × String) := []
  /-- The operands in order. -/
  operands : List String := []

namespace Reading

/-- The option was given. -/
def has (r : Reading) (name : String) : Bool :=
  r.options.any (·.1 = name)

/-- The values of an option, in order. -/
def values (r : Reading) (name : String) : List String :=
  r.options.filterMap fun e ↦ if e.1 = name then some e.2 else none

/-- The value of an option. -/
def value? (r : Reading) (name : String) : Option String :=
  (r.values name).head?

end Reading

/-! ## Reading -/

namespace Grammar

/-- Takes an option with its value. -/
def give (program : String) (o : OptionSpec) (value : String) (r : Reading) :
    Except Interruption Reading :=
  if o.kind = .version then .error (.version program)
  else if o.kind ≠ .repeated && r.has o.name then .error .misuse
  else if !o.accepts value then .error .misuse
  else .ok { r with options := r.options ++ [(o.name, value)] }

/-- Takes an operand. -/
def giveOperand (g : Grammar) (word : String) (r : Reading) : Except Interruption Reading :=
  match g.operands[r.operands.length]? with
  | none => .error .misuse
  | some accepts =>
    if accepts word then .ok { r with operands := r.operands ++ [word] } else .error .misuse

/-- Takes the letters after a single dash. None of them has a value. -/
def giveLetters (program : String) (g : Grammar) (letters : List Char) (r : Reading) :
    Except Interruption Reading :=
  letters.foldlM (fun r c ↦
    match g.options.find? (·.letter = some c) with
    | none => .error .misuse
    | some o => give program o "" r) r

/-- A word that begins with a dash and goes on after it. -/
def isOptionLike (word : List Char) : Bool :=
  word.head? = some '-' && word.length > 1

/-- Reads words up to the end, or up to an operand that `stop` recognizes, which is left in front of
the rest. The option is the one whose value is still missing. -/
def readFrom (program : String) (g : Grammar) (stop : String → Bool) :
    Option OptionSpec → List String → Reading → Except Interruption (Reading × List String)
  | some _, [], _ => .error .misuse
  | none, [], r => .ok (r, [])
  | some o, word :: words, r =>
    if isOptionLike word.toList then .error .misuse
    else do readFrom program g stop none words (← give program o word r)
  | none, word :: words, r =>
    match word.toList with
    | ['-', '-'] => do return (← words.foldlM (fun r w ↦ g.giveOperand w r) r, [])
    | '-' :: '-' :: cs =>
      let (name, value) := Text.splitFirst '=' (String.ofList cs)
      match g.options.find? (·.name = name), value with
      | none, _ => .error .misuse
      | some o, none =>
        if o.takesValue then readFrom program g stop (some o) words r
        else do readFrom program g stop none words (← give program o "" r)
      | some o, some v =>
        if o.takesValue then do readFrom program g stop none words (← give program o v r)
        else .error .misuse
    | '-' :: c :: cs => do readFrom program g stop none words (← giveLetters program g (c :: cs) r)
    | _ =>
      if stop word then .ok (r, word :: words)
      else do readFrom program g stop none words (← g.giveOperand word r)

/-- Reads all words; no operand may be missing. -/
def read (program : String) (g : Grammar) (words : List String) : Except Interruption Reading := do
  let (r, _) ← readFrom program g (fun _ ↦ false) none words {}
  if r.operands.length < g.operands.length then throw .misuse
  return r

end Grammar

end PromptLibrary.CommandLine
