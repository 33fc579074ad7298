import PromptLibrary.Json.Basic

/-!
# Writing JSON values

A value is written either on one line without any space, or with every item of a container on a line
of its own. Strings are written as they are, apart from quotes, backslashes and control characters.
-/

namespace PromptLibrary.Json

/-! ## Strings -/

/-- One character between the quotes of a string. -/
def escapeChar (c : Char) : List Char :=
  if c = '"' then ['\\', '"']
  else if c = '\\' then ['\\', '\\']
  else if c = '\x08' then ['\\', 'b']
  else if c = '\t' then ['\\', 't']
  else if c = '\n' then ['\\', 'n']
  else if c = '\x0c' then ['\\', 'f']
  else if c = '\r' then ['\\', 'r']
  else if c.toNat < 0x20 then
    ['\\', 'u', '0', '0', Nat.digitChar (c.toNat / 16), Nat.digitChar (c.toNat % 16)]
  else [c]

/-- A string in quotes. -/
def renderString (s : String) : List Char :=
  '"' :: s.toList.flatMap escapeChar ++ ['"']

/-! ## Values -/

/-- How the parts of a container are set apart. -/
inductive Layout where
  /-- Everything on one line. -/
  | compact
  /-- A line for every part, indented by this many spaces for each level. -/
  | indented (width : Nat)
  deriving DecidableEq

/-- What is written before a part at some depth, and before the closing bracket. -/
def Layout.lineBreak : Layout → Nat → List Char
  | .compact, _ => []
  | .indented width, depth => '\n' :: List.replicate (width * depth) ' '

/-- What is written between a key and its value. -/
def Layout.colon : Layout → List Char
  | .compact => [':']
  | .indented _ => [':', ' ']

mutual

/-- A value at some depth. -/
def render (layout : Layout) (depth : Nat) : Json → List Char
  | .null => ['n', 'u', 'l', 'l']
  | .bool true => ['t', 'r', 'u', 'e']
  | .bool false => ['f', 'a', 'l', 's', 'e']
  | .number n => n.text
  | .string s => renderString s
  | .array [] => ['[', ']']
  | .array (v :: vs) =>
    '[' :: layout.lineBreak (depth + 1) ++ render layout (depth + 1) v ++
      renderItems layout (depth + 1) vs ++ layout.lineBreak depth ++ [']']
  | .object [] => ['\x7b', '\x7d']
  | .object (e :: es) =>
    '\x7b' :: layout.lineBreak (depth + 1) ++ renderString e.1 ++ layout.colon ++
      render layout (depth + 1) e.2 ++ renderEntries layout (depth + 1) es ++
      layout.lineBreak depth ++ ['\x7d']

/-- The items after the first one. -/
def renderItems (layout : Layout) (depth : Nat) : List Json → List Char
  | [] => []
  | v :: vs => ',' :: layout.lineBreak depth ++ render layout depth v ++ renderItems layout depth vs

/-- The entries after the first one. -/
def renderEntries (layout : Layout) (depth : Nat) : List (String × Json) → List Char
  | [] => []
  | e :: es =>
    ',' :: layout.lineBreak depth ++ renderString e.1 ++ layout.colon ++ render layout depth e.2 ++
      renderEntries layout depth es

end

/-- The value on one line. -/
def compact (v : Json) : String :=
  String.ofList (render .compact 0 v)

/-- The value over several lines, indented by `width` spaces for each level. -/
def pretty (width : Nat) (v : Json) : String :=
  String.ofList (render (.indented width) 0 v)

end PromptLibrary.Json
