import PromptLibrary.Form

/-!
# Keys as a terminal sends them

A terminal sends most keys as the character they stand for, control keys as control characters, and
cursor keys as sequences that begin with an escape character.
-/

namespace PromptLibrary.Key

/-- The key that a single character stands for. -/
def ofChar (c : Char) : Key :=
  if c = '\n' || c = '\r' then .enter
  else if c = '\t' then .tab
  else if c = '\x1b' then .escape
  else if c = '\x7f' || c = '\x08' then .backspace
  else if 0 < c.toNat && c.toNat < 0x1B then .char (Char.ofNat (c.toNat + 0x60)) true
  else .char c false

/-- The key of a sequence by its last character. -/
def ofSequence (c : Char) : Key :=
  if c = 'A' then .up
  else if c = 'B' then .down
  else if c = 'Z' then .backTab
  else .other

/-- The keys that stand behind what a terminal sent. -/
def ofInput : List Char → List Key
  | [] => []
  | '\x1b' :: '[' :: c :: cs => ofSequence c :: ofInput cs
  | c :: cs => ofChar c :: ofInput cs

end PromptLibrary.Key
