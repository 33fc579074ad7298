import PromptLibrary.Text.EscapeTable
import PromptLibrary.Text.Word

/-!
# Quoted texts

A text shown in double quotes for a diagnostic. Quotes, backslashes and the common controls have a
short escape; every other character that would not show, or would attach itself to its neighbour, is
written by its number.
-/

namespace PromptLibrary.Text

/-- One character between the quotes. -/
def quotedChar (c : Char) : List Char :=
  if c = '\x00' then ['\\', '0']
  else if c = '\t' then ['\\', 't']
  else if c = '\r' then ['\\', 'r']
  else if c = '\n' then ['\\', 'n']
  else if c = '\\' then ['\\', '\\']
  else if c = '"' then ['\\', '"']
  else if inRanges spelledRanges c.toNat then
    ['\\', 'u', '\x7b'] ++ Nat.toDigits 16 c.toNat ++ ['\x7d']
  else [c]

/-- The text in double quotes. -/
def quoted (s : String) : String :=
  String.ofList ('"' :: s.toList.flatMap quotedChar ++ ['"'])

end PromptLibrary.Text
