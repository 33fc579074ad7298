import PromptLibrary.Text.CaseTable
import PromptLibrary.Text.Word

/-!
# Full case mappings

Lower and upper case of a text by the locale-free full mappings, where one character may become
several. The only rule that looks at the neighbourhood is the one for a capital sigma, which becomes
a final sigma at the end of a word.
-/

namespace PromptLibrary.Text

/-! ## One character -/

/-- The counterpart of a code point in a table of runs, or the code point itself. -/
def shift (runs : List CaseRun) (n : Nat) : Nat :=
  match runs.find? fun r ↦ r.first ≤ n && n ≤ r.last && (n - r.first) % r.stride == 0 with
  | some r => (n + r.offset).toNat
  | none => n

/-- The case counterpart of a character above U+007F: its expansion if it has one, else its
run's. -/
def mapByTable (expansions : List (Nat × List Nat)) (runs : List CaseRun) (c : Char) : List Char :=
  match expansions.lookup c.toNat with
  | some ns => ns.map Char.ofNat
  | none => [Char.ofNat (shift runs c.toNat)]

/-- The lower-case form of a character, whatever stands around it. -/
def lowerChar (c : Char) : List Char :=
  if c.toNat < 0x80 then [c.toLower] else mapByTable lowerExpansions lowerRuns c

/-- The upper-case form of a character. -/
def upperChar (c : Char) : List Char :=
  if c.toNat < 0x80 then [c.toUpper] else mapByTable upperExpansions upperRuns c

/-! ## Texts -/

/-- The nearest character that is not skipped is one that has case. -/
def nextIsCased (cs : List Char) : Bool :=
  match cs.dropWhile fun c ↦ inRanges caseIgnorableRanges c.toNat with
  | c :: _ => inRanges casedRanges c.toNat
  | [] => false

/-- Lower case of what follows `before`, which holds the characters read so far, last one first. A
capital sigma becomes a final one where a cased character stands before it and none after it. -/
def lowerAfter (before : List Char) : List Char → List Char
  | [] => []
  | c :: rest =>
    let here :=
      if c = 'Σ' then if nextIsCased before && !nextIsCased rest then ['ς'] else ['σ']
      else lowerChar c
    here ++ lowerAfter (c :: before) rest

/-- The text in lower case. -/
def lower (s : String) : String :=
  String.ofList (lowerAfter [] s.toList)

/-- The text in upper case. -/
def upper (s : String) : String :=
  String.ofList (s.toList.flatMap upperChar)

end PromptLibrary.Text
