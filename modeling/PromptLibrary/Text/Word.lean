import PromptLibrary.Text.Blank
import PromptLibrary.Text.WordTable

/-!
# Word characters and names

A placeholder's name is a run of word characters, dots and hyphens. None of them is blank and none
of them occurs in a delimiter, so a name, the blanks around it and the delimiters never compete for
a character: this is what makes reading a placeholder deterministic.
-/

namespace PromptLibrary.Text

/-! ## The classes -/

/-- Membership in one of a list of inclusive runs of code points. -/
def inRanges (ranges : List (Nat × Nat)) (n : Nat) : Bool :=
  ranges.any fun r ↦ r.1 ≤ n && n ≤ r.2

/-- A word character: alphabetic, a mark, a decimal digit, connector punctuation or a join
control. -/
def isWord (c : Char) : Bool :=
  if c.toNat < 0x80 then c.isAlphanum || c == '_' else inRanges wordRanges c.toNat

/-- A character that a placeholder's name may contain. -/
def isNameChar (c : Char) : Bool :=
  isWord c || c == '.' || c == '-'

/-! ## Classes that do not meet -/

/-- The blank characters, in ascending order. -/
private def blanks : List Char :=
  ['\t', '\n', '\x0b', '\x0c', '\r', ' ', '\u0085', '\u00a0', '\u1680', '\u2000', '\u2001',
   '\u2002', '\u2003', '\u2004', '\u2005', '\u2006', '\u2007', '\u2008', '\u2009', '\u200a',
   '\u2028', '\u2029', '\u202f', '\u205f', '\u3000']

private theorem mem_blanks_of_isBlank {c : Char} (h : isBlank c = true) : c ∈ blanks := by
  have hc : Char.ofNat c.toNat = c := Char.ofNat_toNat c
  simp only [isBlank, Bool.or_eq_true, Bool.and_eq_true, decide_eq_true_eq, beq_iff_eq] at h
  rw [← hc]
  generalize c.toNat = n at h
  have cases' : n = 0x09 ∨ n = 0x0A ∨ n = 0x0B ∨ n = 0x0C ∨ n = 0x0D ∨ n = 0x20 ∨ n = 0x85 ∨
      n = 0xA0 ∨ n = 0x1680 ∨ n = 0x2000 ∨ n = 0x2001 ∨ n = 0x2002 ∨ n = 0x2003 ∨ n = 0x2004 ∨
      n = 0x2005 ∨ n = 0x2006 ∨ n = 0x2007 ∨ n = 0x2008 ∨ n = 0x2009 ∨ n = 0x200A ∨ n = 0x2028 ∨
      n = 0x2029 ∨ n = 0x202F ∨ n = 0x205F ∨ n = 0x3000 := by omega
  rcases cases' with rfl | rfl | rfl | rfl | rfl | rfl | rfl | rfl | rfl | rfl | rfl | rfl | rfl |
    rfl | rfl | rfl | rfl | rfl | rfl | rfl | rfl | rfl | rfl | rfl | rfl <;> decide

theorem isNameChar_eq_false_of_isBlank {c : Char} (h : isBlank c = true) :
    isNameChar c = false := by
  have none : blanks.any isNameChar = false := by decide +kernel
  rw [List.any_eq_false] at none
  simpa using none c (mem_blanks_of_isBlank h)

theorem isNameChar_delimiter : ∀ c ∈ ['<', '>', '%', '@'], isNameChar c = false := by
  have none : ['<', '>', '%', '@'].any isNameChar = false := by decide
  simpa only [List.any_eq_false, Bool.not_eq_true] using none

theorem isBlank_delimiter : ∀ c ∈ ['<', '>', '%', '@'], isBlank c = false := by
  have none : ['<', '>', '%', '@'].any isBlank = false := by decide
  simpa only [List.any_eq_false, Bool.not_eq_true] using none

end PromptLibrary.Text
