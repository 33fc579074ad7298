/-!
# Blank characters

The characters that may surround a placeholder's name and that trimming removes: exactly the code
points with the White_Space property. A zero-width space or a byte order mark is not one of them.
-/

namespace PromptLibrary.Text

/-! ## The class -/

/-- A character with the White_Space property. -/
def isBlank (c : Char) : Bool :=
  let n := c.toNat
  (0x09 ≤ n && n ≤ 0x0D) || n == 0x20 || n == 0x85 || n == 0xA0 || n == 0x1680 ||
    (0x2000 ≤ n && n ≤ 0x200A) || n == 0x2028 || n == 0x2029 || n == 0x202F || n == 0x205F ||
    n == 0x3000

/-! ## Trimming -/

/-- The characters without the blanks at either end. -/
def trimChars (cs : List Char) : List Char :=
  ((cs.dropWhile isBlank).reverse.dropWhile isBlank).reverse

/-- The text without the blanks at either end. -/
def trim (s : String) : String :=
  String.ofList (trimChars s.toList)

/-- Nothing but blanks; the empty text counts. -/
def isBlankText (s : String) : Bool :=
  s.toList.all isBlank

theorem trimChars_eq_nil_iff {cs : List Char} : trimChars cs = [] ↔ ∀ c ∈ cs, isBlank c = true := by
  have drop : ∀ l : List Char, l.dropWhile isBlank = [] ↔ ∀ c ∈ l, isBlank c = true := by
    intro l
    induction l with
    | nil => simp
    | cons c l ih =>
      by_cases h : isBlank c = true <;> simp [h, ih]
  constructor
  · intro h
    rw [trimChars, List.reverse_eq_nil_iff, drop] at h
    rw [← drop]
    cases e : cs.dropWhile isBlank with
    | nil => rfl
    | cons c r =>
      have hc := List.head?_dropWhile_not isBlank cs
      rw [e] at hc h
      have := h c (by simp)
      simp [this] at hc
  · intro h
    rw [trimChars, (drop cs).2 h]
    rfl

end PromptLibrary.Text
