import Mathlib.Tactic.SplitIfs
import PromptLibrary.Json.Decode
import PromptLibrary.Json.Printer

/-!
# Reading back what is written: digits and strings

A run of digits and a string that the printer writes are taken off the front of the input by the
reader, whatever follows, and the decoder makes of them what the printer was given. After digits
there must be a character that is no digit (`EndsDigits`), or a whole number would go on. A string
ends with its own quote, so nothing is asked of what follows.
-/

namespace PromptLibrary.Json

open Document

/-! ## Digits -/

/-- The values of a run of digits. -/
def digitValues (cs : List Char) : List Nat :=
  cs.map fun c ↦ c.toNat - '0'.toNat

@[simp] theorem digitValues_append (cs ds : List Char) :
    digitValues (cs ++ ds) = digitValues cs ++ digitValues ds :=
  List.map_append

@[simp] theorem length_digitValues (cs : List Char) : (digitValues cs).length = cs.length :=
  List.length_map _

theorem digit?_of_isDigit {c : Char} (h : c.isDigit = true) :
    digit? c = some (c.toNat - '0'.toNat) := by
  rw [Char.isDigit, Bool.and_eq_true, decide_eq_true_iff, decide_eq_true_iff] at h
  rw [digit?, if_pos]
  rw [Bool.and_eq_true, decide_eq_true_iff, decide_eq_true_iff]
  exact h

theorem digit?_of_not_isDigit {c : Char} (h : c.isDigit = false) : digit? c = none := by
  rw [Char.isDigit, Bool.and_eq_false_iff, decide_eq_false_iff_not, decide_eq_false_iff_not] at h
  rw [digit?, if_neg]
  rw [Bool.and_eq_true, decide_eq_true_iff, decide_eq_true_iff]
  rintro ⟨hlow, hhigh⟩
  rcases h with h | h
  · exact h hlow
  · exact h hhigh

/-- The input does not go on with a digit. -/
def EndsDigits (rest : List Char) : Prop :=
  ∀ c ∈ rest.head?, c.isDigit = false

theorem readDigits_append {ds rest : List Char} (hds : ∀ c ∈ ds, c.isDigit = true)
    (hrest : EndsDigits rest) :
    readDigits (ds ++ rest) = (digitValues ds, rest) := by
  induction ds with
  | nil =>
    cases rest with
    | nil => rfl
    | cons c cs =>
      -- the run ends here, since what follows is no digit
      have hc := digit?_of_not_isDigit (hrest c rfl)
      rw [List.nil_append, readDigits, hc]
      rfl
  | cons d ds ih =>
    have hd := digit?_of_isDigit (hds d List.mem_cons_self)
    have hih := ih fun c hc ↦ hds c (List.mem_cons_of_mem _ hc)
    rw [List.cons_append, readDigits, hd, hih]
    rfl

theorem toDigits_eq_cons {n : Nat} (hn : 0 < n) :
    ∃ c cs, Nat.toDigits 10 n = c :: cs ∧ c ≠ '0' := by
  induction n using Nat.strongRecOn with
  | ind n ih =>
    rw [Nat.toDigits_eq_if (by decide)]
    split
    · rename_i hlt
      refine ⟨n.digitChar, [], rfl, ?_⟩
      rw [ne_eq, Nat.digitChar_eq_zero]
      omega
    · -- the leading digit is that of the quotient
      obtain ⟨c, cs, hcs, hc⟩ := ih (n / 10) (by omega) (by omega)
      exact ⟨c, cs ++ [(n % 10).digitChar], by rw [hcs, List.cons_append], hc⟩

@[simp] theorem digitsValue_digitValues (n : Nat) :
    digitsValue (digitValues (Nat.toDigits 10 n)) = n := by
  rw [digitsValue, digitValues, List.foldl_map]
  exact Nat.ofDigitChars_ten_toDigits

/-- Decimal digits, at least one. -/
structure IsRun (cs : List Char) : Prop where
  /-- There is a digit. -/
  ne_nil : cs ≠ []
  /-- There is nothing else. -/
  isDigit : ∀ c ∈ cs, c.isDigit = true

theorem isRun_toDigits (n : Nat) : IsRun (Nat.toDigits 10 n) :=
  ⟨Nat.toDigits_ne_nil, fun _ hc ↦ Nat.isDigit_of_mem_toDigits (by decide) (by decide) hc⟩

theorem readDigits1_append {cs rest : List Char} (h : IsRun cs) (hrest : EndsDigits rest) :
    readDigits1 (cs ++ rest) = some (digitValues cs, rest) := by
  rw [readDigits1, readDigits_append h.isDigit hrest]
  split
  · rename_i hnil
    exact absurd (List.map_eq_nil_iff.mp (Prod.mk.inj hnil).1) h.ne_nil
  · rfl

/-- The digits before a point: a leading zero stands alone. -/
structure IsWhole (cs : List Char) : Prop extends IsRun cs where
  /-- A zero is the only digit. -/
  zero_alone : ∀ ds, cs = '0' :: ds → ds = []

theorem IsRun.isWhole {n : Nat} (hn : 0 < n) {cs : List Char} (h : IsRun cs)
    (hhead : cs.head? = (Nat.toDigits 10 n).head?) : IsWhole cs := by
  refine ⟨h, fun ds hds ↦ ?_⟩
  obtain ⟨d, es, hes, hd⟩ := toDigits_eq_cons hn
  rw [hds, hes] at hhead
  exact absurd (Option.some.inj hhead).symm hd

theorem isWhole_zero : IsWhole ['0'] := by
  refine ⟨⟨nofun, ?_⟩, ?_⟩
  · rintro c (_ | ⟨_, ⟨⟩⟩)
    rfl
  · rintro ds ⟨⟩
    rfl

theorem isWhole_toDigits (n : Nat) : IsWhole (Nat.toDigits 10 n) := by
  rcases Nat.eq_zero_or_pos n with rfl | hn
  · exact isWhole_zero
  · exact (isRun_toDigits n).isWhole hn rfl

theorem readWhole_append {cs rest : List Char} (h : IsWhole cs) (hrest : EndsDigits rest) :
    readWhole (cs ++ rest) = some (digitValues cs, rest) := by
  -- a leading zero is read by a rule of its own
  by_cases hzero : ∃ ds, cs = '0' :: ds
  · obtain ⟨ds, rfl⟩ := hzero
    obtain rfl := h.zero_alone ds rfl
    rfl
  · rw [readWhole, readDigits1_append h.toIsRun hrest]
    rintro ds hds
    obtain ⟨c, cs, rfl⟩ := List.exists_cons_of_ne_nil h.ne_nil
    exact hzero ⟨cs, by rw [(List.cons.inj hds).1]⟩

/-! ## Strings -/

/-- What the reader makes of a character between the quotes. Control characters without a short
escape come back as code units. -/
def readPiece (c : Char) : Piece :=
  if c.toNat < 0x20 ∧ c ∉ ['\x08', '\t', '\n', '\x0c', '\r'] then .unit c.toNat else .char c

/-- What the reader makes of a text between quotes. -/
def textPieces (s : String) : List Piece :=
  s.toList.map readPiece

theorem hexDigit?_digitChar {d : Nat} (h : d < 16) : hexDigit? (Nat.digitChar d) = some d := by
  have all : ∀ d < 16, hexDigit? (Nat.digitChar d) = some d := by decide
  exact all d h

theorem readPieces_shortEscape {e c : Char} (he : shortEscape? e = some c) (hu : e ≠ 'u')
    (rest : List Char) :
    readPieces ('\\' :: e :: rest) = (readPieces rest).map fun r ↦ (.char c :: r.1, r.2) := by
  rw [readPieces, he]
  · cases readPieces rest <;> rfl
  · rintro _ _ _ _ _ rfl
    exact absurd rfl hu

theorem readPieces_plain {c : Char} (hquote : c ≠ '"') (hback : c ≠ '\\') (hc : ¬c.toNat < 0x20)
    (rest : List Char) :
    readPieces (c :: rest) = (readPieces rest).map fun r ↦ (.char c :: r.1, r.2) := by
  rw [readPieces]
  · rw [if_neg (by simp [hc, hback])]
    cases readPieces rest <;> rfl
  · exact hquote
  · exact fun _ _ _ _ _ h ↦ absurd h hback
  · exact fun _ _ h ↦ absurd h hback

theorem readPieces_control {n : Nat} (hn : n < 0x20) (rest : List Char) :
    readPieces ('\\' :: 'u' :: '0' :: '0' :: Nat.digitChar (n / 16) :: Nat.digitChar (n % 16) ::
        rest) = (readPieces rest).map fun r ↦ (.unit n :: r.1, r.2) := by
  have hhigh : hexDigit? (Nat.digitChar (n / 16)) = some (n / 16) := hexDigit?_digitChar (by omega)
  have hlow : hexDigit? (Nat.digitChar (n % 16)) = some (n % 16) := hexDigit?_digitChar (by omega)
  have hzero : hexDigit? '0' = some 0 := rfl
  have hvalue : 16 * (n / 16) + n % 16 = n := Nat.div_add_mod n 16
  rw [readPieces, hzero, hhigh, hlow]
  cases h : readPieces rest with
  | none => rfl
  | some r => simp [hvalue]

theorem readPieces_escapeChar (c : Char) (rest : List Char) :
    readPieces (escapeChar c ++ rest) =
      (readPieces rest).map fun r ↦ (readPiece c :: r.1, r.2) := by
  rw [escapeChar]
  split_ifs with hquote hback hbs htab hnl hff hcr hcontrol
  · subst hquote
    exact readPieces_shortEscape rfl (by decide) rest
  · subst hback
    exact readPieces_shortEscape rfl (by decide) rest
  · subst hbs
    exact readPieces_shortEscape rfl (by decide) rest
  · subst htab
    exact readPieces_shortEscape rfl (by decide) rest
  · subst hnl
    exact readPieces_shortEscape rfl (by decide) rest
  · subst hff
    exact readPieces_shortEscape rfl (by decide) rest
  · subst hcr
    exact readPieces_shortEscape rfl (by decide) rest
  · have hpiece : readPiece c = .unit c.toNat := if_pos ⟨hcontrol, by simp [*]⟩
    rw [hpiece]
    exact readPieces_control hcontrol rest
  · have hpiece : readPiece c = .char c := if_neg fun h ↦ hcontrol h.1
    rw [hpiece]
    exact readPieces_plain hquote hback hcontrol rest

theorem readPieces_text (s : String) (rest : List Char) :
    readPieces (s.toList.flatMap escapeChar ++ '"' :: rest) = some (textPieces s, rest) := by
  rw [textPieces]
  induction s.toList with
  | nil => rfl
  | cons c cs ih =>
    rw [List.flatMap_cons, List.append_assoc, readPieces_escapeChar, ih]
    rfl

theorem decodePieces_unit {n : Nat} (hn : n < 0xD800) (ps : List Piece) :
    decodePieces (.unit n :: ps) = (decodePieces ps).map (Char.ofNat n :: ·) := by
  -- a unit is matched alone or together with a second one; neither way makes it a surrogate
  rw [decodePieces.eq_def]
  split
  · rename_i h
    cases h
  · rename_i h
    cases h
  · rename_i n' m ps' h
    cases h
    rw [if_neg (by simp; omega), if_neg (by simp; omega)]
  · rename_i n' ps' _ h
    cases h
    rw [if_neg (by simp; omega)]

theorem decodePieces_readPiece (c : Char) (ps : List Piece) :
    decodePieces (readPiece c :: ps) = (decodePieces ps).map (c :: ·) := by
  rw [readPiece]
  split_ifs with h
  · rw [decodePieces_unit (by omega), Char.ofNat_toNat]
  · rw [decodePieces]

/-- What is read of a text between quotes spells the text. -/
theorem decodeText_textPieces (s : String) : decodeText (textPieces s) = some s := by
  have h : ∀ cs : List Char, decodePieces (cs.map readPiece) = some cs := by
    intro cs
    induction cs with
    | nil => rfl
    | cons c cs ih =>
      rw [List.map_cons, decodePieces_readPiece, ih]
      rfl
  rw [decodeText, textPieces, h, Option.map_some, String.ofList_toList]

end PromptLibrary.Json
