import PromptLibrary.Proofs.Decimal.Shortest
import PromptLibrary.Proofs.Json.Lexeme
import PromptLibrary.Proofs.Json.WellFormed

/-!
# Reading back what is written: numbers

A number is written as digits, perhaps with a point and digits after it, perhaps with an exponent.
The reader finds these parts again (`Spelling.readNumeral_text`), provided that what follows cannot
extend them (`EndsNumeral`).

What it makes of them is another matter. An integer in range is read as itself. A float is written
with the shortest digits that denote it, but a decimal is rounded step by step when it is read, so a
neighbour may come back. Some float does come back, whatever is written: `Number.reread` is the one,
and `Number.toNumber?_numeral` says that the reader gives it.
-/

namespace PromptLibrary.Json

open Document Binary64

/-! ## What follows a number -/

/-- The input cannot extend a numeral. -/
def EndsNumeral (rest : List Char) : Prop :=
  ∀ c ∈ rest.head?, c.isDigit = false ∧ c ≠ '.' ∧ c ≠ 'e' ∧ c ≠ 'E'

theorem EndsNumeral.endsDigits {rest : List Char} (h : EndsNumeral rest) : EndsDigits rest :=
  fun c hc ↦ (h c hc).1

theorem endsNumeral_nil : EndsNumeral [] :=
  fun _ h ↦ absurd h nofun

theorem endsDigits_cons {c : Char} (hc : c.isDigit = false) (cs : List Char) :
    EndsDigits (c :: cs) := by
  rintro d ⟨⟩
  exact hc

/-! ## The parts of a number -/

/-- The point and the digits after it. -/
def fractionText (fraction : Option (List Char)) : List Char :=
  fraction.elim [] ('.' :: ·)

/-- The sign and the digits of an exponent. -/
def exponentText (exponent : Option (Bool × List Char)) : List Char :=
  exponent.elim [] fun e ↦ 'e' :: (if e.1 then '-' else '+') :: e.2

theorem readFraction_append {fraction : Option (List Char)} {rest : List Char}
    (h : ∀ cs ∈ fraction, IsRun cs) (hrest : EndsDigits rest)
    (hpoint : ∀ c ∈ rest.head?, c ≠ '.') :
    readFraction (fractionText fraction ++ rest) = some (fraction.map digitValues, rest) := by
  cases fraction with
  | none =>
    rw [fractionText, Option.elim_none, List.nil_append]
    cases rest with
    | nil => rfl
    | cons c cs =>
      rw [readFraction]
      · rfl
      · rintro cs' ⟨⟩
        exact hpoint '.' rfl rfl
  | some cs =>
    have hread := readDigits1_append (h cs rfl) hrest
    rw [fractionText, Option.elim_some, List.cons_append, readFraction, hread]
    rfl

theorem readExponent_append {exponent : Option (Bool × List Char)} {rest : List Char}
    (h : ∀ e ∈ exponent, IsRun e.2) (hrest : EndsNumeral rest) :
    readExponent (exponentText exponent ++ rest) =
      some (exponent.map fun e ↦ (e.1, digitValues e.2), rest) := by
  cases exponent with
  | none =>
    rw [exponentText, Option.elim_none, List.nil_append]
    cases rest with
    | nil => rfl
    | cons c cs =>
      obtain ⟨-, -, hlower, hupper⟩ := hrest c rfl
      rw [readExponent.eq_def]
      simp [hlower, hupper]
  | some e =>
    obtain ⟨negative, cs⟩ := e
    have hread := readDigits1_append (h _ rfl) hrest.endsDigits
    rw [exponentText, Option.elim_some, List.cons_append, List.cons_append, readExponent.eq_def]
    cases negative with
    | true => simp [hread]
    | false => simp [hread]

/-- The parts of a number as it is written, up to its sign. -/
structure Spelling where
  /-- The digits before the point. -/
  whole : List Char
  /-- The digits after the point, if there is a point. -/
  fraction : Option (List Char)
  /-- The exponent, if there is one: whether it is negative, and its digits. -/
  exponent : Option (Bool × List Char)
  /-- A leading zero stands alone. -/
  isWhole : IsWhole whole
  /-- There are digits after a point. -/
  isFraction : ∀ cs ∈ fraction, IsRun cs
  /-- There are digits in an exponent. -/
  isExponent : ∀ e ∈ exponent, IsRun e.2

namespace Spelling

/-- The text with its sign. -/
def text (p : Spelling) (negative : Bool) : List Char :=
  (if negative then ['-'] else []) ++
    (p.whole ++ (fractionText p.fraction ++ exponentText p.exponent))

/-- What the reader makes of the text. -/
def numeral (p : Spelling) (negative : Bool) : Numeral :=
  ⟨negative, digitValues p.whole, p.fraction.map digitValues,
    p.exponent.map fun e ↦ (e.1, digitValues e.2)⟩

theorem exists_whole_eq_cons (p : Spelling) : ∃ c cs, p.whole = c :: cs ∧ c.isDigit = true := by
  obtain ⟨c, cs, h⟩ := List.exists_cons_of_ne_nil p.isWhole.ne_nil
  exact ⟨c, cs, h, p.isWhole.isDigit c (h ▸ List.mem_cons_self)⟩

theorem exists_text_eq_cons (p : Spelling) (negative : Bool) :
    ∃ c cs, p.text negative = c :: cs ∧ (c = '-' ∨ c.isDigit = true) := by
  cases negative with
  | true => exact ⟨_, _, rfl, .inl rfl⟩
  | false =>
    obtain ⟨c, cs, hcs, hc⟩ := p.exists_whole_eq_cons
    exact ⟨c, _, by rw [text, hcs]; rfl, .inr hc⟩

theorem readNumeral_text (p : Spelling) (negative : Bool) {rest : List Char}
    (hrest : EndsNumeral rest) :
    readNumeral (p.text negative ++ rest) = some (p.numeral negative, rest) := by
  -- each part is followed by one that does not extend it
  have hends : EndsDigits (exponentText p.exponent ++ rest) ∧
      ∀ c ∈ (exponentText p.exponent ++ rest).head?, c ≠ '.' := by
    cases p.exponent with
    | none => exact ⟨hrest.endsDigits, fun c hc ↦ (hrest c hc).2.1⟩
    | some e =>
      refine ⟨endsDigits_cons rfl _, ?_⟩
      rintro c ⟨⟩
      decide
  have hpoint : EndsDigits (fractionText p.fraction ++ (exponentText p.exponent ++ rest)) := by
    cases p.fraction with
    | none => exact hends.1
    | some cs => exact endsDigits_cons rfl _
  have hwhole := readWhole_append p.isWhole hpoint
  have hfraction := readFraction_append p.isFraction hends.1 hends.2
  have hexponent := readExponent_append p.isExponent hrest
  cases negative with
  | true =>
    rw [text, if_pos rfl, List.append_assoc, List.append_assoc, List.append_assoc,
      List.singleton_append, readNumeral]
    simp only [hwhole, hfraction, hexponent, Option.bind_eq_bind, Option.bind_some]
    rfl
  | false =>
    obtain ⟨c, cs, hcs, hc⟩ := p.exists_whole_eq_cons
    rw [text, if_neg (by simp), List.nil_append, List.append_assoc, List.append_assoc, readNumeral]
    · simp only [hwhole, hfraction, hexponent, Option.bind_eq_bind, Option.bind_some]
      rfl
    · -- the reader looks for a minus sign first
      intro r hr
      rw [hcs, List.cons_append] at hr
      rw [(List.cons.inj hr).1] at hc
      revert hc
      decide

end Spelling

/-! ## The significand -/

theorem digitsValue_append (ds es : List Nat) :
    digitsValue (ds ++ es) = es.foldl (fun n d ↦ 10 * n + d) (digitsValue ds) :=
  List.foldl_append

theorem le_foldl_digits (ds : List Nat) (s : Nat) :
    s ≤ ds.foldl (fun n d ↦ 10 * n + d) s := by
  induction ds generalizing s with
  | nil => exact Nat.le_refl s
  | cons d ds ih =>
    have hnext := ih (10 * s + d)
    rw [List.foldl_cons]
    omega

theorem absorb_eq {s : Nat} {ds : List Nat}
    (h : ds.foldl (fun n d ↦ 10 * n + d) s < 1 <<< 64) :
    absorb s ds = (ds.foldl (fun n d ↦ 10 * n + d) s, ds.length) := by
  induction ds generalizing s with
  | nil => rfl
  | cons d ds ih =>
    rw [List.foldl_cons] at h ⊢
    -- the significand only grows, so it fits after every digit
    have hnext : 10 * s + d < 1 <<< 64 := Nat.lt_of_le_of_lt (le_foldl_digits ds _) h
    rw [absorb, if_pos hnext, ih h]
    rfl

theorem lt_ten_of_mem_digitValues {cs : List Char} (h : ∀ c ∈ cs, c.isDigit = true) :
    ∀ d ∈ digitValues cs, d < 10 := by
  intro d hd
  obtain ⟨c, hc, rfl⟩ := List.mem_map.mp hd
  have hdigit := h c hc
  rw [Char.isDigit, Bool.and_eq_true, decide_eq_true_iff, decide_eq_true_iff] at hdigit
  have hhigh : c.val.toNat ≤ 57 := UInt32.le_iff_toNat_le.mp hdigit.2
  show c.val.toNat - 48 < 10
  omega

theorem foldl_digits_lt {ds : List Nat} (h : ∀ d ∈ ds, d < 10) (s : Nat) :
    ds.foldl (fun n d ↦ 10 * n + d) s < (s + 1) * 10 ^ ds.length := by
  induction ds generalizing s with
  | nil => simp
  | cons d ds ih =>
    have hd := h d List.mem_cons_self
    have hih := ih (fun c hc ↦ h c (List.mem_cons_of_mem _ hc)) (10 * s + d)
    rw [List.foldl_cons]
    calc _ < (10 * s + d + 1) * 10 ^ ds.length := hih
      _ ≤ (10 * (s + 1)) * 10 ^ ds.length := Nat.mul_le_mul_right _ (by omega)
      _ = (s + 1) * 10 ^ (d :: ds).length := by rw [List.length_cons, Nat.pow_succ]; ring

theorem digitsValue_lt {cs : List Char} (h : ∀ c ∈ cs, c.isDigit = true)
    (hlength : cs.length ≤ 19) : digitsValue (digitValues cs) < 1 <<< 64 := by
  have hlt := foldl_digits_lt (lt_ten_of_mem_digitValues h) 0
  have hpower : 10 ^ (digitValues cs).length ≤ 10 ^ 19 :=
    Nat.pow_le_pow_right (by decide) (by rwa [length_digitValues])
  rw [digitsValue]
  omega

/-! ## Integers -/

/-- An integer is spelled by its digits alone. -/
def integerSpelling (n : Int) : Spelling where
  whole := Nat.toDigits 10 n.natAbs
  fraction := none
  exponent := none
  isWhole := isWhole_toDigits n.natAbs
  isFraction := nofun
  isExponent := nofun

theorem integerText_eq_text (n : Int) : integerText n = (integerSpelling n).text (n < 0) := by
  rw [integerText, Spelling.text]
  by_cases hn : n < 0
  · simp [hn, integerSpelling, fractionText, exponentText]
  · simp [hn, integerSpelling, fractionText, exponentText]

theorem toNumber?_integerSpelling {n : Int} (h : (Number.integer n).InRange) :
    ((integerSpelling n).numeral (n < 0)).toNumber? = some (.integer n) := by
  obtain ⟨hlow, hhigh⟩ := h
  have hvalue := digitsValue_digitValues n.natAbs
  rw [digitsValue] at hvalue
  have habsorb : absorb 0 (digitValues (Nat.toDigits 10 n.natAbs)) = _ := absorb_eq (by omega)
  rw [hvalue] at habsorb
  rw [Numeral.toNumber?]
  simp only [Spelling.numeral, integerSpelling, habsorb, Nat.sub_self, Option.map_none]
  by_cases hn : n < 0
  · have hpos : 0 < n.natAbs ∧ n.natAbs ≤ 1 <<< 63 := by omega
    have hneg : -(n.natAbs : Int) = n := by omega
    rw [if_neg (by simp [hn]), decide_eq_true hpos.1, decide_eq_true hpos.2, hneg]
    rfl
  · have hpos : (n.natAbs : Int) = n := by omega
    rw [if_pos (by simp [hn]), hpos]

/-! ## Floats -/

theorem toNumber?_of_float {n : Numeral} {s placed : Nat}
    (hfloat : n.fraction ≠ none ∨ n.exponent ≠ none) (hwhole : digitsValue n.whole < 1 <<< 64)
    (hfraction : absorb (digitsValue n.whole) (n.fraction.getD []) = (s, placed)) :
    n.toNumber? = (ofDecimal n.negative s (exponentValue n.exponent - placed)).map .float := by
  have hvalue : ((0 : Nat) : Int) - placed + exponentValue n.exponent =
      exponentValue n.exponent - placed := by omega
  rw [digitsValue] at hwhole hfraction
  rw [Numeral.toNumber?, absorb_eq hwhole]
  dsimp only
  rw [Nat.sub_self, ← hvalue]
  split
  · rename_i hnone hnone'
    exact absurd hfloat (by simp [hnone, hnone'])
  · rw [hfraction]

namespace Spelling

/-- A number with a point and without an exponent is read as a number, if not too many digits stand
before the point. -/
theorem exists_toNumber?_of_point {p : Spelling} {cs : List Char} (hfraction : p.fraction = some cs)
    (hexponent : p.exponent = none) (hlength : p.whole.length ≤ 19) (negative : Bool) :
    ∃ x, (p.numeral negative).toNumber? = some x := by
  have hbound := digitsValue_lt p.isWhole.isDigit hlength
  have hsignificand := absorb_lt (digitValues cs) hbound
  rcases hread : absorb (digitsValue (digitValues p.whole)) (digitValues cs) with ⟨s, placed⟩
  rw [hread] at hsignificand
  have hnumber : (p.numeral negative).toNumber? =
      (ofDecimal negative s (exponentValue (p.numeral negative).exponent - placed)).map .float :=
    toNumber?_of_float (.inl (by simp [numeral, hfraction])) hbound
      (by simpa [numeral, hfraction] using hread)
  obtain ⟨y, hy⟩ := exists_ofDecimal negative (e := 0 - placed) hsignificand (fun hpos ↦ by omega)
  refine ⟨.float y, ?_⟩
  rw [hnumber, numeral, hexponent]
  exact congrArg (Option.map Number.float) hy

theorem exists_toNumber?_of_exponent {p : Spelling} {e : Bool × List Char}
    (hexponent : p.exponent = some e) {s : Nat} (hlt : s < 1 <<< 64)
    (hs : digitsValue (digitValues (p.whole ++ p.fraction.getD [])) = s) {negative : Bool}
    (hdecimal : ∃ y, ofDecimal negative s
      (exponentValue (some (e.1, digitValues e.2)) - (p.fraction.getD []).length) = some y) :
    ∃ x, (p.numeral negative).toNumber? = some x := by
  obtain ⟨y, hy⟩ := hdecimal
  rw [digitValues_append, digitsValue_append] at hs
  have hwhole : digitsValue (digitValues p.whole) < 1 <<< 64 := by
    refine Nat.lt_of_le_of_lt (le_foldl_digits (digitValues (p.fraction.getD [])) _) ?_
    rwa [hs]
  have hread : absorb (digitsValue (digitValues p.whole)) ((p.fraction.map digitValues).getD []) =
      (s, (p.fraction.getD []).length) := by
    have hfraction : (p.fraction.map digitValues).getD [] = digitValues (p.fraction.getD []) := by
      cases p.fraction <;> rfl
    rw [hfraction, absorb_eq (by rwa [hs]), hs, length_digitValues]
  have hnumber : (p.numeral negative).toNumber? = (ofDecimal negative s
      (exponentValue (p.numeral negative).exponent - (p.fraction.getD []).length)).map .float :=
    toNumber?_of_float (.inr (by simp [numeral, hexponent])) hwhole hread
  refine ⟨.float y, ?_⟩
  rw [hnumber, numeral, hexponent]
  exact congrArg (Option.map Number.float) hy

end Spelling

/-- The text of a number that can be read, with either sign. -/
def Legible (cs : List Char) : Prop :=
  ∃ p : Spelling, ∀ negative : Bool, (if negative then ['-'] else []) ++ cs = p.text negative ∧
    ∃ x, (p.numeral negative).toNumber? = some x

theorem legible_point {whole fraction : List Char} (hwhole : IsWhole whole)
    (hlength : whole.length ≤ 19) (hfraction : IsRun fraction) :
    Legible (whole ++ '.' :: fraction) := by
  let p : Spelling :=
    { whole, fraction := some fraction, exponent := none, isWhole := hwhole,
      isFraction := fun _ h ↦ Option.some.inj h ▸ hfraction, isExponent := nofun }
  refine ⟨p, fun negative ↦ ⟨?_, Spelling.exists_toNumber?_of_point rfl rfl hlength negative⟩⟩
  simp [Spelling.text, fractionText, exponentText, p]

theorem isDigit_of_mem_replicate {n : Nat} {c : Char} (h : c ∈ List.replicate n '0') :
    c.isDigit = true := by
  rw [List.eq_of_mem_replicate h]
  rfl

theorem legible_layDigits_of_nonneg {s : Nat} {lead : Int} (hs : 0 < s) (hlow : 0 ≤ lead)
    (hhigh : lead < 16) : Legible (layDigits (Nat.toDigits 10 s) lead) := by
  obtain ⟨hne, hdigits⟩ := isRun_toDigits s
  rw [layDigits, if_pos (by simp [hlow, hhigh])]
  generalize hcs : Nat.toDigits 10 s = cs at hne hdigits
  dsimp only
  split
  · have hrun : IsRun (cs ++ List.replicate (lead.toNat + 1 - cs.length) '0') := by
      refine ⟨List.append_ne_nil_of_left_ne_nil hne _, fun c hc ↦ ?_⟩
      exact (List.mem_append.mp hc).elim (hdigits c) isDigit_of_mem_replicate
    show Legible (cs ++ List.replicate (lead.toNat + 1 - cs.length) '0' ++ '.' :: ['0'])
    refine legible_point (hrun.isWhole hs ?_) ?_ isWhole_zero.toIsRun
    · rw [List.head?_append_of_ne_nil _ hne, hcs]
    · rw [List.length_append, List.length_replicate]
      omega
  · rename_i hlong
    have hrun : IsRun (cs.take (lead.toNat + 1)) := by
      refine ⟨?_, fun c hc ↦ hdigits c (List.mem_of_mem_take hc)⟩
      rw [ne_eq, List.take_eq_nil_iff, not_or]
      exact ⟨Nat.succ_ne_zero _, hne⟩
    refine legible_point (hrun.isWhole hs ?_) ?_ ⟨?_, ?_⟩
    · rw [List.head?_take, if_neg (Nat.succ_ne_zero _), hcs]
    · rw [List.length_take]
      omega
    · rw [ne_eq, List.drop_eq_nil_iff]
      exact hlong
    · exact fun c hc ↦ hdigits c (List.mem_of_mem_drop hc)

theorem legible_layDigits_of_neg (s : Nat) {lead : Int} (hlow : -5 ≤ lead) (hhigh : lead < 0) :
    Legible (layDigits (Nat.toDigits 10 s) lead) := by
  obtain ⟨hne, hdigits⟩ := isRun_toDigits s
  rw [layDigits, if_neg (by simp; omega), if_pos (by simp [hlow, hhigh])]
  show Legible (['0'] ++ '.' :: (List.replicate ((-lead).toNat - 1) '0' ++ Nat.toDigits 10 s))
  refine legible_point isWhole_zero (by decide) ⟨?_, fun c hc ↦ ?_⟩
  · exact List.append_ne_nil_of_right_ne_nil _ hne
  · exact (List.mem_append.mp hc).elim isDigit_of_mem_replicate (hdigits c)

/-- The exponent of a number, with its sign. -/
def leadSpelling (lead : Int) : Bool × List Char :=
  (lead < 0, Nat.toDigits 10 lead.natAbs)

theorem exponentText_leadSpelling (lead : Int) : exponentText (some (leadSpelling lead)) =
    'e' :: if 0 ≤ lead then '+' :: Nat.toDigits 10 lead.toNat else integerText lead := by
  rw [exponentText, Option.elim_some, leadSpelling]
  by_cases hpos : 0 ≤ lead
  · have habs : lead.natAbs = lead.toNat := by omega
    rw [if_pos hpos, if_neg (by simpa using hpos), habs]
  · have hneg : lead < 0 := by omega
    rw [if_neg hpos, integerText, if_pos hneg, if_pos (by simpa using hneg)]

theorem exponentValue_leadSpelling (lead : Int) :
    exponentValue (some ((leadSpelling lead).1, digitValues (leadSpelling lead).2)) = lead := by
  rw [exponentValue, leadSpelling, digitsValue_digitValues]
  by_cases hneg : lead < 0
  · rw [if_pos (by simpa using hneg)]
    omega
  · rw [if_neg (by simpa using hneg)]
    omega

theorem legible_exponent {whole : List Char} {fraction : Option (List Char)} {lead : Int} {s : Nat}
    (hwhole : IsWhole whole) (hfraction : ∀ cs ∈ fraction, IsRun cs) (hlt : s < 1 <<< 64)
    (hs : digitsValue (digitValues (whole ++ fraction.getD [])) = s)
    (hdecimal : ∀ negative, ∃ y,
      ofDecimal negative s (lead - (fraction.getD []).length) = some y) :
    Legible (whole ++ (fractionText fraction ++ exponentText (some (leadSpelling lead)))) := by
  let p : Spelling :=
    { whole, fraction, exponent := some (leadSpelling lead), isWhole := hwhole,
      isFraction := hfraction,
      isExponent := fun _ h ↦ Option.some.inj h ▸ isRun_toDigits lead.natAbs }
  refine ⟨p, fun negative ↦ ⟨rfl, Spelling.exists_toNumber?_of_exponent rfl hlt hs ?_⟩⟩
  rw [exponentValue_leadSpelling]
  exact hdecimal negative

theorem legible_scientific {s : Nat} {lead : Int} (hs : 0 < s) (hlt : s < 1 <<< 64)
    (hdecimal : ∀ negative, ∃ y,
      ofDecimal negative s (lead - (Nat.toDigits 10 s).length + 1) = some y)
    (hlead : ¬(-5 ≤ lead ∧ lead < 16)) : Legible (layDigits (Nat.toDigits 10 s) lead) := by
  rw [layDigits, if_neg (by simp; omega), if_neg (by simp; omega)]
  dsimp only
  obtain ⟨d, ds, hds, -⟩ := toDigits_eq_cons hs
  have hdigits := (isRun_toDigits s).isDigit
  have hvalue := digitsValue_digitValues s
  rw [hds] at hdecimal hdigits hvalue ⊢
  have hwhole : IsWhole [d] := by
    refine IsRun.isWhole hs ⟨nofun, fun c hc ↦ ?_⟩ (by rw [hds]; rfl)
    exact hdigits c (List.mem_singleton.mp hc ▸ List.mem_cons_self)
  have hdecimal : ∀ negative, ∃ y, ofDecimal negative s (lead - ds.length) = some y := by
    intro negative
    have hexponent : lead - (ds.length : Int) = lead - (d :: ds).length + 1 := by
      rw [List.length_cons]
      omega
    rw [hexponent]
    exact hdecimal negative
  -- a point is written only if there is a second digit
  rw [← exponentText_leadSpelling]
  cases ds with
  | nil =>
    show Legible ([d] ++ (fractionText none ++ exponentText (some (leadSpelling lead))))
    exact legible_exponent hwhole nofun hlt hvalue hdecimal
  | cons d' ds =>
    show Legible
      ([d] ++ (fractionText (some (d' :: ds)) ++ exponentText (some (leadSpelling lead))))
    have hfraction : ∀ cs ∈ some (d' :: ds), IsRun cs := by
      rintro cs ⟨⟩
      exact ⟨nofun, fun c hc ↦ hdigits c (List.mem_cons_of_mem _ hc)⟩
    exact legible_exponent hwhole hfraction hlt hvalue hdecimal

/-- Shortest digits are laid out as a number that can be read, if their decimal can. -/
theorem legible_layDigits {s : Nat} {lead : Int} (hs : 0 < s) (hlt : s < 1 <<< 64)
    (hdecimal : ∀ negative, ∃ y,
      ofDecimal negative s (lead - (Nat.toDigits 10 s).length + 1) = some y) :
    Legible (layDigits (Nat.toDigits 10 s) lead) := by
  by_cases hpoint : -5 ≤ lead ∧ lead < 16
  · rcases le_or_gt 0 lead with hlow | hneg
    · exact legible_layDigits_of_nonneg hs hlow hpoint.2
    · exact legible_layDigits_of_neg s hpoint.1 hneg
  · exact legible_scientific hs hlt hdecimal hpoint

theorem exists_spelling_floatText (x : Binary64) :
    ∃ p : Spelling, floatText x = p.text x.negative ∧
      ∃ y, (p.numeral x.negative).toNumber? = some y := by
  have hzero : Legible ['0', '.', '0'] :=
    legible_point isWhole_zero (by decide) isWhole_zero.toIsRun
  rw [floatText]
  dsimp only
  by_cases hx : x.isZero = true
  · rw [if_pos hx]
    obtain ⟨p, hp⟩ := hzero
    exact ⟨p, hp x.negative⟩
  · rw [if_neg hx]
    obtain hnone | ⟨s, lead, hs, hlt, hshortest, hdecimal⟩ :=
      exists_ofDecimal_shortest (by simpa using hx)
    · -- no digits are laid out as zero
      obtain ⟨p, hp⟩ := hzero
      rw [hnone]
      exact ⟨p, hp x.negative⟩
    · obtain ⟨p, hp⟩ := legible_layDigits hs (by omega) hdecimal
      rw [hshortest]
      exact ⟨p, hp x.negative⟩

/-! ## Numbers -/

namespace Number

theorem exists_spelling (n : Number) : ∃ (p : Spelling) (negative : Bool),
    n.text = p.text negative ∧ (n.InRange → ∃ y, (p.numeral negative).toNumber? = some y) := by
  cases n with
  | integer i =>
    exact ⟨integerSpelling i, i < 0, integerText_eq_text i, fun h ↦
      ⟨_, toNumber?_integerSpelling h⟩⟩
  | float x =>
    obtain ⟨p, htext, hnumber⟩ := exists_spelling_floatText x
    exact ⟨p, x.negative, htext, fun _ ↦ hnumber⟩

/-- The numeral that a number is written as: what the reader finds in its text. -/
def numeral (n : Number) : Numeral :=
  ((readNumeral n.text).map (·.1)).getD ⟨false, [], none, none⟩

theorem numeral_of_text {n : Number} {p : Spelling} {negative : Bool}
    (h : n.text = p.text negative) : n.numeral = p.numeral negative := by
  have hread := p.readNumeral_text negative endsNumeral_nil
  rw [List.append_nil] at hread
  rw [numeral, h, hread]
  rfl

theorem readNumeral_text (n : Number) {rest : List Char} (hrest : EndsNumeral rest) :
    readNumeral (n.text ++ rest) = some (n.numeral, rest) := by
  obtain ⟨p, negative, htext, -⟩ := n.exists_spelling
  rw [numeral_of_text htext, htext]
  exact p.readNumeral_text negative hrest

theorem exists_text_eq_cons (n : Number) :
    ∃ c cs, n.text = c :: cs ∧ (c = '-' ∨ c.isDigit = true) := by
  obtain ⟨p, negative, htext, -⟩ := n.exists_spelling
  rw [htext]
  exact p.exists_text_eq_cons negative

/-- The number that comes back when a number is written and read. -/
def reread (n : Number) : Number :=
  n.numeral.toNumber?.getD n

/-- **Every number can be read back**, unless it is an integer beyond 64 bits. -/
theorem toNumber?_numeral {n : Number} (h : n.InRange) : n.numeral.toNumber? = some n.reread := by
  obtain ⟨p, negative, htext, hnumber⟩ := n.exists_spelling
  obtain ⟨y, hy⟩ := hnumber h
  rw [reread, numeral_of_text htext, hy]
  rfl

/-- The number that is written as `2e-29` is not the one that is read. -/
example : (float ⟨false, 4177469493408609095, by decide⟩).reread =
    float ⟨false, 4177469493408609096, by decide⟩ := by
  decide +kernel

theorem reread_integer {i : Int} (h : (integer i).InRange) : (integer i).reread = integer i := by
  rw [reread, numeral_of_text (n := integer i) (integerText_eq_text i), toNumber?_integerSpelling h]
  rfl

end Number

end PromptLibrary.Json
