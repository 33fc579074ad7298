import PromptLibrary.Proofs.Entries
import PromptLibrary.Text.Case

/-!
# Lower case

Lower case is final: a text in lower case is its own lower case (`lower_lower`). This is a fact
about the table. The counterparts of a run lie outside of every run, since they lie below it or
above it, or since the other run takes every second code point and the counterparts are those in
between (`CaseRun.apart`). So the table is checked for every pair of runs and not for every code
point.

A dot is as good as the beginning of a text. It has no case itself, and the rule for a final sigma,
the only one that looks at the neighbourhood, finds no cased character behind it. So the lower case
of a text does not depend on a dot in front of it (`lower_dot_append`).
-/

namespace PromptLibrary.Text

/-! ## Runs -/

namespace CaseRun

/-- The code point belongs to the run. -/
def Maps (r : CaseRun) (n : Nat) : Prop :=
  r.first ≤ n ∧ n ≤ r.last ∧ (n - r.first) % r.stride = 0

/-- What a code point of the run is mapped to. -/
def counterpart (r : CaseRun) (n : Nat) : Nat :=
  (n + r.offset).toNat

/-- The counterparts of the run do not belong to the other run. -/
def apart (r q : CaseRun) : Bool :=
  Nat.blt (r.counterpart r.last) q.first || Nat.blt q.last (r.counterpart r.first) ||
    (Nat.beq q.stride 2 && (Nat.beq r.stride 2 || Nat.beq r.first r.last) &&
      Nat.beq ((r.counterpart r.first + q.first) % 2) 1)

/-- The counterparts of the run are characters above U+007F without an expansion. -/
def inTable (r : CaseRun) : Bool :=
  Nat.ble 0x80 (r.counterpart r.first) &&
    (lowerExpansions.all fun e ↦
      Nat.blt (r.counterpart r.last) e.1 || Nat.blt e.1 (r.counterpart r.first)) &&
    (Nat.blt (r.counterpart r.last) 0xD800 ||
      (Nat.blt 0xDFFF (r.counterpart r.first) && Nat.blt (r.counterpart r.last) 0x110000))

variable {r q : CaseRun} {n : Nat}

theorem Maps.counterpart_bounds (h : r.Maps n) :
    r.counterpart r.first ≤ r.counterpart n ∧ r.counterpart n ≤ r.counterpart r.last := by
  obtain ⟨hfirst, hlast, -⟩ := h
  simp only [counterpart]
  omega

theorem not_maps_of_apart (h : r.apart q = true) (hpos : 0 < r.counterpart r.first)
    (hn : r.Maps n) : ¬q.Maps (r.counterpart n) := by
  rintro ⟨hle, hle', hstep⟩
  have hbounds := hn.counterpart_bounds
  obtain ⟨hfirst, hlast, hstep'⟩ := hn
  simp only [apart, Bool.or_eq_true, Bool.and_eq_true, Nat.blt_eq, Nat.beq_eq] at h
  rcases h with (hbelow | habove) | ⟨⟨htwo, heven⟩, hodd⟩
  · omega
  · omega
  · -- the counterpart has the parity that the other run leaves out
    have hparity : (n - r.first) % 2 = 0 := by
      rcases heven with htwo' | hsingle
      · rwa [htwo'] at hstep'
      · omega
    rw [htwo] at hstep
    simp only [counterpart] at hodd hstep hle hpos
    omega

end CaseRun

theorem shift_cases (runs : List CaseRun) (n : Nat) :
    (∃ r ∈ runs, r.Maps n ∧ shift runs n = r.counterpart n) ∨
      (∀ r ∈ runs, ¬r.Maps n) ∧ shift runs n = n := by
  rw [shift]
  split
  · rename_i r hfound
    left
    have hmaps := List.find?_some hfound
    simp only [Bool.and_eq_true, decide_eq_true_eq, beq_iff_eq] at hmaps
    exact ⟨r, List.mem_of_find?_eq_some hfound, ⟨hmaps.1.1, hmaps.1.2, hmaps.2⟩, rfl⟩
  · rename_i hnone
    right
    refine ⟨fun r hr hmaps ↦ ?_, rfl⟩
    have hout := List.find?_eq_none.mp hnone r hr
    obtain ⟨hfirst, hlast, hstep⟩ := hmaps
    simp [hfirst, hlast, hstep] at hout

/-! ## One character -/

/-- The character stays as it is in lower case. -/
def IsLower (c : Char) : Prop :=
  lowerChar c = [c]

instance (c : Char) : Decidable (IsLower c) :=
  inferInstanceAs (Decidable (lowerChar c = [c]))

theorem lookup_lowerExpansions_eq_some_iff {n : Nat} {ns : List Nat} :
    lowerExpansions.lookup n = some ns ↔ (n, ns) ∈ lowerExpansions := by
  rw [← Entries.get?_eq_lookup]
  exact Entries.get?_eq_some_iff (by decide)

theorem isLower_of_not_maps {c : Char} (hascii : 0x80 ≤ c.toNat)
    (hexpansions : ∀ e ∈ lowerExpansions, e.1 ≠ c.toNat)
    (hruns : ∀ r ∈ lowerRuns, ¬r.Maps c.toNat) : IsLower c := by
  have hlookup : lowerExpansions.lookup c.toNat = none :=
    Option.eq_none_iff_forall_ne_some.mpr fun ns h ↦
      hexpansions _ (lookup_lowerExpansions_eq_some_iff.mp h) rfl
  have hshift : shift lowerRuns c.toNat = c.toNat := by
    rcases shift_cases lowerRuns c.toNat with ⟨r, hr, hmaps, -⟩ | ⟨-, hself⟩
    · exact absurd hmaps (hruns r hr)
    · exact hself
  rw [IsLower, lowerChar, if_neg (Nat.not_lt.mpr hascii), mapByTable, hlookup]
  dsimp only
  rw [hshift, Char.ofNat_toNat]

theorem apart_lowerRuns : ∀ r ∈ lowerRuns, ∀ q ∈ lowerRuns, r.apart q = true := by
  have hall : (lowerRuns.all fun r ↦ lowerRuns.all r.apart) = true := by decide +kernel
  simpa only [List.all_eq_true] using hall

/-- Only the Kelvin sign has its counterpart outside of the table. -/
theorem inTable_lowerRuns : ∀ r ∈ lowerRuns, r.inTable = true ∨ r.first = 0x212A ∧ r.last = 0x212A ∧
    r.counterpart 0x212A = 'k'.toNat := by
  decide +kernel

theorem toNat_ofNat {n : Nat} (h : n.isValidChar) : (Char.ofNat n).toNat = n := by
  rw [Char.ofNat, dif_pos h]
  rfl

theorem isLower_counterpart {r : CaseRun} (hr : r ∈ lowerRuns) {n : Nat} (hn : r.Maps n) :
    IsLower (Char.ofNat (r.counterpart n)) ∧ Char.ofNat (r.counterpart n) ≠ '.' := by
  rcases inTable_lowerRuns r hr with htable | ⟨hfirst, hlast, hkelvin⟩
  · obtain ⟨hge, hle⟩ := hn.counterpart_bounds
    simp only [CaseRun.inTable, Bool.or_eq_true, Bool.and_eq_true, List.all_eq_true, Nat.blt_eq,
      Nat.ble_eq] at htable
    obtain ⟨⟨hascii, hexpansions⟩, hvalid⟩ := htable
    have hnat : (Char.ofNat (r.counterpart n)).toNat = r.counterpart n :=
      toNat_ofNat (by rw [Nat.isValidChar]; omega)
    constructor
    · refine isLower_of_not_maps (by omega) (fun e he ↦ ?_) fun q hq ↦ ?_
      · have hout := hexpansions e he
        omega
      · rw [hnat]
        exact CaseRun.not_maps_of_apart (apart_lowerRuns r hr q hq) (by omega) hn
    · intro hdot
      rw [hdot] at hnat
      have hsmall : '.'.toNat < 0x80 := by decide
      omega
  · obtain rfl : n = 0x212A := by
      obtain ⟨hge, hle, -⟩ := hn
      omega
    rw [hkelvin]
    decide

theorem isLower_of_ascii : ∀ n < 0x80, IsLower (Char.ofNat n).toLower ∧
    ((Char.ofNat n).toLower = '.' → Char.ofNat n = '.') := by
  decide +kernel

theorem isLower_of_expansion : ∀ e ∈ lowerExpansions, ∀ n ∈ e.2,
    IsLower (Char.ofNat n) ∧ Char.ofNat n ≠ '.' := by
  decide +kernel

theorem isLower_of_mem_lowerChar {c d : Char} (h : d ∈ lowerChar c) :
    IsLower d ∧ (d = '.' → c = '.') := by
  by_cases hascii : c.toNat < 0x80
  · have hc := isLower_of_ascii c.toNat hascii
    rw [lowerChar, if_pos hascii] at h
    rwa [Char.ofNat_toNat, ← List.mem_singleton.mp h] at hc
  · rw [lowerChar, if_neg hascii, mapByTable] at h
    split at h
    · rename_i ns hlookup
      obtain ⟨n, hn, rfl⟩ := List.mem_map.mp h
      obtain ⟨hlower, hdot⟩ :=
        isLower_of_expansion _ (lookup_lowerExpansions_eq_some_iff.mp hlookup) n hn
      exact ⟨hlower, fun heq ↦ absurd heq hdot⟩
    · rename_i hlookup
      obtain rfl := List.mem_singleton.mp h
      rcases shift_cases lowerRuns c.toNat with ⟨r, hr, hmaps, hshift⟩ | ⟨hruns, hshift⟩
      · rw [hshift]
        obtain ⟨hlower, hdot⟩ := isLower_counterpart hr hmaps
        exact ⟨hlower, fun heq ↦ absurd heq hdot⟩
      · rw [hshift, Char.ofNat_toNat]
        refine ⟨isLower_of_not_maps (Nat.le_of_not_lt hascii) (fun e he heq ↦ ?_) hruns, id⟩
        rw [← heq, lookup_lowerExpansions_eq_some_iff.mpr he] at hlookup
        cases hlookup

theorem lowerChar_ne_nil (c : Char) : lowerChar c ≠ [] := by
  rw [lowerChar]
  split
  · exact List.cons_ne_nil _ _
  · rw [mapByTable]
    split
    · rename_i ns hlookup
      have hne : ∀ e ∈ lowerExpansions, e.2 ≠ [] := by decide
      simpa using hne _ (lookup_lowerExpansions_eq_some_iff.mp hlookup)
    · exact List.cons_ne_nil _ _

/-! ## Texts -/

/-- The first character of what is left is in lower case, as `lowerAfter` puts it. -/
theorem lowerAfter_cons (before : List Char) (c : Char) (rest : List Char) :
    ∃ here, lowerAfter before (c :: rest) = here ++ lowerAfter (c :: before) rest ∧ here ≠ [] ∧
      ∀ d ∈ here, IsLower d ∧ (d = '.' → c = '.') := by
  rw [lowerAfter]
  refine ⟨_, rfl, ?_, ?_⟩
  · split
    · split <;> exact List.cons_ne_nil _ _
    · exact lowerChar_ne_nil c
  · split
    · have hfinal : IsLower 'ς' := by decide +kernel
      have hsmall : IsLower 'σ' := by decide +kernel
      split
      · exact List.forall_mem_singleton.mpr ⟨hfinal, fun hdot ↦ absurd hdot (by decide)⟩
      · exact List.forall_mem_singleton.mpr ⟨hsmall, fun hdot ↦ absurd hdot (by decide)⟩
    · exact fun d hd ↦ isLower_of_mem_lowerChar hd

theorem isLower_of_mem_lowerAfter {before cs : List Char} {d : Char}
    (h : d ∈ lowerAfter before cs) : IsLower d ∧ (d = '.' → d ∈ cs) := by
  induction cs generalizing before with
  | nil => cases h
  | cons c cs ih =>
    obtain ⟨here, heq, -, hhere⟩ := lowerAfter_cons before c cs
    rw [heq, List.mem_append] at h
    rcases h with h | h
    · obtain ⟨hlower, hdot⟩ := hhere d h
      exact ⟨hlower, fun hd ↦ by rw [hd, hdot hd]; exact List.mem_cons_self⟩
    · obtain ⟨hlower, hdot⟩ := ih h
      exact ⟨hlower, fun hd ↦ List.mem_cons_of_mem _ (hdot hd)⟩

theorem lowerAfter_of_isLower {cs : List Char} (h : ∀ c ∈ cs, IsLower c) (before : List Char) :
    lowerAfter before cs = cs := by
  induction cs generalizing before with
  | nil => rfl
  | cons c cs ih =>
    obtain ⟨hc, hcs⟩ := List.forall_mem_cons.mp h
    have hsigma : c ≠ 'Σ' := by
      rintro rfl
      exact absurd hc (by decide +kernel)
    rw [lowerAfter, if_neg hsigma, hc, ih hcs]
    rfl

theorem toList_lower (s : String) : (lower s).toList = lowerAfter [] s.toList :=
  String.toList_ofList

/-- **Lower case is final.** -/
@[simp] theorem lower_lower (s : String) : lower (lower s) = lower s := by
  rw [lower, toList_lower, lowerAfter_of_isLower fun c hc ↦ (isLower_of_mem_lowerAfter hc).1]
  rfl

theorem lower_eq_empty_iff {s : String} : lower s = "" ↔ s = "" := by
  constructor
  · intro h
    rw [← String.toList_eq_nil_iff, toList_lower] at h
    rw [← String.toList_eq_nil_iff]
    cases hs : s.toList with
    | nil => rfl
    | cons c cs =>
      obtain ⟨here, heq, hne, -⟩ := lowerAfter_cons [] c cs
      rw [hs, heq] at h
      exact absurd (List.append_eq_nil_iff.mp h).1 hne
  · rintro rfl
    rfl

/-! ## Dots -/

theorem dot_mem_of_mem_lower {s : String} (h : '.' ∈ (lower s).toList) : '.' ∈ s.toList := by
  rw [toList_lower] at h
  exact (isLower_of_mem_lowerAfter h).2 rfl

/-- A dot at the beginning is not the cased character that a final sigma needs before it. -/
theorem nextIsCased_append_dot (before : List Char) :
    nextIsCased (before ++ ['.']) = nextIsCased before := by
  induction before with
  | nil => decide +kernel
  | cons c before ih =>
    rw [nextIsCased, nextIsCased] at ih ⊢
    rw [List.cons_append, List.dropWhile_cons, List.dropWhile_cons]
    by_cases hc : inRanges caseIgnorableRanges c.toNat = true
    · rw [if_pos hc, if_pos hc]
      exact ih
    · rw [if_neg hc, if_neg hc]

theorem lowerAfter_append_dot (before cs : List Char) :
    lowerAfter (before ++ ['.']) cs = lowerAfter before cs := by
  induction cs generalizing before with
  | nil => rfl
  | cons c cs ih =>
    have hrest := ih (c :: before)
    rw [List.cons_append] at hrest
    rw [lowerAfter, lowerAfter, nextIsCased_append_dot, hrest]

/-- **A dot in front of a text does not change its lower case.** -/
theorem lower_dot_append (s : String) : lower ("." ++ s) = "." ++ lower s := by
  have hdot : lowerAfter [] ('.' :: s.toList) = '.' :: lowerAfter [] s.toList := by
    rw [lowerAfter, ← lowerAfter_append_dot [] s.toList]
    rfl
  rw [← String.toList_inj, toList_lower, String.toList_append, String.toList_append, toList_lower]
  exact hdot

/-- A capital sigma at the end of an extension becomes a final one, with and without the dot. -/
example : lower ".ΟΔΟΣ" = ".οδος" ∧ lower "ΟΔΟΣ" = "οδος" ∧ lower ".Σ" = ".σ" := by
  decide +kernel

end PromptLibrary.Text
