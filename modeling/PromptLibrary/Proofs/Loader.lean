import PromptLibrary.Loader
import PromptLibrary.Proofs.Entries
import PromptLibrary.Proofs.Path
import PromptLibrary.Proofs.Text.Case

/-!
# Finding the loader of a file

A loader is registered under an extension as it is written, and found by the extension of a path.
The two meet at the normalized extension. On the way to it the extension of a path is put in lower
case twice, before and after it gets its dot, a registered one only once, with or without a dot; the
result is the same since lower case is final and does not look at a dot in front
(`normalizeExtension_eq_extensionKey_iff`).

So a registry is what its registrations say: the last one whose extension has the key of a path
serves the path (`LoaderRegistry.get?_extensionKey_ofPairs`).
-/

namespace PromptLibrary

open Text

/-! ## Normalized extensions -/

theorem normalizeExtension_of_dot {s : String} (h : ['.'] <+: (lower s).toList) :
    normalizeExtension s = lower s := by
  have hdot : (lower s).startsWith "." = true := String.startsWith_string_iff.mpr h
  rw [normalizeExtension, hdot, Bool.or_true, if_pos rfl]

theorem normalizeExtension_of_no_dot {s : String} (hne : s ≠ "")
    (h : ¬['.'] <+: (lower s).toList) : normalizeExtension s = "." ++ lower s := by
  have hdot : (lower s).startsWith "." = false := String.startsWith_string_eq_false_iff.mpr h
  have hlower : lower s ≠ "" := fun hempty ↦ hne (lower_eq_empty_iff.mp hempty)
  rw [normalizeExtension, hdot, Bool.or_false, if_neg (by simpa using hlower)]

theorem normalizeExtension_eq_empty_iff {s : String} : normalizeExtension s = "" ↔ s = "" := by
  constructor
  · intro h
    by_contra hne
    by_cases hdot : ['.'] <+: (lower s).toList
    · rw [normalizeExtension_of_dot hdot, lower_eq_empty_iff] at h
      exact hne h
    · rw [normalizeExtension_of_no_dot hne hdot] at h
      have hchars := congrArg String.toList h
      simp at hchars
  · rintro rfl
    rfl

theorem normalizeExtension_dot_lower (e : String) :
    normalizeExtension ("." ++ lower e) = "." ++ lower e := by
  have hlower : lower ("." ++ lower e) = "." ++ lower e := by
    rw [lower_dot_append, lower_lower]
  rw [normalizeExtension_of_dot, hlower]
  rw [hlower, String.toList_append]
  exact List.prefix_append _ _

theorem extensionKey_of_extension {p : Path} {e : String} (h : p.extension = some e) :
    p.extensionKey = "." ++ lower e := by
  rw [Path.extensionKey, h]

theorem extensionKey_of_none {p : Path} (h : p.extension = none) : p.extensionKey = "" := by
  rw [Path.extensionKey, h]

theorem normalizeExtension_extensionKey (p : Path) :
    normalizeExtension p.extensionKey = p.extensionKey := by
  cases h : p.extension with
  | none =>
    rw [extensionKey_of_none h]
    rfl
  | some e =>
    rw [extensionKey_of_extension h]
    exact normalizeExtension_dot_lower e

/-- **The extensions that have the key of a path** are those with the lower case of the path's own
extension, without or with its dot. -/
theorem normalizeExtension_eq_extensionKey_iff {p : Path} {e : String} (h : p.extension = some e)
    (hne : e ≠ "") (s : String) :
    normalizeExtension s = p.extensionKey ↔ lower s = lower e ∨ lower s = lower ("." ++ e) := by
  have hlower : lower e ≠ "" := fun hempty ↦ hne (lower_eq_empty_iff.mp hempty)
  -- the extension of a path has no dot of its own
  have hnodot : ¬['.'] <+: (lower e).toList := by
    intro hprefix
    have hmem := hprefix.subset List.mem_cons_self
    exact Path.dot_notMem_of_extension h (dot_mem_of_mem_lower hmem)
  rw [extensionKey_of_extension h, lower_dot_append]
  constructor
  · intro hkey
    by_cases hdot : ['.'] <+: (lower s).toList
    · rw [normalizeExtension_of_dot hdot] at hkey
      exact .inr hkey
    · have hs : s ≠ "" := by
        rintro rfl
        have hchars := congrArg String.toList hkey
        rw [normalizeExtension_eq_empty_iff.mpr rfl] at hchars
        simp at hchars
      rw [normalizeExtension_of_no_dot hs hdot, String.append_right_inj] at hkey
      exact .inl hkey
  · rintro (hs | hs)
    · have hsne : s ≠ "" := by
        rintro rfl
        exact hlower hs.symm
      rw [normalizeExtension_of_no_dot hsne (by rwa [hs]), hs]
    · rw [normalizeExtension_of_dot, hs]
      rw [hs, String.toList_append]
      exact List.prefix_append _ _

namespace LoaderRegistry

/-! ## Registries -/

@[simp] theorem get?_register (r : LoaderRegistry) (s : String) (l : Loader) (t : String) :
    (r.register s l).get? t =
      if normalizeExtension s = normalizeExtension t then some l else r.get? t := by
  rw [register, get?, Entries.get?_insert, get?]
  simp only [beq_iff_eq]

theorem loaders_ofPairs (ps : List (String × Loader)) :
    (ofPairs ps).loaders = Entries.ofPairs (ps.map fun q ↦ (normalizeExtension q.1, q.2)) := by
  rw [ofPairs, Entries.ofPairs]
  induction ps using List.reverseRecOn with
  | nil => rfl
  | append_singleton ps q ih =>
    rw [List.map_append, List.foldl_append, List.foldl_append, ← ih]
    rfl

theorem get?_ofPairs_eq_find? (ps : List (String × Loader)) (s : String) :
    (ofPairs ps).get? s =
      (ps.reverse.find? fun q ↦ normalizeExtension q.1 == normalizeExtension s).map (·.2) := by
  rw [get?, loaders_ofPairs, Entries.get?_ofPairs_eq_find?, ← List.map_reverse, List.find?_map,
    Option.map_map]
  rfl

theorem mem_extensions_ofPairs {ps : List (String × Loader)} {k : String} :
    k ∈ (ofPairs ps).extensions ↔ ∃ q ∈ ps, normalizeExtension q.1 = k := by
  rw [extensions, List.mem_mergeSort, loaders_ofPairs, Entries.mem_keys_ofPairs]
  simp only [List.mem_map, exists_exists_and_eq_and]

theorem pairwise_extensions_ofPairs (ps : List (String × Loader)) :
    (ofPairs ps).extensions.Pairwise (· < ·) := by
  have hsorted : (ofPairs ps).extensions.Pairwise (· ≤ ·) := by
    have hpairwise : (ofPairs ps).extensions.Pairwise fun a b ↦ decide (a ≤ b) = true :=
      List.pairwise_mergeSort
        (fun a b c hab hbc ↦ by
          simp only [decide_eq_true_eq] at hab hbc ⊢
          exact String.le_trans hab hbc)
        (fun a b ↦ by
          simp only [Bool.or_eq_true, decide_eq_true_eq]
          exact String.le_total a b)
        _
    simpa only [decide_eq_true_eq] using hpairwise
  have hdistinct : (ofPairs ps).extensions.Nodup := by
    rw [extensions, (List.mergeSort_perm _ _).nodup_iff, loaders_ofPairs]
    exact Entries.nodup_keys_ofPairs _
  exact hsorted.imp₂ (fun _ _ hle hne ↦ String.not_le.mp fun hle' ↦
    hne (String.le_antisymm hle hle')) hdistinct

/-- **A registry serves a path as its registrations say.** The loader of a path is that of the last
registration under an extension that has the path's key. One more registration takes the paths whose
extension it names, in any case and with or without the dot, and leaves the loaders of all others. A
path without extension is served by the registrations under the empty text only. Every key is listed
once, in ascending order. -/
theorem get?_extensionKey_ofPairs (ps : List (String × Loader)) :
    (∀ p : Path, (ofPairs ps).get? p.extensionKey =
      (ps.reverse.find? fun q ↦ normalizeExtension q.1 == p.extensionKey).map (·.2)) ∧
    (∀ (p : Path) (e : String), p.extension = some e → e ≠ "" → ∀ (s : String) (l : Loader),
      ((ofPairs ps).register s l).get? p.extensionKey =
        if lower s = lower e ∨ lower s = lower ("." ++ e) then some l
        else (ofPairs ps).get? p.extensionKey) ∧
    (∀ p : Path, p.extension = none →
      (ofPairs ps).get? p.extensionKey = (ps.reverse.find? fun q ↦ q.1 == "").map (·.2)) ∧
    (ofPairs ps).extensions.Pairwise (· < ·) ∧
    ∀ k, k ∈ (ofPairs ps).extensions ↔ ∃ q ∈ ps, normalizeExtension q.1 = k := by
  have hfound : ∀ p : Path, (ofPairs ps).get? p.extensionKey =
      (ps.reverse.find? fun q ↦ normalizeExtension q.1 == p.extensionKey).map (·.2) := fun p ↦ by
    rw [get?_ofPairs_eq_find?, normalizeExtension_extensionKey]
  refine ⟨hfound, ?_, ?_, pairwise_extensions_ofPairs ps, fun _ ↦ mem_extensions_ofPairs⟩
  · intro p e he hne s l
    simp only [get?_register, normalizeExtension_extensionKey,
      normalizeExtension_eq_extensionKey_iff he hne]
  · intro p hp
    have hkey : ∀ q : String × Loader, (normalizeExtension q.1 == "") = (q.1 == "") := fun q ↦ by
      rw [Bool.eq_iff_iff, beq_iff_eq, beq_iff_eq, normalizeExtension_eq_empty_iff]
    rw [hfound, extensionKey_of_none hp]
    simp only [hkey]

/-- A capital sigma at the end of an extension is a final one in lower case, also behind the dot
that the last registration has. A registration with the other small sigma is for other paths. -/
theorem get?_extensionKey_ofPairs_final_sigma :
    let ps := [("txt", Loader.plain), ("οδος", .plain), (".ΟΔΟΣ", .json)]
    let p : Path := ⟨"notes/a.ΟΔΟΣ"⟩
    p.extension = some "ΟΔΟΣ" ∧
      (ofPairs ps).get? p.extensionKey = some .json ∧
      (∀ l, ((ofPairs ps).register "Οδος" l).get? p.extensionKey = some l) ∧
      (∀ l, ((ofPairs ps).register "οδοσ" l).get? p.extensionKey = some .json) ∧
      (ofPairs ps).extensions.Pairwise (· < ·) := by
  intro ps p
  obtain ⟨hfound, hregister, -, hsorted, -⟩ := get?_extensionKey_ofPairs ps
  have hp : p.extension = some "ΟΔΟΣ" := by decide +kernel
  have hkey : (normalizeExtension ".ΟΔΟΣ" == p.extensionKey) = true := by decide +kernel
  have hjson : (ofPairs ps).get? p.extensionKey = some .json := by
    rw [hfound, show ps.reverse = (".ΟΔΟΣ", .json) :: [("οδος", .plain), ("txt", .plain)] from rfl,
      List.find?_cons, hkey]
    rfl
  refine ⟨hp, hjson, fun l ↦ ?_, fun l ↦ ?_, hsorted⟩
  · rw [hregister p "ΟΔΟΣ" hp (by decide), if_pos (by decide +kernel)]
  · rw [hregister p "ΟΔΟΣ" hp (by decide), if_neg (by decide +kernel), hjson]

/-- A loader of the user's own is found in any case of its extension. -/
example : ((({} : LoaderRegistry).register "Upper" .upper).get? ".uPPer").map
    (fun l ↦ l.load ⟨"note.upper"⟩ (some "shout")) = some (some "SHOUT") := by
  decide +kernel

end LoaderRegistry

end PromptLibrary
