import Mathlib.Data.List.Induction
import Mathlib.Data.List.Nodup
import PromptLibrary.Placeholder.Scan
import PromptLibrary.Proofs.Placeholder.Pattern

/-!
# The names that a scan finds

A scan lists every name once, in the order of first occurrence, so the names are distinct. There are
none exactly if the text has no token.
-/

namespace PromptLibrary.Placeholder

theorem firstOccurrences_eq (names : List String) : firstOccurrences names = names.eraseDups := by
  have hloop : ∀ (names seen : List String),
      names.foldl (fun seen n ↦ if seen.contains n then seen else seen ++ [n]) seen =
        seen ++ (names.filter fun n ↦ !seen.contains n).eraseDups := by
    intro names
    induction names with
    | nil => simp
    | cons name names ih =>
      intro seen
      rw [List.foldl_cons, ih]
      by_cases hseen : name ∈ seen
      · rw [if_pos (List.contains_iff_mem.mpr hseen),
          List.filter_cons_of_neg (by simpa using hseen)]
      · have hfilter : (names.filter fun n ↦ !(seen ++ [name]).contains n) =
            (names.filter fun n ↦ !seen.contains n).filter fun n ↦ !n == name := by
          rw [List.filter_filter]
          congr 1
          funext n
          simp [Bool.and_comm, Bool.beq_eq_decide_eq]
        rw [if_neg fun h ↦ hseen (List.contains_iff_mem.mp h),
          List.filter_cons_of_pos (by simpa using hseen), List.eraseDups_cons, hfilter,
          List.append_assoc, List.singleton_append]
  have hall : names.filter (fun n ↦ !([] : List String).contains n) = names :=
    List.filter_eq_self.mpr fun n _ ↦ rfl
  rw [firstOccurrences, hloop, hall, List.nil_append]

theorem nodup_firstOccurrences (names : List String) : (firstOccurrences names).Nodup := by
  rw [firstOccurrences]
  induction names using List.reverseRecOn with
  | nil => exact List.nodup_nil
  | append_singleton names name ih =>
    rw [List.foldl_append, List.foldl_cons, List.foldl_nil]
    split
    · exact ih
    · rename_i hseen
      rw [List.contains_iff_mem] at hseen
      refine List.nodup_append.mpr ⟨ih, List.nodup_singleton name, ?_⟩
      intro n hn m hm heq
      rw [← List.mem_singleton.mp hm, ← heq] at hseen
      exact hseen hn

namespace Kind

theorem nodup_scan (k : Kind) (text : String) : (k.scan text).Nodup :=
  nodup_firstOccurrences _

theorem scan_eq_nil_iff {k : Kind} {text : String} :
    k.scan text = [] ↔ (Pattern.ofKind k).tokens text.toList = [] := by
  have hnil : ∀ names : List String, names.eraseDups = [] ↔ names = [] := by
    intro names
    cases names with
    | nil => simp
    | cons name names => simp [List.eraseDups_cons]
  rw [scan, firstOccurrences_eq, hnil, List.map_eq_nil_iff]

end Kind

end PromptLibrary.Placeholder
