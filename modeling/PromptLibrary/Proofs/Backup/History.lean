import PromptLibrary.Proofs.Backup.Rotation

/-!
# The slots hold the latest generations

A file is written and backed up in any order. What it held is a matter of the events alone
(`History`): its text, and the texts that backups have found in it, the latest first. The slots hold
the beginning of that list, as much of it as there are slots for (`Rotator.slots_run`).

## The invariant

`Rotator.Recorded` says that slot `i + 1` holds entry `i` of the list cut to the number of slots.
Cutting the list in the invariant makes the moment at which the slots are full no special case: the
entry that is cut off is the one in the last slot, which the rotation overwrites.
-/

namespace PromptLibrary

open MemoryStore

/-! ## Events and their history -/

/-- What happens to a guarded file. -/
inductive FileEvent where
  /-- A text is written to it. -/
  | write (text : String)
  /-- It is backed up. -/
  | backup

/-- What there is to say about a file after some events. -/
structure History where
  /-- The text of the file, if there is one. -/
  text : Option String
  /-- The texts that the backups have found, the latest one first. -/
  found : List String := []

namespace History

/-- A write gives the file a text; a backup finds the text that is there. -/
def step (h : History) : FileEvent → History
  | .write text => { h with text := some text }
  | .backup => { h with found := h.text.toList ++ h.found }

/-- The history after some events. -/
def run (events : List FileEvent) (h : History) : History :=
  events.foldl step h

theorem step_backup_of_none {h : History} (htext : h.text = none) : h.step .backup = h := by
  obtain ⟨text, found⟩ := h
  obtain rfl : text = none := htext
  rfl

theorem step_backup_of_some {h : History} {text : String} (htext : h.text = some text) :
    h.step .backup = { h with found := text :: h.found } := by
  simp [step, htext]

end History

namespace Rotator

/-- What an event makes of the files. Its result is not looked at. -/
def react (r : Rotator) (s : MemoryStore) : FileEvent → MemoryStore
  | .write text => (perform (FileStore.write r.path text) s).2
  | .backup => (perform r.backup s).2

/-- What some events make of the files. -/
def run (r : Rotator) (events : List FileEvent) (s : MemoryStore) : MemoryStore :=
  events.foldl r.react s

/-! ## The invariant -/

/-- The files are those of a history, and nothing stands in the way of a backup. -/
structure Recorded (r : Rotator) (h : History) (s : MemoryStore) : Prop where
  /-- No change is refused. -/
  failing : s.failing = []
  /-- No slot is a directory. -/
  dirs : ∀ i, s.dirs.any (· == r.slot (i + 1)) = false
  /-- The slots hold the latest texts that were found. -/
  slots : ∀ i, s.get? (r.slot (i + 1)) = (h.found.take r.generations)[i]?
  /-- The file has its text. -/
  text : s.get? r.path = h.text
  /-- If the file has no text, there is nothing in its place. -/
  has : s.has r.path = h.text.isSome

theorem Recorded.refuses {r : Rotator} {h : History} {s : MemoryStore} (hs : Recorded r h s)
    (p : Path) : s.refuses p = false := by
  rw [MemoryStore.refuses, hs.failing]
  rfl

theorem Recorded.unobstructed {r : Rotator} {h : History} {s : MemoryStore}
    (hs : Recorded r h s) : s.Unobstructed r.slots := by
  intro p hp
  obtain ⟨i, -, rfl⟩ := List.mem_map.mp hp
  exact ⟨hs.refuses _, hs.dirs _⟩

theorem Recorded.write {r : Rotator} {h : History} {s : MemoryStore}
    (hr : ∀ i, (r.slot (i + 1) == r.path) = false) (hs : Recorded r h s) (text : String) :
    Recorded r (h.step (.write text)) (r.react s (.write text)) := by
  obtain ⟨t, ht, hget⟩ := write_spec text (hs.refuses r.path)
  have hdirs : ∀ i, t.dirs.any (· == r.slot i) = s.dirs.any (· == r.slot i) := by
    intro i
    have hparent : ∀ d, r.path.parent = some d → (d == r.slot i) = false :=
      fun _ hd ↦ parent_ne_slot hd i
    have hwrite := dirs_write (s := s) text hparent
    rwa [ht] at hwrite
  have hfailing : t.failing = s.failing := by
    have hwrite := failing_write s r.path text
    rwa [ht] at hwrite
  have hfile : t.get? r.path = some text := by rw [hget, if_pos BEq.rfl]
  rw [react, perform_write, ht]
  refine ⟨hfailing.trans hs.failing, fun i ↦ (hdirs (i + 1)).trans (hs.dirs i), fun i ↦ ?_, hfile,
    has_of_get? hfile⟩
  rw [hget, if_neg (by rw [BEq.comm, hr i]; simp)]
  exact hs.slots i

theorem Recorded.backup_some {r : Rotator} {h : History} {s : MemoryStore}
    (hr : ∀ i, (r.slot (i + 1) == r.path) = false) (hs : Recorded r h s) {text : String}
    (htext : h.text = some text) :
    Recorded r { h with found := text :: h.found } (perform r.backup s).2 := by
  have hapart : r.Apart := by
    intro p hp
    obtain ⟨i, -, rfl⟩ := List.mem_map.mp hp
    exact hr i
  have hpos := r.generations_pos
  have hframe := (backed_backup hapart s).frame
  obtain ⟨t, u, hu, hrotated, hcopied, hfirst⟩ :=
    rotated_backup hapart hs.unobstructed (hs.text.trans htext)
  rw [hu] at hframe ⊢
  refine ⟨hframe.failing.trans hs.failing, fun i ↦ ?_, fun i ↦ ?_, ?_, ?_⟩
  · rw [hframe.dirs]
    exact hs.dirs i
  · cases i with
    | zero =>
      rw [hfirst, List.getElem?_take_of_lt hpos]
      rfl
    | succ i =>
      -- the copy names the first slot only, so the others are as the rotation left them
      have hu : u.get? (r.slot (i + 2)) = t.get? (r.slot (i + 2)) :=
        get?_slot_of_copied hcopied (by omega)
      rw [hu]
      by_cases hlast : i + 1 < r.generations
      · have hold := hs.slots i
        rw [List.getElem?_take_of_lt (by omega)] at hold
        rw [List.getElem?_take_of_lt hlast, List.getElem?_cons_succ]
        cases hfound : h.found[i]? with
        | some text' => exact hrotated.moved i (by omega) text' (hold.trans hfound)
        | none =>
          have hnext : s.get? (r.slot (i + 2)) = none := by
            rw [hs.slots (i + 1), List.getElem?_eq_none_iff, List.length_take]
            have hlength := List.getElem?_eq_none_iff.mp hfound
            omega
          rw [hrotated.kept (i + 1) (.inr (.inr (hold.trans hfound))) (.inr hnext), hnext]
      · have hnone : ∀ xs : List String, (xs.take r.generations)[i + 1]? = none := by
          intro xs
          rw [List.getElem?_eq_none_iff, List.length_take]
          omega
        rw [hrotated.kept (i + 1) (.inr (.inl (by omega))) (.inl (by omega)), hs.slots (i + 1),
          hnone, hnone]
  · rw [hframe.files _ hapart]
    exact hs.text
  · rw [hframe.has_eq hapart]
    exact hs.has

/-- **One event** keeps the slots in step with the history. -/
theorem Recorded.react {r : Rotator} {h : History} {s : MemoryStore}
    (hr : ∀ i, (r.slot (i + 1) == r.path) = false) (hs : Recorded r h s) (e : FileEvent) :
    Recorded r (h.step e) (r.react s e) := by
  cases e with
  | write text => exact hs.write hr text
  | backup =>
    rw [Rotator.react]
    cases htext : h.text with
    | none =>
      have hhas : s.has r.path = false := by rw [hs.has, htext]; rfl
      rw [perform_backup, if_neg (by simp [hhas]), History.step_backup_of_none htext]
      exact hs
    | some text =>
      rw [History.step_backup_of_some htext]
      exact hs.backup_some hr htext

theorem Recorded.run {r : Rotator} {events : List FileEvent} {h : History} {s : MemoryStore}
    (hr : ∀ i, (r.slot (i + 1) == r.path) = false) (hs : Recorded r h s) :
    Recorded r (History.run events h) (r.run events s) := by
  induction events generalizing h s with
  | nil => exact hs
  | cons e events ih => exact ih (hs.react hr e)

/-- **The slots hold the latest generations.** After any writes and backups, the slots up to the
number of backups that found the file, but no more than there are slots, hold the texts that the
file had at the latest of them. Further slots do not exist, and the file holds what was written
last. -/
theorem slots_run (r : Rotator) (events : List FileEvent) (s : MemoryStore)
    (hpath : ∀ i, 1 ≤ i → (r.slot i == r.path) = false)
    (hfile : s.has r.path = true → (s.get? r.path).isSome = true)
    (hslots : ∀ i, 1 ≤ i → s.has (r.slot i) = false) (hfailing : s.failing = []) :
    let t := r.run events s
    let h := History.run events { text := s.get? r.path }
    let count := min h.found.length (max r.limit 1)
    (∀ i, 1 ≤ i → i ≤ count → ∃ text, h.found[i - 1]? = some text ∧
      t.get? (r.slot i) = some text) ∧
    (∀ i, count < i → t.has (r.slot i) = false) ∧
    t.get? r.path = h.text ∧ t.has r.path = h.text.isSome := by
  intro t h count
  have hslots' : ∀ i,
      s.get? (r.slot (i + 1)) = none ∧ s.dirs.any (· == r.slot (i + 1)) = false := by
    intro i
    have hhas := hslots (i + 1) (by omega)
    rw [has_eq, Bool.or_eq_false_iff, Option.isSome_eq_false_iff, Option.isNone_iff_eq_none] at hhas
    exact hhas
  have hstart : Recorded r { text := s.get? r.path } s := by
    refine ⟨hfailing, fun i ↦ (hslots' i).2, fun i ↦ ?_, rfl, ?_⟩
    · rw [(hslots' i).1, List.take_nil]
      rfl
    · cases htext : s.get? r.path with
      | some text => exact has_of_get? htext
      | none =>
        rw [htext] at hfile
        exact Bool.eq_false_iff.mpr fun hhas ↦ absurd (hfile hhas) nofun
  have hr : ∀ i, (r.slot (i + 1) == r.path) = false := fun i ↦ hpath (i + 1) (by omega)
  have hend : Recorded r h t := hstart.run hr
  refine ⟨fun i hi hcount ↦ ?_, fun i hi ↦ ?_, hend.text, hend.has⟩
  · obtain ⟨i, rfl⟩ : ∃ j, i = j + 1 := ⟨i - 1, by omega⟩
    have hlt : i < h.found.length := by omega
    have hgenerations : i < r.generations := by rw [generations]; omega
    refine ⟨h.found[i], List.getElem?_eq_getElem hlt, ?_⟩
    rw [hend.slots i, List.getElem?_take_of_lt hgenerations, List.getElem?_eq_getElem hlt]
  · obtain ⟨i, rfl⟩ : ∃ j, i = j + 1 := ⟨i - 1, by omega⟩
    have hnone : (h.found.take r.generations)[i]? = none := by
      rw [List.getElem?_eq_none_iff, List.length_take, generations]
      omega
    rw [has_eq, hend.slots i, hnone, hend.dirs i]
    rfl

/-- The third generation falls off the end of a row of two. The first backup finds no file. -/
theorem slots_run_full :
    let r : Rotator := ⟨⟨"/data/prompts.v2.json"⟩, 2⟩
    let t := r.run [.backup, .write "A", .backup, .write "B", .backup, .write "C", .backup,
      .write "D"] {}
    t.get? (r.slot 1) = some "C" ∧ t.get? (r.slot 2) = some "B" ∧ t.has (r.slot 3) = false ∧
      t.get? r.path = some "D" := by
  intro r t
  have hpath : ∀ i, 1 ≤ i → (r.slot i == r.path) = false := by
    intro i _
    have hcomponents : r.path.components =
        [.root, .name "data", .name "prompts.v2.json"] := by decide +kernel
    have hparent : (r.path.parent.getD ⟨""⟩).components = [.root, .name "data"] := by
      decide +kernel
    have hstem : (r.path.stem.getD "").toList = "prompts.v2".toList := by decide +kernel
    rw [Bool.eq_false_iff, ne_eq, Path.beq_iff, components_slot, hcomponents, hparent]
    intro h
    -- the dot of the file's stem is an underscore in the name of a slot
    have hname : r.slotName i = "prompts.v2.json" := by simpa using h
    have hchar : (r.slotName i).toList[7]? = some '.' := congrArg (·.toList[7]?) hname
    rw [toList_slotName, hstem] at hchar
    simp at hchar
  have hslots : ∀ i, 1 ≤ i → ({} : MemoryStore).has (r.slot i) = false := fun _ _ ↦ rfl
  obtain ⟨hheld, habsent, htext, -⟩ := slots_run r [.backup, .write "A", .backup, .write "B",
    .backup, .write "C", .backup, .write "D"] {} hpath nofun hslots rfl
  obtain ⟨text₁, h₁, hslot₁⟩ := hheld 1 (by decide) (by decide)
  obtain ⟨text₂, h₂, hslot₂⟩ := hheld 2 (by decide) (by decide)
  obtain rfl : "C" = text₁ := Option.some.inj h₁
  obtain rfl : "B" = text₂ := Option.some.inj h₂
  exact ⟨hslot₁, hslot₂, habsent 3 (by decide), htext⟩

end Rotator

end PromptLibrary
