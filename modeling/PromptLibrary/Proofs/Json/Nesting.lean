import PromptLibrary.Proofs.Json.RoundTrip

/-!
# What is read is not nested deeper than the budget

The nesting budget of a decoder is a bound on what it gives. It is also the only reason for which
the document of a value can be refused: the decoder that reads the document back has spent one unit
for every container on the way to a leaf.
-/

namespace PromptLibrary.Json.Document

/-! ## Values that were read -/

mutual

theorem depth_le_of_toJson? : ∀ (budget : Nat) (d : Document) (v : Json),
    toJson? budget d = some v → v.depth ≤ budget
  | _, .null, v, h => by
    rw [toJson?] at h
    obtain rfl := Option.some.inj h
    exact Nat.zero_le _
  | _, .bool b, v, h => by
    rw [toJson?] at h
    obtain rfl := Option.some.inj h
    exact Nat.zero_le _
  | _, .number n, v, h => by
    rw [toJson?] at h
    obtain ⟨x, -, rfl⟩ := Option.map_eq_some_iff.mp h
    exact Nat.zero_le _
  | _, .string ps, v, h => by
    rw [toJson?] at h
    obtain ⟨s, -, rfl⟩ := Option.map_eq_some_iff.mp h
    exact Nat.zero_le _
  | 0, .array ds, v, h => by
    rw [toJson?] at h
    cases h
  | budget + 1, .array ds, v, h => by
    rw [toJson?] at h
    obtain ⟨vs, hvs, rfl⟩ := Option.map_eq_some_iff.mp h
    exact Nat.succ_le_succ (depthItems_le_of_toJsonItems? budget ds vs hvs)
  | 0, .object ms, v, h => by
    rw [toJson?] at h
    cases h
  | budget + 1, .object ms, v, h => by
    rw [toJson?] at h
    obtain ⟨es, hes, rfl⟩ := Option.map_eq_some_iff.mp h
    have hmembers := depth_le_of_toJsonMembers? budget ms es hes
    refine Nat.succ_le_succ (depthEntries_le_iff.mpr fun e he ↦ ?_)
    obtain ⟨p, hp, heq⟩ := Entries.mem_ofPairs he
    rw [heq]
    exact hmembers p hp

theorem depthItems_le_of_toJsonItems? : ∀ (budget : Nat) (ds : List Document) (vs : List Json),
    toJsonItems? budget ds = some vs → depthItems vs ≤ budget
  | _, [], vs, h => by
    rw [toJsonItems?] at h
    obtain rfl := Option.some.inj h
    exact Nat.zero_le _
  | budget, d :: ds, vs, h => by
    rw [toJsonItems?] at h
    obtain ⟨v, hv, h⟩ := Option.bind_eq_some_iff.mp h
    obtain ⟨ws, hws, h⟩ := Option.bind_eq_some_iff.mp h
    obtain rfl := Option.some.inj h
    exact Nat.max_le.mpr
      ⟨depth_le_of_toJson? budget d v hv, depthItems_le_of_toJsonItems? budget ds ws hws⟩

theorem depth_le_of_toJsonMembers? : ∀ (budget : Nat) (ms : List (List Piece × Document))
    (es : List (String × Json)), toJsonMembers? budget ms = some es → ∀ e ∈ es, e.2.depth ≤ budget
  | _, [], es, h => by
    rw [toJsonMembers?] at h
    obtain rfl := Option.some.inj h
    exact fun _ h ↦ absurd h List.not_mem_nil
  | budget, m :: ms, es, h => by
    rw [toJsonMembers?] at h
    obtain ⟨k, -, h⟩ := Option.bind_eq_some_iff.mp h
    obtain ⟨v, hv, h⟩ := Option.bind_eq_some_iff.mp h
    obtain ⟨fs, hfs, h⟩ := Option.bind_eq_some_iff.mp h
    obtain rfl := Option.some.inj h
    exact List.forall_mem_cons.mpr ⟨depth_le_of_toJson? budget m.2 v hv,
      depth_le_of_toJsonMembers? budget ms fs hfs⟩

end

/-! ## Values that were written -/

mutual

/-- A document that is read back was not nested deeper than the budget. -/
theorem depth_le_of_toJson?_document : ∀ (budget : Nat) (v w : Json),
    toJson? budget (document v) = some w → v.depth ≤ budget
  | _, .null, _, _ => Nat.zero_le _
  | _, .bool _, _, _ => Nat.zero_le _
  | _, .number _, _, _ => Nat.zero_le _
  | _, .string _, _, _ => Nat.zero_le _
  | 0, .array vs, w, h => by
    rw [document, toJson?] at h
    cases h
  | budget + 1, .array vs, w, h => by
    rw [document, toJson?] at h
    obtain ⟨ws, hws, -⟩ := Option.map_eq_some_iff.mp h
    exact Nat.succ_le_succ (depthItems_le_of_toJsonItems?_documents budget vs ws hws)
  | 0, .object es, w, h => by
    rw [document, toJson?] at h
    cases h
  | budget + 1, .object es, w, h => by
    rw [document, toJson?] at h
    obtain ⟨fs, hfs, -⟩ := Option.map_eq_some_iff.mp h
    exact Nat.succ_le_succ (depthEntries_le_of_toJsonMembers?_members budget es fs hfs)

theorem depthItems_le_of_toJsonItems?_documents : ∀ (budget : Nat) (vs ws : List Json),
    toJsonItems? budget (documents vs) = some ws → depthItems vs ≤ budget
  | _, [], _, _ => Nat.zero_le _
  | budget, v :: vs, ws, h => by
    rw [documents, toJsonItems?] at h
    obtain ⟨x, hx, h⟩ := Option.bind_eq_some_iff.mp h
    obtain ⟨xs, hxs, -⟩ := Option.bind_eq_some_iff.mp h
    exact Nat.max_le.mpr ⟨depth_le_of_toJson?_document budget v x hx,
      depthItems_le_of_toJsonItems?_documents budget vs xs hxs⟩

theorem depthEntries_le_of_toJsonMembers?_members : ∀ (budget : Nat) (es fs : List (String × Json)),
    toJsonMembers? budget (members es) = some fs → depthEntries es ≤ budget
  | _, [], _, _ => Nat.zero_le _
  | budget, e :: es, fs, h => by
    rw [members, toJsonMembers?] at h
    obtain ⟨k, -, h⟩ := Option.bind_eq_some_iff.mp h
    obtain ⟨x, hx, h⟩ := Option.bind_eq_some_iff.mp h
    obtain ⟨xs, hxs, -⟩ := Option.bind_eq_some_iff.mp h
    exact Nat.max_le.mpr ⟨depth_le_of_toJson?_document budget e.2 x hx,
      depthEntries_le_of_toJsonMembers?_members budget es xs hxs⟩

end

/-! ## Entries and records -/

theorem forall_of_mapM {α β : Type} {f : α → Option β} {as : List α} {bs : List β}
    (h : as.mapM f = some bs) : ∀ a ∈ as, ∃ b, f a = some b := by
  induction as generalizing bs with
  | nil => exact fun _ ha ↦ absurd ha List.not_mem_nil
  | cons a as ih =>
    rw [List.mapM_cons] at h
    obtain ⟨b, hb, h⟩ := Option.bind_eq_some_iff.mp h
    obtain ⟨cs, hcs, -⟩ := Option.bind_eq_some_iff.mp h
    exact List.forall_mem_cons.mpr ⟨⟨b, hb⟩, ih hcs⟩

theorem members_eq_map (es : List (String × Json)) :
    members es = es.map fun e ↦ (textPieces e.1, document e.2) := by
  induction es with
  | nil => rfl
  | cons e es ih => rw [members, ih, List.map_cons]

theorem of_entries?_document {α : Type} {decode : Nat → Document → Option α} {budget : Nat}
    {es : List (String × Json)} {xs : Entries String α}
    (h : entries? decode budget (document (.object es)) = some xs) :
    ∃ n, n + 1 = budget ∧ ∀ e ∈ es, ∃ x, decode n (document e.2) = some x := by
  cases budget with
  | zero =>
    rw [document, entries?] at h
    · cases h
    · intro _ _ h
      cases h
  | succ n =>
    rw [document, entries?, members_eq_map] at h
    obtain ⟨ps, hps, -⟩ := Option.bind_eq_some_iff.mp h
    refine ⟨n, rfl, fun e he ↦ ?_⟩
    obtain ⟨p, hp⟩ := forall_of_mapM hps _ (List.mem_map_of_mem he)
    obtain ⟨k, -, hp⟩ := Option.bind_eq_some_iff.mp hp
    obtain ⟨x, hx, -⟩ := Option.bind_eq_some_iff.mp hp
    exact ⟨x, hx⟩

theorem budget_of_record? {names : List String} {budget : Nat} {d : Document} {r : Record}
    (h : record? names budget d = some r) : r.budget + 1 = budget := by
  rw [record?.eq_def] at h
  split at h
  · obtain ⟨fields, -, rfl⟩ := Option.map_eq_some_iff.mp h
    rfl
  · split at h
    · obtain rfl := Option.some.inj h
      rfl
    · cases h
  · cases h

end PromptLibrary.Json.Document
