import PromptLibrary.Json.Decode
import PromptLibrary.Proofs.Entries

/-!
# What is read is well-formed

Every value that is read from a document is well-formed: an integer that does not fit into 64 bits
has become a float, and of a repeated key one entry is left. So well-formedness need not be asked of
a value that came from a text (`Json.wellFormed_of_parse?`).
-/

namespace PromptLibrary.Json

/-! ## Objects -/

theorem wellFormedEntries_iff {es : List (String × Json)} :
    WellFormedEntries es ↔ ∀ e ∈ es, e.2.WellFormed := by
  induction es with
  | nil => simp [WellFormedEntries]
  | cons e es ih => rw [WellFormedEntries, ih, List.forall_mem_cons]

theorem wellFormed_object_iff {es : Entries String Json} :
    (object es).WellFormed ↔ (Entries.keys es).Nodup ∧ ∀ e ∈ es, e.2.WellFormed := by
  rw [WellFormed, wellFormedEntries_iff]
  rfl

@[simp] theorem wellFormed_object_nil : (object []).WellFormed :=
  wellFormed_object_iff.mpr ⟨List.nodup_nil, fun _ h ↦ absurd h List.not_mem_nil⟩

theorem wellFormed_object_insert {k : String} {v : Json} {es : Entries String Json}
    (h : (object es).WellFormed) (hv : v.WellFormed) :
    (object (Entries.insert k v es)).WellFormed := by
  obtain ⟨hdistinct, hvalues⟩ := wellFormed_object_iff.mp h
  refine wellFormed_object_iff.mpr ⟨Entries.nodup_keys_insert v hdistinct, fun e he ↦ ?_⟩
  rcases Entries.mem_insert he with heq | he
  · rwa [heq]
  · exact hvalues e he

theorem wellFormed_object_modify {k : String} {f : Json → Json} {es : Entries String Json}
    (h : (object es).WellFormed) (hf : ∀ v, v.WellFormed → (f v).WellFormed) :
    (object (Entries.modify k f es)).WellFormed := by
  obtain ⟨hdistinct, hvalues⟩ := wellFormed_object_iff.mp h
  refine wellFormed_object_iff.mpr ⟨by rwa [Entries.keys_modify], fun e he ↦ ?_⟩
  rcases Entries.mem_modify he with he | ⟨e', he', heq⟩
  · exact hvalues e he
  · rw [heq]
    exact hf _ (hvalues e' he')

theorem wellFormed_object_swapErase {k : String} {es : Entries String Json}
    (h : (object es).WellFormed) : (object (Entries.swapErase k es)).WellFormed := by
  obtain ⟨hdistinct, hvalues⟩ := wellFormed_object_iff.mp h
  exact wellFormed_object_iff.mpr
    ⟨Entries.nodup_keys_swapErase k hdistinct, fun e he ↦ hvalues e (Entries.mem_swapErase he)⟩

theorem wellFormed_object_ofPairs {ps : List (String × Json)} (h : ∀ p ∈ ps, p.2.WellFormed) :
    (object (Entries.ofPairs ps)).WellFormed := by
  refine wellFormed_object_iff.mpr ⟨Entries.nodup_keys_ofPairs ps, fun e he ↦ ?_⟩
  obtain ⟨p, hp, heq⟩ := Entries.mem_ofPairs he
  rw [heq]
  exact h p hp

/-! ## Numbers -/

theorem absorb_lt {s : Nat} (ds : List Nat) (h : s < 1 <<< 64) : (absorb s ds).1 < 1 <<< 64 := by
  induction ds generalizing s with
  | nil => exact h
  | cons d ds ih =>
    rw [absorb]
    dsimp only
    split
    · rename_i hnext
      exact ih hnext
    · exact h

theorem inRange_of_toNumber? {n : Numeral} {x : Number} (h : n.toNumber? = some x) :
    x.InRange := by
  have hfloat : ∀ (y : Option Binary64), y.map Number.float = some x → x.InRange := by
    intro y hy
    obtain ⟨z, -, rfl⟩ := Option.map_eq_some_iff.mp hy
    trivial
  have hlt := absorb_lt (s := 0) n.whole (by decide)
  rw [Numeral.toNumber?] at h
  rcases hs : absorb 0 n.whole with ⟨s, used⟩
  rw [hs] at h hlt
  dsimp only at h hlt
  split at h
  · split at h
    · obtain rfl := Option.some.inj h
      rw [Number.InRange]
      omega
    · split at h
      · rename_i hneg
        obtain rfl := Option.some.inj h
        have hle : s ≤ 1 <<< 63 := by
          simp only [Bool.and_eq_true, decide_eq_true_eq] at hneg
          exact hneg.2
        rw [Number.InRange]
        omega
      · exact hfloat _ h
  · exact hfloat _ h

/-! ## Documents -/

namespace Document

mutual

theorem wellFormed_of_toJson? : ∀ (budget : Nat) (d : Document) (v : Json),
    toJson? budget d = some v → v.WellFormed
  | _, .null, v, h => by
    rw [toJson?] at h
    obtain rfl := Option.some.inj h
    trivial
  | _, .bool b, v, h => by
    rw [toJson?] at h
    obtain rfl := Option.some.inj h
    trivial
  | _, .number n, v, h => by
    rw [toJson?] at h
    obtain ⟨x, hx, rfl⟩ := Option.map_eq_some_iff.mp h
    exact inRange_of_toNumber? hx
  | _, .string ps, v, h => by
    rw [toJson?] at h
    obtain ⟨s, -, rfl⟩ := Option.map_eq_some_iff.mp h
    trivial
  | 0, .array ds, v, h => by
    rw [toJson?] at h
    cases h
  | budget + 1, .array ds, v, h => by
    rw [toJson?] at h
    obtain ⟨vs, hvs, rfl⟩ := Option.map_eq_some_iff.mp h
    exact wellFormedItems_of_toJsonItems? budget ds vs hvs
  | 0, .object ms, v, h => by
    rw [toJson?] at h
    cases h
  | budget + 1, .object ms, v, h => by
    rw [toJson?] at h
    obtain ⟨es, hes, rfl⟩ := Option.map_eq_some_iff.mp h
    exact wellFormed_object_ofPairs (wellFormed_of_toJsonMembers? budget ms es hes)

theorem wellFormedItems_of_toJsonItems? : ∀ (budget : Nat) (ds : List Document) (vs : List Json),
    toJsonItems? budget ds = some vs → WellFormedItems vs
  | _, [], vs, h => by
    rw [toJsonItems?] at h
    obtain rfl := Option.some.inj h
    trivial
  | budget, d :: ds, vs, h => by
    rw [toJsonItems?] at h
    obtain ⟨v, hv, h⟩ := Option.bind_eq_some_iff.mp h
    obtain ⟨ws, hws, h⟩ := Option.bind_eq_some_iff.mp h
    obtain rfl := Option.some.inj h
    exact ⟨wellFormed_of_toJson? budget d v hv, wellFormedItems_of_toJsonItems? budget ds ws hws⟩

theorem wellFormed_of_toJsonMembers? : ∀ (budget : Nat) (ms : List (List Piece × Document))
    (es : List (String × Json)), toJsonMembers? budget ms = some es → ∀ e ∈ es, e.2.WellFormed
  | _, [], es, h => by
    rw [toJsonMembers?] at h
    obtain rfl := Option.some.inj h
    exact fun _ h ↦ absurd h List.not_mem_nil
  | budget, m :: ms, es, h => by
    rw [toJsonMembers?] at h
    obtain ⟨k, -, h⟩ := Option.bind_eq_some_iff.mp h
    obtain ⟨v, hv, h⟩ := Option.bind_eq_some_iff.mp h
    obtain ⟨fs, hfs, h⟩ := Option.bind_eq_some_iff.mp h
    obtain rfl := Option.some.inj h
    exact List.forall_mem_cons.mpr ⟨wellFormed_of_toJson? budget m.2 v hv,
      wellFormed_of_toJsonMembers? budget ms fs hfs⟩

end

theorem exists_of_mapM {α β : Type} {f : α → Option β} {as : List α} {bs : List β}
    (h : as.mapM f = some bs) : ∀ b ∈ bs, ∃ a ∈ as, f a = some b := by
  induction as generalizing bs with
  | nil =>
    obtain rfl := Option.some.inj h
    exact fun _ hb ↦ absurd hb List.not_mem_nil
  | cons a as ih =>
    rw [List.mapM_cons] at h
    obtain ⟨b, hb, h⟩ := Option.bind_eq_some_iff.mp h
    obtain ⟨cs, hcs, h⟩ := Option.bind_eq_some_iff.mp h
    obtain rfl := Option.some.inj h
    refine List.forall_mem_cons.mpr ⟨⟨a, List.mem_cons_self, hb⟩, fun c hc ↦ ?_⟩
    obtain ⟨a', ha', hc'⟩ := ih hcs c hc
    exact ⟨a', List.mem_cons_of_mem _ ha', hc'⟩

/-- Entries with free keys are read with distinct keys, and each value is one that was decoded with
the rest of the budget. -/
theorem of_entries? {α : Type} {decode : Nat → Document → Option α} {budget : Nat} {d : Document}
    {es : Entries String α} (h : entries? decode budget d = some es) :
    (Entries.keys es).Nodup ∧ ∀ e ∈ es, ∃ n d', n + 1 = budget ∧ decode n d' = some e.2 := by
  cases budget with
  | zero => simp [entries?] at h
  | succ budget =>
    cases d with
    | object ms =>
      rw [entries?] at h
      obtain ⟨ps, hps, h⟩ := Option.bind_eq_some_iff.mp h
      obtain rfl := Option.some.inj h
      refine ⟨Entries.nodup_keys_ofPairs ps, fun e he ↦ ?_⟩
      obtain ⟨p, hp, heq⟩ := Entries.mem_ofPairs he
      obtain ⟨m, -, hm⟩ := exists_of_mapM hps p hp
      obtain ⟨k, -, hm⟩ := Option.bind_eq_some_iff.mp hm
      obtain ⟨v, hv, hm⟩ := Option.bind_eq_some_iff.mp hm
      obtain rfl := Option.some.inj hm
      exact ⟨budget, m.2, rfl, by rw [heq, hv]⟩
    | _ => simp [entries?] at h

theorem Record.optional_cases {α : Type} {r : Record} {name : String}
    {decode : Document → Option α} {default a : α} (h : r.optional name decode default = some a) :
    (∃ d, decode d = some a) ∨ a = default := by
  rw [optional] at h
  split at h
  · exact .inl ⟨_, h⟩
  · exact .inr (Option.some.inj h).symm

end Document

/-! ## Texts -/

theorem wellFormed_of_parse? {text : String} {v : Json} (h : parse? text = some v) :
    v.WellFormed := by
  obtain ⟨d, -, hd⟩ := Option.bind_eq_some_iff.mp h
  exact Document.wellFormed_of_toJson? nestingLimit d v hd

end PromptLibrary.Json
