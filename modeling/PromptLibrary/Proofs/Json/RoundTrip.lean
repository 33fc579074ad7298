import PromptLibrary.Proofs.Json.Spelling

/-!
# Reading back what is written: values

Every well-formed value is read back, in either layout, and nothing but its floats can change
(`Json.reread`). As reading has two steps, so has the proof. `Json.document` is the document that
the printer writes for a value; the reader finds it in the text (`parse?_render`), and decoding it
gives the value that is read back, provided that the value is not nested deeper than the budget
(`toJson?_document`). A value whose numbers are integers comes back as it was (`reread_eq_self`).

## Fuel

The reader recurses with fuel. Twice the length of what is read is enough for a value, and one more
for the items or members of a container, since every level and every item takes at least one
character of the text.
-/

namespace PromptLibrary.Json

open Document

/-! ## Values whose numbers are integers -/

mutual

/-- Every number is an integer, at every level. -/
def Integral : Json → Prop
  | .number (.float _) => False
  | .array vs => IntegralItems vs
  | .object es => IntegralEntries es
  | _ => True

/-- Every number of every item is an integer. -/
def IntegralItems : List Json → Prop
  | [] => True
  | v :: vs => v.Integral ∧ IntegralItems vs

/-- Every number of every entry is an integer. -/
def IntegralEntries : List (String × Json) → Prop
  | [] => True
  | e :: es => e.2.Integral ∧ IntegralEntries es

end

mutual

/-- Whether every number of a value is an integer can be decided. -/
def decideIntegral : (v : Json) → Decidable v.Integral
  | .null => .isTrue trivial
  | .bool _ => .isTrue trivial
  | .number (.integer _) => .isTrue trivial
  | .number (.float _) => .isFalse id
  | .string _ => .isTrue trivial
  | .array vs => decideIntegralItems vs
  | .object es => decideIntegralEntries es

/-- So it can for the items of an array. -/
def decideIntegralItems : (vs : List Json) → Decidable (IntegralItems vs)
  | [] => .isTrue trivial
  | v :: vs => @instDecidableAnd _ _ (decideIntegral v) (decideIntegralItems vs)

/-- So it can for the entries of an object. -/
def decideIntegralEntries : (es : List (String × Json)) → Decidable (IntegralEntries es)
  | [] => .isTrue trivial
  | e :: es => @instDecidableAnd _ _ (decideIntegral e.2) (decideIntegralEntries es)

end

instance (v : Json) : Decidable v.Integral := decideIntegral v

theorem depthEntries_le_iff {es : List (String × Json)} {n : Nat} :
    depthEntries es ≤ n ↔ ∀ e ∈ es, e.2.depth ≤ n := by
  induction es with
  | nil => simp [depthEntries]
  | cons e es ih => rw [depthEntries, Nat.max_le, ih, List.forall_mem_cons]

theorem Integral.exists_integer {n : Number} (h : (Json.number n).Integral) :
    ∃ i, n = .integer i := by
  cases n with
  | integer i => exact ⟨i, rfl⟩
  | float x =>
    rw [Integral] at h
    exact h.elim

/-! ## The document of a value -/

mutual

/-- The document that is written for a value. -/
def document : Json → Document
  | .null => .null
  | .bool b => .bool b
  | .number n => .number n.numeral
  | .string s => .string (textPieces s)
  | .array vs => .array (documents vs)
  | .object es => .object (members es)

/-- The documents of the items of an array. -/
def documents : List Json → List Document
  | [] => []
  | v :: vs => document v :: documents vs

/-- The members of an object. -/
def members : List (String × Json) → List (List Piece × Document)
  | [] => []
  | e :: es => (textPieces e.1, document e.2) :: members es

end

/-! ## Space -/

/-- Nothing but space. -/
def AllSpace (ws : List Char) : Prop :=
  ∀ c ∈ ws, isSpace c = true

theorem allSpace_lineBreak (layout : Layout) (depth : Nat) : AllSpace (layout.lineBreak depth) := by
  cases layout with
  | compact => exact fun _ h ↦ absurd h List.not_mem_nil
  | indented width =>
    rintro c (_ | ⟨_, hc⟩)
    · rfl
    · rw [List.eq_of_mem_replicate hc]
      rfl

theorem allSpace_nil : AllSpace [] := fun _ h ↦ absurd h List.not_mem_nil

theorem skipSpace_append {ws : List Char} (h : AllSpace ws) (cs : List Char) :
    skipSpace (ws ++ cs) = skipSpace cs :=
  List.dropWhile_append_of_pos h

theorem skipSpace_cons {c : Char} (h : isSpace c = false) (cs : List Char) :
    skipSpace (c :: cs) = c :: cs :=
  List.dropWhile_cons_of_neg (by simp [h])

theorem skipSpace_append_cons {ws : List Char} {c : Char} (hws : AllSpace ws)
    (hc : isSpace c = false) (cs : List Char) : skipSpace (ws ++ c :: cs) = c :: cs := by
  rw [skipSpace_append hws, skipSpace_cons hc]

theorem readValue_append {ws : List Char} (h : AllSpace ws) (fuel : Nat) (cs : List Char) :
    readValue fuel (ws ++ cs) = readValue fuel cs := by
  cases fuel with
  | zero => rfl
  | succ fuel => rw [readValue, readValue, skipSpace_append h]

theorem readMembers_append {ws : List Char} (h : AllSpace ws) (fuel : Nat) (cs : List Char) :
    readMembers fuel (ws ++ cs) = readMembers fuel cs := by
  cases fuel with
  | zero => rfl
  | succ fuel => rw [readMembers, readMembers, skipSpace_append h]

theorem readItems_append {ws : List Char} (h : AllSpace ws) (fuel : Nat) (cs : List Char) :
    readItems fuel (ws ++ cs) = readItems fuel cs := by
  cases fuel with
  | zero => rfl
  | succ fuel => rw [readItems, readItems, readValue_append h]

/-- What separates or closes the parts of a container cannot extend a numeral, and neither can the
space before it. -/
theorem endsNumeral_append {ws rest : List Char} {c : Char} (hws : AllSpace ws)
    (hc : c ∈ [',', ']', '\x7d']) : EndsNumeral (ws ++ c :: rest) := by
  have hclose : ∀ c ∈ [',', ']', '\x7d'],
      c.isDigit = false ∧ c ≠ '.' ∧ c ≠ 'e' ∧ c ≠ 'E' := by
    rintro c (_ | ⟨_, _ | ⟨_, _ | ⟨_, ⟨⟩⟩⟩⟩) <;> decide
  cases ws with
  | nil =>
    rintro d ⟨⟩
    exact hclose c hc
  | cons w ws =>
    rintro d ⟨⟩
    have hw := hws w List.mem_cons_self
    simp only [isSpace, Bool.or_eq_true, beq_iff_eq] at hw
    rcases hw with ((rfl | rfl) | rfl) | rfl <;> decide

/-! ## Reading values -/

theorem numeral_head_ne {c : Char} (h : c = '-' ∨ c.isDigit = true) :
    isSpace c = false ∧ c ∉ ['n', 't', 'f', '"', '[', ']', '\x7b', '\x7d'] := by
  rcases h with rfl | h
  · decide
  · constructor
    · rw [isSpace]
      simp only [Bool.or_eq_false_iff, beq_eq_false_iff_ne]
      refine ⟨⟨⟨?_, ?_⟩, ?_⟩, ?_⟩ <;> rintro rfl <;> revert h <;> decide
    · intro hmem
      simp only [List.mem_cons, List.not_mem_nil, or_false] at hmem
      rcases hmem with rfl | rfl | rfl | rfl | rfl | rfl | rfl | rfl <;> revert h <;> decide

theorem exists_render_eq_cons (layout : Layout) (depth : Nat) (v : Json) :
    ∃ c cs, render layout depth v = c :: cs ∧ isSpace c = false ∧ c ≠ ']' := by
  cases v with
  | null => exact ⟨_, _, rfl, rfl, by decide⟩
  | bool b => cases b <;> exact ⟨_, _, rfl, rfl, by decide⟩
  | number n =>
    obtain ⟨c, cs, hcs, hc⟩ := n.exists_text_eq_cons
    obtain ⟨hspace, hne⟩ := numeral_head_ne hc
    refine ⟨c, cs, hcs, hspace, ?_⟩
    rintro rfl
    exact hne (by decide)
  | string s => exact ⟨_, _, rfl, rfl, by decide⟩
  | array vs => cases vs <;> exact ⟨_, _, rfl, rfl, by decide⟩
  | object es => cases es <;> exact ⟨_, _, rfl, rfl, by decide⟩

theorem exists_fuel {layout : Layout} {depth : Nat} {v : Json} {fuel : Nat}
    (h : 2 * (render layout depth v).length ≤ fuel) : ∃ n, fuel = n + 1 := by
  obtain ⟨c, cs, hcs, -⟩ := exists_render_eq_cons layout depth v
  rw [hcs, List.length_cons] at h
  exact ⟨fuel - 1, by omega⟩

theorem readValue_number (n : Number) {rest : List Char} (hrest : EndsNumeral rest) (fuel : Nat) :
    readValue (fuel + 1) (n.text ++ rest) = some (.number n.numeral, rest) := by
  have hread := n.readNumeral_text hrest
  obtain ⟨c, cs, hcs, hc⟩ := n.exists_text_eq_cons
  obtain ⟨hspace, hne⟩ := numeral_head_ne hc
  simp only [List.mem_cons, List.not_mem_nil, or_false, not_or] at hne
  rw [hcs, List.cons_append] at hread ⊢
  rw [readValue, skipSpace_cons hspace]
  split
  case h_7 =>
    rw [hread]
    rfl
  -- the other cases ask for a first character that begins no numeral
  all_goals
    rename_i h
    exact absurd (List.cons.inj h).1 (by simp [hne])

theorem readValue_string (s : String) (rest : List Char) (fuel : Nat) :
    readValue (fuel + 1) (renderString s ++ rest) = some (.string (textPieces s), rest) := by
  have hread := readPieces_text s rest
  rw [renderString, List.append_assoc, List.cons_append, List.singleton_append, readValue,
    skipSpace_cons rfl]
  simp only [hread]
  rfl

/-- The reader finds the value's document in its text, whatever follows. -/
def ReadsValue (layout : Layout) (depth : Nat) (v : Json) : Prop :=
  ∀ (rest : List Char) (fuel : Nat), EndsNumeral rest →
    2 * (render layout depth v).length ≤ fuel →
    readValue fuel (render layout depth v ++ rest) = some (document v, rest)

/-- The reader finds the documents of some items after a first one. -/
def ReadsItems (layout : Layout) (depth : Nat) (vs : List Json) : Prop :=
  ∀ v, ReadsValue layout depth v → ∀ (ws rest : List Char) (fuel : Nat), AllSpace ws →
    2 * (render layout depth v).length + 2 * (renderItems layout depth vs).length < fuel →
    readItems fuel (render layout depth v ++ (renderItems layout depth vs ++ (ws ++ ']' :: rest))) =
      some (document v :: documents vs, rest)

/-- The reader finds the members for some entries after a first one. -/
def ReadsMembers (layout : Layout) (depth : Nat) (es : List (String × Json)) : Prop :=
  ∀ (k : String) (v : Json), ReadsValue layout depth v →
    ∀ (ws rest : List Char) (fuel : Nat), AllSpace ws →
    2 * (render layout depth v).length + 2 * (renderEntries layout depth es).length < fuel →
    readMembers fuel (renderString k ++ (layout.colon ++ (render layout depth v ++
        (renderEntries layout depth es ++ (ws ++ '\x7d' :: rest))))) =
      some ((textPieces k, document v) :: members es, rest)

theorem readsItems_nil (layout : Layout) (depth : Nat) : ReadsItems layout depth [] := by
  intro v hread ws rest fuel hws hfuel
  obtain ⟨fuel, rfl⟩ : ∃ n, fuel = n + 1 := ⟨fuel - 1, by omega⟩
  have hends : EndsNumeral (ws ++ ']' :: rest) := endsNumeral_append hws (by decide)
  rw [renderItems, List.nil_append, readItems, hread _ fuel hends (by omega)]
  simp only [Option.bind_eq_bind, Option.bind_some, skipSpace_append_cons hws (c := ']') rfl]
  rfl

theorem readsItems_cons {layout : Layout} {depth : Nat} {v : Json} {vs : List Json}
    (hv : ReadsValue layout depth v) (hvs : ReadsItems layout depth vs) :
    ReadsItems layout depth (v :: vs) := by
  intro u hread ws rest fuel hws hfuel
  obtain ⟨fuel, rfl⟩ : ∃ n, fuel = n + 1 := ⟨fuel - 1, by omega⟩
  have hbreak := allSpace_lineBreak layout depth
  rw [renderItems, List.cons_append, List.cons_append, List.cons_append]
  have hends : ∀ cs, EndsNumeral (',' :: cs) := fun cs ↦ endsNumeral_append allSpace_nil (by decide)
  rw [renderItems] at hfuel
  simp only [List.cons_append, List.length_cons, List.length_append] at hfuel
  -- the item before the comma is read, then the others with the fuel that is left
  rw [readItems, hread _ fuel (hends _) (by omega)]
  simp only [Option.bind_eq_bind, Option.bind_some, skipSpace_cons (c := ',') rfl,
    List.append_assoc]
  rw [readItems_append hbreak, hvs v hv ws rest fuel hws (by omega)]
  rfl

theorem readsValue_array {layout : Layout} {depth : Nat} {v : Json} {vs : List Json}
    (hv : ReadsValue layout (depth + 1) v) (hvs : ReadsItems layout (depth + 1) vs) :
    ReadsValue layout depth (.array (v :: vs)) := by
  intro rest fuel _ hfuel
  rw [render] at hfuel ⊢
  simp only [List.cons_append, List.length_cons, List.length_append, List.append_assoc,
    List.nil_append] at hfuel ⊢
  obtain ⟨fuel, rfl⟩ : ∃ n, fuel = n + 1 := ⟨fuel - 1, by omega⟩
  have hopen := allSpace_lineBreak layout (depth + 1)
  have hclose := allSpace_lineBreak layout depth
  have hitems := hvs v hv (layout.lineBreak depth) rest fuel hclose (by omega)
  -- before it reads items the reader looks for a bracket that closes an empty array
  obtain ⟨c, cs, hcs, hspace, hne⟩ := exists_render_eq_cons layout (depth + 1) v
  rw [readValue, skipSpace_cons rfl]
  simp only [skipSpace_append hopen]
  rw [hcs, List.cons_append] at hitems ⊢
  rw [skipSpace_cons hspace]
  split
  · rename_i h
    exact absurd (List.cons.inj h).1 hne
  · rw [hitems]
    rfl

/-- The member that a first key and value make, up to what follows the value. -/
theorem readMembers_first {layout : Layout} {depth : Nat} {v : Json} (k : String)
    (hv : ReadsValue layout depth v) {rest : List Char} {fuel : Nat}
    (hrest : EndsNumeral rest) (hfuel : 2 * (render layout depth v).length ≤ fuel) :
    readMembers (fuel + 1)
        (renderString k ++ (layout.colon ++ (render layout depth v ++ rest))) =
      match skipSpace rest with
      | ',' :: rest => do
        let (ms, rest) ← readMembers fuel rest
        return ((textPieces k, document v) :: ms, rest)
      | '\x7d' :: rest => some ([(textPieces k, document v)], rest)
      | _ => none := by
  have hkey := readPieces_text k (layout.colon ++ (render layout depth v ++ rest))
  have hvalue := hv rest fuel hrest hfuel
  obtain ⟨ws, hcolon, hws⟩ : ∃ ws, layout.colon = ':' :: ws ∧ AllSpace ws := by
    cases layout with
    | compact => exact ⟨[], rfl, allSpace_nil⟩
    | indented => exact ⟨[' '], rfl, by rintro c (_ | ⟨_, ⟨⟩⟩); rfl⟩
  rw [renderString, List.append_assoc, List.cons_append, List.singleton_append, readMembers,
    skipSpace_cons rfl]
  simp only [hkey, Option.bind_eq_bind, Option.bind_some]
  rw [hcolon, List.cons_append, skipSpace_cons rfl]
  simp only [readValue_append hws, hvalue, Option.bind_some]
  rfl

theorem readsMembers_nil (layout : Layout) (depth : Nat) : ReadsMembers layout depth [] := by
  intro k v hread ws rest fuel hws hfuel
  obtain ⟨fuel, rfl⟩ : ∃ n, fuel = n + 1 := ⟨fuel - 1, by omega⟩
  have hends : EndsNumeral (ws ++ '\x7d' :: rest) := endsNumeral_append hws (by decide)
  rw [renderEntries, List.nil_append, readMembers_first k hread hends (by omega),
    skipSpace_append_cons hws rfl]
  rfl

theorem readsMembers_cons {layout : Layout} {depth : Nat} {e : String × Json}
    {es : List (String × Json)} (he : ReadsValue layout depth e.2)
    (hes : ReadsMembers layout depth es) : ReadsMembers layout depth (e :: es) := by
  intro k u hread ws rest fuel hws hfuel
  obtain ⟨fuel, rfl⟩ : ∃ n, fuel = n + 1 := ⟨fuel - 1, by omega⟩
  have hbreak := allSpace_lineBreak layout depth
  rw [renderEntries] at hfuel ⊢
  simp only [List.cons_append, List.length_cons, List.length_append, List.append_assoc]
    at hfuel ⊢
  have hends : ∀ cs, EndsNumeral (',' :: cs) := fun cs ↦ endsNumeral_append allSpace_nil (by decide)
  rw [readMembers_first k hread (hends _) (by omega), skipSpace_cons rfl]
  simp only [readMembers_append hbreak, hes e.1 e.2 he ws rest fuel hws (by omega)]
  rfl

theorem readsValue_object {layout : Layout} {depth : Nat} {e : String × Json}
    {es : List (String × Json)} (he : ReadsValue layout (depth + 1) e.2)
    (hes : ReadsMembers layout (depth + 1) es) :
    ReadsValue layout depth (.object (e :: es)) := by
  intro rest fuel _ hfuel
  rw [render] at hfuel ⊢
  simp only [List.cons_append, List.length_cons, List.length_append, List.append_assoc,
    List.nil_append] at hfuel ⊢
  obtain ⟨fuel, rfl⟩ : ∃ n, fuel = n + 1 := ⟨fuel - 1, by omega⟩
  have hopen := allSpace_lineBreak layout (depth + 1)
  have hclose := allSpace_lineBreak layout depth
  have hmembers := hes e.1 e.2 he (layout.lineBreak depth) rest fuel hclose (by omega)
  -- a member begins with a quote, so the object is not taken for an empty one
  rw [readValue, skipSpace_cons rfl]
  simp only [skipSpace_append hopen]
  rw [renderString, List.append_assoc, List.cons_append] at hmembers ⊢
  rw [skipSpace_cons rfl]
  split
  · rename_i h
    exact absurd (List.cons.inj h).1 (by decide)
  · rw [hmembers]
    rfl

mutual

theorem readsValue (layout : Layout) : ∀ (depth : Nat) (v : Json), ReadsValue layout depth v
  | depth, .null => by
    intro rest fuel _ hfuel
    obtain ⟨fuel, rfl⟩ := exists_fuel hfuel
    rfl
  | depth, .bool true => by
    intro rest fuel _ hfuel
    obtain ⟨fuel, rfl⟩ := exists_fuel hfuel
    rfl
  | depth, .bool false => by
    intro rest fuel _ hfuel
    obtain ⟨fuel, rfl⟩ := exists_fuel hfuel
    rfl
  | depth, .number n => by
    intro rest fuel hrest hfuel
    obtain ⟨fuel, rfl⟩ := exists_fuel hfuel
    exact readValue_number n hrest fuel
  | depth, .string s => by
    intro rest fuel _ hfuel
    obtain ⟨fuel, rfl⟩ := exists_fuel hfuel
    exact readValue_string s rest fuel
  | depth, .array [] => by
    intro rest fuel _ hfuel
    obtain ⟨fuel, rfl⟩ := exists_fuel hfuel
    rfl
  | depth, .array (v :: vs) =>
    readsValue_array (readsValue layout (depth + 1) v) (readsItems layout (depth + 1) vs)
  | depth, .object [] => by
    intro rest fuel _ hfuel
    obtain ⟨fuel, rfl⟩ := exists_fuel hfuel
    rfl
  | depth, .object (e :: es) =>
    readsValue_object (readsValue layout (depth + 1) e.2) (readsMembers layout (depth + 1) es)

theorem readsItems (layout : Layout) :
    ∀ (depth : Nat) (vs : List Json), ReadsItems layout depth vs
  | depth, [] => readsItems_nil layout depth
  | depth, v :: vs => readsItems_cons (readsValue layout depth v) (readsItems layout depth vs)

theorem readsMembers (layout : Layout) :
    ∀ (depth : Nat) (es : List (String × Json)), ReadsMembers layout depth es
  | depth, [] => readsMembers_nil layout depth
  | depth, e :: es => readsMembers_cons (readsValue layout depth e.2) (readsMembers layout depth es)

end

/-- The document that is written for a value is found in its text. -/
theorem parse?_render (layout : Layout) (v : Json) :
    Document.parse? (render layout 0 v) = some (document v) := by
  have hread := readsValue layout 0 v [] (2 * (render layout 0 v).length + 2)
    endsNumeral_nil (by omega)
  rw [List.append_nil] at hread
  rw [Document.parse?, hread]
  rfl

/-! ## What comes back -/

mutual

/-- The value that comes back when a value is written and read. -/
def reread : Json → Json
  | .null => .null
  | .bool b => .bool b
  | .number n => .number n.reread
  | .string s => .string s
  | .array vs => .array (rereadItems vs)
  | .object es => .object (rereadEntries es)

/-- The items of an array that come back. -/
def rereadItems : List Json → List Json
  | [] => []
  | v :: vs => v.reread :: rereadItems vs

/-- The entries of an object that come back, under the same keys. -/
def rereadEntries : List (String × Json) → List (String × Json)
  | [] => []
  | e :: es => (e.1, e.2.reread) :: rereadEntries es

end

theorem rereadEntries_eq_map (es : List (String × Json)) :
    rereadEntries es = es.map fun e ↦ (e.1, e.2.reread) := by
  induction es with
  | nil => rfl
  | cons e es ih => rw [rereadEntries, ih, List.map_cons]

theorem isVoid_reread (v : Json) : v.reread.isVoid = v.isVoid := by
  cases v with
  | object es => cases es <;> rfl
  | _ => rfl

mutual

theorem reread_eq_self : ∀ {v : Json}, v.WellFormed → v.Integral → v.reread = v
  | .null, _, _ => rfl
  | .bool _, _, _ => rfl
  | .number n, hwf, hint => by
    obtain ⟨i, rfl⟩ := hint.exists_integer
    rw [reread, Number.reread_integer hwf]
  | .string _, _, _ => rfl
  | .array _, hwf, hint => congrArg array (rereadItems_eq_self hwf hint)
  | .object _, hwf, hint => congrArg object (rereadEntries_eq_self hwf.2 hint)

theorem rereadItems_eq_self : ∀ {vs : List Json}, WellFormedItems vs → IntegralItems vs →
    rereadItems vs = vs
  | [], _, _ => rfl
  | _ :: _, hwf, hint => by
    rw [rereadItems, reread_eq_self hwf.1 hint.1, rereadItems_eq_self hwf.2 hint.2]

theorem rereadEntries_eq_self : ∀ {es : List (String × Json)}, WellFormedEntries es →
    IntegralEntries es → rereadEntries es = es
  | [], _, _ => rfl
  | _ :: _, hwf, hint => by
    rw [rereadEntries, reread_eq_self hwf.1 hint.1, rereadEntries_eq_self hwf.2 hint.2]

end

/-! ## Decoding documents -/

mutual

theorem toJson?_document : ∀ (budget : Nat) (v : Json), v.WellFormed → v.depth ≤ budget →
    toJson? budget (document v) = some v.reread
  | _, .null, _, _ => by rw [document, toJson?, reread]
  | _, .bool b, _, _ => by rw [document, toJson?, reread]
  | _, .number n, hwf, _ => by
    rw [document, toJson?, Number.toNumber?_numeral hwf, reread]
    rfl
  | _, .string s, _, _ => by
    rw [document, toJson?, decodeText_textPieces, reread]
    rfl
  | 0, .array vs, _, hdepth => by
    rw [depth] at hdepth
    omega
  | budget + 1, .array vs, hwf, hdepth => by
    rw [depth] at hdepth
    rw [document, toJson?, toJsonItems?_documents budget vs hwf (by omega), reread]
    rfl
  | 0, .object es, _, hdepth => by
    rw [depth] at hdepth
    omega
  | budget + 1, .object es, hwf, hdepth => by
    have hdistinct : (Entries.keys (rereadEntries es)).Nodup := by
      rw [rereadEntries_eq_map, Entries.keys_map]
      exact hwf.1
    rw [depth] at hdepth
    rw [document, toJson?, toJsonMembers?_members budget es hwf.2 (by omega), Option.map_some,
      Entries.ofPairs_of_nodup hdistinct, reread]

theorem toJsonItems?_documents : ∀ (budget : Nat) (vs : List Json), WellFormedItems vs →
    depthItems vs ≤ budget → toJsonItems? budget (documents vs) = some (rereadItems vs)
  | _, [], _, _ => by rw [documents, toJsonItems?, rereadItems]
  | budget, v :: vs, hwf, hdepth => by
    rw [depthItems] at hdepth
    rw [documents, toJsonItems?, toJson?_document budget v hwf.1 (by omega),
      toJsonItems?_documents budget vs hwf.2 (by omega), rereadItems]
    rfl

theorem toJsonMembers?_members : ∀ (budget : Nat) (es : List (String × Json)),
    WellFormedEntries es → depthEntries es ≤ budget →
    toJsonMembers? budget (members es) = some (rereadEntries es)
  | _, [], _, _ => by rw [members, toJsonMembers?, rereadEntries]
  | budget, e :: es, hwf, hdepth => by
    rw [depthEntries] at hdepth
    rw [members, toJsonMembers?, decodeText_textPieces,
      toJson?_document budget e.2 hwf.1 (by omega),
      toJsonMembers?_members budget es hwf.2 (by omega), rereadEntries]
    rfl

end

theorem parse?_compact {v : Json} (hwf : v.WellFormed) (hdepth : v.depth ≤ nestingLimit) :
    parse? v.compact = some v.reread := by
  rw [parse?, decodeWith, compact, String.toList_ofList, parse?_render]
  exact toJson?_document nestingLimit v hwf hdepth

end PromptLibrary.Json
