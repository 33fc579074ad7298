import PromptLibrary.Placeholder.Fill
import PromptLibrary.Proofs.Entries
import PromptLibrary.Proofs.Placeholder.Pattern
import PromptLibrary.Store.Tree

/-!
# What is inserted is opaque

Filling a prompt is filling the holes of an outline. The outline is made of the prompt alone, and of
the names for which there are values; it knows neither the values nor the files. So nothing that is
inserted can open, close or complete a placeholder, and a value or a file shows only in the holes of
its own name.

The prompt is first cut at its file placeholders. That the cuts do not depend on the contents is
`cutAfter_map`: the same cuts are made if the names stand in for the contents. Between two cuts the
parts are found by the recursion that fills a segment, with the holes left open.
-/

namespace PromptLibrary.Placeholder

/-! ## Parts of a prompt -/

/-- A part of a prompt. -/
inductive Part where
  /-- A character that stays. -/
  | literal (c : Char)
  /-- A text placeholder that is replaced by its value. -/
  | value (t : Token)
  /-- A file placeholder in its canonical spelling. -/
  | content (name : String)

namespace Part

/-- The characters of a part. -/
def spelling : Part → List Char
  | literal c => [c]
  | value t => t.spelling
  | content name => Kind.file.spell name.toList

/-- What stands in the place of a part when every name has its value and its content. -/
def filled (values contents : String → String) : Part → List Char
  | literal c => [c]
  | value t => (values (String.ofList t.name)).toList
  | content name => (contents name).toList

/-- If the part is a hole, it is that of a text placeholder with one of the names `texts`, or that
of a file placeholder with one of the names `files`. -/
def Among (texts files : List String) : Part → Prop
  | literal _ => True
  | value t => (Pattern.ofKind .text).Fits t ∧ String.ofList t.name ∈ texts
  | content name => name ∈ files

end Part

/-! ## Segments -/

/-- The parts of a segment after `skip` characters, which belong to a placeholder already taken. -/
def partsAfter (supplied : List String) : Nat → List Char → List Part
  | _, [] => []
  | skip + 1, _ :: cs => partsAfter supplied skip cs
  | 0, c :: cs =>
    match (Pattern.ofKind .text).tokenAt? (c :: cs) with
    | some t =>
      if String.ofList t.name ∈ supplied then
        .value t :: partsAfter supplied (t.spelling.length - 1) cs
      else .literal c :: partsAfter supplied 0 cs
    | none => .literal c :: partsAfter supplied 0 cs

theorem spelling_partsAfter (supplied : List String) (skip : Nat) (cs : List Char) :
    (partsAfter supplied skip cs).flatMap Part.spelling = cs.drop skip := by
  induction cs generalizing skip with
  | nil => simp [partsAfter]
  | cons c cs ih =>
    cases skip with
    | succ skip => exact ih skip
    | zero =>
      have hliteral : (Part.literal c :: partsAfter supplied 0 cs).flatMap Part.spelling =
          c :: cs := by
        rw [List.flatMap_cons, ih]
        rfl
      rw [partsAfter]
      split
      · rename_i t ht
        split
        · -- the token is taken off the input as a whole
          obtain ⟨hfits, rest, hcs⟩ := Pattern.fits_of_tokenAt? ht
          have hne := hfits.spelling_ne_nil (Pattern.delimited_ofKind .text)
          obtain ⟨d, ds, hspelling⟩ := List.exists_cons_of_ne_nil hne
          rw [hspelling, List.cons_append, List.cons.injEq] at hcs
          obtain ⟨rfl, rfl⟩ := hcs
          rw [List.flatMap_cons, ih, hspelling, Part.spelling, hspelling, List.length_cons,
            Nat.add_sub_cancel, List.drop_left]
          rfl
        · exact hliteral
      · exact hliteral

theorem among_partsAfter {supplied : List String} (files : List String) (skip : Nat)
    (cs : List Char) : ∀ part ∈ partsAfter supplied skip cs, part.Among supplied files := by
  induction cs generalizing skip with
  | nil => simp [partsAfter]
  | cons c cs ih =>
    cases skip with
    | succ skip => exact ih skip
    | zero =>
      rw [partsAfter]
      split
      · rename_i t ht
        split
        · rename_i hmem
          exact List.forall_mem_cons.mpr ⟨⟨(Pattern.fits_of_tokenAt? ht).1, hmem⟩, ih _⟩
        · exact List.forall_mem_cons.mpr ⟨trivial, ih _⟩
      · exact List.forall_mem_cons.mpr ⟨trivial, ih _⟩

theorem fillAfter_eq {texts : Entries String String} {supplied : List String}
    {values : String → String}
    (htexts : ∀ n, Entries.get? texts n = if n ∈ supplied then some (values n) else none)
    (contents : String → String) (skip : Nat) (cs : List Char) :
    fillAfter texts skip cs =
      (partsAfter supplied skip cs).flatMap (Part.filled values contents) := by
  induction cs generalizing skip with
  | nil => simp [fillAfter, partsAfter]
  | cons c cs ih =>
    cases skip with
    | succ skip => exact ih skip
    | zero =>
      rw [fillAfter, partsAfter, suppliedTokenAt?]
      cases (Pattern.ofKind .text).tokenAt? (c :: cs) with
      | none =>
        simp only [Option.bind_eq_bind, Option.bind_none]
        rw [ih, List.flatMap_cons]
        rfl
      | some t =>
        simp only [Option.bind_eq_bind, Option.bind_some, htexts]
        by_cases hmem : String.ofList t.name ∈ supplied
        · simp only [if_pos hmem]
          rw [List.flatMap_cons, ← ih]
          rfl
        · simp only [if_neg hmem]
          rw [List.flatMap_cons, ← ih]
          rfl

/-! ## Cuts -/

theorem fileTokenAt?_cons (e : String × String) (contents : List (String × String))
    (cs : List Char) :
    fileTokenAt? (e :: contents) cs =
      if (Kind.file.spell e.1.toList).isPrefixOf cs then
        some ((Kind.file.spell e.1.toList).length, e.2)
      else fileTokenAt? contents cs := by
  rw [fileTokenAt?, List.findSome?_cons]
  dsimp only
  split <;> rename_i h
  · split at h
    · rename_i hprefix
      rw [if_pos hprefix, ← h]
    · cases h
  · split at h
    · cases h
    · rename_i hprefix
      rw [if_neg hprefix]
      rfl

theorem exists_of_fileTokenAt? {contents : List (String × String)} {cs : List Char} {length : Nat}
    {content : String} (h : fileTokenAt? contents cs = some (length, content)) :
    ∃ name rest, (name, content) ∈ contents ∧ length = (Kind.file.spell name.toList).length ∧
      cs = Kind.file.spell name.toList ++ rest := by
  induction contents with
  | nil => cases h
  | cons e contents ih =>
    rw [fileTokenAt?_cons] at h
    split at h
    · rename_i hprefix
      obtain ⟨rest, hrest⟩ := List.isPrefixOf_iff_prefix.mp hprefix
      obtain ⟨rfl, rfl⟩ := Prod.mk.inj (Option.some.inj h)
      exact ⟨e.1, rest, List.mem_cons_self, rfl, hrest.symm⟩
    · obtain ⟨name, rest, hmem, hlength, hcs⟩ := ih h
      exact ⟨name, rest, List.mem_cons_of_mem _ hmem, hlength, hcs⟩

theorem fileTokenAt?_map (g : String → String) (contents : List (String × String))
    (cs : List Char) :
    fileTokenAt? (contents.map fun e ↦ (e.1, g e.2)) cs =
      (fileTokenAt? contents cs).map fun r ↦ (r.1, g r.2) := by
  induction contents with
  | nil => rfl
  | cons e contents ih =>
    rw [List.map_cons, fileTokenAt?_cons, fileTokenAt?_cons, ih]
    split <;> rfl

/-- Cuts with other contents in the same places. -/
def Cuts.map (g : String → String) (cuts : Cuts) : Cuts :=
  ⟨cuts.first, cuts.later.map fun e ↦ (g e.1, e.2)⟩

/-- Where a prompt is cut does not depend on the contents. -/
theorem cutAfter_map (g : String → String) (contents : List (String × String)) (skip : Nat)
    (cs : List Char) :
    cutAfter (contents.map fun e ↦ (e.1, g e.2)) skip cs =
      (cutAfter contents skip cs).map g := by
  induction cs generalizing skip with
  | nil => simp [cutAfter, Cuts.map]
  | cons c cs ih =>
    cases skip with
    | succ skip => exact ih skip
    | zero =>
      rw [cutAfter, cutAfter, fileTokenAt?_map]
      rcases fileTokenAt? contents (c :: cs) with _ | ⟨length, content⟩
      · simp only [Option.map_none, ih]
        rfl
      · simp only [Option.map_some, ih]
        rfl

/-- The names of the files, each standing for its content. -/
def nameContents (files : List String) : List (String × String) :=
  files.map fun n ↦ (n, n)

theorem spelling_cutAfter (files : List String) (skip : Nat) (cs : List Char) :
    let cuts := cutAfter (nameContents files) skip cs
    cuts.first ++ cuts.later.flatMap (fun e ↦ Kind.file.spell e.1.toList ++ e.2) =
      cs.drop skip := by
  induction cs generalizing skip with
  | nil => simp [cutAfter]
  | cons c cs ih =>
    cases skip with
    | succ skip => exact ih skip
    | zero =>
      rw [cutAfter]
      split
      · rename_i length content hfound
        obtain ⟨name, rest, hmem, rfl, hcs⟩ := exists_of_fileTokenAt? hfound
        obtain rfl : name = content := by
          obtain ⟨n, -, hn⟩ := List.mem_map.mp hmem
          rw [← (Prod.mk.inj hn).1, ← (Prod.mk.inj hn).2]
        obtain ⟨d, ds, hspell⟩ : ∃ d ds, Kind.file.spell name.toList = d :: ds := ⟨_, _, rfl⟩
        rw [hspell, List.cons_append, List.cons.injEq] at hcs
        obtain ⟨rfl, rfl⟩ := hcs
        have hrest := ih ds.length
        rw [List.drop_left] at hrest
        simp only [hspell, List.length_cons, Nat.add_sub_cancel, List.flatMap_cons, List.nil_append,
          List.append_assoc, hrest, List.cons_append, List.drop_zero]
      · have hrest := ih 0
        simp only [List.cons_append, hrest, List.drop_zero]

theorem mem_of_cutAfter {contents : List (String × String)} {skip : Nat} {cs : List Char} :
    ∀ e ∈ (cutAfter contents skip cs).later, ∃ name, (name, e.1) ∈ contents := by
  induction cs generalizing skip with
  | nil => simp [cutAfter]
  | cons c cs ih =>
    cases skip with
    | succ skip => exact ih
    | zero =>
      rw [cutAfter]
      split
      · rename_i length content hfound
        obtain ⟨name, -, hmem, -, -⟩ := exists_of_fileTokenAt? hfound
        exact List.forall_mem_cons.mpr ⟨⟨name, hmem⟩, ih⟩
      · exact ih

/-! ## The outline -/

/-- The parts of a prompt, given the names of its file placeholders and the names that have
values. -/
def outline (files supplied : List String) (text : List Char) : List Part :=
  let cuts := cutAfter (nameContents files) 0 text
  partsAfter supplied 0 cuts.first ++
    cuts.later.flatMap fun e ↦ .content e.1 :: partsAfter supplied 0 e.2

theorem spelling_outline (files supplied : List String) (text : List Char) :
    (outline files supplied text).flatMap Part.spelling = text := by
  have hcuts := spelling_cutAfter files 0 text
  rw [outline]
  simp only [List.flatMap_append, List.flatMap_assoc, List.flatMap_cons, spelling_partsAfter,
    List.drop_zero, Part.spelling]
  exact hcuts

theorem among_outline (files supplied : List String) (text : List Char) :
    ∀ part ∈ outline files supplied text, part.Among supplied files := by
  intro part hpart
  rw [outline, List.mem_append, List.mem_flatMap] at hpart
  rcases hpart with hpart | ⟨e, he, hpart⟩
  · exact among_partsAfter files 0 _ part hpart
  · rcases List.mem_cons.mp hpart with rfl | hpart
    · obtain ⟨name, hmem⟩ := mem_of_cutAfter e he
      obtain ⟨n, hn, heq⟩ := List.mem_map.mp hmem
      rw [Part.Among, ← (Prod.mk.inj heq).2]
      exact hn
    · exact among_partsAfter files 0 _ part hpart

/-- Replacing placeholders is filling the holes of the outline. -/
theorem substitute_eq {texts : Entries String String} {supplied : List String}
    {values : String → String}
    (htexts : ∀ n, Entries.get? texts n = if n ∈ supplied then some (values n) else none)
    (files : List String) (contents : String → String) (text : String) :
    substitute (files.map fun n ↦ (n, contents n)) texts text =
      String.ofList ((outline files supplied text.toList).flatMap
        (Part.filled values contents)) := by
  have hcontents : (files.map fun n ↦ (n, contents n)) =
      (nameContents files).map fun e ↦ (e.1, contents e.2) := by
    rw [nameContents, List.map_map]
    rfl
  rw [substitute, hcontents, cutAfter_map]
  simp only [outline, Cuts.map, fillTexts, fillAfter_eq htexts contents, List.flatMap_append,
    List.flatMap_map, List.flatMap_assoc, List.flatMap_cons, Part.filled]

/-! ## Values -/

/-- The names for which there are values. -/
def Values.suppliedNames (v : Values) (names : List String) : List String :=
  names.filter fun n ↦ (v.text? n).isSome

theorem get?_suppliedTexts (names : List String) (v : Values) (n : String) :
    Entries.get? (suppliedTexts names v) n =
      if n ∈ v.suppliedNames names then some ((v.text? n).getD "") else none := by
  induction names with
  | nil => rfl
  | cons name names ih =>
    rw [suppliedTexts, List.filterMap_cons, ← suppliedTexts, Values.suppliedNames,
      List.filter_cons, ← Values.suppliedNames]
    cases hvalue : v.text? name with
    | none => exact ih
    | some value =>
      simp only [Option.map_some, Option.isSome_some, if_true, Entries.get?_cons, List.mem_cons]
      by_cases hname : name = n
      · subst hname
        simp [hvalue]
      · simp only [beq_iff_eq, if_neg hname, Ne.symm hname, false_or]
        exact ih

/-! ## Files -/

section Tree

variable {α β : Type}

/-- The program looks at the directory tree but does not change it. -/
def Looks (x : StateM Tree α) : Prop :=
  ∀ tree, (x.run tree).2 = tree

theorem looks_pure (a : α) : Looks (pure a : StateM Tree α) := fun _ ↦ rfl

theorem Looks.bind {x : StateM Tree α} {f : α → StateM Tree β} (hx : Looks x)
    (hf : ∀ a, Looks (f a)) : Looks (x >>= f) := by
  intro tree
  have hfirst := hx tree
  rw [StateT.run_bind]
  rcases hrun : x.run tree with ⟨a, t⟩
  rw [hrun] at hfirst
  exact (hf a t).trans hfirst

theorem looks_has (p : Path) : Looks (FileStore.has p : StateM Tree Bool) := fun _ ↦ rfl

theorem looks_read (p : Path) :
    Looks (FileStore.read p : ExceptT FileError (StateM Tree) String).run := by
  have hbytes : Looks (FileSystem.readBytes p : StateM Tree (Except Fault ByteArray)) :=
    fun _ ↦ rfl
  change Looks (FileSystem.readText p)
  rw [FileSystem.readText]
  refine hbytes.bind fun r ↦ ?_
  cases r with
  | error f => exact looks_pure _
  | ok bytes =>
    dsimp only
    cases String.fromUTF8? bytes <;> exact looks_pure _

theorem looks_fileContent (registry : LoaderRegistry) (path : Option Path) :
    Looks (fileContent registry path : StateM Tree String) := by
  rw [fileContent]
  split
  · exact looks_pure _
  · refine (looks_has _).bind fun b ↦ ?_
    split
    · exact looks_pure _
    · split
      · exact looks_pure _
      · rename_i loader
        refine Looks.bind ((looks_read _).bind fun _ ↦ looks_pure _) fun content ↦ ?_
        cases content <;> exact looks_pure _

/-- What is inserted for a file, given what the directory tree holds. -/
def contentIn (registry : LoaderRegistry) (tree : Tree) (path : Option Path) : String :=
  ((fileContent registry path : StateM Tree String).run tree).1

theorem run_fileContents (registry : LoaderRegistry) (names : List String) (v : Values)
    (tree : Tree) :
    (fileContents registry names v : StateM Tree (List (String × String))).run tree =
      (names.map fun n ↦ (n, contentIn registry tree (v.file? n)), tree) := by
  have hrun : ∀ path, (fileContent registry path : StateM Tree String).run tree =
      (contentIn registry tree path, tree) :=
    fun path ↦ Prod.ext rfl (looks_fileContent registry path tree)
  rw [fileContents]
  induction names with
  | nil => rfl
  | cons name names ih =>
    have hname : (do return (name, ← fileContent registry (v.file? name)) :
        StateM Tree (String × String)).run tree =
          ((name, contentIn registry tree (v.file? name)), tree) := by
      rw [StateT.run_bind, hrun]
      rfl
    rw [List.mapM_cons, StateT.run_bind, hname]
    change StateT.run (_ >>= _) tree = _
    rw [StateT.run_bind, ih]
    rfl

end Tree

theorem run_fill (registry : LoaderRegistry) (names : Names) (v : Values) (text : String)
    (tree : Tree) :
    (fill registry names v text : StateM Tree String).run tree =
      (String.ofList ((outline names.file (v.suppliedNames names.text) text.toList).flatMap
        (Part.filled (fun n ↦ (v.text? n).getD "")
          (fun n ↦ contentIn registry tree (v.file? n)))), tree) := by
  have hfilled := substitute_eq (get?_suppliedTexts names.text v) names.file
    (fun n ↦ contentIn registry tree (v.file? n)) text
  rw [fill, StateT.run_bind, run_fileContents]
  exact Prod.ext hfilled rfl

/-- **What is inserted is opaque.** A prompt and the names that have values determine its parts.
Whatever the values and the contents are, the prompt is filled by putting them into the holes, so
that each of them shows in the holes of its own name only. The contents may be any texts, and in
particular those that some loaders make of some files. -/
theorem exists_parts (text : String) (supplied : List String) :
    ∃ parts : List Part,
      parts.flatMap Part.spelling = text.toList ∧
      (∀ part ∈ parts, part.Among supplied (scan text).file) ∧
      ∀ v : Values, v.suppliedNames (scan text).text = supplied →
        (∀ contents : String → String,
          substitute ((scan text).file.map fun n ↦ (n, contents n))
              (suppliedTexts (scan text).text v) text =
            String.ofList (parts.flatMap
              (Part.filled (fun n ↦ (v.text? n).getD "") contents))) ∧
        ∀ (registry : LoaderRegistry) (tree : Tree),
          (fill registry (scan text) v text : StateM Tree String).run tree =
            (String.ofList (parts.flatMap (Part.filled (fun n ↦ (v.text? n).getD "")
              (fun n ↦ contentIn registry tree (v.file? n)))), tree) := by
  refine ⟨outline (scan text).file supplied text.toList, spelling_outline _ _ _,
    among_outline _ _ _, ?_⟩
  rintro v rfl
  constructor
  · exact fun contents ↦ substitute_eq (get?_suppliedTexts _ v) _ contents text
  · exact fun registry tree ↦ run_fill registry (scan text) v text tree

/-- A value that spells a file placeholder, and a file that spells a text placeholder and half of
another one, are inserted as they are. -/
theorem exists_parts_tokens_inserted :
    let text := "%% f %% << x >> %% g %%"
    let registry : LoaderRegistry := ⟨[(".txt", .plain)]⟩
    let v := Values.ofPairs [("x", "%% g %% << x >>")] [("f", ⟨"f.txt"⟩)]
    let tree : Tree := ⟨[(["work", "f.txt"], .file "<< x >> %%".toUTF8)], ["work"]⟩
    v.suppliedNames (scan text).text = ["x"] ∧
      ((fill registry (scan text) v text : StateM Tree String).run tree).1 =
        "<< x >> %% %% g %% << x >> [Missing file: ]" ∧
      ∃ parts : List Part, parts.flatMap Part.spelling = text.toList ∧
        (fill registry (scan text) v text : StateM Tree String).run tree =
          (String.ofList (parts.flatMap (Part.filled (fun n ↦ (v.text? n).getD "")
            (fun n ↦ contentIn registry tree (v.file? n)))), tree) := by
  intro text registry v tree
  have hsupplied : v.suppliedNames (scan text).text = ["x"] := by decide +kernel
  obtain ⟨parts, hspelling, -, hfill⟩ := exists_parts text ["x"]
  refine ⟨hsupplied, ?_, parts, hspelling, (hfill v hsupplied).2 registry tree⟩
  decide +kernel

end PromptLibrary.Placeholder
